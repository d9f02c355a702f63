import Chip8.Display

/-! Grids of whatever size is asked for. A size of zero or less leaves no pixels; a sprite then
has no place to wrap to, falls outside, or looks for a pixel that is not there. -/
namespace Chip8

inductive CanvasError where
  | noOrigin
  | position (error : PositionError)
  deriving DecidableEq, Repr

def CanvasError.message : CanvasError → String
  | .noOrigin => "integer modulo by zero"
  | .position error => error.message

structure Canvas where
  width : Int
  height : Int
  display : Display width.toNat height.toNat

namespace Canvas

def blank (width height : Int) : Canvas := ⟨width, height, .blank⟩

def clear (c : Canvas) : Canvas := { c with display := .blank }

def misses (c : Canvas) (rows : List Int) : Bool :=
  (c.height < 0 && !rows.isEmpty) ||
    (c.width < 0 && rows.any fun row => (List.range 8).any (Display.spriteBit row))

def draw (c : Canvas) (clip : Bool) (x y : Int) (rows : List Int) :
    Except CanvasError (Canvas × Bool) :=
  if c.width = 0 ∨ c.height = 0 then .error .noOrigin
  else if !clip && c.misses rows then .error (.position .reading)
  else
    let (display, hit) := c.display.draw clip x y rows
    .ok ({ c with display }, hit)

end Canvas
end Chip8
