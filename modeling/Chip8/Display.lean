import Chip8.Word

/-! A grid of pixels that sprites flip. A sprite is a list of rows of eight pixels, the highest
bit leftmost; its footprint is the list of cells that it flips, a cell as often as it is hit. -/
namespace Chip8

structure Cell (width height : Nat) where
  x : Fin width
  y : Fin height
  deriving DecidableEq, Repr

namespace Cell

def at? {width height : Nat} (x y : Nat) : Option (Cell width height) :=
  if h : x < width ∧ y < height then some ⟨⟨x, h.1⟩, ⟨y, h.2⟩⟩ else none

def index {width height : Nat} (c : Cell width height) : Fin (height * width) :=
  ⟨c.y * width + c.x, by
    have : (c.y + 1) * width ≤ height * width := Nat.mul_le_mul_right _ c.y.isLt
    have : (c.y + 1) * width = c.y * width + width := Nat.succ_mul ..
    omega⟩

theorem indexInjective {width height : Nat} {c d : Cell width height}
    (h : c.index = d.index) : c = d := by
  have eq : c.y.val * width + c.x.val = d.y.val * width + d.x.val := Fin.ext_iff.mp h
  have pos : 0 < width := Nat.lt_of_le_of_lt (Nat.zero_le _) c.x.isLt
  have hx : c.x.val = d.x.val := by
    simpa [Nat.mul_add_mod_self_right, Nat.mod_eq_of_lt] using congrArg (· % width) eq
  have hy : c.y.val = d.y.val := by
    rw [hx] at eq
    exact Nat.eq_of_mul_eq_mul_right pos (by omega)
  cases c; cases d
  simp only [Cell.mk.injEq, Fin.ext_iff]
  exact ⟨hx, hy⟩

end Cell

structure Display (width height : Nat) where
  pixels : Vector Bool (height * width)
  deriving DecidableEq

namespace Display

variable {width height : Nat}

def blank : Display width height := ⟨Vector.replicate _ false⟩

def lit (d : Display width height) (c : Cell width height) : Bool := d.pixels[c.index]

def flip (d : Display width height) (c : Cell width height) : Display width height :=
  ⟨d.pixels.set c.index (!d.lit c)⟩

def spriteBit (row : Int) (column : Nat) : Bool := (row >>> (7 - column)) % 2 = 1

def place (clip : Bool) (size i : Nat) : Nat := if clip then i else i % size

def footprintRow (clip : Bool) (x y : Nat) (row : Int) : List (Cell width height) :=
  (List.range 8).filterMap fun column =>
    if spriteBit row column then
      Cell.at? (place clip width (x + column)) (place clip height y)
    else none

/-- The origin always wraps onto the grid. -/
def footprint (clip : Bool) (x y : Int) (rows : List Int) : List (Cell width height) :=
  rows.zipIdx.flatMap fun (row, i) =>
    footprintRow clip (x % width).toNat ((y % height).toNat + i) row

def touch (state : Display width height × Bool) (c : Cell width height) :
    Display width height × Bool :=
  let wasLit := state.1.lit c
  (state.1.flip c, state.2 || wasLit)

def draw (d : Display width height) (clip : Bool) (x y : Int) (rows : List Int) :
    Display width height × Bool :=
  (footprint clip x y rows).foldl touch (d, false)

def rows (d : Display width height) : List (List Bool) :=
  List.ofFn fun y : Fin height => List.ofFn fun x : Fin width => d.lit ⟨x, y⟩

def litCount (d : Display width height) : Nat := d.pixels.toList.count true

def pixelAt (d : Display width height) (x y : Int) : Except PositionError Bool :=
  match position? height y, position? width x with
  | some y, some x => .ok (d.lit ⟨x, y⟩)
  | _, _ => .error .reading

theorem litFlip (d : Display width height) (c e : Cell width height) :
    (d.flip c).lit e = if c = e then !d.lit c else d.lit e := by
  have : c.index.val = e.index.val ↔ c = e :=
    ⟨fun h => Cell.indexInjective (Fin.ext h), fun h => by rw [h]⟩
  simp only [lit, flip, Fin.getElem_fin, Vector.getElem_set, this]

end Display

abbrev Screen := Display 64 32

end Chip8
