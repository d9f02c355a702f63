import Chip8.Proofs.DoubleOrder
import Chip8.Proofs.StartDue
import Chip8.Proofs.Timeline

/-! The loop behind a stretch of time, round by round. Every round finds how many slots and ticks
there have been, asks for the instants of the next one of each, and lets one of them happen; so both
streams come in full and in order, and one before the other as their instants say. -/
namespace Chip8
open Number (Quantity Scalar)

structure Numbered where
  beat : Beat
  number : Nat
  deriving DecidableEq, Repr

def numbers (beat : Beat) (events : List Numbered) : List Nat :=
  (events.filter (·.beat = beat)).map (·.number)

section
variable {R : Type} [Div R] [LE R] [DecidableLE R] [Scalar R]

namespace Schedule

variable (s : Schedule R) (slotsDue ticksDue : Int) (slots ticks : Nat)

end Schedule

end

theorem combineRight (whole : Int → Int → Quantity) (real : Float → Float → Float) (a : Quantity)
    (y : Float) : Quantity.combine whole real a (.real y) =
      match a.toDouble? with
      | some x => .real (real x y)
      | none => .beyond := by
  have own : (Quantity.real y).toDouble? = some y := rfl
  simp only [Quantity.combine, own]
  cases a.toDouble? <;> rfl

namespace Schedule
variable {s : Schedule Quantity} {slotsDue ticksDue : Int} {slots ticks : Nat}

end Schedule

end Chip8
