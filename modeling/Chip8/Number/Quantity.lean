import Chip8.Number.Quotient
import Chip8.Number.Scalar
import Chip8.Number.Shortest

/-! Rates and times as they are given: whole numbers or doubles. Whole numbers combine
exactly, and their quotients are rounded once; beside a double they count as the nearest
double, if there is one. -/
namespace Chip8.Number

inductive Quantity where
  | whole (n : Int)
  | real (x : Float)
  /-- What comes of an operation that needs a double for a whole number beyond all doubles. -/
  | beyond
  deriving Repr, Inhabited

namespace Quantity

def toDouble? : Quantity → Option Float
  | .whole n => nearestQuotient? (n < 0) n.natAbs 1
  | .real x => some x
  | .beyond => none

def text : Quantity → String
  | .whole n => toString n
  | .real x => doubleText x
  | .beyond => ""

def combine (whole : Int → Int → Quantity) (real : Float → Float → Float) :
    Quantity → Quantity → Quantity
  | .whole a, .whole b => whole a b
  | a, b =>
    match a.toDouble?, b.toDouble? with
    | some x, some y => .real (real x y)
    | _, _ => .beyond

def quotient (a b : Int) : Quantity :=
  match nearestQuotient? ((a < 0) != (b < 0)) a.natAbs b.natAbs with
  | some x => .real x
  | none => .beyond

def compareBy (whole : Int → Int → Bool) (real : Float → Float → Bool) :
    Quantity → Quantity → Bool
  | .whole a, .whole b => whole a b
  | a, b =>
    match a.toDouble?, b.toDouble? with
    | some x, some y => real x y
    | _, _ => false

def lt : Quantity → Quantity → Bool := compareBy (· < ·) (· < ·)

def le : Quantity → Quantity → Bool := compareBy (· ≤ ·) (· ≤ ·)

instance : Add Quantity := ⟨combine (fun a b => .whole (a + b)) (· + ·)⟩

instance : Sub Quantity := ⟨combine (fun a b => .whole (a - b)) (· - ·)⟩

instance : Mul Quantity := ⟨combine (fun a b => .whole (a * b)) (· * ·)⟩

instance : Div Quantity := ⟨combine quotient (· / ·)⟩

instance : LT Quantity := ⟨fun a b => a.lt b = true⟩

instance : LE Quantity := ⟨fun a b => a.le b = true⟩

instance : DecidableLT Quantity := fun a b => inferInstanceAs (Decidable (a.lt b = true))

instance : DecidableLE Quantity := fun a b => inferInstanceAs (Decidable (a.le b = true))

instance : Scalar Quantity where
  ofInt := .whole
  zero := .real 0
  one := .real 1
  slack := .real 1e-9
  check
    | .beyond => .error .tooLarge
    | _ => .ok ()
  checkQuotient a b :=
    match a / b, a, b with
    | .beyond, .whole _, .whole _ => .error .quotientTooLarge
    | .beyond, _, _ => .error .tooLarge
    | _, _, _ => .ok ()
  floor
    | .whole n => .ok n
    | .real x => Number.floor x
    | .beyond => .error .tooLarge
  truncate
    | .whole n => .ok n
    | .real x => Number.truncate x
    | .beyond => .error .tooLarge

end Quantity
end Chip8.Number
