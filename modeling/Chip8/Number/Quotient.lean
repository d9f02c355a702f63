import Chip8.Number.Double

/-! The double nearest to a fraction. Its significand is a quotient of whole numbers on the grid
of doubles around the fraction, rounded once. -/
namespace Chip8.Number

def roundQuotient (num den : Nat) : Nat :=
  let below := num / den
  match compare (2 * (num % den)) den with
  | .lt => below
  | .gt => below + 1
  | .eq => below + below % 2

def scale (num den : Nat) (power : Int) : Nat × Nat :=
  (num * Nat.pow 2 power.toNat, den * Nat.pow 2 (-power).toNat)

def leadingPower (num den : Nat) : Int :=
  let power := (num.log2 : Int) - den.log2
  let (num, den) := scale num den (-power)
  if num < den then power - 1 else power

def gridPower (num den : Nat) : Int := max (leadingPower num den - 52) (-1074)

def packBits (significand : Nat) (grid : Int) : Nat :=
  if significand < 0x10000000000000 then significand
  else (grid + 1075).toNat * 0x10000000000000 + (significand - 0x10000000000000)

def nearestQuotient? (negative : Bool) (num den : Nat) : Option Float :=
  let grid := gridPower num den
  let (a, b) := scale num den (-grid)
  let bits := packBits (roundQuotient a b) grid
  let sign := if negative then 0x8000000000000000 else 0
  if bits < 0x7FF0000000000000 then some (Float.ofBits (sign + bits).toUInt64) else none

example : roundQuotient 5 2 = 2 ∧ roundQuotient 7 2 = 4 ∧ roundQuotient 8 3 = 3 := by decide

end Chip8.Number
