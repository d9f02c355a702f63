/-! The exact value of a double, and the whole numbers next to it. -/
namespace Chip8.Number

inductive Unconvertible where
  | nan
  | infinite
  | tooLarge
  | quotientTooLarge
  deriving DecidableEq, Repr

def Unconvertible.message : Unconvertible → String
  | .nan => "cannot convert float NaN to integer"
  | .infinite => "cannot convert float infinity to integer"
  | .tooLarge => "int too large to convert to float"
  | .quotientTooLarge => "integer division result too large for a float"

/-- The value `significand * 2 ^ exponent`, with its sign apart so that zero has one too.
`narrow` marks a power of two whose neighbour below is half as far away as the one above. -/
structure Binary where
  negative : Bool
  significand : Nat
  exponent : Int
  narrow : Bool
  deriving DecidableEq, Repr

def Binary.ofFields (negative : Bool) (exponent fraction : Nat) : Except Unconvertible Binary :=
  if exponent = 0x7FF then .error (if fraction = 0 then .infinite else .nan)
  else if exponent = 0 then .ok ⟨negative, fraction, -1074, false⟩
  else
    let narrow := fraction = 0 ∧ 1 < exponent
    .ok ⟨negative, Nat.pow 2 52 + fraction, (exponent : Int) - 1075, narrow⟩

def Binary.ofBits (bits : UInt64) : Except Unconvertible Binary :=
  ofFields (bits >>> 63 == 1) ((bits >>> 52) &&& 0x7FF).toNat (bits &&& 0xFFFFFFFFFFFFF).toNat

def Binary.split (b : Binary) : Nat × Bool :=
  match b.exponent with
  | .ofNat e => (b.significand * Nat.pow 2 e, false)
  | .negSucc e => (b.significand / Nat.pow 2 (e + 1), b.significand % Nat.pow 2 (e + 1) ≠ 0)

def Binary.truncate (b : Binary) : Int :=
  if b.negative then -(b.split.1 : Int) else b.split.1

def Binary.floor (b : Binary) : Int :=
  if b.negative && b.split.2 then b.truncate - 1 else b.truncate

def truncate (x : Float) : Except Unconvertible Int := (Binary.ofBits x.toBits).map Binary.truncate

def floor (x : Float) : Except Unconvertible Int := (Binary.ofBits x.toBits).map Binary.floor

example : (Binary.mk true 3 (-1) false).truncate = -1 ∧
    (Binary.mk true 3 (-1) false).floor = -2 := by decide

end Chip8.Number
