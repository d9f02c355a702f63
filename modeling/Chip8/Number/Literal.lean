import Chip8.Text.Blank

/-! Doubles read from text: blanks around, one sign, then a decimal with an optional fraction
and exponent, or a word for infinity or no number. -/
namespace Chip8.Number

open Text (trimBy isNumberBlank plainDigits)

def isDecimal (c : Char) : Bool := '0' ≤ c && c ≤ '9'

def joinDigits? : Bool → List Char → Option (List Char)
  | _, [] => some []
  | afterDigit, '_' :: c :: s =>
    if afterDigit && isDecimal c then (joinDigits? true s).map (c :: ·) else none
  | _, ['_'] => none
  | _, c :: s => (joinDigits? (isDecimal c) s).map (c :: ·)

/-- The double nearest to `± digits * 10 ^ exponent`. Values far outside the range of doubles
are settled by their size, before any power is computed. -/
def nearestDouble (negative : Bool) (digits : Nat) (exponent : Int) : Float :=
  let size := (Nat.toDigits 10 digits).length + exponent
  let magnitude : Float :=
    if digits = 0 ∨ size < -400 then 0
    else if 400 < size then 1 / 0
    else if exponent < 0 then Float.ofScientific digits true (-exponent).toNat
    else Float.ofScientific digits false exponent.toNat
  if negative then -magnitude else magnitude

def natOfDecimal (s : List Char) : Nat := s.foldl (fun n c => n * 10 + (c.toNat - 48)) 0

def readExponent? : List Char → Option Int
  | '-' :: s => if s ≠ [] ∧ s.all isDecimal then some (-(natOfDecimal s : Int)) else none
  | '+' :: s => if s ≠ [] ∧ s.all isDecimal then some (natOfDecimal s) else none
  | s => if s ≠ [] ∧ s.all isDecimal then some (natOfDecimal s) else none

def readUnsigned? (negative : Bool) (s : List Char) : Option Float :=
  let word := String.ofList (s.map Char.toLower)
  if word = "inf" ∨ word = "infinity" then some (if negative then -(1 / 0) else 1 / 0)
  else if word = "nan" then some (0 / 0)
  else
    let whole := s.takeWhile isDecimal
    let (fraction, rest) := match s.dropWhile isDecimal with
      | '.' :: t => (t.takeWhile isDecimal, t.dropWhile isDecimal)
      | t => ([], t)
    let power : Option Int := match rest with
      | [] => some 0
      | e :: t => if e = 'e' ∨ e = 'E' then readExponent? t else none
    if whole ++ fraction = [] then none
    else power.map fun p =>
      nearestDouble negative (natOfDecimal (whole ++ fraction)) (p - fraction.length)

def readDouble? (text : String) : Option Float := do
  let s ← joinDigits? false (trimBy isNumberBlank (plainDigits text.toList))
  match s with
  | '-' :: t => readUnsigned? true t
  | '+' :: t => readUnsigned? false t
  | t => readUnsigned? false t

end Chip8.Number
