import Chip8.Text.Blank
import Chip8.Text.Quoted

/-! Whole numbers read from text in base 10 or 16: blanks around, one sign, the digits of any
script, single underscores between digits, and in base 16 a `0x` of its own. -/
namespace Chip8.Text

inductive IntegerError where
  | malformed (base : Nat) (text : String)
  | tooLong (digits : Nat)
  deriving DecidableEq, Repr

def digitLimit : Nat := 4300

def shownLimit : Nat := 200

def IntegerError.message : IntegerError → String
  | .malformed base text =>
    s!"invalid literal for int() with base {base}: " ++
      String.ofList ((quotedChars text.toList).take shownLimit)
  | .tooLong digits =>
    s!"Exceeds the limit ({digitLimit} digits) for integer string conversion: " ++
      s!"value has {digits} digits; use sys.set_int_max_str_digits() to increase the limit"

def digitValue? (c : Char) : Option Nat :=
  if '0' ≤ c ∧ c ≤ '9' then some (c.toNat - 48)
  else if 'a' ≤ c ∧ c ≤ 'z' then some (c.toNat - 87)
  else if 'A' ≤ c ∧ c ≤ 'Z' then some (c.toNat - 55)
  else none

def digitIn? (base : Nat) (c : Char) : Option Nat := (digitValue? c).filter (· < base)

def wellSpaced : List Char → Bool
  | [] => false
  | ['_'] => false
  | '_' :: _ => false
  | [_] => true
  | _ :: '_' :: s => wellSpaced s
  | _ :: s => wellSpaced s

def splitSign : List Char → Bool × List Char
  | '-' :: s => (true, s)
  | '+' :: s => (false, s)
  | s => (false, s)

/-- The mark of base 16, and one underscore after it, may be left out. -/
def dropMark (base : Nat) : List Char → List Char
  | '0' :: x :: s =>
    if base = 16 ∧ (x = 'x' ∨ x = 'X') then
      match s with
      | '_' :: s => s
      | s => s
    else '0' :: x :: s
  | s => s

def natOfDigits (base : Nat) (s : List Char) : Nat :=
  s.foldl (fun n c => n * base + (digitIn? base c).getD 0) 0

def readInteger (base : Nat) (text : String) : Except IntegerError Int :=
  let (negative, rest) := splitSign (trimBy isNumberBlank (plainDigits text.toList))
  let body := dropMark base rest
  let run := body.takeWhile fun c => c = '_' || (digitIn? base c).isSome
  let digits := run.filter (· ≠ '_')
  if !wellSpaced run then .error (.malformed base text)
  else if base ≠ 16 ∧ digitLimit < digits.length then .error (.tooLong digits.length)
  else if run.length < body.length then .error (.malformed base text)
  else
    let n : Int := natOfDigits base digits
    .ok (if negative then -n else n)

end Chip8.Text
