/-! Upper-case hexadecimal text of whole numbers, and padding to a width. A width counts the
sign and never cuts a digit. -/
namespace Chip8.Text

def hexDigits (n : Nat) : List Char := (Nat.toDigits 16 n).map Char.toUpper

def hexChars (width : Nat) (v : Int) : List Char :=
  let sign := if v < 0 then ['-'] else []
  let digits := hexDigits v.natAbs
  sign ++ List.replicate (width - (sign.length + digits.length)) '0' ++ digits

def hex (width : Nat) (v : Int) : String := String.ofList (hexChars width v)

def padRight (width : Nat) (s : String) : String :=
  s ++ String.ofList (List.replicate (width - s.length) ' ')

theorem hexCharsLength (width : Nat) (v : Int) : width ≤ (hexChars width v).length := by
  simp only [hexChars, List.length_append, List.length_replicate]
  omega

end Chip8.Text
