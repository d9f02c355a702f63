import Chip8.Number.Double

/-! The fewest decimal digits that read back as a given double, and the text made of them. -/
namespace Chip8.Number

structure Decimal where
  digits : Nat
  exponent : Int
  deriving DecidableEq, Repr

def compareScaled (a : Nat) (i : Int) (n : Nat) (j : Int) : Ordering :=
  compare (a * Nat.pow 10 i.toNat * Nat.pow 2 (-j).toNat)
    (n * Nat.pow 2 j.toNat * Nat.pow 10 (-i).toNat)

/-- A decimal reads back when it lies between the midpoints to both neighbours; a midpoint
itself goes to the even significand. -/
def Binary.readsBack (b : Binary) (d : Decimal) : Bool :=
  let low := if b.narrow then 4 * b.significand - 1 else 4 * b.significand - 2
  let high := 4 * b.significand + 2
  let even := b.significand % 2 == 0
  let below := compareScaled d.digits d.exponent low (b.exponent - 2)
  let above := compareScaled d.digits d.exponent high (b.exponent - 2)
  (below == .gt || (even && below == .eq)) && (above == .lt || (even && above == .eq))

def Binary.ratio (b : Binary) : Nat × Nat :=
  (b.significand * Nat.pow 2 b.exponent.toNat, Nat.pow 2 (-b.exponent).toNat)

def Binary.magnitude (b : Binary) : Int :=
  let (num, den) := b.ratio
  if den ≤ num then (Nat.toDigits 10 (num / den)).length
  else 1 - ((Nat.toDigits 10 (den / num)).length : Int)

def Binary.neighbours (b : Binary) (grid : Int) : Nat × Nat :=
  let (num, den) := b.ratio
  let below := (num * Nat.pow 10 (-grid).toNat) / (den * Nat.pow 10 grid.toNat)
  (below, below + 1)

def Binary.nearer (b : Binary) (grid : Int) (below above : Nat) : Nat :=
  match compareScaled (below + above) grid (2 * b.significand) b.exponent with
  | .lt => above
  | .gt => below
  | .eq => if below % 2 = 0 then below else above

def Binary.onGrid? (b : Binary) (grid : Int) : Option Decimal :=
  let (below, above) := b.neighbours grid
  match b.readsBack ⟨below, grid⟩, b.readsBack ⟨above, grid⟩ with
  | true, true => some ⟨b.nearer grid below above, grid⟩
  | true, false => some ⟨below, grid⟩
  | false, true => some ⟨above, grid⟩
  | false, false => none

/-- Seventeen digits always read back, so the search among up to seventeen has an answer. -/
def Binary.shortest (b : Binary) : Decimal :=
  let grids := (List.range 17).map fun (d : Nat) => b.magnitude - (d : Int) - 1
  (grids.findSome? b.onGrid?).getD ⟨b.significand, b.exponent⟩

def Binary.magnitudeText (b : Binary) : String :=
  if b.significand = 0 then "0.0"
  else
    let d := b.shortest
    let digits := Nat.toDigits 10 d.digits
    let point := (digits.length : Int) + d.exponent
    let digits := (digits.reverse.dropWhile (· = '0')).reverse
    let zeros n := List.replicate n '0'
    if -4 < point ∧ point ≤ 0 then
      String.ofList ('0' :: '.' :: zeros (-point).toNat ++ digits)
    else if 0 < point ∧ point ≤ 16 then
      let whole := digits.take point.toNat
      let rest := digits.drop point.toNat
      String.ofList (whole ++ zeros (point.toNat - whole.length) ++
        '.' :: (if rest = [] then ['0'] else rest))
    else
      let power := point - 1
      let mantissa := match digits with
        | [c] => [c]
        | c :: rest => c :: '.' :: rest
        | [] => []
      let size := Nat.toDigits 10 power.natAbs
      String.ofList (mantissa ++ 'e' :: (if power < 0 then '-' else '+') ::
        zeros (2 - size.length) ++ size)

def doubleText (x : Float) : String :=
  match Binary.ofBits x.toBits with
  | .error .nan => "nan"
  | .error _ => if x < 0 then "-inf" else "inf"
  | .ok b => (if b.negative then "-" else "") ++ b.magnitudeText

end Chip8.Number
