import Chip8.Number.Shortest
import Mathlib

/-! Doubles in decimal. A decimal reads back if it lies in the interval of what is rounded to the
double. A unit of the seventeenth digit is less than this interval is wide, so one of the two
decimals of seventeen digits around a double reads back; and if any decimal on a grid does, then
so does one of the two around the double. -/
namespace Chip8.Number

def Decimal.value (d : Decimal) : ℚ := d.digits * 10 ^ d.exponent

theorem powSplit {base : ℚ} (unequal : base ≠ 0) (k : Int) :
    base ^ k * base ^ (-k).toNat = base ^ k.toNat := by
  rw [← zpow_natCast, ← zpow_natCast, ← zpow_add₀ unequal]
  congr 1
  omega

theorem compareValues (a : Nat) (i : Int) (n : Nat) (j : Int) :
    compareScaled a i n j = cmp ((a : ℚ) * 10 ^ i) (n * 2 ^ j) := by
  have unit : (0 : ℚ) < 10 ^ (-i).toNat * 2 ^ (-j).toNat := by positivity
  have left : (a : ℚ) * 10 ^ i * (10 ^ (-i).toNat * 2 ^ (-j).toNat) =
      (a * 10 ^ i.toNat * 2 ^ (-j).toNat : ℕ) := by
    push_cast
    rw [← powSplit (by norm_num) i]
    ring
  have right : (n : ℚ) * 2 ^ j * (10 ^ (-i).toNat * 2 ^ (-j).toNat) =
      (n * 2 ^ j.toNat * 10 ^ (-i).toNat : ℕ) := by
    push_cast
    rw [← powSplit (by norm_num) j]
    ring
  rw [← cmp_mul_pos_right unit, left, right, Nat.strictMono_cast.cmp_map_eq, cmp_eq_compare]
  rfl

namespace Binary
variable {b : Binary} {d : Decimal} {p q : ℚ}

def size (b : Binary) : ℚ := b.significand * 2 ^ b.exponent

def lower (b : Binary) : ℚ :=
  (if b.narrow then 4 * b.significand - 1 else 4 * b.significand - 2 : ℕ) * 2 ^ (b.exponent - 2)

def upper (b : Binary) : ℚ := (4 * b.significand + 2 : ℕ) * 2 ^ (b.exponent - 2)

structure Rounds (b : Binary) (q : ℚ) : Prop where
  low : b.lower < q ∨ b.significand % 2 = 0 ∧ b.lower = q
  high : q < b.upper ∨ b.significand % 2 = 0 ∧ q = b.upper

theorem readsRounds : b.readsBack d = true ↔ b.Rounds d.value := by
  have below : compareScaled d.digits d.exponent
      (if b.narrow then 4 * b.significand - 1 else 4 * b.significand - 2) (b.exponent - 2) =
      cmp d.value b.lower := compareValues _ _ _ _
  have above : compareScaled d.digits d.exponent (4 * b.significand + 2) (b.exponent - 2) =
      cmp d.value b.upper := compareValues _ _ _ _
  simp only [readsBack, below, above, Bool.and_eq_true, Bool.or_eq_true, beq_iff_eq,
    cmp_eq_gt_iff, cmp_eq_lt_iff, cmp_eq_eq_iff]
  constructor
  · rintro ⟨low, high⟩
    exact ⟨low.imp_right fun edge => ⟨edge.1, edge.2.symm⟩, high⟩
  · rintro ⟨low, high⟩
    exact ⟨low.imp_right fun edge => ⟨edge.1, edge.2.symm⟩, high⟩

theorem edges (positive : 0 < b.significand) :
    b.lower = b.size - (if b.narrow then 1 / 4 else 1 / 2) * 2 ^ b.exponent ∧
      b.upper = b.size + 1 / 2 * 2 ^ b.exponent := by
  have quarter : (2 : ℚ) ^ (b.exponent - 2) = 2 ^ b.exponent / 4 := by
    rw [zpow_sub₀ two_ne_zero]
    norm_num
  rw [lower, upper, size, quarter]
  constructor
  · split
    · rw [Nat.cast_sub (by omega)]
      push_cast
      ring
    · rw [Nat.cast_sub (by omega)]
      push_cast
      ring
  · push_cast
    ring

theorem sizeInside (positive : 0 < b.significand) : b.lower < b.size ∧ b.size < b.upper := by
  have unit : (0 : ℚ) < 2 ^ b.exponent := by positivity
  rw [(edges positive).1, (edges positive).2]
  constructor
  · split <;> linarith
  · linarith

theorem roundsBelow (positive : 0 < b.significand) (rounds : b.Rounds p) (nearer : p ≤ q)
    (inside : q ≤ b.size) : b.Rounds q := by
  refine ⟨?_, .inl (inside.trans_lt (sizeInside positive).2)⟩
  obtain low | ⟨even, edge⟩ := rounds.low
  · exact .inl (low.trans_le nearer)
  · rw [edge]
    exact nearer.lt_or_eq.imp_right fun same => ⟨even, same⟩

theorem roundsAbove (positive : 0 < b.significand) (rounds : b.Rounds p) (nearer : q ≤ p)
    (inside : b.size ≤ q) : b.Rounds q := by
  refine ⟨.inl ((sizeInside positive).1.trans_le inside), ?_⟩
  obtain high | ⟨even, edge⟩ := rounds.high
  · exact .inl (nearer.trans_lt high)
  · rw [← edge]
    exact nearer.lt_or_eq.imp_right fun same => ⟨even, same⟩

theorem ratioSize (b : Binary) : (b.ratio.1 : ℚ) = b.size * b.ratio.2 ∧ (0 : ℚ) < b.ratio.2 := by
  simp only [ratio, size, Nat.pow_eq]
  push_cast
  refine ⟨?_, by positivity⟩
  rw [← powSplit two_ne_zero b.exponent, mul_assoc]

theorem neighboursAround (b : Binary) (grid : Int) : ∃ k : Nat, b.neighbours grid = (k, k + 1) ∧
    (⟨k, grid⟩ : Decimal).value ≤ b.size ∧ b.size < (⟨k + 1, grid⟩ : Decimal).value := by
  obtain ⟨same, positive⟩ := b.ratioSize
  have unit : (0 : ℚ) < b.ratio.2 * 10 ^ (-grid).toNat := by positivity
  have den : 0 < b.ratio.2 * 10 ^ grid.toNat :=
    Nat.mul_pos (by exact_mod_cast positive) (by positivity)
  have whole : b.size * (b.ratio.2 * 10 ^ (-grid).toNat) =
      (b.ratio.1 * 10 ^ (-grid).toNat : ℕ) := by
    push_cast
    rw [same]
    ring
  have step (k : Nat) : (⟨k, grid⟩ : Decimal).value * (b.ratio.2 * 10 ^ (-grid).toNat) =
      (k * (b.ratio.2 * 10 ^ grid.toNat) : ℕ) := by
    rw [Decimal.value]
    push_cast
    rw [← powSplit (by norm_num) grid]
    ring
  refine ⟨_, rfl, ?_, ?_⟩
  · refine le_of_mul_le_mul_right ?_ unit
    rw [whole, step]
    exact_mod_cast Nat.div_mul_le_self _ _
  · refine lt_of_mul_lt_mul_right ?_ unit.le
    rw [whole, step]
    exact_mod_cast Nat.lt_mul_of_div_lt (Nat.lt_succ_self _) den

theorem digitsBelow {n : Nat} (positive : 0 < n) : 10 ^ ((Nat.toDigits 10 n).length - 1) ≤ n := by
  by_contra large
  by_cases one : (Nat.toDigits 10 n).length - 1 = 0
  · rw [one] at large
    omega
  · have shorter := (Nat.length_toDigits_le_iff (by decide) (Nat.pos_of_ne_zero one)).mpr
      (Nat.lt_of_not_le large)
    omega

theorem magnitudeBelow (positive : 0 < b.significand) : 10 ^ (b.magnitude - 1) ≤ b.size := by
  obtain ⟨same, den⟩ := b.ratioSize
  have above : 0 < b.size := by
    have some : (0 : ℚ) < b.significand := by exact_mod_cast positive
    exact mul_pos some (by positivity)
  have num : 0 < b.ratio.1 := by
    have product := mul_pos above den
    rw [← same] at product
    exact_mod_cast product
  rw [magnitude]
  by_cases whole : b.ratio.2 ≤ b.ratio.1
  · have part : 0 < b.ratio.1 / b.ratio.2 := Nat.div_pos whole (by exact_mod_cast den)
    have length : 0 < (Nat.toDigits 10 (b.ratio.1 / b.ratio.2)).length := Nat.length_toDigits_pos
    have power : (10 : ℚ) ^ (((Nat.toDigits 10 (b.ratio.1 / b.ratio.2)).length : Int) - 1) ≤
        (b.ratio.1 / b.ratio.2 : ℕ) := by
      rw [← Nat.cast_one, ← Nat.cast_sub length, zpow_natCast]
      exact_mod_cast digitsBelow part
    have quotient : ((b.ratio.1 / b.ratio.2 : ℕ) : ℚ) ≤ b.size := by
      refine le_of_mul_le_mul_right ?_ den
      rw [← same]
      exact_mod_cast Nat.div_mul_le_self _ _
    simp only [if_pos whole]
    exact power.trans quotient
  · have length : 0 < (Nat.toDigits 10 (b.ratio.2 / b.ratio.1)).length := Nat.length_toDigits_pos
    have less := (Nat.length_toDigits_le_iff (by decide) length).mp (le_refl _)
    have power : (b.ratio.2 : ℚ) ≤
        10 ^ (Nat.toDigits 10 (b.ratio.2 / b.ratio.1)).length * b.size * b.ratio.2 := by
      rw [mul_assoc, ← same]
      exact_mod_cast (Nat.lt_mul_of_div_lt less num).le
    have one : 1 ≤ 10 ^ (Nat.toDigits 10 (b.ratio.2 / b.ratio.1)).length * b.size :=
      le_of_mul_le_mul_right (by rwa [one_mul]) den
    simp only [if_neg whole]
    rw [sub_sub_cancel_left, zpow_neg, zpow_natCast, inv_le_iff_one_le_mul₀' (by positivity)]
    exact one

theorem nearerEither (b : Binary) (grid : Int) (below above : Nat) :
    b.nearer grid below above = below ∨ b.nearer grid below above = above := by
  unfold nearer
  split
  · exact .inr rfl
  · exact .inl rfl
  · split
    · exact .inl rfl
    · exact .inr rfl

theorem onGridReads {grid : Int} (found : b.onGrid? grid = some d) :
    b.readsBack d = true ∧ d.exponent = grid := by
  obtain ⟨k, around, -⟩ := b.neighboursAround grid
  rw [onGrid?, around] at found
  simp only at found
  cases low : b.readsBack ⟨k, grid⟩ <;> cases high : b.readsBack ⟨k + 1, grid⟩ <;>
    rw [low, high] at found <;> cases found
  · exact ⟨high, rfl⟩
  · exact ⟨low, rfl⟩
  · refine ⟨?_, rfl⟩
    obtain same | same := b.nearerEither grid k (k + 1) <;> rw [same]
    · exact low
    · exact high

theorem onGridFound {grid : Int} {k : Nat} (around : b.neighbours grid = (k, k + 1))
    (reads : b.readsBack ⟨k, grid⟩ = true ∨ b.readsBack ⟨k + 1, grid⟩ = true) :
    b.onGrid? grid ≠ none := by
  unfold onGrid?
  rw [around]
  cases low : b.readsBack ⟨k, grid⟩ <;> cases high : b.readsBack ⟨k + 1, grid⟩ <;> simp_all

theorem onGridAny (positive : 0 < b.significand) (reads : b.readsBack d = true) :
    b.onGrid? d.exponent ≠ none := by
  obtain ⟨k, around, below, above⟩ := b.neighboursAround d.exponent
  have rounds := readsRounds.mp reads
  have unit : (0 : ℚ) ≤ 10 ^ d.exponent := by positivity
  refine onGridFound around ?_
  rw [readsRounds, readsRounds]
  by_cases small : d.digits ≤ k
  · have nearer : d.value ≤ (⟨k, d.exponent⟩ : Decimal).value :=
      mul_le_mul_of_nonneg_right (by exact_mod_cast small) unit
    exact .inl (roundsBelow positive rounds nearer below)
  · have large : k + 1 ≤ d.digits := by omega
    have nearer : (⟨k + 1, d.exponent⟩ : Decimal).value ≤ d.value :=
      mul_le_mul_of_nonneg_right (by exact_mod_cast large) unit
    exact .inr (roundsAbove positive rounds nearer above.le)

section
variable (positive : 0 < b.significand) (bound : b.significand < 2 ^ 53)
  (narrow : b.narrow = true → b.significand = 2 ^ 52)
include positive bound narrow

theorem unitInside :
    10 ^ (b.magnitude - 17) < (if b.narrow then 3 / 4 else 1) * (2 : ℚ) ^ b.exponent := by
  have unit : (0 : ℚ) < 2 ^ b.exponent := by positivity
  have scaled : (10 : ℚ) ^ (b.magnitude - 17) * 10 ^ 16 = 10 ^ (b.magnitude - 1) := by
    rw [← zpow_natCast, ← zpow_add₀ (by norm_num)]
    congr 1
    omega
  have below := magnitudeBelow positive
  rw [← scaled, size] at below
  split
  · rename_i halved
    rw [narrow halved] at below
    push_cast at below
    linarith
  · have most : (b.significand : ℚ) * 2 ^ b.exponent ≤ 2 ^ 53 * 2 ^ b.exponent :=
      mul_le_mul_of_nonneg_right (by exact_mod_cast bound.le) unit.le
    linarith

theorem finestFound : b.onGrid? (b.magnitude - 17) ≠ none := by
  obtain ⟨k, around, below, above⟩ := b.neighboursAround (b.magnitude - 17)
  obtain ⟨low, high⟩ := edges positive
  have inside := unitInside positive bound narrow
  have next : (⟨k + 1, b.magnitude - 17⟩ : Decimal).value =
      (⟨k, b.magnitude - 17⟩ : Decimal).value + 10 ^ (b.magnitude - 17) := by
    simp only [Decimal.value]
    push_cast
    ring
  refine onGridFound around ?_
  rw [readsRounds, readsRounds]
  by_cases near : b.lower < (⟨k, b.magnitude - 17⟩ : Decimal).value
  · exact .inl ⟨.inl near, .inl (below.trans_lt (sizeInside positive).2)⟩
  · refine .inr ⟨.inl ((sizeInside positive).1.trans above), .inl ?_⟩
    rw [not_lt, low] at near
    rw [high, next]
    split at near <;> rename_i halved <;> simp only [halved] at inside <;> norm_num at inside <;>
      linarith

theorem shortestFirst : ∃ before after,
    (List.range 17).map (fun d : Nat => b.magnitude - (d : Int) - 1) =
      before ++ b.shortest.exponent :: after ∧
    b.readsBack b.shortest = true ∧ ∀ grid ∈ before, b.onGrid? grid = none := by
  cases found : ((List.range 17).map fun d : Nat => b.magnitude - (d : Int) - 1).findSome?
      b.onGrid? with
  | none =>
    rw [List.findSome?_eq_none_iff] at found
    have last := found (b.magnitude - 17) (List.mem_map.mpr ⟨16, by decide, by omega⟩)
    exact absurd last (finestFound positive bound narrow)
  | some d =>
    have short : b.shortest = d := by rw [shortest, found, Option.getD_some]
    obtain ⟨before, grid, after, cut, own, none⟩ := List.findSome?_eq_some_iff.mp found
    obtain ⟨reads, same⟩ := onGridReads own
    rw [short]
    exact ⟨before, after, by rw [cut, same], reads, none⟩

theorem shortestFewest (reads : b.readsBack d = true) (grid : d.exponent < b.magnitude) :
    d.exponent ≤ b.shortest.exponent := by
  obtain ⟨before, after, cut, -, none⟩ := shortestFirst positive bound narrow
  have falling : (before ++ b.shortest.exponent :: after).Pairwise (· > ·) := by
    rw [← cut, List.pairwise_map]
    exact List.pairwise_lt_range.imp fun earlier => by omega
  have least : b.magnitude - 17 ≤ b.shortest.exponent := by
    have inside : b.shortest.exponent ∈ before ++ b.shortest.exponent :: after := by simp
    rw [← cut] at inside
    obtain ⟨k, small, same⟩ := List.mem_map.mp inside
    have few := List.mem_range.mp small
    omega
  by_cases fine : d.exponent < b.magnitude - 17
  · omega
  · have listed : d.exponent ∈ before ++ b.shortest.exponent :: after := by
      rw [← cut]
      refine List.mem_map.mpr ⟨(b.magnitude - d.exponent - 1).toNat, List.mem_range.mpr ?_, ?_⟩ <;>
        omega
    obtain earlier | later := List.mem_append.mp listed
    · exact absurd (none _ earlier) (onGridAny positive reads)
    · obtain same | later := List.mem_cons.mp later
      · exact same.le
      · exact (List.rel_of_pairwise_cons (List.pairwise_append.mp falling).2.1 later).le

end

theorem fieldsBound {bits : UInt64} (known : ofBits bits = .ok b) :
    b.significand < 2 ^ 53 ∧ (b.narrow = true → b.significand = 2 ^ 52) := by
  have fraction : (bits &&& 0xFFFFFFFFFFFFF).toNat < 2 ^ 52 := by
    rw [UInt64.toNat_and]
    exact Nat.lt_of_le_of_lt Nat.and_le_right (by decide)
  rw [ofBits, ofFields] at known
  generalize (bits &&& 0xFFFFFFFFFFFFF).toNat = f at known fraction
  split at known
  · contradiction
  · split at known
    · cases known
      exact ⟨fraction.trans (by decide), nofun⟩
    · cases known
      refine ⟨by simp only [Nat.pow_eq]; omega, ?_⟩
      simp +contextual

/-- The digits of a double are those of a decimal that reads back, and no decimal on a coarser
grid does. -/
theorem shortestReadsBack {bits : UInt64} (known : ofBits bits = .ok b)
    (nonzero : b.significand ≠ 0) : b.readsBack b.shortest = true ∧
      ∀ d, b.readsBack d = true → d.exponent < b.magnitude → d.exponent ≤ b.shortest.exponent := by
  obtain ⟨bound, narrow⟩ := fieldsBound known
  have positive := Nat.pos_of_ne_zero nonzero
  obtain ⟨-, -, -, reads, -⟩ := shortestFirst positive bound narrow
  exact ⟨reads, fun d => shortestFewest positive bound narrow⟩

end Binary
end Chip8.Number
