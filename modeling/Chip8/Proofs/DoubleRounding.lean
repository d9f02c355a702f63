import Chip8.Proofs.DoubleValue

/-! Rounding to doubles. A number of at most `2 ^ n` is met up to `2 ^ (n - 52)`, which is the step
between the doubles there, as long as these are no less than the least normal double and the number
stays short of half a step past the largest one. -/
namespace Chip8.Number
open Float.Model (UnpackedFloat totalExponent)
open Float.Model.Format (binary64)
open Float.Model.UnpackedFloat

def roundingExponent (mantissa : Nat) (exponent : Int) : Int :=
  max (mantissa.log2 + exponent - 52) (-1074)

theorem targetExponent (mantissa : Nat) (exponent : Int) :
    binary64.targetExponent (totalExponent mantissa exponent) =
      roundingExponent mantissa exponent := by
  change max (mantissa.log2 + 1 + exponent - 53) (-1074) = max _ _
  congr 1
  omega

theorem shiftedMantissa (em : ExtendedMantissa) (k : Nat) :
    (em >>> k).mantissa = em.mantissa / 2 ^ k := by
  change (k.repeat ExtendedMantissa.shiftRightOne em).mantissa = _
  induction k with
  | zero => simp [Nat.repeat]
  | succ k ih =>
    rw [Nat.repeat, ExtendedMantissa.shiftRightOne, ih, Nat.div_div_eq_div_mul, pow_succ]

structure Dropped (mantissa k rounded : Nat) : Prop where
  low : mantissa / 2 ^ k ≤ rounded
  high : rounded ≤ mantissa / 2 ^ k + 1
  down : 2 * (mantissa % 2 ^ k) < 2 ^ k → rounded = mantissa / 2 ^ k

/- What comes short of this is rounded to a double; it lies half a step past the largest one. -/
def limit : ℚ := (2 ^ 54 - 1) * 2 ^ (970 : ℤ)

theorem limitPower : limit < 2 ^ (1024 : ℤ) := by
  have power : (2 : ℚ) ^ (1024 : ℤ) = 2 ^ (54 : ℤ) * 2 ^ (970 : ℤ) := zpow_add₀ two_ne_zero 54 970
  rw [limit, power]
  exact mul_lt_mul_of_pos_right (by norm_num) (by positivity)

def Fits (mantissa : Nat) (exponent : Int) : Prop :=
  mantissa < 2 ^ 53 ∧ exponent ≤ 971 ∨ mantissa = 2 ^ 53 ∧ exponent ≤ 970

section
variable {mantissa k rounded : Nat}

theorem droppedBound (dropped : Dropped mantissa k rounded) (positive : 0 < mantissa)
    (enough : mantissa.log2 ≤ 52 + k) : rounded ≤ 2 ^ 53 := by
  have fits : mantissa / 2 ^ k < 2 ^ 53 := by
    rw [Nat.div_lt_iff_lt_mul (Nat.two_pow_pos k), ← pow_add, ← Nat.log2_lt positive.ne']
    omega
  exact dropped.high.trans fits

theorem droppedFull (dropped : Dropped mantissa k rounded) (positive : 0 < mantissa)
    (few : 52 + k ≤ mantissa.log2) : 2 ^ 52 ≤ rounded := by
  refine le_trans ?_ dropped.low
  rw [Nat.le_div_iff_mul_le (Nat.two_pow_pos k), ← pow_add, ← Nat.le_log2 positive.ne']
  exact few

theorem droppedNear (dropped : Dropped mantissa k rounded) (exponent : Int) :
    |(rounded : ℚ) * 2 ^ (exponent + k) - mantissa * 2 ^ exponent| ≤ 2 ^ (exponent + k) := by
  have near : |(rounded : ℚ) * 2 ^ k - mantissa| ≤ 2 ^ k := by
    have exact : (mantissa : ℚ) = 2 ^ k * (mantissa / 2 ^ k : ℕ) + (mantissa % 2 ^ k : ℕ) := by
      exact_mod_cast (Nat.div_add_mod mantissa (2 ^ k)).symm
    have less : ((mantissa % 2 ^ k : ℕ) : ℚ) ≤ 2 ^ k := by
      exact_mod_cast (Nat.mod_lt mantissa (Nat.two_pow_pos k)).le
    have none : (0 : ℚ) ≤ (mantissa % 2 ^ k : ℕ) := Nat.cast_nonneg _
    have below : ((mantissa / 2 ^ k : ℕ) : ℚ) * 2 ^ k ≤ rounded * 2 ^ k := by
      exact_mod_cast Nat.mul_le_mul_right _ dropped.low
    have above : (rounded : ℚ) * 2 ^ k ≤ ((mantissa / 2 ^ k : ℕ) + 1) * 2 ^ k := by
      exact_mod_cast Nat.mul_le_mul_right _ dropped.high
    rw [abs_le]
    constructor <;> linarith
  have unit : (0 : ℚ) < 2 ^ exponent := by positivity
  have scaled : (rounded : ℚ) * 2 ^ (exponent + k) - mantissa * 2 ^ exponent =
      (rounded * 2 ^ k - mantissa) * 2 ^ exponent := by
    rw [zpow_add₀ two_ne_zero, zpow_natCast]
    ring
  rw [scaled, abs_mul, abs_of_pos unit, zpow_add₀ two_ne_zero, zpow_natCast,
    mul_comm ((2 : ℚ) ^ exponent)]
  exact mul_le_mul_of_nonneg_right near unit.le

theorem droppedShort (dropped : Dropped mantissa k rounded)
    (short : 2 * mantissa + 2 ^ k < 2 ^ 54 * 2 ^ k) : rounded < 2 ^ 53 := by
  have parts := Nat.div_add_mod mantissa (2 ^ k)
  have below : mantissa / 2 ^ k < 2 ^ 53 := by
    rw [Nat.div_lt_iff_lt_mul (Nat.two_pow_pos k)]
    omega
  by_cases next : mantissa / 2 ^ k + 1 < 2 ^ 53
  · exact dropped.high.trans_lt next
  · have last : mantissa / 2 ^ k = 2 ^ 53 - 1 := by omega
    rw [last] at parts
    have rest : 2 * (mantissa % 2 ^ k) < 2 ^ k := by omega
    rw [dropped.down rest]
    exact below

theorem droppedFits (dropped : Dropped mantissa k rounded) (positive : 0 < mantissa)
    (enough : mantissa.log2 ≤ 52 + k) {exponent : Int} (most : exponent + k ≤ 971)
    (range : (mantissa : ℚ) * 2 ^ exponent < limit) : Fits rounded (exponent + k) := by
  have bound := droppedBound dropped positive enough
  by_cases last : exponent + k = 971
  · have unit : (0 : ℚ) < 2 ^ exponent := by positivity
    have power : 2 * (2 : ℚ) ^ (970 : ℤ) = 2 ^ k * 2 ^ exponent := by
      rw [← zpow_natCast, ← zpow_add₀ two_ne_zero, add_comm (k : ℤ), last]
      exact (zpow_one_add₀ two_ne_zero 970).symm
    have scaled : 2 * limit = (2 ^ 54 - 1) * 2 ^ k * 2 ^ exponent := by
      rw [limit, mul_assoc, ← power]
      ring
    have less : 2 * (mantissa : ℚ) < (2 ^ 54 - 1) * 2 ^ k := by
      refine lt_of_mul_lt_mul_right ?_ unit.le
      rw [← scaled, mul_assoc]
      exact mul_lt_mul_of_pos_left range two_pos
    have short : ((2 * mantissa + 2 ^ k : ℕ) : ℚ) < (2 ^ 54 * 2 ^ k : ℕ) := by
      push_cast
      linarith
    exact .inl ⟨droppedShort dropped (by exact_mod_cast short), most⟩
  · unfold Fits
    omega

end

def dropBits (mantissa k : Nat) : Nat :=
  (ExtendedMantissa.ofMantissaAndAccuracy mantissa .exact >>> k).roundedMantissa

theorem shiftedLow {mantissa k : Nat} (low : 2 * (mantissa % 2 ^ k) < 2 ^ k) :
    (ExtendedMantissa.ofMantissaAndAccuracy mantissa .exact >>> k).roundBit = false := by
  cases k with
  | zero => rfl
  | succ k =>
    change ((ExtendedMantissa.ofMantissaAndAccuracy mantissa .exact >>> k).mantissa % 2 != 0) = _
    have even : mantissa / 2 ^ k % 2 ≠ 1 := by
      intro odd
      rw [pow_succ, Nat.mod_mul, odd] at low
      omega
    have mantissaShifted : (ExtendedMantissa.ofMantissaAndAccuracy mantissa .exact >>> k).mantissa =
        mantissa / 2 ^ k := shiftedMantissa _ k
    rw [mantissaShifted, Nat.mod_two_ne_one.mp even]
    rfl

theorem roundedLow {em : ExtendedMantissa} (low : em.roundBit = false) :
    em.roundedMantissa = em.mantissa := by
  obtain ⟨mantissa, round, sticky⟩ := em
  cases low
  cases sticky <;> rfl

theorem dropBitsDropped (mantissa k : Nat) : Dropped mantissa k (dropBits mantissa k) := by
  have shifted : (ExtendedMantissa.ofMantissaAndAccuracy mantissa .exact >>> k).mantissa =
      mantissa / 2 ^ k := shiftedMantissa _ k
  constructor
  case down => exact fun low => (roundedLow (shiftedLow low)).trans shifted
  all_goals
    unfold dropBits ExtendedMantissa.roundedMantissa Accuracy.roundToNearestEven
    split <;> omega

structure Settled (mantissa : Nat) (exponent : Int) (m : Nat) (e : Int) : Prop where
  value : (m : ℚ) * 2 ^ e = mantissa * 2 ^ exponent
  small : m < 2 ^ 53
  most : e ≤ 971
  size : 2 ^ 52 ≤ mantissa ∨ exponent = -1074 →
    2 ^ 52 ≤ m ∧ -1074 ≤ e ∨ m < 2 ^ 52 ∧ e = -1074

theorem settled {mantissa : Nat} {exponent : Int} (fits : Fits mantissa exponent)
    (least : -1074 ≤ exponent) :
    Settled mantissa exponent (shiftToTargetExponent binary64 mantissa exponent .exact).1.mantissa
      (shiftToTargetExponent binary64 mantissa exponent .exact).2 := by
  simp only [shiftToTargetExponent, shiftToExponent, targetExponent, shiftedMantissa,
    ExtendedMantissa.ofMantissaAndAccuracy]
  obtain ⟨small, most⟩ | ⟨rfl, most⟩ := fits
  case inr =>
    have shift : (roundingExponent (2 ^ 53) exponent - exponent).toNat = 1 := by
      rw [roundingExponent, Nat.log2_two_pow]
      omega
    rw [shift]
    constructor
    case value =>
      have step : ((2 : ℚ) ^ (exponent + (1 : ℕ))) = 2 ^ exponent * 2 := by
        rw [zpow_add₀ two_ne_zero]
        norm_num
      rw [step]
      norm_num
      ring
    case small => norm_num
    case most => omega
    case size =>
      intro _
      refine .inl ⟨?_, ?_⟩
      · norm_num
      · omega
  case inl =>
    have shift : (roundingExponent mantissa exponent - exponent).toNat = 0 := by
      have less : mantissa.log2 ≤ 52 := by
        by_cases none : mantissa = 0
        · simp [none]
        · have := (Nat.log2_lt none).mpr small
          omega
      rw [roundingExponent]
      omega
    rw [shift]
    constructor
    case value => simp
    case small =>
      simp only [pow_zero, Nat.div_one]
      omega
    case most => omega
    case size =>
      simp only [pow_zero, Nat.div_one]
      omega

theorem signedNear (p q : ℚ) (sign : Sign) : |signed p sign - signed q sign| = |p - q| := by
  cases sign with
  | positive => rfl
  | negative => rw [signed, signed, neg_sub_neg, abs_sub_comm]

structure Near (u : UnpackedFloat) (exact d : ℚ) : Prop where
  canonical : Canonical u
  value : ∃ v, unpackedValue? u = some v ∧ |v - exact| ≤ d

variable {n : Int}

theorem leadingLeast {mantissa : Nat} (exponent : Int) (positive : 0 < mantissa) :
    (2 : ℚ) ^ (mantissa.log2 + exponent) ≤ mantissa * 2 ^ exponent := by
  rw [zpow_add₀ two_ne_zero, zpow_natCast]
  refine mul_le_mul_of_nonneg_right ?_ (by positivity)
  exact_mod_cast Nat.log2_self_le positive.ne'

theorem leadingBound {mantissa : Nat} {exponent : Int} (positive : 0 < mantissa)
    (bound : (mantissa : ℚ) * 2 ^ exponent ≤ 2 ^ n) : mantissa.log2 + exponent ≤ n :=
  (zpow_le_zpow_iff_right₀ one_lt_two).mp ((leadingLeast exponent positive).trans bound)

theorem leadingRange {mantissa : Nat} {exponent : Int} (positive : 0 < mantissa)
    (range : (mantissa : ℚ) * 2 ^ exponent < limit) : mantissa.log2 + exponent < 1024 :=
  (zpow_lt_zpow_iff_right₀ one_lt_two).mp
    ((leadingLeast exponent positive).trans_lt (range.trans limitPower))

theorem inRange {q : ℚ} (bound : |q| ≤ 2 ^ n) (most : n ≤ 1022) : |q| < limit := by
  have power : (2 : ℚ) ^ n ≤ 2 ^ (1022 : ℤ) := zpow_le_zpow_right₀ one_le_two most
  have less : (2 : ℚ) ^ (1022 : ℤ) < limit := by
    have power : (2 : ℚ) ^ (1022 : ℤ) = 2 ^ (52 : ℤ) * 2 ^ (970 : ℤ) :=
      zpow_add₀ two_ne_zero 52 970
    rw [limit, power]
    exact mul_lt_mul_of_pos_right (by norm_num) (by positivity)
  exact bound.trans_lt (power.trans_lt less)

theorem roundingBound {mantissa : Nat} {exponent : Int} (positive : 0 < mantissa)
    (bound : (mantissa : ℚ) * 2 ^ exponent ≤ 2 ^ n) (least : -1022 ≤ n) :
    roundingExponent mantissa exponent ≤ n - 52 := by
  have size := leadingBound positive bound
  rw [roundingExponent]
  omega

theorem settledCanonical (sign : Sign) {mantissa m : Nat} {exponent e : Int}
    (settled : Settled mantissa exponent m e) (size : 2 ^ 52 ≤ mantissa ∨ exponent = -1074) :
    Canonical (if h : m = 0 then .zero sign else .finite sign m e (Nat.pos_of_ne_zero h)) ∧
      unpackedValue? (if h : m = 0 then .zero sign else .finite sign m e (Nat.pos_of_ne_zero h)) =
        some (signed (mantissa * 2 ^ exponent) sign) := by
  split
  · rename_i none
    refine ⟨trivial, ?_⟩
    rw [unpackedValue?, ← settled.value, none]
    cases sign <;> simp [signed]
  · refine ⟨⟨settled.small, settled.most, settled.size size⟩, ?_⟩
    rw [unpackedValue?, settled.value]

theorem roundNear (sign : Sign) {mantissa : Nat} {exponent : Int} (positive : 0 < mantissa)
    (dense : 52 ≤ mantissa.log2 ∨ exponent ≤ -1074) (bound : (mantissa : ℚ) * 2 ^ exponent ≤ 2 ^ n)
    (least : -1022 ≤ n) (range : (mantissa : ℚ) * 2 ^ exponent < limit) :
    Near (roundWithAccuracy binary64 sign mantissa exponent .exact)
      (signed (mantissa * 2 ^ exponent) sign) (2 ^ (n - 52)) := by
  have small := roundingBound positive bound least
  have reached : exponent + (roundingExponent mantissa exponent - exponent).toNat =
      roundingExponent mantissa exponent := by
    unfold roundingExponent
    omega
  have dropped := dropBitsDropped mantissa (roundingExponent mantissa exponent - exponent).toNat
  have near := droppedNear dropped exponent
  have leading := leadingRange positive range
  have fits := droppedFits dropped positive (by unfold roundingExponent; omega)
    (by unfold roundingExponent; omega) range
  rw [reached] at fits
  have size : 2 ^ 52 ≤ dropBits mantissa (roundingExponent mantissa exponent - exponent).toNat ∨
      roundingExponent mantissa exponent = -1074 := by
    by_cases normal : roundingExponent mantissa exponent = -1074
    · exact .inr normal
    · refine .inl (droppedFull dropped positive ?_)
      unfold roundingExponent at normal ⊢
      omega
  -- The bits are dropped by the first of two shifts. The second one is for a mantissa that has
  -- grown to 54 bits.
  have shifted : shiftToTargetExponent binary64 mantissa exponent .exact =
      (ExtendedMantissa.ofMantissaAndAccuracy mantissa .exact >>>
        (roundingExponent mantissa exponent - exponent).toNat,
        roundingExponent mantissa exponent) := by
    rw [shiftToTargetExponent, targetExponent, shiftToExponent, reached]
  have known := settled fits (le_max_right _ _)
  obtain ⟨canonical, value⟩ := settledCanonical sign known size
  rw [reached] at near
  rw [roundWithAccuracy, shifted]
  refine ⟨canonical, _, value, ?_⟩
  rw [signedNear]
  exact near.trans (zpow_le_zpow_right₀ one_le_two small)

theorem decreasedValue (mantissa : Nat) (exponent target : Int) :
    ((decreaseExponent mantissa exponent target).1 : ℚ) *
      2 ^ (decreaseExponent mantissa exponent target).2 = mantissa * 2 ^ exponent := by
  simp only [decreaseExponent, Nat.shiftLeft_eq]
  push_cast
  rw [zpow_sub₀ two_ne_zero, zpow_natCast, mul_assoc, mul_div_cancel₀ _ (by positivity)]

theorem shiftedLog {mantissa : Nat} (positive : 0 < mantissa) (k : Nat) :
    (mantissa * 2 ^ k).log2 = mantissa.log2 + k := by
  have more : mantissa * 2 ^ k ≠ 0 := (Nat.mul_pos positive (Nat.two_pow_pos k)).ne'
  rw [Nat.log2_eq_iff more, Nat.add_right_comm, pow_add, pow_add]
  exact ⟨Nat.mul_le_mul_right _ (Nat.log2_self_le positive.ne'),
    Nat.mul_lt_mul_of_pos_right Nat.lt_log2_self (Nat.two_pow_pos k)⟩

theorem decreasedDense {mantissa : Nat} (exponent : Int) (positive : 0 < mantissa) :
    0 < (decreaseExponent mantissa exponent (roundingExponent mantissa exponent)).1 ∧
      (52 ≤ (decreaseExponent mantissa exponent (roundingExponent mantissa exponent)).1.log2 ∨
        (decreaseExponent mantissa exponent (roundingExponent mantissa exponent)).2 ≤ -1074) := by
  simp only [decreaseExponent, Nat.shiftLeft_eq, shiftedLog positive]
  refine ⟨Nat.mul_pos positive (Nat.two_pow_pos _), ?_⟩
  unfold roundingExponent
  omega

theorem wholeRoundNear (sign : Sign) {mantissa : Nat} (exponent : Int) (positive : 0 < mantissa)
    (bound : (mantissa : ℚ) * 2 ^ exponent ≤ 2 ^ n) (least : -1022 ≤ n)
    (range : (mantissa : ℚ) * 2 ^ exponent < limit) :
    Near (UnpackedFloat.round binary64 sign mantissa exponent)
      (signed (mantissa * 2 ^ exponent) sign) (2 ^ (n - 52)) := by
  obtain ⟨more, dense⟩ := decreasedDense exponent positive
  rw [← decreasedValue mantissa exponent (roundingExponent mantissa exponent)] at bound range ⊢
  rw [UnpackedFloat.round, targetExponent]
  exact roundNear sign more dense bound least range

theorem normalizeNear {mantissa exponent : Int} (zeroSign : Sign)
    (bound : |(mantissa : ℚ) * 2 ^ exponent| ≤ 2 ^ n) (least : -1022 ≤ n)
    (range : |(mantissa : ℚ) * 2 ^ exponent| < limit) :
    Near (UnpackedFloat.normalize binary64 mantissa exponent zeroSign) (mantissa * 2 ^ exponent)
      (2 ^ (n - 52)) := by
  have unit : (0 : ℚ) < 2 ^ exponent := by positivity
  rw [abs_mul, abs_of_pos unit] at bound range
  unfold UnpackedFloat.normalize
  split
  · rename_i negative
    have below : mantissa < 0 := Int.compare_eq_lt.mp negative
    have size : ((-mantissa).toNat : ℚ) = |(mantissa : ℚ)| := by
      rw [← Int.cast_natCast, Int.toNat_of_nonneg (by omega), Int.cast_neg, abs_of_neg]
      exact_mod_cast below
    have near := wholeRoundNear .negative exponent (by omega : 0 < (-mantissa).toNat)
      (size ▸ bound) least (size ▸ range)
    have value : signed ((-mantissa).toNat * 2 ^ exponent) .negative = mantissa * 2 ^ exponent := by
      rw [signed, size, abs_of_neg (by exact_mod_cast below), neg_mul, neg_neg]
    rwa [value] at near
  · rename_i zero
    have none := Int.compare_eq_eq.mp zero
    refine ⟨trivial, 0, rfl, ?_⟩
    rw [none, Int.cast_zero, zero_mul, sub_zero, abs_zero]
    positivity
  · rename_i positive
    have above : 0 < mantissa := Int.compare_eq_gt.mp positive
    have size : (mantissa.toNat : ℚ) = mantissa := by
      rw [← Int.cast_natCast, Int.toNat_of_nonneg above.le]
    rw [abs_of_pos (by exact_mod_cast above)] at bound range
    have near := wholeRoundNear .positive exponent (by omega : 0 < mantissa.toNat)
      (size ▸ bound) least (size ▸ range)
    rwa [signed, size] at near

end Chip8.Number
