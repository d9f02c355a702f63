import Chip8.Proofs.DoubleRounding

/-! Sums, differences and products of doubles, and the doubles next to whole numbers, each up to
the step between the doubles of its size. -/
namespace Chip8.Number
open Float.Model (UnpackedFloat totalExponent)
open Float.Model.Format (binary64)
open Float.Model.UnpackedFloat
variable {n : Int}

theorem applyValue (sign : Sign) (mantissa : Nat) (exponent : Int) :
    ((sign.apply mantissa : ℤ) : ℚ) * 2 ^ exponent = signed (mantissa * 2 ^ exponent) sign := by
  cases sign <;> simp [Sign.apply, signed]

/- Two numbers meet at the smaller exponent. -/
theorem loweredValue (sign : Sign) (mantissa : Nat) {exponent target : Int}
    (lower : target ≤ exponent) :
    ((sign.apply (decreaseExponent mantissa exponent target).1 : ℤ) : ℚ) * 2 ^ target =
      signed (mantissa * 2 ^ exponent) sign := by
  have reached : (decreaseExponent mantissa exponent target).2 = target := by
    rw [decreaseExponent]
    omega
  have value := decreasedValue mantissa exponent target
  rw [reached] at value
  rw [applyValue, value]

theorem nearSelf {u : UnpackedFloat} {v d : ℚ} (canonical : Canonical u)
    (value : unpackedValue? u = some v) (some : 0 ≤ d) : Near u v d :=
  ⟨canonical, v, value, by simpa using some⟩

section
variable {u w : UnpackedFloat} {x y : ℚ}

theorem unpackedAdd (left : Canonical u) (right : Canonical w) (first : unpackedValue? u = some x)
    (second : unpackedValue? w = some y) (bound : |x + y| ≤ 2 ^ n) (least : -1022 ≤ n)
    (range : |x + y| < limit) : Near (add binary64 u w) (x + y) (2 ^ (n - 52)) := by
  have some : (0 : ℚ) ≤ 2 ^ (n - 52) := by positivity
  cases u with
  | infinity | notANumber => contradiction
  | zero s =>
    cases first
    cases w with
    | infinity | notANumber => contradiction
    | zero t =>
      cases second
      rw [add, zero_add]
      split <;> exact nearSelf trivial rfl some
    | finite t m e positive =>
      rw [zero_add]
      exact nearSelf right second some
  | finite s m e positive =>
    cases w with
    | infinity | notANumber => contradiction
    | zero t =>
      cases second
      rw [add_zero]
      exact nearSelf left first some
    | finite t k f more =>
      cases first
      cases second
      have sum : ((s.apply (decreaseExponent m e (min e f)).1 +
          t.apply (decreaseExponent k f (min e f)).1 : ℤ) : ℚ) * 2 ^ min e f =
          signed (m * 2 ^ e) s + signed (k * 2 ^ f) t := by
        rw [Int.cast_add, add_mul, loweredValue s m (min_le_left e f),
          loweredValue t k (min_le_right e f)]
      rw [← sum] at bound range ⊢
      exact normalizeNear .positive bound least range

theorem unpackedSub (left : Canonical u) (right : Canonical w) (first : unpackedValue? u = some x)
    (second : unpackedValue? w = some y) (bound : |x - y| ≤ 2 ^ n) (least : -1022 ≤ n)
    (range : |x - y| < limit) : Near (sub binary64 u w) (x - y) (2 ^ (n - 52)) := by
  have some : (0 : ℚ) ≤ 2 ^ (n - 52) := by positivity
  cases u with
  | infinity | notANumber => contradiction
  | zero s =>
    cases first
    cases w with
    | infinity | notANumber => contradiction
    | zero t =>
      cases second
      rw [sub, sub_zero]
      split <;> exact nearSelf trivial rfl some
    | finite t m e positive =>
      cases second
      have value :
          unpackedValue? (.finite (-t) m e positive) = .some (0 - signed (m * 2 ^ e) t) := by
        cases t <;> simp [unpackedValue?, signed]
      exact nearSelf right value some
  | finite s m e positive =>
    cases w with
    | infinity | notANumber => contradiction
    | zero t =>
      cases second
      rw [sub_zero]
      exact nearSelf left first some
    | finite t k f more =>
      cases first
      cases second
      have difference : ((s.apply (decreaseExponent m e (min e f)).1 -
          t.apply (decreaseExponent k f (min e f)).1 : ℤ) : ℚ) * 2 ^ min e f =
          signed (m * 2 ^ e) s - signed (k * 2 ^ f) t := by
        rw [Int.cast_sub, sub_mul, loweredValue s m (min_le_left e f),
          loweredValue t k (min_le_right e f)]
      rw [← difference] at bound range ⊢
      exact normalizeNear .positive bound least range

theorem signedAbs (q : ℚ) (sign : Sign) : |signed q sign| = |q| := by
  cases sign with
  | positive => rfl
  | negative => exact abs_neg q

theorem signedMul (p q : ℚ) (s t : Sign) : signed p s * signed q t = signed (p * q) (s * t) := by
  cases s <;> cases t <;> simp [signed]

theorem unpackedMul (left : Canonical u) (right : Canonical w) (first : unpackedValue? u = some x)
    (second : unpackedValue? w = some y) (bound : |x * y| ≤ 2 ^ n) (least : -1022 ≤ n)
    (range : |x * y| < limit) : Near (mul binary64 u w) (x * y) (2 ^ (n - 52)) := by
  have some : (0 : ℚ) ≤ 2 ^ (n - 52) := by positivity
  cases u with
  | infinity | notANumber => contradiction
  | zero s =>
    cases first
    rw [zero_mul]
    cases w with
    | infinity | notANumber => contradiction
    | zero | finite => exact nearSelf trivial rfl some
  | finite s m e positive =>
    cases w with
    | infinity | notANumber => contradiction
    | zero t =>
      cases second
      rw [mul_zero]
      exact nearSelf trivial rfl some
    | finite t k f more =>
      cases first
      cases second
      have product : signed (m * 2 ^ e) s * signed (k * 2 ^ f) t =
          signed ((m * k : ℕ) * 2 ^ (e + f)) (s * t) := by
        rw [signedMul, zpow_add₀ two_ne_zero]
        push_cast
        congr 1
        ring
      have dense : 52 ≤ (m * k).log2 ∨ e + f ≤ -1074 := by
        have full (enough : 2 ^ 52 ≤ m * k) : 52 ≤ (m * k).log2 :=
          (Nat.le_log2 (Nat.mul_pos positive more).ne').mpr enough
        obtain ⟨-, -, normal | subnormal⟩ := left
        · exact .inl (full (normal.1.trans (Nat.le_mul_of_pos_right m more)))
        · obtain ⟨-, -, normal | subnormal⟩ := right
          · exact .inl (full (normal.1.trans (Nat.le_mul_of_pos_left k positive)))
          · right
            omega
      rw [product] at bound range ⊢
      have size := le_abs_self (((m * k : ℕ) : ℚ) * 2 ^ (e + f))
      rw [← signedAbs _ (s * t)] at size
      exact roundNear (s * t) (Nat.mul_pos positive more) dense (size.trans bound) least
        (size.trans_lt range)

theorem unpackedAddNone (none : unpackedValue? u = none ∨ unpackedValue? w = none) :
    unpackedValue? (add binary64 u w) = .none := by
  cases u <;> cases w <;> first | rfl | simp [unpackedValue?] at none
  case infinity.infinity s t => cases s <;> cases t <;> rfl

theorem unpackedMulNone (none : unpackedValue? u = none ∨ unpackedValue? w = none) :
    unpackedValue? (mul binary64 u w) = .none := by
  cases u <;> cases w <;> first | rfl | simp [unpackedValue?] at none

end

section
variable {a b : Float} {x y : ℚ}

theorem canonicalUnpack (a : Float) : Canonical a.toModel.unpack :=
  (unpackFields a.toModel.toBits.toBitVec).1

theorem nearDouble {u : UnpackedFloat} {exact d : ℚ} (near : Near u exact d) :
    ∃ v, value? (.ofModel (.pack u)) = some v ∧ |v - exact| ≤ d := by
  obtain ⟨canonical, v, value, close⟩ := near
  exact ⟨v, (modelValue canonical).trans value, close⟩

theorem addNear (left : value? a = some x) (right : value? b = some y) (bound : |x + y| ≤ 2 ^ n)
    (least : -1022 ≤ n) (range : |x + y| < limit) :
    ∃ v, value? (a + b) = some v ∧ |v - (x + y)| ≤ 2 ^ (n - 52) := by
  rw [valueUnpacked] at left right
  exact nearDouble
    (unpackedAdd (canonicalUnpack a) (canonicalUnpack b) left right bound least range)

theorem subNear (left : value? a = some x) (right : value? b = some y) (bound : |x - y| ≤ 2 ^ n)
    (least : -1022 ≤ n) (range : |x - y| < limit) :
    ∃ v, value? (a - b) = some v ∧ |v - (x - y)| ≤ 2 ^ (n - 52) := by
  rw [valueUnpacked] at left right
  exact nearDouble
    (unpackedSub (canonicalUnpack a) (canonicalUnpack b) left right bound least range)

theorem mulNear (left : value? a = some x) (right : value? b = some y) (bound : |x * y| ≤ 2 ^ n)
    (least : -1022 ≤ n) (range : |x * y| < limit) :
    ∃ v, value? (a * b) = some v ∧ |v - x * y| ≤ 2 ^ (n - 52) := by
  rw [valueUnpacked] at left right
  exact nearDouble
    (unpackedMul (canonicalUnpack a) (canonicalUnpack b) left right bound least range)

theorem noneDouble {u : UnpackedFloat} (none : unpackedValue? u = none) :
    value? (.ofModel (.pack u)) = .none := by
  refine (modelValue ?_).trans none
  cases u with
  | zero | finite => contradiction
  | infinity | notANumber => trivial

theorem addNone (none : value? a = none ∨ value? b = none) : value? (a + b) = .none := by
  rw [valueUnpacked, valueUnpacked] at none
  exact noneDouble (unpackedAddNone none)

theorem mulNone (none : value? a = none ∨ value? b = none) : value? (a * b) = .none := by
  rw [valueUnpacked, valueUnpacked] at none
  exact noneDouble (unpackedMulNone none)

theorem valueLargest (known : value? a = some x) : |x| ≤ (2 ^ 53 - 1) * 2 ^ (971 : ℤ) := by
  rw [valueUnpacked] at known
  have canonical := canonicalUnpack a
  generalize a.toModel.unpack = u at known canonical
  cases u with
  | infinity | notANumber => contradiction
  | zero s =>
    cases known
    rw [abs_zero]
    exact mul_nonneg (by norm_num) (by positivity)
  | finite s m e positive =>
    cases known
    obtain ⟨small, most, -⟩ := canonical
    have mantissa : (m : ℚ) + 1 ≤ 2 ^ 53 := by exact_mod_cast small
    have power : (2 : ℚ) ^ e ≤ 2 ^ (971 : ℤ) := zpow_le_zpow_right₀ one_le_two most
    rw [signedAbs, abs_of_nonneg (by positivity)]
    exact mul_le_mul (by linarith) power (by positivity) (by norm_num)

theorem valueBound (known : value? a = some x) : |x| < 2 ^ (1024 : ℤ) := by
  have power : (2 : ℚ) ^ (1024 : ℤ) = 2 ^ (53 : ℤ) * 2 ^ (971 : ℤ) := zpow_add₀ two_ne_zero 53 971
  rw [power]
  exact (valueLargest known).trans_lt (mul_lt_mul_of_pos_right (by norm_num) (by positivity))

theorem largestRoom : (2 ^ 53 - 1) * 2 ^ (971 : ℤ) + 2 ≤ limit := by
  have power : (2 : ℚ) ^ (971 : ℤ) = 2 * 2 ^ (970 : ℤ) := zpow_one_add₀ two_ne_zero 970
  have half : (2 : ℚ) ^ (1 : ℤ) ≤ 2 ^ (970 : ℤ) := zpow_le_zpow_right₀ one_le_two (by omega)
  rw [zpow_one] at half
  rw [limit, power]
  generalize (2 : ℚ) ^ (970 : ℤ) = p at half
  linarith

theorem floorRange {n : Int} (floored : floor a = .ok n) : (n : ℚ) + 1 < limit := by
  cases known : value? a with
  | none =>
    obtain ⟨kind, failed⟩ := floorNone known
    rw [failed] at floored
    contradiction
  | some v =>
    obtain ⟨m, found, below⟩ := floorValue known
    obtain rfl : m = n := Except.ok.inj (found.symm.trans floored)
    have largest := (le_abs_self v).trans (valueLargest known)
    linarith [largestRoom]

theorem truncateRange {n : Int} (truncated : truncate a = .ok n) : |(n : ℚ)| < limit := by
  cases known : value? a with
  | none =>
    obtain ⟨kind, failed⟩ := truncateNone known
    rw [failed] at truncated
    contradiction
  | some v =>
    obtain ⟨m, found, near⟩ := truncateValue known
    obtain rfl : m = n := Except.ok.inj (found.symm.trans truncated)
    have size := abs_sub_abs_le_abs_sub (m : ℚ) v
    linarith [largestRoom, valueLargest known]

end

theorem fieldsValue (negative : Bool) {exponent : Nat} (fraction : Nat) (some : 0 < exponent)
    (finite : exponent < 0x7FF) :
    (Binary.ofFields negative exponent fraction).toOption.map Binary.value =
      .some (signed ((2 ^ 52 + fraction : ℕ) * 2 ^ ((exponent : ℤ) - 1075))
        (if negative then .negative else .positive)) := by
  rw [Binary.ofFields, if_neg (by omega), if_neg (by omega), signedField, Nat.pow_eq]
  rfl

theorem bitsValue {bits : Nat} (bound : bits < 2 ^ 64) :
    value? (Float.ofBits bits.toUInt64) =
      (Binary.ofFields (negativeField bits) (exponentField bits)
        (fractionField bits)).toOption.map Binary.value := by
  have word : bits.toUInt64.toBitVec.toNat = bits := Nat.mod_eq_of_lt bound
  obtain ⟨canonical, value⟩ := unpackFields bits.toUInt64.toBitVec
  rw [word] at value
  exact (modelValue canonical).trans value

theorem packFields {significand : Nat} {grid : Int} (full : 2 ^ 52 ≤ significand)
    (fits : Fits significand grid) (least : -1074 ≤ grid) :
    ∃ exponent fraction, packBits significand grid = exponent * 2 ^ 52 + fraction ∧
      0 < exponent ∧ exponent < 0x7FF ∧ fraction < 2 ^ 52 ∧
      ((2 ^ 52 + fraction : ℕ) : ℚ) * 2 ^ ((exponent : ℤ) - 1075) = significand * 2 ^ grid := by
  have unfilled : ¬significand < 0x10000000000000 := by omega
  rw [packBits, if_neg unfilled]
  obtain ⟨small, most⟩ | ⟨rfl, most⟩ := fits
  case inr =>
    refine ⟨(grid + 1076).toNat, 0, by omega, by omega, by omega, by omega, ?_⟩
    have power : ((grid + 1076).toNat : ℤ) - 1075 = grid + 1 := by omega
    rw [power, zpow_add_one₀ two_ne_zero]
    norm_num
    ring
  case inl =>
    refine ⟨(grid + 1075).toNat, significand - 2 ^ 52, by omega, by omega, by omega, by omega, ?_⟩
    have power : ((grid + 1075).toNat : ℤ) - 1075 = grid := by omega
    have whole : 2 ^ 52 + (significand - 2 ^ 52) = significand := by omega
    rw [power, whole]

theorem packValue (negative : Bool) {significand : Nat} {grid : Int} (full : 2 ^ 52 ≤ significand)
    (fits : Fits significand grid) (least : -1074 ≤ grid) :
    packBits significand grid < 0x7FF0000000000000 ∧
      value? (Float.ofBits ((if negative then 0x8000000000000000 else 0) +
        packBits significand grid).toUInt64) =
        some (signed (significand * 2 ^ grid) (if negative then .negative else .positive)) := by
  obtain ⟨exponent, fraction, packed, positive, finite, part, value⟩ :=
    packFields full fits least
  have joined : (if negative then 0x8000000000000000 else 0) + packBits significand grid =
      (negative.toNat * 2 ^ 11 + exponent) * 2 ^ 52 + fraction := by
    rw [packed]
    cases negative <;> simp
    omega
  have bit : negative.toNat < 2 := Bool.toNat_lt negative
  obtain ⟨sign, low, lower⟩ := joinedFields bit (by omega : exponent < 2 ^ 11) part
  have same : decide (negative.toNat = 1) = negative := by cases negative <;> rfl
  refine ⟨by omega, ?_⟩
  rw [joined, bitsValue (by omega), sign, low, lower, same, fieldsValue _ _ positive finite, value]

theorem quotientDropped (num k : Nat) : Dropped num k (roundQuotient num (2 ^ k)) := by
  constructor <;> simp only [roundQuotient, compare, compareOfLessAndEq] <;> grind

theorem leadingWhole {k : Nat} (positive : 0 < k) : leadingPower k 1 = k.log2 := by
  have below : ¬k < 2 ^ k.log2 := Nat.not_lt.mpr (Nat.log2_self_le positive.ne')
  have one : Nat.log2 1 = 0 := rfl
  simp [leadingPower, scale, one, below]

theorem naturalNear (negative : Bool) {k : Nat} (positive : 0 < k) (bound : (k : ℚ) ≤ 2 ^ n)
    (range : (k : ℚ) < limit) :
    ∃ y v, nearestQuotient? negative k 1 = some y ∧ value? y = some v ∧
      |v - signed k (if negative then .negative else .positive)| ≤ 2 ^ (n - 52) := by
  have size : k.log2 + 0 ≤ n := leadingBound positive (by simpa using bound)
  have grid : gridPower k 1 = k.log2 - 52 := by
    rw [gridPower, leadingWhole positive]
    omega
  have scaled : scale k 1 (-(k.log2 - 52)) = (k * 2 ^ (52 - k.log2), 2 ^ (k.log2 - 52)) := by
    have up : (-((k.log2 : ℤ) - 52)).toNat = 52 - k.log2 := by omega
    have down : (- -((k.log2 : ℤ) - 52)).toNat = k.log2 - 52 := by omega
    simp only [scale, up, down, Nat.pow_eq, one_mul]
  have dropped := quotientDropped (k * 2 ^ (52 - k.log2)) (k.log2 - 52)
  have shifted := Nat.mul_pos positive (Nat.two_pow_pos (52 - k.log2))
  have logged := shiftedLog positive (52 - k.log2)
  have power : -((52 - k.log2 : ℕ) : ℤ) + (k.log2 - 52 : ℕ) = k.log2 - 52 := by omega
  have whole : ((k * 2 ^ (52 - k.log2) : ℕ) : ℚ) * 2 ^ (-((52 - k.log2 : ℕ) : ℤ)) = k := by
    rw [zpow_neg, zpow_natCast]
    push_cast
    field_simp
  have most : k.log2 + 0 < (1024 : ℤ) := leadingRange positive (by simpa using range)
  have fits := droppedFits dropped shifted (by omega) (by omega) (whole.symm ▸ range)
  rw [power] at fits
  obtain ⟨packed, value⟩ := packValue negative (droppedFull dropped shifted (by omega)) fits
    (by omega : -1074 ≤ (k.log2 : ℤ) - 52)
  refine ⟨_, _, ?_, value, ?_⟩
  · simp only [nearestQuotient?, grid, scaled]
    exact if_pos packed
  · have near := droppedNear dropped (-((52 - k.log2 : ℕ) : ℤ))
    rw [power, whole] at near
    rw [signedNear]
    exact near.trans (zpow_le_zpow_right₀ one_le_two (by omega))

theorem wholeNear {k : Int} (bound : |(k : ℚ)| ≤ 2 ^ n) (range : |(k : ℚ)| < limit) :
    ∃ y v, (Quantity.whole k).toDouble? = some y ∧ value? y = some v ∧ |v - k| ≤ 2 ^ (n - 52) := by
  by_cases none : k = 0
  · subst none
    have zero : (Quantity.whole 0).toDouble? = some (Float.ofBits (0 : Nat).toUInt64) := rfl
    have value : value? (Float.ofBits (0 : Nat).toUInt64) = some 0 := by
      refine (bitsValue (Nat.two_pow_pos 64)).trans ?_
      simp [Binary.ofFields, exponentField, fractionField, Except.toOption, Binary.value]
    refine ⟨_, _, zero, value, ?_⟩
    rw [Int.cast_zero, sub_zero, abs_zero]
    positivity
  · have size : ((k.natAbs : ℕ) : ℚ) = |(k : ℚ)| := by
      rw [← Int.cast_natCast, Int.natCast_natAbs, Int.cast_abs]
    obtain ⟨y, v, found, value, near⟩ :=
      naturalNear (k < 0) (Int.natAbs_pos.mpr none) (size ▸ bound) (size ▸ range)
    refine ⟨y, v, found, value, ?_⟩
    have sign : signed k.natAbs (if decide (k < 0) = true then .negative else .positive) = k := by
      rw [size, signedField]
      by_cases negative : k < 0
      · rw [if_pos (decide_eq_true negative), abs_of_neg (by exact_mod_cast negative), neg_neg]
      · rw [if_neg (by simpa using negative), abs_of_nonneg (by exact_mod_cast not_lt.mp negative)]
    rwa [sign] at near

theorem wholeDouble {k : Int} (range : |(k : ℚ)| < limit) :
    ∃ y, (Quantity.whole k).toDouble? = some y := by
  obtain ⟨y, -, found, -⟩ := wholeNear (n := 1024) (range.trans limitPower).le range
  exact ⟨y, found⟩

end Chip8.Number
