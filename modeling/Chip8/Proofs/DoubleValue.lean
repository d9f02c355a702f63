import Chip8.Number.Quantity
import Mathlib

/-! The exact value of a double, by its bits and by its sign, mantissa and exponent. -/
namespace Chip8.Number
open Float.Model (UnpackedFloat)
open Float.Model.Format (binary64)
open Float.Model.UnpackedFloat

def Binary.value (b : Binary) : ℚ :=
  if b.negative then -(b.significand * 2 ^ b.exponent) else b.significand * 2 ^ b.exponent

def value? (x : Float) : Option ℚ := (Binary.ofBits x.toBits).toOption.map Binary.value

theorem knownValue {x : Float} {b : Binary} (bits : Binary.ofBits x.toBits = .ok b) :
    value? x = some b.value := by
  rw [value?, bits]
  rfl

theorem splitNear (b : Binary) :
    (b.split.1 : ℚ) ≤ b.significand * 2 ^ b.exponent ∧
      b.significand * 2 ^ b.exponent < (b.split.1 : ℚ) + 1 := by
  unfold Binary.split
  cases b.exponent with
  | ofNat e =>
    have whole : ((2 : ℚ) ^ (Int.ofNat e)) = (2 ^ e : ℕ) := by simp
    simp only [Nat.pow_eq, whole]
    push_cast
    exact ⟨le_refl _, lt_add_one _⟩
  | negSucc e =>
    have positive : (0 : ℚ) < 2 ^ (e + 1) := by positivity
    have part : ((2 : ℚ) ^ (Int.negSucc e)) = (2 ^ (e + 1))⁻¹ := by simp [zpow_negSucc]
    have divided := Nat.div_add_mod b.significand (2 ^ (e + 1))
    have rest := Nat.mod_lt b.significand (Nat.two_pow_pos (e + 1))
    have exact : (b.significand : ℚ) = 2 ^ (e + 1) * (b.significand / 2 ^ (e + 1) : ℕ) +
        (b.significand % 2 ^ (e + 1) : ℕ) := by
      exact_mod_cast divided.symm
    have less : ((b.significand % 2 ^ (e + 1) : ℕ) : ℚ) < 2 ^ (e + 1) := by exact_mod_cast rest
    simp only [Nat.pow_eq, part, ← div_eq_mul_inv]
    constructor
    · rw [le_div_iff₀ positive]
      have least : (0 : ℚ) ≤ (b.significand % 2 ^ (e + 1) : ℕ) := Nat.cast_nonneg _
      linarith
    · rw [div_lt_iff₀ positive]
      linarith

theorem truncateNear (b : Binary) : |(b.truncate : ℚ) - b.value| < 1 := by
  obtain ⟨below, above⟩ := splitNear b
  rw [abs_lt, Binary.truncate, Binary.value]
  split
  · push_cast
    constructor <;> linarith
  · push_cast
    constructor <;> linarith

theorem valuedBits {x : Float} {v : ℚ} (known : value? x = some v) :
    ∃ b, Binary.ofBits x.toBits = .ok b ∧ b.value = v := by
  unfold value? at known
  cases bits : Binary.ofBits x.toBits with
  | error kind => simp [bits, Except.toOption] at known
  | ok b => exact ⟨b, rfl, by simpa [bits, Except.toOption] using known⟩

theorem wholeFails (whole : Binary → Int) (x : Float) :
    (∃ kind, (Binary.ofBits x.toBits).map whole = .error kind) ↔ value? x = none := by
  unfold value?
  cases Binary.ofBits x.toBits with
  | error kind => exact iff_of_true ⟨kind, rfl⟩ rfl
  | ok b => simp [Except.toOption, Except.map]

theorem truncateValue {x : Float} {v : ℚ} (known : value? x = some v) :
    ∃ n, truncate x = .ok n ∧ |(n : ℚ) - v| < 1 := by
  obtain ⟨b, bits, rfl⟩ := valuedBits known
  refine ⟨b.truncate, ?_, truncateNear b⟩
  rw [truncate, bits]
  rfl

theorem truncateNone {x : Float} (none : value? x = none) : ∃ kind, truncate x = .error kind :=
  (wholeFails Binary.truncate x).mpr none

theorem floorBelow (b : Binary) : (b.floor : ℚ) < b.value + 1 := by
  have near := (abs_lt.mp (truncateNear b)).2
  unfold Binary.floor
  split
  · push_cast
    linarith
  · linarith

theorem floorValue {x : Float} {v : ℚ} (known : value? x = some v) :
    ∃ n, floor x = .ok n ∧ (n : ℚ) < v + 1 := by
  obtain ⟨b, bits, rfl⟩ := valuedBits known
  refine ⟨b.floor, ?_, floorBelow b⟩
  rw [floor, bits]
  rfl

theorem floorNone {x : Float} (none : value? x = none) : ∃ kind, floor x = .error kind :=
  (wholeFails Binary.floor x).mpr none

def negativeField (bits : Nat) : Bool := decide (bits / 2 ^ 63 = 1)

def exponentField (bits : Nat) : Nat := bits / 2 ^ 52 % 2 ^ 11

def fractionField (bits : Nat) : Nat := bits % 2 ^ 52

theorem bitsFields (bits : UInt64) :
    Binary.ofBits bits = Binary.ofFields (negativeField bits.toNat) (exponentField bits.toNat)
      (fractionField bits.toNat) := by
  have negative : (bits >>> 63 == 1) = negativeField bits.toNat := by
    rw [Bool.eq_iff_iff, beq_iff_eq, negativeField, decide_eq_true_iff, ← UInt64.toNat_inj,
      UInt64.toNat_shiftRight]
    change bits.toNat >>> 63 = 1 ↔ _
    rw [Nat.shiftRight_eq_div_pow]
  have exponent : ((bits >>> 52) &&& 0x7FF).toNat = exponentField bits.toNat := by
    rw [UInt64.toNat_and, UInt64.toNat_shiftRight]
    change (bits.toNat >>> 52) &&& (2 ^ 11 - 1) = _
    rw [Nat.and_two_pow_sub_one_eq_mod, Nat.shiftRight_eq_div_pow, exponentField]
  have fraction : (bits &&& 0xFFFFFFFFFFFFF).toNat = fractionField bits.toNat := by
    rw [UInt64.toNat_and]
    change bits.toNat &&& (2 ^ 52 - 1) = _
    rw [Nat.and_two_pow_sub_one_eq_mod, fractionField]
  rw [Binary.ofBits, negative, exponent, fraction]

section
variable (b : BitVec 64)

theorem unpackedExponent : (@unpackExponent binary64 b).toNat = exponentField b.toNat := by
  rw [unpackExponent_def, BitVec.extractLsb'_toNat, Nat.shiftRight_eq_div_pow]
  rfl

theorem unpackedFraction : (@unpackMantissa binary64 b).toNat = fractionField b.toNat := by
  rw [unpackMantissa_def, BitVec.extractLsb'_toNat]
  rfl

theorem unpackedSign : (Sign.ofBitVec (@unpackSign binary64 b)) =
    if negativeField b.toNat then .negative else .positive := by
  have sign : (@unpackSign binary64 b).toNat = b.toNat / 2 ^ 63 := by
    have below := b.isLt
    rw [unpackSign_def, BitVec.extractLsb'_toNat, Nat.shiftRight_eq_div_pow]
    change b.toNat / 2 ^ 63 % 2 = _
    omega
  have below := b.isLt
  have positive : @unpackSign binary64 b = 0#1 ↔ ¬b.toNat / 2 ^ 63 = 1 := by
    rw [← BitVec.toNat_inj, sign]
    change b.toNat / 2 ^ 63 = 0 ↔ _
    omega
  rw [Sign.ofBitVec, negativeField]
  simp only [positive, decide_eq_true_iff]
  split <;> simp_all

end

def signed (q : ℚ) : Sign → ℚ
  | .negative => -q
  | .positive => q

def unpackedValue? : UnpackedFloat → Option ℚ
  | .zero _ => some 0
  | .finite sign mantissa exponent _ => some (signed (mantissa * 2 ^ exponent) sign)
  | .infinity _ | .notANumber => none

/- What a double can be: a mantissa of 53 bits, or of fewer at the least exponent. -/
def Canonical : UnpackedFloat → Prop
  | .finite _ mantissa exponent _ => mantissa < 2 ^ 53 ∧ exponent ≤ 971 ∧
    (2 ^ 52 ≤ mantissa ∧ -1074 ≤ exponent ∨ mantissa < 2 ^ 52 ∧ exponent = -1074)
  | _ => True

theorem signedField (q : ℚ) (negative : Bool) :
    signed q (if negative then .negative else .positive) = if negative then -q else q := by
  cases negative <;> rfl

theorem unpackFields (b : BitVec 64) :
    Canonical (unpack binary64 b) ∧ unpackedValue? (unpack binary64 b) =
      (Binary.ofFields (negativeField b.toNat) (exponentField b.toNat)
        (fractionField b.toNat)).toOption.map Binary.value := by
  have exponent := unpackedExponent b
  have fraction := unpackedFraction b
  have small : exponentField b.toNat < 2 ^ 11 := Nat.mod_lt _ (by decide)
  have part : fractionField b.toNat < 2 ^ 52 := Nat.mod_lt _ (by decide)
  have full : @unpackExponent binary64 b = -1#_ ↔ exponentField b.toNat = 0x7FF := by
    rw [← BitVec.toNat_inj, exponent]
    rfl
  have least : @unpackExponent binary64 b = 0#_ ↔ exponentField b.toNat = 0 := by
    rw [← BitVec.toNat_inj, exponent]
    rfl
  have none : @unpackMantissa binary64 b = 0#_ ↔ fractionField b.toNat = 0 := by
    rw [← BitVec.toNat_inj, fraction]
    rfl
  have whole : (1#1 ++ @unpackMantissa binary64 b).toNat = 2 ^ 52 + fractionField b.toNat := by
    rw [BitVec.toNat_append, fraction]
    change 1 <<< 52 ||| _ = _
    rw [← Nat.shiftLeft_add_eq_or_of_lt part]
    rfl
  have bias : ((binary64.exponentBias + binary64.mantissaBitsWithoutImplicit : ℤ)) = 1075 := rfl
  unfold unpack Binary.ofFields
  simp only [full, least, none, exponent, unpackedSign, bias]
  split
  · split <;> exact ⟨trivial, rfl⟩
  · split
    · split
      · rename_i zero
        refine ⟨trivial, ?_⟩
        simp [unpackedValue?, Except.toOption, Binary.value, zero]
      · rename_i subnormal _
        constructor
        · refine ⟨?_, ?_, .inr ⟨?_, ?_⟩⟩ <;> omega
        · simp only [unpackedValue?, Except.toOption, Binary.value, Option.map_some, fraction,
            signedField, subnormal]
          rfl
    · constructor
      · refine ⟨?_, ?_, .inl ⟨?_, ?_⟩⟩ <;> omega
      · simp only [unpackedValue?, Except.toOption, Binary.value, Option.map_some, whole,
          signedField]
        rfl

theorem valueUnpacked (x : Float) : value? x = unpackedValue? x.toModel.unpack := by
  rw [value?, bitsFields]
  exact (unpackFields x.toModel.toBits.toBitVec).2.symm

theorem valueFinite (x : Float) : (value? x).isSome = x.isFinite := by
  have unpacked : x.isFinite = x.toModel.unpack.isFinite := rfl
  rw [valueUnpacked, unpacked]
  cases x.toModel.unpack <;> rfl

def Endless (x : Float) : Prop := x.isNaN = true ∨ x.isInf = true

theorem valueEndless (x : Float) : value? x = none ↔ Endless x := by
  have nan : x.isNaN = x.toModel.unpack.isNaN := rfl
  have infinite : x.isInf = x.toModel.unpack.isInf := rfl
  rw [valueUnpacked, Endless, nan, infinite]
  cases x.toModel.unpack <;> simp [unpackedValue?, UnpackedFloat.isNaN, UnpackedFloat.isInf]

theorem truncateFails (x : Float) : (∃ kind, truncate x = .error kind) ↔ Endless x :=
  (wholeFails Binary.truncate x).trans (valueEndless x)

theorem floorFails (x : Float) : (∃ kind, floor x = .error kind) ↔ Endless x :=
  (wholeFails Binary.floor x).trans (valueEndless x)

theorem componentBits (sign : Sign) (exponent : BitVec 11) (mantissa : BitVec 52) :
    (packComponents binary64 sign exponent mantissa).toNat =
      (sign.toBitVec.toNat * 2 ^ 11 + exponent.toNat) * 2 ^ 52 + mantissa.toNat := by
  rw [packComponents, BitVec.toNat_append, BitVec.toNat_append,
    ← Nat.shiftLeft_add_eq_or_of_lt exponent.isLt, ← Nat.shiftLeft_add_eq_or_of_lt mantissa.isLt,
    Nat.shiftLeft_eq, Nat.shiftLeft_eq]

theorem joinedFields {sign exponent fraction : Nat} (bit : sign < 2) (low : exponent < 2 ^ 11)
    (lower : fraction < 2 ^ 52) :
    negativeField ((sign * 2 ^ 11 + exponent) * 2 ^ 52 + fraction) = decide (sign = 1) ∧
      exponentField ((sign * 2 ^ 11 + exponent) * 2 ^ 52 + fraction) = exponent ∧
      fractionField ((sign * 2 ^ 11 + exponent) * 2 ^ 52 + fraction) = fraction := by
  refine ⟨decide_eq_decide.mpr ?_, ?_, ?_⟩
  · omega
  · unfold exponentField
    omega
  · unfold fractionField
    omega

theorem componentsValue (sign : Sign) (exponent : BitVec 11) (mantissa : BitVec 52) :
    unpackedValue? (unpack binary64 (packComponents binary64 sign exponent mantissa)) =
      (Binary.ofFields (match sign with | .negative => true | .positive => false) exponent.toNat
        mantissa.toNat).toOption.map Binary.value := by
  have bit : sign.toBitVec.toNat < 2 := sign.toBitVec.isLt
  obtain ⟨negative, low, lower⟩ := joinedFields bit exponent.isLt mantissa.isLt
  rw [(unpackFields _).2, componentBits, negative, low, lower]
  cases sign <;> rfl

theorem packedValue {u : UnpackedFloat} (canonical : Canonical u) :
    unpackedValue? (unpack binary64 (pack binary64 u)) = unpackedValue? u := by
  cases u with
  | notANumber => exact componentsValue _ _ _
  | infinity sign => exact componentsValue _ _ _
  | zero sign =>
    refine (componentsValue _ _ _).trans ?_
    cases sign <;> simp [Binary.ofFields, Except.toOption, Binary.value, unpackedValue?]
  | finite sign mantissa exponent positive =>
    obtain ⟨small, most, size⟩ := canonical
    have bits : (exponent + binary64.exponentBias + binary64.mantissaBitsWithoutImplicit).toNat =
        (exponent + 1075).toNat := by
      congr 1
      change exponent + 1023 + 52 = _
      omega
    have fits : ¬2 ^ binary64.exponentBits ≤ (exponent + 1075).toNat + 1 := by
      change ¬2 ^ 11 ≤ _
      omega
    have full : mantissa.log2 + 1 = binary64.mantissaBits ↔ 2 ^ 52 ≤ mantissa := by
      rw [← Nat.le_log2 positive.ne']
      have less := (Nat.log2_lt positive.ne').mpr small
      change mantissa.log2 + 1 = 53 ↔ _
      omega
    simp only [pack, bits, fits, if_false, full]
    split
    · rename_i normal
      have field : (BitVec.ofNat 11 (exponent + 1075).toNat).toNat = (exponent + 1075).toNat := by
        rw [BitVec.toNat_ofNat]
        exact Nat.mod_eq_of_lt (by omega)
      have fraction : (BitVec.ofNat 52 mantissa).toNat = mantissa - 2 ^ 52 := by
        rw [BitVec.toNat_ofNat]
        omega
      have significand : Nat.pow 2 52 + (mantissa - 2 ^ 52) = mantissa := by
        rw [Nat.pow_eq]
        omega
      have power : ((exponent + 1075).toNat : Int) - 1075 = exponent := by omega
      refine (componentsValue _ _ _).trans ?_
      rw [field, fraction, Binary.ofFields, if_neg (by omega), if_neg (by omega), significand,
        power]
      cases sign <;> simp [Except.toOption, Binary.value, unpackedValue?, signed]
    · rename_i subnormal
      obtain ⟨-, rfl⟩ : mantissa < 2 ^ 52 ∧ exponent = -1074 := by omega
      have fraction : (BitVec.ofNat 52 mantissa).toNat = mantissa := by
        rw [BitVec.toNat_ofNat]
        exact Nat.mod_eq_of_lt (by omega)
      refine (componentsValue _ _ _).trans ?_
      rw [fraction]
      cases sign <;> simp [Binary.ofFields, Except.toOption, Binary.value, unpackedValue?, signed]

theorem modelValue {u : UnpackedFloat} (canonical : Canonical u) :
    value? (Float.ofModel (Float.Model.pack u)) = unpackedValue? u := by
  rw [valueUnpacked]
  exact packedValue canonical

end Chip8.Number
