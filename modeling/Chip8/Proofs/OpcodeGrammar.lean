import Chip8.Instruction.Shape
import Mathlib.Algebra.Group.Nat.Defs
import Mathlib.Data.List.Nodup
import Mathlib.Tactic.Common

/-! The opcode table against the written forms of the opcodes. A pattern asks for exactly those
digits that the form of its opcode writes out, and no two patterns ask for digits of one word. So
the order of the table does not matter, and a word is decoded by the form that it has. -/
namespace Chip8

def Instruction.decodeBy (table : List Pattern) (word : Int) (pc : Option Int) :
    Except Fault Instruction :=
  match table.find? (·.fits (wordOf word)) with
  | some p => .ok ⟨p.opcode, wordOf word⟩
  | none => .error (.unknownOpcode (wordOf word).toNat pc)

structure Fielded (i : Instruction) : Prop where
  digit : i.n < 16
  byte : i.nn.toNat = 16 * i.y.val + i.n
  address : i.nnn.toNat = 256 * i.x.val + i.nn.toNat
  family : i.word.toNat = 4096 * (i.word.toNat / 4096) + i.nnn.toNat

theorem wordOfValue (word : Int) : ((wordOf word).toNat : Int) = word % 65536 := by
  rw [wordOf, UInt16.toNat_ofNat']
  omega

section digits

def digitAt (word : UInt16) (k : Nat) : Nat := word.toNat / 16 ^ k % 16

def places : List Nat := [3, 2, 1, 0]

def signOf (digit : Nat) : Char := digit.digitChar.toUpper

theorem signDigit : ∀ asked < 16, ∀ digit < 16,
    signFits (signOf asked) (signOf digit) = true ↔ digit = asked := by decide

theorem hexDigitsNext {n : Nat} (more : 16 ≤ n) :
    Text.hexDigits n = Text.hexDigits (n / 16) ++ [signOf (n % 16)] := by
  rw [Text.hexDigits, Nat.toDigits_of_base_le (by decide) more, List.map_append]
  rfl

theorem hexDigitsLast {n : Nat} (last : n < 16) : Text.hexDigits n = [signOf n] := by
  rw [Text.hexDigits, Nat.toDigits_of_lt_base last]
  rfl

theorem hexCharsNat (width n : Nat) : Text.hexChars width n =
    List.replicate (width - (Text.hexDigits n).length) '0' ++ Text.hexDigits n := by
  have unsigned : ¬(n : Int) < 0 := by omega
  simp only [Text.hexChars, if_neg unsigned, Int.natAbs_natCast, List.nil_append, List.length_nil,
    Nat.zero_add]

theorem hexCharsNext (width n : Nat) :
    Text.hexChars (width + 2) n =
      Text.hexChars (width + 1) (n / 16 : Nat) ++ [signOf (n % 16)] := by
  rw [hexCharsNat, hexCharsNat]
  by_cases more : 16 ≤ n
  · have shorter (k : Nat) : width + 2 - (k + 1) = width + 1 - k := by omega
    rw [hexDigitsNext more, List.length_append, List.length_singleton, shorter,
      List.append_assoc]
  · have small : n < 16 := by omega
    have zero : n / 16 = 0 := by omega
    have blank : Text.hexDigits 0 = ['0'] := rfl
    rw [hexDigitsLast small, zero, blank, Nat.mod_eq_of_lt small, List.length_singleton,
      List.length_singleton]
    exact congrArg (· ++ [signOf n]) List.replicate_succ'

theorem wordDigitsPlaces (word : UInt16) :
    wordDigits word = places.map fun k => signOf (digitAt word k) := by
  have bound := word.toNat_lt
  have first : word.toNat / 16 / 16 / 16 = word.toNat / 4096 % 16 := by omega
  have second : word.toNat / 16 / 16 % 16 = word.toNat / 256 % 16 := by omega
  have single : Text.hexChars 1 (word.toNat / 16 / 16 / 16 : Nat) =
      [signOf (word.toNat / 16 / 16 / 16)] := by
    rw [hexCharsNat, hexDigitsLast (by omega)]
    rfl
  rw [wordDigits, hexCharsNext, hexCharsNext, hexCharsNext, single, first, second]
  simp [places, digitAt]

theorem digitsAlike {v w : UInt16} : v = w ↔ ∀ k ∈ places, digitAt v k = digitAt w k := by
  constructor
  · rintro rfl k _
    rfl
  · intro same
    have := v.toNat_lt
    have := w.toNat_lt
    simp only [places, digitAt, List.forall_mem_cons] at same
    apply UInt16.toNat_inj.mp
    omega

theorem digitSmall (word : UInt16) (k : Nat) : digitAt word k < 16 := Nat.mod_lt _ (by decide)

theorem digitKept {digit : Nat} (small : digit < 16) : digit &&& 15 = digit := by
  rw [Nat.and_two_pow_sub_one_eq_mod digit 4, Nat.mod_eq_of_lt small]

theorem digitAtAnd (v w : UInt16) (k : Nat) :
    digitAt (v &&& w) k = digitAt v k &&& digitAt w k := by
  have power : 16 ^ k = 2 ^ (4 * k) := (Nat.pow_mul 2 4 k).symm
  simp only [digitAt, UInt16.toNat_and, power, Nat.and_div_two_pow]
  exact Nat.and_mod_two_pow (n := 4)

end digits

namespace Pattern

/- A sign stands for any digit, which the pattern leaves out, or for the digit it asks for. -/
def Spelled (sign : Char) (mask value : Nat) : Prop :=
  sign ∈ ['X', 'Y', 'N'] ∧ mask = 0 ∧ value = 0 ∨ mask = 15 ∧ value < 16 ∧ sign = signOf value

instance (sign : Char) (mask value : Nat) : Decidable (Spelled sign mask value) :=
  inferInstanceAs (Decidable (_ ∨ _))

theorem allSpelled : ∀ p ∈ all, ∀ place ∈ p.opcode.shape.zip places,
    Spelled place.1 (digitAt p.mask place.2) (digitAt p.value place.2) := by decide

theorem allFour : ∀ p ∈ all, p.opcode.shape.length = 4 := by decide

theorem allFamilies : ∀ p ∈ all, digitAt p.mask 3 = 15 := by decide

theorem allMnemonics : (all.map (·.opcode.mnemonic)).Nodup := by decide +kernel

theorem allOpcodes (o : Opcode) : ∃ p ∈ all, p.opcode = o := by
  cases o <;> decide

def Apart (p q : Pattern) : Prop := p.value &&& q.mask ≠ q.value &&& p.mask

instance : DecidableRel Apart := fun _ _ => inferInstanceAs (Decidable (_ ≠ _))

theorem allApart : all.Pairwise Apart := by decide

theorem signSpelled {sign : Char} {digit mask value : Nat} (small : digit < 16)
    (spelled : Spelled sign mask value) :
    digit &&& mask = value ↔ signFits sign (signOf digit) = true := by
  obtain ⟨free, rfl, rfl⟩ | ⟨rfl, bound, rfl⟩ := spelled
  · have stands : sign = 'X' ∨ sign = 'Y' ∨ sign = 'N' := by simpa using free
    rcases stands with rfl | rfl | rfl <;> simp [signFits]
  · rw [digitKept small]
    exact (signDigit value bound digit small).symm

theorem fitsDigits (p : Pattern) (word : UInt16) : p.fits word = true ↔
    ∀ k ∈ places, digitAt word k &&& digitAt p.mask k = digitAt p.value k := by
  rw [fits, beq_iff_eq, digitsAlike]
  simp only [digitAtAnd]

theorem fitsFamily {p : Pattern} {word : UInt16} (known : p ∈ all) (fits : p.fits word = true) :
    digitAt word 3 = digitAt p.value 3 := by
  have first := (fitsDigits p word).mp fits 3 (by decide)
  rwa [allFamilies p known, digitKept (digitSmall word 3)] at first

theorem fitsCovers {p : Pattern} (known : p ∈ all) (word : UInt16) :
    p.fits word = true ↔ p.opcode.covers word = true := by
  have four : (p.opcode.shape.zip places).map Prod.snd = places :=
    List.map_snd_zip (Nat.le_of_eq (allFour p known).symm)
  calc p.fits word = true
    _ ↔ ∀ k ∈ (p.opcode.shape.zip places).map Prod.snd,
        digitAt word k &&& digitAt p.mask k = digitAt p.value k := by rw [four, fitsDigits]
    _ ↔ ∀ place ∈ p.opcode.shape.zip places,
        digitAt word place.2 &&& digitAt p.mask place.2 = digitAt p.value place.2 :=
      List.forall_mem_map
    _ ↔ ∀ place ∈ p.opcode.shape.zip places,
        signFits place.1 (signOf (digitAt word place.2)) = true :=
      forall₂_congr fun place found =>
        signSpelled (digitSmall word place.2) (allSpelled p known place found)
    _ ↔ p.opcode.covers word = true := by
      rw [Opcode.covers, wordDigitsPlaces, List.zip_map_right, List.all_map, List.all_eq_true]
      rfl

theorem apartFits {p q : Pattern} {word : UInt16} (first : p.fits word = true)
    (second : q.fits word = true) : ¬Apart p q := by
  have left : word &&& p.mask = p.value := beq_iff_eq.mp first
  have right : word &&& q.mask = q.value := beq_iff_eq.mp second
  rw [Apart, not_not, ← left, ← right, UInt16.and_assoc, UInt16.and_assoc,
    UInt16.and_comm p.mask]

theorem oneFits (word : UInt16) : (all.filter (·.fits word)).length ≤ 1 := by
  have apart := allApart.filter (·.fits word)
  have fitting : ∀ p ∈ all.filter (·.fits word), p.fits word = true :=
    fun p found => (List.mem_filter.mp found).2
  generalize all.filter (·.fits word) = found at apart fitting ⊢
  match found with
  | [] | [_] => simp
  | p :: q :: rest =>
    have clash := apartFits (fitting p (by simp)) (fitting q (by simp))
    exact absurd ((List.pairwise_cons.mp apart).1 q (by simp)) clash

theorem fitsAlone {p q : Pattern} {word : UInt16} (first : p ∈ all ∧ p.fits word = true)
    (second : q ∈ all ∧ q.fits word = true) : p = q := by
  have one := oneFits word
  have firstFound : p ∈ all.filter (·.fits word) := List.mem_filter.mpr first
  have secondFound : q ∈ all.filter (·.fits word) := List.mem_filter.mpr second
  generalize all.filter (·.fits word) = found at one firstFound secondFound
  match found with
  | [] => contradiction
  | [_] => rw [List.mem_singleton.mp firstFound, List.mem_singleton.mp secondFound]

theorem findFits {p : Pattern} {word : UInt16} :
    all.find? (·.fits word) = some p ↔ p ∈ all ∧ p.fits word = true := by
  have sound {q : Pattern} (found : all.find? (·.fits word) = some q) :
      q ∈ all ∧ q.fits word = true :=
    ⟨List.mem_of_find?_eq_some found, List.find?_some (p := fun s : Pattern => s.fits word) found⟩
  refine ⟨sound, fun suits => ?_⟩
  cases found : all.find? (·.fits word) with
  | none => exact absurd suits.2 (List.find?_eq_none.mp found p suits.1)
  | some q => rw [fitsAlone (sound found) suits]

theorem findReordered {table : List Pattern} (reordered : table.Perm all) (word : UInt16) :
    table.find? (·.fits word) = all.find? (·.fits word) := by
  have same := reordered.filter (·.fits word)
  have one := oneFits word
  rw [← List.head?_filter, ← List.head?_filter]
  generalize all.filter (·.fits word) = found at same one
  match found with
  | [] => rw [same.eq_nil]
  | [_] => rw [List.perm_singleton.mp same]

end Pattern

namespace Instruction
variable {word : Int} {pc : Option Int}

theorem decodeTable (word : Int) (pc : Option Int) :
    decode word pc = decodeBy Pattern.all word pc := by
  rw [decode, decode?, decodeBy]
  cases Pattern.all.find? (·.fits (wordOf word)) <;> rfl

theorem decodePattern {i : Instruction} : decode word pc = .ok i ↔
    ∃ p ∈ Pattern.all, p.fits (wordOf word) = true ∧ i = ⟨p.opcode, wordOf word⟩ := by
  rw [decodeTable, decodeBy]
  constructor
  · intro decoded
    split at decoded
    · rename_i p found
      cases decoded
      obtain ⟨known, fits⟩ := Pattern.findFits.mp found
      exact ⟨p, known, fits, rfl⟩
    · contradiction
  · rintro ⟨p, known, fits, rfl⟩
    rw [Pattern.findFits.mpr ⟨known, fits⟩]

theorem decodeCovers {i : Instruction} : decode word pc = .ok i ↔
    i.word = wordOf word ∧ i.opcode.covers (wordOf word) = true := by
  rw [decodePattern]
  constructor
  · rintro ⟨p, known, fits, rfl⟩
    exact ⟨rfl, (Pattern.fitsCovers known _).mp fits⟩
  · intro ⟨raw, covered⟩
    obtain ⟨p, known, opcode⟩ := Pattern.allOpcodes i.opcode
    rw [← opcode] at covered
    refine ⟨p, known, (Pattern.fitsCovers known _).mpr covered, ?_⟩
    rw [opcode, ← raw]

theorem decodeRefused (unwritten : ∀ o : Opcode, o.covers (wordOf word) = false) :
    decode word pc = .error (.unknownOpcode (wordOf word).toNat pc) := by
  cases outcome : decode word pc with
  | ok i =>
    have covered := (decodeCovers.mp outcome).2
    rw [unwritten] at covered
    contradiction
  | error f =>
    rw [decode] at outcome
    split at outcome
    · contradiction
    · exact outcome.symm

theorem decodeFamily {i j : Instruction} {other : Int} {place : Option Int}
    (first : decode word pc = .ok i) (second : decode other place = .ok j)
    (named : i.opcode.mnemonic = j.opcode.mnemonic) :
    digitAt i.word 3 = digitAt j.word 3 := by
  obtain ⟨p, known, fits, rfl⟩ := decodePattern.mp first
  obtain ⟨q, alike, suits, rfl⟩ := decodePattern.mp second
  obtain rfl := List.inj_on_of_nodup_map Pattern.allMnemonics known alike named
  exact (Pattern.fitsFamily known fits).trans (Pattern.fitsFamily known suits).symm

theorem nnnValue (i : Instruction) : i.nnn.toNat = i.word.toNat % 4096 := by
  rw [nnn, UInt16.toNat_and]
  exact Nat.and_two_pow_sub_one_eq_mod _ 12

theorem fielded (i : Instruction) : Fielded i := by
  have low : i.n = i.word.toNat % 16 := rfl
  have second : i.x.val = i.word.toNat / 256 % 16 := rfl
  have third : i.y.val = i.word.toNat / 16 % 16 := rfl
  have byte : i.nn.toNat = i.word.toNat % 256 := UInt16.toNat_toUInt8 _
  have address := i.nnnValue
  constructor <;> omega

end Instruction

structure Grammatical (word : Int) (pc : Option Int) : Prop where
  low : ((wordOf word).toNat : Int) = word % 65536
  one : (Pattern.all.filter (·.fits (wordOf word))).length ≤ 1
  reordered : ∀ table : List Pattern, table.Perm Pattern.all →
    Instruction.decodeBy table word pc = Instruction.decode word pc
  accepted : ∀ i, Instruction.decode word pc = .ok i ↔
    i.word = wordOf word ∧ i.opcode.covers (wordOf word) = true
  refused : (∀ o : Opcode, o.covers (wordOf word) = false) →
    Instruction.decode word pc = .error (.unknownOpcode (wordOf word).toNat pc)
  fielded : ∀ i, Instruction.decode word pc = .ok i → Fielded i
  determined : ∀ (other : Int) (place : Option Int) (i j : Instruction),
    Instruction.decode word pc = .ok i → Instruction.decode other place = .ok j →
    i.opcode.mnemonic = j.opcode.mnemonic → i.nnn = j.nnn → wordOf word = wordOf other

theorem opcodeGrammar (word : Int) (pc : Option Int) : Grammatical word pc where
  low := wordOfValue word
  one := Pattern.oneFits _
  reordered table reordered := by
    rw [Instruction.decodeTable, Instruction.decodeBy, Instruction.decodeBy,
      Pattern.findReordered reordered]
  accepted i := Instruction.decodeCovers
  refused := Instruction.decodeRefused
  fielded i _ := i.fielded
  determined other place i j first second named address := by
    have family := Instruction.decodeFamily first second named
    have left := i.nnnValue
    have right := j.nnnValue
    have := i.word.toNat_lt
    have := j.word.toNat_lt
    rw [digitAt, digitAt] at family
    rw [address] at left
    rw [← (Instruction.decodeCovers.mp first).1, ← (Instruction.decodeCovers.mp second).1]
    apply UInt16.toNat_inj.mp
    omega

end Chip8
