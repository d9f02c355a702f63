import Chip8.Random
import Mathlib.Data.Nat.Find
import Mathlib.Logic.Function.Iterate

/-! Random bytes are found. The words of a generator follow a linear recurrence without end, and so
do their top bits after tempering. A row of set bits that is longer than the recurrence would be a
solution of it, and it is none; so a word whose nine top bits are within a byte comes in time. -/
namespace Chip8.Generator

def nth : Nat → Generator → UInt32
  | 0, g => g.draw.1
  | n + 1, g => nth n g.draw.2

def after : Nat → Generator → Generator
  | 0, g => g
  | n + 1, g => after n g.draw.2

theorem byteWithinFirst {g : Generator} {n tries : Nat} (enough : n < tries)
    (large : ∀ k < n, ¬nth k g >>> 23 < 256) (fits : nth n g >>> 23 < 256) :
    byteWithin tries g = ((nth n g >>> 23).toUInt8, after (n + 1) g) := by
  obtain ⟨tries, rfl⟩ : ∃ t, tries = t + 1 := ⟨tries - 1, by omega⟩
  induction n generalizing g tries with
  | zero => exact if_pos fits
  | succ n ih =>
    obtain ⟨tries, rfl⟩ : ∃ t, tries = t + 1 := ⟨tries - 1, by omega⟩
    have rest := ih (fun k before => large (k + 1) (by omega)) fits tries (by omega)
    exact (if_neg (large 0 (by omega))).trans rest

section
variable (words : Vector UInt32 624)

def stream (k : Nat) : UInt32 := word (twist^[k / 624] words) (k % 624)

theorem streamTwist (k : Nat) : stream (twist words) k = stream words (k + 624) := by
  rw [stream, stream, Nat.add_mod_right, Nat.add_div_right k (by decide),
    Function.iterate_succ_apply]

theorem streamStart {k : Nat} (inside : k < 624) : stream words k = word words k := by
  rw [stream, Nat.div_eq_of_lt inside, Nat.mod_eq_of_lt inside, Function.iterate_zero_apply]

def twistTo (n : Nat) : Vector UInt32 624 :=
  (List.range n).foldl (fun words i => setWord words i (twistWord words i)) words

theorem twistToNext (n : Nat) :
    twistTo words (n + 1) = setWord (twistTo words n) n (twistWord (twistTo words n) n) := by
  rw [twistTo, List.range_succ, List.foldl_append]
  rfl

variable {words}

theorem wordSet {i j : Nat} (w : UInt32) :
    word (setWord words i w) j = if i % 624 = j % 624 then w else word words j :=
  Vector.getElem_set _ _

theorem twistToKeeps {j n : Nat} (done : j < n) (most : n ≤ 624) :
    word (twistTo words n) j = word (twistTo words (j + 1)) j := by
  induction n with
  | zero => omega
  | succ n ih =>
    by_cases last : j = n
    · rw [last]
    · rw [twistToNext, wordSet, if_neg (by omega), ih (by omega) (by omega)]

theorem twistToStream {n k : Nat} (most : n ≤ 624) (first : n ≤ k) (last : k < n + 624) :
    word (twistTo words n) k = stream words k := by
  induction n with
  | zero => exact (streamStart words (by omega)).symm
  | succ n ih =>
    by_cases new : k = n + 624
    · have same (v : Vector UInt32 624) : word v (n + 624) = word v n := by
        simp only [word, Nat.add_mod_right]
      rw [new, ← streamTwist, streamStart _ (show n < 624 by omega), same]
      exact (twistToKeeps (show n < 624 by omega) (le_refl 624)).symm
    · rw [twistToNext, wordSet, if_neg (by omega), ih (by omega) (by omega) (by omega)]

theorem streamNext (k : Nat) : stream words (k + 624) =
    stream words (k + 397) ^^^ feed (stream words k) (stream words (k + 1)) := by
  induction k using Nat.strong_induction_on generalizing words with
  | h k ih =>
    by_cases inside : k < 624
    · have made : word (twistTo words (k + 1)) k = twistWord (twistTo words k) k := by
        rw [twistToNext, wordSet, if_pos rfl]
      have old := @twistToKeeps words k 624 inside le_rfl
      rw [← streamTwist, streamStart _ inside]
      change word (twistTo words 624) k = _
      rw [old, made, twistWord, twistToStream (by omega) (by omega) (by omega),
        twistToStream (by omega) (by omega) (by omega),
        twistToStream (by omega) (by omega) (by omega)]
    · obtain ⟨m, rfl⟩ : ∃ m, k = m + 624 := ⟨k - 624, by omega⟩
      have later := @ih m (by omega) (twist words)
      simp only [streamTwist] at later
      exact later

end

theorem nthStream (g : Generator) (n : Nat) :
    nth n g = temper (stream g.words (min g.next 624 + n)) := by
  induction n generalizing g with
  | zero =>
    by_cases inside : g.next < 624
    · have here : min g.next 624 + 0 = g.next := by omega
      rw [nth, draw, if_pos inside, here, streamStart _ inside]
    · have here : min g.next 624 + 0 = 0 + 624 := by omega
      rw [nth, draw, if_neg inside, here, ← streamTwist, streamStart _ (by decide)]
  | succ n ih =>
    rw [nth, ih]
    by_cases inside : g.next < 624
    · have here : min (g.next + 1) 624 + n = min g.next 624 + (n + 1) := by omega
      rw [draw, if_pos inside, here]
    · have here : min g.next 624 + (n + 1) = min 1 624 + n + 624 := by omega
      rw [draw, if_neg inside, here, ← streamTwist]

def bit (w : UInt32) (j : Nat) : Bool := w.toBitVec.getLsbD j

theorem bitXor (v w : UInt32) (j : Nat) : bit (v ^^^ w) j = (bit v j ^^ bit w j) :=
  BitVec.getLsbD_xor

theorem bitHalved (w : UInt32) (j : Nat) : bit (w >>> 1) j = bit w (j + 1) := by
  simp [bit, Nat.add_comm]

theorem bitJoined (a b : UInt32) (j : Nat) :
    bit ((a &&& 0x80000000) ||| (b &&& 0x7FFFFFFF)) j =
      if j < 31 then bit b j else decide (j = 31) && bit a 31 := by
  have upper : (0x80000000 : UInt32).toBitVec.getLsbD j = decide (j = 31) := by
    change (BitVec.twoPow 32 31).getLsbD j = _
    simp only [BitVec.getLsbD_twoPow]
    grind
  have lower : (0x7FFFFFFF : UInt32).toBitVec.getLsbD j = decide (j < 31) :=
    Nat.testBit_two_pow_sub_one 31 j
  simp only [bit, UInt32.toBitVec_or, UInt32.toBitVec_and, BitVec.getLsbD_or, BitVec.getLsbD_and,
    upper, lower]
  by_cases first : j < 31
  · have other : j ≠ 31 := by omega
    simp [first, other]
  · by_cases top : j = 31
    · rw [top]
      simp
    · simp [first, top]

theorem bitLast (w : UInt32) : w &&& 1 = 1 ↔ bit w 0 = true := by
  have last : bit w 0 = decide (w.toNat % 2 = 1) := Nat.testBit_zero w.toNat
  rw [last, decide_eq_true_eq, ← UInt32.toNat_inj, UInt32.toNat_and, ← Nat.and_one_is_mod]
  rfl

def tap (j : Nat) : Bool := (0x9908B0DF#32).getLsbD j

theorem bitFeed (a b : UInt32) (j : Nat) : bit (feed a b) j =
    ((if j < 30 then bit b (j + 1) else decide (j = 30) && bit a 31) ^^ (bit b 0 && tap j)) := by
  have shifted : bit (((a &&& 0x80000000) ||| (b &&& 0x7FFFFFFF)) >>> 1) j =
      if j < 30 then bit b (j + 1) else decide (j = 30) && bit a 31 := by
    rw [bitHalved, bitJoined]
    grind
  have last : bit ((a &&& 0x80000000) ||| (b &&& 0x7FFFFFFF)) 0 = bit b 0 := by
    rw [bitJoined, if_pos (by decide)]
  rw [← shifted, ← last, feed]
  by_cases odd : ((a &&& 0x80000000) ||| (b &&& 0x7FFFFFFF)) &&& 1 = 1
  · simp only [if_pos odd, bitXor, (bitLast _).mp odd, Bool.true_and]
    rfl
  · have even := Bool.eq_false_iff.mpr (mt (bitLast _).mpr odd)
    simp only [if_neg odd, even, Bool.false_and, Bool.xor_false]

theorem bitTemper (w : UInt32) :
    bit (temper w) 31 = (bit w 31 ^^ (bit w 24 ^^ (bit w 16 ^^ bit w 27))) := by
  have first : (0x9D2C5680 : UInt32).toBitVec = 0x9D2C5680#32 := rfl
  have second : (0xEFC60000 : UInt32).toBitVec = 0xEFC60000#32 := rfl
  simp [bit, temper, -UInt32.toBitVec_ofNat, first, second]

theorem fitsTop (w : UInt32) : w >>> 23 < 256 ↔ bit w 31 = false := by
  have small := w.toNat_lt
  have top : bit w 31 = w.toNat.testBit 31 := rfl
  rw [top, Nat.testBit_eq_decide_div_mod_eq, UInt32.lt_iff_toNat_lt, UInt32.toNat_shiftRight,
    Nat.shiftRight_eq_div_pow, decide_eq_false_iff_not]
  change w.toNat / 2 ^ 23 < 256 ↔ _
  omega

section
variable {f h : Nat → Bool}

def drift (f : Nat → Bool) (k : Nat) : Bool := f (k + 623) ^^ f (k + 396)

/- The bits that are `j` places above those of a sequence, as the taps make them. -/
def carry (f : Nat → Bool) : Nat → Nat → Bool
  | 0 => f
  | j + 1 => fun k => drift (carry f j) k ^^ (tap j && f k)

theorem driftAdd : drift (fun k => f k ^^ h k) = fun k => drift f k ^^ drift h k := by
  funext k
  simp only [drift, Bool.xor_assoc, Bool.xor_left_comm]

theorem driftAnd (c : Bool) : drift (fun k => c && f k) = fun k => c && drift f k := by
  funext k
  simp only [drift, Bool.and_xor_distrib_left]

theorem carryDrift (j : Nat) : carry (drift f) j = drift (carry f j) := by
  induction j with
  | zero => rfl
  | succ j ih => simp only [carry, ih, driftAdd, driftAnd]

theorem carryAdd (j : Nat) :
    carry (fun k => f k ^^ h k) j = fun k => carry f j k ^^ carry h j k := by
  induction j with
  | zero => rfl
  | succ j ih =>
    simp only [carry, ih, driftAdd, Bool.and_xor_distrib_left, Bool.xor_assoc, Bool.xor_left_comm]

theorem carryAnd (c : Bool) (j : Nat) :
    carry (fun k => c && f k) j = fun k => c && carry f j k := by
  induction j with
  | zero => rfl
  | succ j ih =>
    simp only [carry, ih, driftAnd, Bool.and_xor_distrib_left, Bool.and_left_comm]

theorem carryNext (j : Nat) : carry (fun k => f (k + 1)) j = fun k => carry f j (k + 1) := by
  induction j with
  | zero => rfl
  | succ j ih =>
    simp only [carry, ih, drift]

theorem carryNone {n : Nat} (j : Nat) (none : ∀ k ≤ n + 623 * j, f k = false) :
    ∀ k ≤ n, carry f j k = false := by
  induction j generalizing n with
  | zero => exact none
  | succ j ih =>
    intro k inside
    have before := ih (n := n + 623) (fun k inside => none k (by omega))
    simp only [carry, drift, before (k + 623) (by omega), before (k + 396) (by omega),
      none k (by omega), Bool.and_false, Bool.xor_false]

def Recurs (f : Nat → Bool) : Prop := ∀ k, f k = carry (drift f) 31 (k + 1)

theorem recursAdd (first : Recurs f) (second : Recurs h) : Recurs fun k => f k ^^ h k := by
  intro k
  simp only [driftAdd, carryAdd, ← first k, ← second k]

theorem recursAnd (c : Bool) (recurs : Recurs f) : Recurs fun k => c && f k := by
  intro k
  simp only [driftAnd, carryAnd, ← recurs k]

theorem recursDrift (recurs : Recurs f) : Recurs (drift f) := by
  intro k
  rw [carryDrift]
  simp only [drift, recurs (k + 623), recurs (k + 396)]

theorem recursNext (recurs : Recurs f) : Recurs fun k => f (k + 1) := by
  intro k
  have moved : drift (fun k => f (k + 1)) = fun k => drift f (k + 1) := rfl
  rw [moved, carryNext]
  exact recurs (k + 1)

theorem recursCarry (recurs : Recurs f) (j : Nat) : Recurs (carry f j) := by
  induction j with
  | zero => exact recurs
  | succ j ih => exact recursAdd (recursDrift ih) (recursAnd (tap j) recurs)

/- A sequence that is set all along does not recur. -/
theorem recursEnds (recurs : Recurs f) : ∃ k < 19938, f k = false := by
  by_contra none
  have full (k : Nat) (inside : k < 19938) : f k = true := by
    by_contra unset
    exact none ⟨k, inside, Bool.eq_false_iff.mpr unset⟩
  have still (k : Nat) (inside : k ≤ 1 + 623 * 31) : drift f k = false := by
    rw [drift, full _ (by omega), full _ (by omega), Bool.xor_self]
  have first := recurs 0
  rw [full 0 (by decide), carryNone 31 still 1 (le_refl 1)] at first
  contradiction

end

section
variable (words : Vector UInt32 624)

def bits (j k : Nat) : Bool := bit (stream words (k + 1)) j

theorem driftBits (j k : Nat) : drift (bits words j) k =
    ((if j < 30 then bits words (j + 1) k else decide (j = 30) && bit (stream words k) 31) ^^
      (tap j && bits words 0 k)) := by
  have next := congrArg (bit · j) (@streamNext words k)
  simp only [bitXor, bitFeed] at next
  simp only [drift, bits, next, Bool.and_comm (tap j)]
  rw [Bool.xor_comm, ← Bool.xor_assoc, Bool.xor_self, Bool.false_xor]

theorem bitsCarry {j : Nat} (inside : j ≤ 30) : bits words j = carry (bits words 0) j := by
  induction j with
  | zero => rfl
  | succ j ih =>
    have lower : j < 30 := by omega
    funext k
    simp only [carry, ← ih (by omega), driftBits, if_pos lower]
    rw [Bool.xor_assoc, Bool.xor_self, Bool.xor_false]

theorem bitsTop : bits words 31 = fun k => carry (bits words 0) 31 (k + 1) := by
  funext k
  have step : carry (bits words 0) 31 (k + 1) =
      (drift (carry (bits words 0) 30) (k + 1) ^^ (tap 30 && bits words 0 (k + 1))) := rfl
  rw [step, ← bitsCarry words (le_refl 30), driftBits, if_neg (by decide), Bool.xor_assoc,
    Bool.xor_self, Bool.xor_false]
  rfl

theorem bitsRecur : Recurs (bits words 0) := by
  intro k
  have odd : tap 31 = true := by decide
  have last : bits words 0 k = drift (bits words 31) k := by
    rw [driftBits, if_neg (by decide), odd, Bool.true_and]
    simp
  rw [last, bitsTop, carryDrift]
  generalize carry (bits words 0) 31 = f
  rfl

theorem topRecurs : Recurs fun k => bit (temper (stream words (k + 1))) 31 := by
  have low {j : Nat} (inside : j ≤ 30) : Recurs (bits words j) := by
    rw [bitsCarry words inside]
    exact recursCarry (bitsRecur words) j
  have high : Recurs (bits words 31) := by
    rw [bitsTop]
    exact recursNext (recursCarry (bitsRecur words) 31)
  simp only [bitTemper]
  exact recursAdd high (recursAdd (low (by decide)) (recursAdd (low (by decide)) (low (by decide))))

end

theorem drawsRecur (g : Generator) : Recurs fun k => bit (nth (k + 1) g) 31 := by
  have shifted (p : Nat) : Recurs fun k => bit (temper (stream g.words (p + (k + 1)))) 31 := by
    induction p with
    | zero =>
      simp only [Nat.zero_add]
      exact topRecurs g.words
    | succ p ih =>
      have moved (k : Nat) : p + 1 + (k + 1) = p + (k + 1 + 1) := by omega
      simp only [moved]
      exact recursNext ih
  simp only [nthStream]
  exact shifted (min g.next 624)

/-- The search of a byte ends by itself: its value is that of the first word that is within a
byte, with the state after it. -/
theorem byteFound (g : Generator) : ∃ n < tryLimit, (∀ k < n, ¬nth k g >>> 23 < 256) ∧
    nth n g >>> 23 < 256 ∧ g.byte = ((nth n g >>> 23).toUInt8, after (n + 1) g) := by
  obtain ⟨k, inside, unset⟩ := recursEnds (drawsRecur g)
  have found : ∃ n, nth n g >>> 23 < 256 := ⟨k + 1, (fitsTop _).mpr unset⟩
  have enough : Nat.find found < tryLimit := by
    have least : Nat.find found ≤ k + 1 := Nat.find_min' found ((fitsTop _).mpr unset)
    have limit : tryLimit = 20000 := rfl
    omega
  have large (k : Nat) (before : k < Nat.find found) : ¬nth k g >>> 23 < 256 :=
    Nat.find_min found before
  have fits := Nat.find_spec found
  exact ⟨Nat.find found, enough, large, fits, byteWithinFirst enough large fits⟩

end Chip8.Generator
