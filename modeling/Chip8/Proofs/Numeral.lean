import Chip8.Text.Integer
import Mathlib.Data.List.TakeWhile

/-! What is read as a whole number: the written forms that are accepted and the number each of
them stands for. Reading trims and respells a text before it looks at the sign, so what counts is
the trimmed text. -/
namespace Chip8.Text

section Trim
variable {p : Char → Bool} {l s r : List Char}

theorem trimInner (blank : ∀ c ∈ r, p c = true) :
    ((s ++ r).dropWhile p).reverse.dropWhile p = (s.dropWhile p).reverse.dropWhile p := by
  rw [List.dropWhile_append]
  split
  · rename_i all
    rw [List.isEmpty_iff.mp all, List.dropWhile_eq_nil_iff.mpr blank]
  · rw [List.reverse_append, List.dropWhile_append_of_pos]
    simpa using blank

theorem trimAround (blank : ∀ c ∈ l ++ r, p c = true) :
    trimBy p (l ++ s ++ r) = trimBy p s := by
  obtain ⟨before, behind⟩ := List.forall_mem_append.mp blank
  rw [trimBy, List.append_assoc, List.dropWhile_append_of_pos before, trimInner behind, trimBy]

theorem dropSolid (solid : ∀ c ∈ s, p c = false) : s.dropWhile p = s := by
  cases s with
  | nil => rfl
  | cons c s => rw [List.dropWhile_cons, solid c List.mem_cons_self, if_neg Bool.false_ne_true]

theorem trimSolid (solid : ∀ c ∈ s, p c = false) : trimBy p s = s := by
  have backwards : ∀ c ∈ s.reverse, p c = false := by simpa using solid
  rw [trimBy, dropSolid solid, dropSolid backwards, List.reverse_reverse]

theorem trimParts (p : Char → Bool) (s : List Char) :
    ∃ l r, s = l ++ trimBy p s ++ r ∧ ∀ c ∈ l ++ r, p c = true := by
  have front := List.takeWhile_append_dropWhile (p := p) (l := s)
  have back := List.takeWhile_append_dropWhile (p := p) (l := (s.dropWhile p).reverse)
  refine ⟨s.takeWhile p, ((s.dropWhile p).reverse.takeWhile p).reverse, ?_, ?_⟩
  · rw [trimBy, List.append_assoc, ← List.reverse_append, back, List.reverse_reverse, front]
  · intro c inside
    rcases List.mem_append.mp inside with before | behind
    · exact List.mem_takeWhile_imp before
    · exact List.mem_takeWhile_imp (List.mem_reverse.mp behind)

theorem amid {c : Char} (inside : c ∈ l ++ s ++ r) : c ∈ l ++ r ∨ c ∈ s := by
  simp only [List.mem_append] at inside ⊢
  rwa [or_right_comm]

theorem trimHolds {c : Char} (solid : p c = false) (inside : c ∈ s) : c ∈ trimBy p s := by
  obtain ⟨l, r, parts, blank⟩ := trimParts p s
  rw [parts] at inside
  rcases amid inside with around | inside
  · rw [blank c around] at solid
    contradiction
  · exact inside

theorem trimEnd {c : Char} (left : trimBy p s = l ++ [c]) : p c = false := by
  have last : (s.dropWhile p).reverse.dropWhile p = c :: l.reverse := by
    rw [← List.reverse_reverse (List.dropWhile p _), ← trimBy, left]
    simp
  have head := List.head?_dropWhile_not p (s.dropWhile p).reverse
  rw [last] at head
  simpa using head

theorem trimMap {f : Char → Char} (kept : ∀ c, p (f c) = p c) :
    trimBy p (s.map f) = (trimBy p s).map f := by
  have same : p ∘ f = p := funext kept
  simp only [trimBy, List.dropWhile_map, ← List.map_reverse, same]

end Trim

section Characters
variable {b v : Nat} {c : Char}

def plain (c : Char) : Char :=
  match decimalDigit? c with
  | some d => Nat.digitChar d
  | none => c

theorem scriptsSolid : ∀ z ∈ scriptZeros, ∀ d < 10, blanks.contains (z + d) = false := by
  decide +kernel

theorem decimalSolid {d : Nat} (digit : decimalDigit? c = some d) :
    d < 10 ∧ isBlank c = false := by
  obtain ⟨z, found, rfl⟩ := Option.map_eq_some_iff.mp digit
  have range := List.find?_some found
  simp only [Bool.and_eq_true, decide_eq_true_eq] at range
  have solid := scriptsSolid z (List.mem_of_find?_eq_some found) (c.toNat - z) (by omega)
  rw [Nat.add_sub_cancel' range.1] at solid
  exact ⟨by omega, solid⟩

theorem plainBlank (c : Char) : isNumberBlank (plain c) = isNumberBlank c := by
  unfold plain
  split
  · rename_i d digit
    obtain ⟨small, solid⟩ := decimalSolid digit
    have written : ∀ d < 10, isNumberBlank (Nat.digitChar d) = false := by decide
    rw [written d small, isNumberBlank, solid, Bool.false_and]
  · rfl

theorem plainAscii (ascii : c.toNat < 128) : plain c = c := by
  have table : ∀ n < 128, plain (Char.ofNat n) = Char.ofNat n := by decide +kernel
  rw [← Char.ofNat_toNat c]
  exact table _ ascii

theorem plainKept (large : ∀ d < 10, plain c ≠ Nat.digitChar d) : plain c = c := by
  unfold plain at large ⊢
  split
  · rename_i d digit
    rw [digit] at large
    exact absurd rfl (large d (decimalSolid digit).1)
  · rfl

theorem digitIn : digitIn? b c = some v ↔ digitValue? c = some v ∧ v < b := by
  simp [digitIn?, Option.filter_eq_some_iff]

theorem digitRange (digit : digitValue? c = some v) :
    48 ≤ c.toNat ∧ c.toNat ≤ 57 ∧ v = c.toNat - 48 ∨
      97 ≤ c.toNat ∧ c.toNat ≤ 122 ∧ v = c.toNat - 87 ∨
      65 ≤ c.toNat ∧ c.toNat ≤ 90 ∧ v = c.toNat - 55 := by
  unfold digitValue? at digit
  split at digit
  case isTrue range => exact .inl ⟨range.1, range.2, (Option.some.inj digit).symm⟩
  split at digit
  case isTrue range => exact .inr (.inl ⟨range.1, range.2, (Option.some.inj digit).symm⟩)
  split at digit
  case isTrue range => exact .inr (.inr ⟨range.1, range.2, (Option.some.inj digit).symm⟩)
  contradiction

theorem digitAscii (digit : digitIn? b c = some v) : c.toNat < 128 := by
  have range := digitRange (digitIn.mp digit).1
  omega

theorem digitSolid (digit : digitIn? b c = some v) : isBlank c = false := by
  have outside : ∀ n ∈ blanks, n < 48 ∨ 122 < n := by decide
  have range := digitRange (digitIn.mp digit).1
  rw [isBlank, List.contains_eq_mem, decide_eq_false_iff_not]
  intro blank
  have := outside _ blank
  omega

def HexLetter (c : Char) (v : Nat) : Prop :=
  'A' ≤ c ∧ c ≤ 'F' ∧ v + 55 = c.toNat ∨ 'a' ≤ c ∧ c ≤ 'f' ∧ v + 87 = c.toNat

theorem digitLetter : digitIn? 16 c = some v ∧ 10 ≤ v ↔ HexLetter c v := by
  constructor
  · rintro ⟨digit, large⟩
    obtain ⟨value, small⟩ := digitIn.mp digit
    rcases digitRange value with ⟨_, high, same⟩ | ⟨low, high, same⟩ | ⟨low, high, same⟩
    · omega
    · have top : c.toNat ≤ 102 := by omega
      exact .inr ⟨low, top, by omega⟩
    · have top : c.toNat ≤ 70 := by omega
      exact .inl ⟨low, top, by omega⟩
  · have table : ∀ n < 128, (65 ≤ n → n ≤ 70 → digitIn? 16 (Char.ofNat n) = some (n - 55)) ∧
        (97 ≤ n → n ≤ 102 → digitIn? 16 (Char.ofNat n) = some (n - 87)) := by
      decide +kernel
    have named := Char.ofNat_toNat c
    rintro (⟨low, high, value⟩ | ⟨low, high, value⟩)
    · have low : 65 ≤ c.toNat := low
      have high : c.toNat ≤ 70 := high
      have digit := (table c.toNat (by omega)).1 low high
      rw [named, ← value, Nat.add_sub_cancel] at digit
      exact ⟨digit, by omega⟩
    · have low : 97 ≤ c.toNat := low
      have high : c.toNat ≤ 102 := high
      have digit := (table c.toNat (by omega)).2 low high
      rw [named, ← value, Nat.add_sub_cancel] at digit
      exact ⟨digit, by omega⟩

theorem digitMark (base : b ≤ 16) (digit : digitIn? b c = some v) :
    c ∉ ['_', '-', '+', 'x', 'X', '$'] := by
  obtain ⟨value, small⟩ := digitIn.mp digit
  have far : ['_', '-', '+', 'x', 'X', '$'].all (fun c => (digitValue? c).all (16 ≤ ·)) = true := by
    decide
  intro mark
  have large := List.all_eq_true.mp far c mark
  rw [value, Option.all_some, decide_eq_true_eq] at large
  omega

theorem markSolid (mark : c ∈ ['-', '+', '0', 'x', 'X', '_']) : isBlank c = false := by
  have solid : ['-', '+', '0', 'x', 'X', '_'].all (fun c => !isBlank c) = true := by decide
  simpa using List.all_eq_true.mp solid c mark

theorem digitLower (c : Char) : digitValue? c.toLower = digitValue? c := by
  rcases Nat.lt_or_ge c.toNat 128 with ascii | other
  · have table : ∀ n < 128, digitValue? (Char.ofNat n).toLower = digitValue? (Char.ofNat n) := by
      decide +kernel
    rw [← Char.ofNat_toNat c]
    exact table _ ascii
  · have kept : c.toLower = c := by
      unfold Char.toLower
      split
      · rename_i capital
        have : c.toNat ≤ 90 := capital.2
        omega
      · rfl
    rw [kept]

theorem digitWritten {d : Nat} (small : d < 16) : digitValue? (Nat.digitChar d) = some d := by
  have table : ∀ d < 16, digitValue? (Nat.digitChar d) = some d := by decide
  exact table d small

end Characters

section Reading
variable {b : Nat} {s : List Char}

def body (b : Nat) (s : List Char) : List Char := dropMark b (splitSign s).2

def digits (b : Nat) (s : List Char) : List Char := (body b s).filter (· ≠ '_')

structure Numeral (b : Nat) (s : List Char) (n : Int) : Prop where
  spaced : wellSpaced (body b s) = true
  written : ∀ c ∈ body b s, c = '_' ∨ ∃ v, digitIn? b c = some v
  short : b ≠ 16 → (digits b s).length ≤ digitLimit
  value : n = if (splitSign s).1 then -(natOfDigits b (digits b s) : Int)
    else natOfDigits b (digits b s)

/- The characters up to the first that belongs to no number. -/
def run (b : Nat) (s : List Char) : List Char :=
  (body b s).takeWhile fun c => c = '_' || (digitIn? b c).isSome

theorem runWhole : run b s = body b s ↔
    ∀ c ∈ body b s, c = '_' ∨ ∃ v, digitIn? b c = some v := by
  rw [run, List.takeWhile_eq_self_iff]
  simp [Option.isSome_iff_exists]

theorem readNumeral {text : String} {n : Int} : readInteger b text = .ok n ↔
    Numeral b (trimBy isNumberBlank (text.toList.map plain)) n := by
  generalize trimmed : trimBy isNumberBlank (text.toList.map plain) = s
  have cut : readInteger b text =
      if !wellSpaced (run b s) then .error (.malformed b text)
      else if b ≠ 16 ∧ digitLimit < ((run b s).filter (· ≠ '_')).length then
        .error (.tooLong ((run b s).filter (· ≠ '_')).length)
      else if (run b s).length < (body b s).length then .error (.malformed b text)
      else .ok (if (splitSign s).1 then -(natOfDigits b ((run b s).filter (· ≠ '_')) : Int)
        else natOfDigits b ((run b s).filter (· ≠ '_'))) := by
    rw [← trimmed]
    rfl
  rw [cut]
  constructor
  · intro read
    split at read <;> try contradiction
    rename_i spaced
    split at read <;> try contradiction
    rename_i short
    split at read <;> try contradiction
    rename_i long
    have whole : run b s = body b s :=
      (List.takeWhile_prefix _).eq_of_length_le (Nat.le_of_not_lt long)
    rw [whole] at spaced short read
    constructor
    case spaced => simpa using spaced
    case written => exact runWhole.mp whole
    case short => exact fun base => Nat.le_of_not_lt fun many => short ⟨base, many⟩
    case value => exact (Except.ok.inj read).symm
  · intro numeral
    rw [runWhole.mpr numeral.written, numeral.value, if_neg, if_neg, if_neg]
    · rfl
    · exact Nat.lt_irrefl _
    · exact fun many => Nat.not_lt.mpr (numeral.short many.1) many.2
    · simp [numeral.spaced]

theorem signParts {c : Char} (inside : c ∈ s) : c ∈ ['-', '+'] ∨ c ∈ (splitSign s).2 := by
  unfold splitSign
  split
  · exact (List.mem_cons.mp inside).imp_left fun same => by simp [same]
  · exact (List.mem_cons.mp inside).imp_left fun same => by simp [same]
  · exact .inr inside

theorem markParts {c : Char} (inside : c ∈ s) :
    c ∈ ['0', 'x', 'X', '_'] ∨ c ∈ dropMark b s := by
  unfold dropMark
  split
  · rename_i x rest
    split
    · rename_i mark
      rcases List.mem_cons.mp inside with same | inside
      · exact .inl (by simp [same])
      rcases List.mem_cons.mp inside with same | inside
      · rcases mark.2 with letter | letter <;> exact .inl (by simp [same, letter])
      split
      · exact (List.mem_cons.mp inside).imp_left fun same => by simp [same]
      · exact .inr inside
    · exact .inr inside
  · exact .inr inside

theorem Numeral.solid {n : Int} (numeral : Numeral b s n) : ∀ c ∈ s, isBlank c = false := by
  intro c inside
  rcases signParts inside with sign | unsigned
  · exact markSolid (List.mem_append_left ['0', 'x', 'X', '_'] sign)
  rcases markParts (b := b) unsigned with mark | written
  · exact markSolid (List.mem_append_right ['-', '+'] mark)
  rcases numeral.written c written with rfl | ⟨v, digit⟩
  · decide
  · exact digitSolid digit

section Digits
variable (base : b ≤ 16) (written : ∀ c ∈ s, ∃ v, digitIn? b c = some v) (nonempty : s ≠ [])
include base written

theorem digitsFree {c : Char} (mark : c ∈ ['_', '-', '+', 'x', 'X', '$']) : c ∉ s := by
  intro inside
  obtain ⟨v, digit⟩ := written c inside
  exact digitMark base digit mark

theorem digitsSign : splitSign s = (false, s) := by
  unfold splitSign
  split
  · exact absurd List.mem_cons_self (digitsFree base written (by simp))
  · exact absurd List.mem_cons_self (digitsFree base written (by simp))
  · rfl

theorem digitsUnmarked : dropMark b s = s := by
  unfold dropMark
  split
  · rename_i x rest
    have second : x ∈ '0' :: x :: rest := by simp
    rw [if_neg]
    rintro ⟨_, rfl | rfl⟩
    · exact digitsFree base written (by simp) second
    · exact digitsFree base written (by simp) second
  · rfl

theorem digitsMarked {x : Char} (mark : x = 'x' ∨ x = 'X') :
    dropMark 16 ('0' :: x :: s) = s := by
  rw [dropMark, if_pos ⟨rfl, mark⟩]
  rintro rest rfl
  exact digitsFree base written (by simp) List.mem_cons_self

theorem digitsFilter : s.filter (· ≠ '_') = s := by
  rw [List.filter_eq_self]
  intro c inside
  rw [decide_eq_true_eq]
  rintro rfl
  exact digitsFree base written (by simp) inside

include nonempty in
theorem digitsSpaced : wellSpaced s = true := by
  have solid : '_' ∉ s := digitsFree base written (by simp)
  clear written
  fun_induction wellSpaced s with
  | case1 => contradiction
  | case2 => simp at solid
  | case3 => simp at solid
  | case4 => rfl
  | case5 => simp at solid
  | case6 c s _ _ several _ ih => exact ih several (List.not_mem_of_not_mem_cons solid)

section Forms
variable (short : b ≠ 16 → s.length ≤ digitLimit)
include nonempty short

theorem digitsDue {whole : List Char} (content : body b whole = s) :
    Numeral b whole
      (if (splitSign whole).1 then -(natOfDigits b s : Int) else natOfDigits b s) := by
  have kept : digits b whole = s := by rw [digits, content, digitsFilter base written]
  constructor
  case spaced => rw [content, digitsSpaced base written nonempty]
  case written =>
    rw [content]
    exact fun c inside => .inr (written c inside)
  case short => rwa [kept]
  case value => rw [kept]

theorem numeralPlain : Numeral b s (natOfDigits b s) := by
  have sign := digitsSign base written
  have content : body b s = s := by rw [body, sign, digitsUnmarked base written]
  have numeral := digitsDue base written nonempty short content
  rwa [sign, if_neg Bool.false_ne_true] at numeral

theorem numeralNegative : Numeral b ('-' :: s) (-(natOfDigits b s : Int)) :=
  digitsDue base written nonempty short (digitsUnmarked base written)

theorem numeralMarked {x : Char} (marked : b = 16) (mark : x = 'x' ∨ x = 'X') :
    Numeral b ('0' :: x :: s) (natOfDigits b s) := by
  subst marked
  exact digitsDue base written nonempty short (digitsMarked base written mark)

end Forms
end Digits

theorem numeralSingle (base : b ≤ 16) {c : Char} {n : Int} :
    Numeral b [c] n ↔ ∃ v : Nat, digitIn? b c = some v ∧ n = v := by
  constructor
  · intro numeral
    have solid : c ∉ ['-', '+', '_'] := by
      have spaced := numeral.spaced
      intro mark
      simp only [List.mem_cons, List.not_mem_nil, or_false] at mark
      rcases mark with rfl | rfl | rfl <;>
        simp [body, splitSign, dropMark, wellSpaced] at spaced
    simp only [List.mem_cons, List.not_mem_nil, or_false, not_or] at solid
    have sign : splitSign [c] = (false, [c]) := by
      unfold splitSign
      split <;> simp_all
    have content : body b [c] = [c] := by simp [body, sign, dropMark]
    obtain underscore | ⟨v, digit⟩ := numeral.written c (by simp [content])
    · exact absurd underscore solid.2.2
    · have value : n = v := by
        simpa [digits, content, sign, solid.2.2, natOfDigits, digit] using numeral.value
      exact ⟨v, digit, value⟩
  · rintro ⟨v, digit, rfl⟩
    have written : ∀ d ∈ [c], ∃ v, digitIn? b d = some v := by simp [digit]
    have numeral := numeralPlain base written (by simp) fun _ => by simp [digitLimit]
    simpa [natOfDigits, digit] using numeral

end Reading

section Writing
variable {b n : Nat} {s : List Char}

theorem digitCharIn (base : b ≤ 16) {d : Nat} (small : d < b) :
    digitIn? b (Nat.digitChar d) = some d :=
  digitIn.mpr ⟨digitWritten (Nat.lt_of_lt_of_le small base), small⟩

theorem natOfDigitsSnoc (b : Nat) (s : List Char) (c : Char) :
    natOfDigits b (s ++ [c]) = natOfDigits b s * b + (digitIn? b c).getD 0 := by
  simp only [natOfDigits, List.foldl_append, List.foldl_cons, List.foldl_nil]

theorem writtenDigits (positive : 1 < b) (base : b ≤ 16) (n : Nat) :
    natOfDigits b (Nat.toDigits b n) = n ∧
      ∀ c ∈ Nat.toDigits b n, ∃ v, digitIn? b c = some v := by
  induction n using Nat.strongRecOn with
  | ind n ih =>
    rcases Nat.lt_or_ge n b with small | large
    · have digit := digitCharIn base small
      rw [Nat.toDigits_of_lt_base small]
      constructor
      · simp [natOfDigits, digit]
      · simp [digit]
    · obtain ⟨value, written⟩ := ih (n / b) (Nat.div_lt_self (by omega) positive)
      have digit := digitCharIn base (Nat.mod_lt n (Nat.zero_lt_of_lt positive))
      rw [Nat.toDigits_of_base_le positive large]
      constructor
      · rw [natOfDigitsSnoc, value, digit, Option.getD_some, Nat.div_add_mod']
      · intro c inside
        rcases List.mem_append.mp inside with earlier | last
        · exact written c earlier
        · rw [List.mem_singleton.mp last]
          exact ⟨_, digit⟩

theorem digitInLower (b : Nat) (c : Char) : digitIn? b c.toLower = digitIn? b c := by
  rw [digitIn?, digitLower, digitIn?]

theorem spelledDigits (positive : 1 < b) (base : b ≤ 16)
    (spelled : s.map Char.toLower = Nat.toDigits b n) :
    natOfDigits b s = n ∧ s ≠ [] ∧ ∀ c ∈ s, ∃ v, digitIn? b c = some v := by
  obtain ⟨value, written⟩ := writtenDigits positive base n
  rw [← spelled] at value written
  refine ⟨?_, ?_, ?_⟩
  · simpa only [natOfDigits, List.foldl_map, digitInLower] using value
  · rintro rfl
    exact Nat.toDigits_ne_nil spelled.symm
  · intro c inside
    rw [← digitInLower]
    exact written _ (List.mem_map_of_mem inside)

end Writing
end Chip8.Text
