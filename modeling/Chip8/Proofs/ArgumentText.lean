import Chip8.CommandLine.Value
import Chip8.Proofs.KeyEdges
import Chip8.Proofs.Numeral

/-! Numbers and keys on a command line. A number survives being written and read again, whatever
blanks stand around it. A key is read as the same number, except that a single character is
measured without its blanks and read with them: behind an information separator it is no key. -/
namespace Chip8.CommandLine
open Text

section Trimmed
variable {t : String} {n : Int}

def Parted (t : String) : Prop := ∃ c ∈ t.toList, 0x1C ≤ c.toNat ∧ c.toNat ≤ 0x1F

theorem numberBlank {c : Char} : isNumberBlank c = true ↔
    isBlank c = true ∧ ¬(0x1C ≤ c.toNat ∧ c.toNat ≤ 0x1F) := by
  simp only [isNumberBlank, Bool.and_eq_true, Bool.not_eq_eq_eq_not, Bool.not_true,
    ← Bool.not_eq_true, decide_eq_true_eq]

theorem separatorBlank {c : Char} (separator : 0x1C ≤ c.toNat ∧ c.toNat ≤ 0x1F) :
    isBlank c = true := by
  have listed : ∀ n < 0x20, 0x1C ≤ n → blanks.contains n = true := by decide
  exact listed _ (by omega) separator.1

theorem partedUnread {b : Nat} (parted : Parted t) : readInteger b t ≠ .ok n := by
  intro read
  obtain ⟨c, inside, separator⟩ := parted
  have blank := separatorBlank separator
  have foreign : isNumberBlank c = false := by
    rw [Bool.eq_false_iff]
    exact fun number => (numberBlank.mp number).2 separator
  have kept : plain c ∈ trimBy isNumberBlank (t.toList.map plain) := by
    rw [trimMap plainBlank]
    exact List.mem_map_of_mem (trimHolds foreign inside)
  have solid := (readNumeral.mp read).solid _ kept
  rw [plainAscii (by omega), blank] at solid
  contradiction

theorem readTrimmed {b : Nat} {s : List Char} (solid : ∀ c ∈ s, isBlank c = false) :
    readInteger b (String.ofList s) = .ok n ↔ Numeral b (s.map plain) n := by
  have unblank : ∀ c ∈ s, isNumberBlank c = false := by
    intro c inside
    rw [isNumberBlank, solid c inside, Bool.false_and]
  rw [readNumeral, String.toList_ofList, trimMap plainBlank, trimSolid unblank]

theorem readAscii {b : Nat} {s : List Char} (solid : ∀ c ∈ s, isBlank c = false)
    (ascii : ∀ c ∈ s, c.toNat < 128) :
    readInteger b (String.ofList s) = .ok n ↔ Numeral b s n := by
  have same : s.map plain = s :=
    (List.map_congr_left fun c inside => plainAscii (ascii c inside)).trans s.map_id
  rw [readTrimmed solid, same]

theorem singleParts {c : Char} (single : strip t.toList = [c]) :
    isBlank c = false ∧ ∃ l r, t.toList = l ++ [c] ++ r ∧ ∀ b ∈ l ++ r, isBlank b = true := by
  obtain ⟨l, r, parts, blank⟩ := trimParts isBlank t.toList
  have left : trimBy isBlank t.toList = [] ++ [c] := single
  rw [left] at parts
  exact ⟨trimEnd left, l, r, parts, blank⟩

theorem wholeParts {c : Char} (single : strip t.toList = [c]) (whole : ¬Parted t) :
    isBlank c = false ∧ ∃ l r, t.toList = l ++ [c] ++ r ∧ ∀ b ∈ l ++ r, isNumberBlank b = true := by
  obtain ⟨solid, l, r, parts, blank⟩ := singleParts single
  refine ⟨solid, l, r, parts, ?_⟩
  intro d inside
  refine numberBlank.mpr ⟨blank d inside, fun separator => whole ⟨d, ?_, separator⟩⟩
  rw [parts]
  simp only [List.mem_append] at inside ⊢
  exact inside.elim (.inl ∘ .inl) .inr

theorem readAlone {b : Nat} {c : Char} {l r : List Char} (base : b ≤ 16)
    (parts : t.toList = l ++ [c] ++ r) (solid : isBlank c = false)
    (blank : ∀ d ∈ l ++ r, isNumberBlank d = true) :
    readInteger b t = .ok n ↔ ∃ v : Nat, digitIn? b (plain c) = some v ∧ n = v := by
  have unblank : ∀ d ∈ [c], isNumberBlank d = false := by
    simp [isNumberBlank, solid]
  rw [readNumeral, trimMap plainBlank, parts, trimAround blank, trimSolid unblank]
  exact numeralSingle base

theorem numberDecimal (unpriced : ∀ s, strip t.toList ≠ '$' :: s)
    (unmarked : ∀ x ∈ ['x', 'X'], ∀ s, strip t.toList ≠ '0' :: x :: s) :
    readNumber t = readInteger 10 (String.ofList (strip t.toList)) := by
  unfold readNumber
  split <;> rename_i shape
  · exact absurd shape (unpriced _)
  · exact absurd shape (unmarked 'x' (by simp) _)
  · exact absurd shape (unmarked 'X' (by simp) _)
  · rfl

theorem numberSingle {c : Char} (single : strip t.toList = [c]) :
    readNumber t = .ok n ↔ ∃ v : Nat, digitIn? 10 (plain c) = some v ∧ n = v := by
  obtain ⟨solid, _⟩ := singleParts single
  by_cases dollar : c = '$'
  · subst dollar
    have read : readNumber t = readInteger 16 (String.ofList []) := by
      rw [readNumber, single]
      rfl
    have undigit : digitIn? 10 (plain '$') = none := by decide +kernel
    rw [read, readTrimmed (by simp), undigit]
    constructor
    · intro numeral
      have spaced := numeral.spaced
      contradiction
    · rintro ⟨_, _, _⟩
      contradiction
  · have read : readNumber t = readInteger 10 (String.ofList [c]) := by
      rw [numberDecimal, single]
      · simpa [single] using dollar
      · simp [single]
    rw [read, readTrimmed (by simpa using solid)]
    exact numeralSingle (by decide)

end Trimmed

def LetterKey (t : String) (k : Fin 16) : Prop :=
  ∃ l c r, t.toList = l ++ [c] ++ r ∧ (∀ d ∈ l ++ r, isNumberBlank d = true) ∧ HexLetter c k.val

structure KeyText (t : String) : Prop where
  answered : (∃ k, readKey t = .ok k) ∨ readKey t = .error (.notKey t) ∨
    readKey t = .error (.outOfRange t)
  agreed : ¬((strip t.toList).length = 1 ∧ Parted t) →
    ∀ k : Fin 16, readNumber t = .ok (k.val : Int) → readKey t = .ok k
  parted : (strip t.toList).length = 1 → Parted t → readKey t = .error (.notKey t)
  letters : ∀ k, (readKey t = .ok k ∧ ∃ e, readNumber t = .error e) ↔ LetterKey t k

section Keys
variable {t : String} {k : Fin 16}

theorem keyNamed {n : Int} (named : key? n = .ok k) : n = k.val := by
  unfold key? at named
  split at named
  · rename_i bounds
    cases named
    exact (Int.toNat_of_nonneg bounds.1).symm
  · contradiction

theorem keyRead : readKey t = .ok k ↔ readKeyNumber t = .ok (k.val : Int) := by
  unfold readKey
  constructor
  · intro read
    split at read <;> try contradiction
    rename_i n number
    split at read <;> try contradiction
    rename_i named
    cases read
    rw [number, keyNamed named]
  · intro number
    rw [number]
    simp only [keyKnown]

theorem keySingle {c : Char} (single : strip t.toList = [c]) (whole : ¬Parted t) :
    readKey t = .ok k ↔ digitIn? 16 (plain c) = some k.val := by
  obtain ⟨solid, l, r, parts, blank⟩ := wholeParts single whole
  have alone : readKeyNumber t = readInteger 16 t := if_pos (by rw [single]; rfl)
  rw [keyRead, alone, readAlone (by decide) parts solid blank]
  constructor
  · rintro ⟨v, digit, same⟩
    rw [digit, Int.ofNat_inj.mp same]
  · intro digit
    exact ⟨_, digit, rfl⟩

theorem keyLonger (longer : (strip t.toList).length ≠ 1) : readKeyNumber t = readNumber t :=
  if_neg longer

theorem keyParted (single : (strip t.toList).length = 1) (parted : Parted t) :
    readKey t = .error (.notKey t) := by
  have alone : readKeyNumber t = readInteger 16 t := if_pos single
  rw [readKey, alone]
  cases read : readInteger 16 t with
  | ok n => exact absurd read (partedUnread parted)
  | error e => rfl

theorem keyAnswered (t : String) : (∃ k, readKey t = .ok k) ∨ readKey t = .error (.notKey t) ∨
    readKey t = .error (.outOfRange t) := by
  unfold readKey
  split
  · exact .inr (.inl rfl)
  · split
    · exact .inl ⟨_, rfl⟩
    · exact .inr (.inr rfl)

theorem keyAgreed (whole : ¬((strip t.toList).length = 1 ∧ Parted t))
    (read : readNumber t = .ok (k.val : Int)) : readKey t = .ok k := by
  by_cases single : (strip t.toList).length = 1
  · have unparted : ¬Parted t := fun parted => whole ⟨single, parted⟩
    obtain ⟨c, single⟩ := List.length_eq_one_iff.mp single
    obtain ⟨v, digit, same⟩ := (numberSingle single).mp read
    obtain ⟨value, small⟩ := digitIn.mp digit
    rw [keySingle single unparted, Int.ofNat_inj.mp same]
    exact digitIn.mpr ⟨value, Nat.lt_trans small (by decide)⟩
  · rw [keyRead, keyLonger single, read]

theorem keyLetter {e : IntegerError} (read : readKey t = .ok k)
    (refused : readNumber t = .error e) : LetterKey t k := by
  have single : (strip t.toList).length = 1 := by
    by_contra longer
    rw [keyRead, keyLonger longer, refused] at read
    contradiction
  have whole : ¬Parted t := by
    intro parted
    rw [keyParted single parted] at read
    contradiction
  obtain ⟨c, single⟩ := List.length_eq_one_iff.mp single
  have digit := (keySingle single whole).mp read
  have large : 10 ≤ k.val := by
    by_contra small
    have decimal := digitIn.mpr ⟨(digitIn.mp digit).1, Nat.lt_of_not_le small⟩
    have number : readNumber t = .ok (k.val : Int) := (numberSingle single).mpr ⟨_, decimal, rfl⟩
    rw [refused] at number
    contradiction
  have kept : plain c = c := by
    apply plainKept
    intro d small same
    have low : digitIn? 16 (plain c) = some d := by
      rw [same]
      exact digitCharIn (Nat.le_refl _) (by omega)
    have : k.val = d := Option.some.inj (digit.symm.trans low)
    omega
  rw [kept] at digit
  obtain ⟨_, l, r, parts, blank⟩ := wholeParts single whole
  exact ⟨l, c, r, parts, blank, digitLetter.mp ⟨digit, large⟩⟩

theorem letterKey (letter : LetterKey t k) :
    readKey t = .ok k ∧ ∃ e, readNumber t = .error e := by
  obtain ⟨l, c, r, parts, blank, letter⟩ := letter
  obtain ⟨digit, large⟩ := digitLetter.mpr letter
  have ascii := digitAscii digit
  have solid := digitSolid digit
  have single : strip t.toList = [c] := by
    rw [strip, parts, trimAround fun d around => (numberBlank.mp (blank d around)).1, trimSolid]
    simpa using solid
  have whole : ¬Parted t := by
    rintro ⟨d, inside, separator⟩
    rw [parts] at inside
    rcases amid inside with around | same
    · exact (numberBlank.mp (blank d around)).2 separator
    · rw [← List.mem_singleton.mp same, separatorBlank separator] at solid
      contradiction
  constructor
  · rw [keySingle single whole, plainAscii ascii, digit]
  · cases read : readNumber t with
    | error e => exact ⟨e, rfl⟩
    | ok n =>
      obtain ⟨v, decimal, _⟩ := (numberSingle single).mp read
      rw [plainAscii ascii] at decimal
      have low := digitIn.mp decimal
      have high := digitIn.mp digit
      have same : v = k.val := Option.some.inj (low.1.symm.trans high.1)
      omega

theorem keyText (t : String) : KeyText t := by
  constructor
  case answered => exact keyAnswered t
  case parted => exact keyParted
  case agreed => exact fun whole k read => keyAgreed whole read
  case letters =>
    intro k
    constructor
    · rintro ⟨read, e, refused⟩
      exact keyLetter read refused
    · exact letterKey

end Keys

def Reads (s : List Char) (n : Int) : Prop :=
  ∀ l r, (∀ c ∈ l ++ r, isBlank c = true) → readNumber (String.ofList (l ++ s ++ r)) = .ok n

section Written
variable {s h : List Char} {n : Int}

theorem stripAround {l r : List Char} (solid : ∀ c ∈ s, isBlank c = false)
    (blank : ∀ c ∈ l ++ r, isBlank c = true) :
    strip (String.ofList (l ++ s ++ r)).toList = s := by
  rw [String.toList_ofList, strip, trimAround blank, trimSolid solid]

theorem decimalReads (written : ∀ c ∈ s, c = '-' ∨ ∃ v, digitIn? 10 c = some v)
    (numeral : Numeral 10 s n) : Reads s n := by
  intro l r blank
  have stripped := stripAround numeral.solid blank
  have free {c : Char} (mark : c ∈ ['$', 'x', 'X']) : c ∉ s := by
    intro inside
    rcases written c inside with rfl | ⟨v, digit⟩
    · exact absurd mark (by decide)
    · have listed : ['$', 'x', 'X'] ⊆ ['_', '-', '+', 'x', 'X', '$'] := by simp
      exact digitMark (by decide) digit (listed mark)
  have ascii : ∀ c ∈ s, c.toNat < 128 := by
    intro c inside
    rcases written c inside with rfl | ⟨v, digit⟩
    · decide
    · exact digitAscii digit
  rw [numberDecimal, stripped, readAscii numeral.solid ascii]
  · exact numeral
  · intro rest shape
    rw [stripped] at shape
    exact free (by simp) (shape ▸ List.mem_cons_self)
  · intro x mark rest shape
    rw [stripped] at shape
    exact free (List.mem_cons_of_mem _ mark) (shape ▸ by simp)

section Hexadecimal
variable (nonempty : h ≠ []) (written : ∀ c ∈ h, ∃ v, digitIn? 16 c = some v)
include nonempty written

theorem markedReads {x : Char} (mark : x = 'x' ∨ x = 'X') :
    Reads ('0' :: x :: h) (natOfDigits 16 h) := by
  intro l r blank
  have numeral := numeralMarked (Nat.le_refl _) written nonempty (absurd rfl) rfl mark
  have ascii : ∀ c ∈ '0' :: x :: h, c.toNat < 128 := by
    rw [List.forall_mem_cons, List.forall_mem_cons]
    refine ⟨by decide, ?_, fun c inside => digitAscii (written c inside).choose_spec⟩
    rcases mark with rfl | rfl <;> decide
  have read : readNumber (String.ofList (l ++ '0' :: x :: h ++ r)) =
      readInteger 16 (String.ofList ('0' :: x :: h)) := by
    rw [readNumber, stripAround numeral.solid blank]
    rcases mark with rfl | rfl <;> rfl
  rw [read, readAscii numeral.solid ascii]
  exact numeral

theorem pricedReads : Reads ('$' :: h) (natOfDigits 16 h) := by
  intro l r blank
  have numeral := numeralPlain (Nat.le_refl _) written nonempty (absurd rfl)
  have solid : ∀ c ∈ '$' :: h, isBlank c = false := by
    rw [List.forall_mem_cons]
    exact ⟨by decide, numeral.solid⟩
  have read : readNumber (String.ofList (l ++ '$' :: h ++ r)) =
      readInteger 16 (String.ofList h) := by
    rw [readNumber, stripAround solid blank]
    rfl
  rw [read, readAscii numeral.solid fun c inside => digitAscii (written c inside).choose_spec]
  exact numeral

end Hexadecimal

theorem decimalWritten (n : Int) (short : (Nat.toDigits 10 n.natAbs).length ≤ digitLimit) :
    Reads (toString n).toList n := by
  have base : 10 ≤ 16 := by decide
  obtain ⟨value, written⟩ := writtenDigits (by decide) base n.natAbs
  have nonempty : Nat.toDigits 10 n.natAbs ≠ [] := Nat.toDigits_ne_nil
  rw [Int.toString_eq_repr, Int.repr_eq_if]
  split
  · have numeral := numeralPlain base written nonempty fun _ => short
    have same : (n.natAbs : Int) = n := by omega
    rw [value, same] at numeral
    have natural : n.toNat = n.natAbs := by omega
    rw [Nat.toList_repr, natural]
    exact decimalReads (fun c inside => .inr (written c inside)) numeral
  · have numeral := numeralNegative base written nonempty fun _ => short
    have same : -(n.natAbs : Int) = n := by omega
    rw [value, same] at numeral
    have natural : (-n).toNat = n.natAbs := by omega
    have signed : ∀ c ∈ '-' :: Nat.toDigits 10 n.natAbs, c = '-' ∨ ∃ v, digitIn? 10 c = some v := by
      rw [List.forall_mem_cons]
      exact ⟨.inl rfl, fun c inside => .inr (written c inside)⟩
    rw [String.toList_append, Nat.toList_repr, natural]
    exact decimalReads signed numeral

theorem hexadecimalWritten (positive : 0 ≤ n)
    (spelled : h.map Char.toLower = Nat.toDigits 16 n.toNat) :
    Reads ('0' :: 'x' :: h) n ∧ Reads ('0' :: 'X' :: h) n ∧ Reads ('$' :: h) n := by
  obtain ⟨value, nonempty, written⟩ := spelledDigits (by decide) (Nat.le_refl _) spelled
  have lower := markedReads nonempty written (.inl rfl)
  have upper := markedReads nonempty written (.inr rfl)
  have priced := pricedReads nonempty written
  rw [value, Int.toNat_of_nonneg positive] at lower upper priced
  exact ⟨lower, upper, priced⟩

end Written

theorem argumentTexts (t : String) :
    KeyText t ∧
    (∀ n : Int, (Nat.toDigits 10 n.natAbs).length ≤ 4300 → Reads (toString n).toList n) ∧
    ∀ (n : Int) (h : List Char), 0 ≤ n → h.map Char.toLower = Nat.toDigits 16 n.toNat →
      Reads ('0' :: 'x' :: h) n ∧ Reads ('0' :: 'X' :: h) n ∧ Reads ('$' :: h) n :=
  ⟨keyText t, decimalWritten, fun _ _ => hexadecimalWritten⟩

theorem partedSeven : ¬∀ (t : String) (k : Fin 16), readNumber t = .ok (k.val : Int) →
    readKey t = .ok k := by
  intro agreed
  have number : readNumber "\x1c7" = .ok 7 := by decide +kernel
  have key := agreed _ 7 number
  have refused : readKey "\x1c7" ≠ .ok 7 := by decide +kernel
  exact refused key

end Chip8.CommandLine
