import Chip8.Registers
import Mathlib.Tactic.Common

/-! What reads, writes and loads do, byte by byte. A run of bytes is read or written up to the
first address that refuses it, so both have a closed form: the part of the run that lies in
range, and the fault of the first address behind it. -/
namespace Chip8

def overlay (old : Nat → Option UInt8) (a : Nat) (bytes : List UInt8) (n : Nat) :
    Option UInt8 :=
  if a ≤ n ∧ n < a + bytes.length then bytes[n - a]? else old n

theorem overlayOutside (old : Nat → Option UInt8) {a n : Nat} {bytes : List UInt8}
    (outside : ¬(a ≤ n ∧ n < a + bytes.length)) : overlay old a bytes n = old n :=
  if_neg outside

theorem overlayNil (old : Nat → Option UInt8) (a n : Nat) : overlay old a [] n = old n := by
  apply overlayOutside
  rw [List.length_nil]
  omega

theorem overlayCons {old next : Nat → Option UInt8} {a n : Nat} {b : UInt8} (rest : List UInt8)
    (written : next n = if a = n then some b else old n) :
    overlay next (a + 1) rest n = overlay old a (b :: rest) n := by
  have length : (b :: rest).length = rest.length + 1 := rfl
  unfold overlay
  rw [written]
  by_cases here : a = n
  · subst here
    rw [if_neg (by omega), if_pos rfl, if_pos (by omega), Nat.sub_self, List.getElem?_cons_zero]
  · rw [if_neg here]
    by_cases later : a + 1 ≤ n ∧ n < a + 1 + rest.length
    · have shift : n - a = n - (a + 1) + 1 := by omega
      rw [if_pos later, if_pos (by omega), shift, List.getElem?_cons_succ]
    · rw [if_neg later, if_neg (by omega)]

namespace Memory

theorem placeInside {a : Nat} (inside : a < memorySize) : place? a = some ⟨a, inside⟩ :=
  dif_pos inside

theorem placeOutside {a : Nat} (outside : memorySize ≤ a) : place? a = none :=
  dif_neg (Nat.not_lt.mpr outside)

theorem readInside (m : Memory) {a : Nat} (inside : a < memorySize) :
    m.read a = .ok m.bytes[a] := by
  simp only [read, placeInside inside]
  rfl

theorem readOutside (m : Memory) {a : Nat} (outside : memorySize ≤ a) :
    m.read a = .error (.outOfBounds a .outside) := by
  simp only [read, placeOutside outside]

def wordAt (m : Memory) (a : Nat) (h : a + 1 < memorySize) : UInt16 :=
  UInt16.ofNat (256 * (m.bytes[a]).toNat + (m.bytes[a + 1]).toNat)

theorem joinBytes (high low : UInt8) :
    high.toUInt16 <<< 8 ||| low.toUInt16 = UInt16.ofNat (256 * high.toNat + low.toNat) := by
  have hh := high.toNat_lt
  have hl := low.toNat_lt
  apply UInt16.toNat_inj.mp
  have shifted : (high.toUInt16 <<< 8).toNat = high.toNat <<< 8 := by
    simp [UInt16.toNat_shiftLeft, Nat.shiftLeft_eq]
    omega
  rw [UInt16.toNat_or, shifted, UInt8.toNat_toUInt16, UInt16.toNat_ofNat',
    ← Nat.shiftLeft_add_eq_or_of_lt hl, Nat.shiftLeft_eq]
  omega

theorem readWordInside (m : Memory) {a : Nat} (inside : a + 1 < memorySize) :
    m.readWord a = .ok (m.wordAt a inside) := by
  have second : m.read ((a : Int) + 1) = .ok m.bytes[a + 1] := m.readInside inside
  simp only [readWord, m.readInside (Nat.lt_of_succ_lt inside), second, joinBytes, wordAt]

theorem readWordOutside (m : Memory) {a : Nat} (outside : memorySize ≤ a + 1) :
    m.readWord a = .error (.outOfBounds (max a memorySize : Nat) .outside) := by
  by_cases first : a < memorySize
  · have last : max a memorySize = a + 1 := by omega
    have second : m.read ((a : Int) + 1) = .error (.outOfBounds (a + 1 : Nat) .outside) :=
      m.readOutside outside
    simp only [readWord, m.readInside first, second, last]
  · have here : max a memorySize = a := by omega
    simp only [readWord, m.readOutside (Nat.le_of_not_lt first), here]

theorem writeFaultOutside {a : Nat} (outside : memorySize ≤ a) :
    writeFault? a = some (.outOfBounds a .outside) := by
  simp only [writeFault?, regionOf, placeOutside outside]

theorem writeFaultReserved {a : Nat} (reserved : a < programStart) :
    writeFault? a = some (.outOfBounds a .reserved) := by
  have inside : a < memorySize := Nat.lt_trans reserved (by decide)
  simp only [writeFault?, regionOf, placeInside inside, if_pos reserved]
  rfl

theorem writeFaultNone {a : Nat} (program : programStart ≤ a) (inside : a < memorySize) :
    writeFault? a = none := by
  simp only [writeFault?, regionOf, placeInside inside, if_neg (Nat.not_lt.mpr program)]
  rfl

theorem writable {a : Int} (accepted : writeFault? a = none) :
    programStart ≤ a.toNat ∧ a.toNat < memorySize := by
  cases a with
  | negSucc n => simp [writeFault?, regionOf, place?] at accepted
  | ofNat n =>
    change writeFault? (n : Int) = none at accepted
    change programStart ≤ n ∧ n < memorySize
    by_cases outside : memorySize ≤ n
    · simp [writeFaultOutside outside] at accepted
    · by_cases reserved : n < programStart
      · simp [writeFaultReserved reserved] at accepted
      · omega

theorem putByte (m : Memory) (a n : Nat) (b : UInt8) (inside : n < memorySize) :
    (m.put a b).bytes[n]? = if a = n then some b else m.bytes[n]? := by
  rw [Vector.getElem?_eq_getElem inside, Vector.getElem?_eq_getElem inside, getElemPut]
  split <;> rfl

theorem putAllByte (m : Memory) (a : Nat) (bytes : List UInt8) {n : Nat}
    (inside : n < memorySize) :
    (m.putAll a bytes).bytes[n]? = overlay (m.bytes[·]?) a bytes n := by
  induction bytes generalizing m a with
  | nil => exact (overlayNil _ a n).symm
  | cons b rest ih =>
    rw [putAll, ih]
    exact overlayCons rest (putByte m a n b inside)

theorem storeRefused {a : Int} {f : Fault} (m : Memory) (b : UInt8) (rest : List UInt8)
    (refused : writeFault? a = some f) : m.store a (b :: rest) = (m, some f) := by
  simp only [store, refused]

theorem storeAccepted {a : Int} (m : Memory) (b : UInt8) (rest : List UInt8)
    (accepted : writeFault? a = none) :
    m.store a (b :: rest) = (m.put a.toNat b).store (a + 1) rest := by
  simp only [store, accepted]

theorem storeBelow (m : Memory) (a : Int) (bytes : List UInt8) {n : Nat}
    (below : n < programStart) : (m.store a bytes).1.bytes[n]? = m.bytes[n]? := by
  induction bytes generalizing m a with
  | nil => rfl
  | cons b rest ih =>
    cases check : writeFault? a with
    | some f => rw [storeRefused m b rest check]
    | none =>
      have bounds := writable check
      rw [storeAccepted m b rest check, ih, putByte _ _ _ _ (by omega), if_neg (by omega)]

theorem putAllBelow (m : Memory) (bytes : List UInt8) {n : Nat} (below : n < programStart) :
    (m.putAll programStart bytes).bytes[n]? = m.bytes[n]? := by
  rw [putAllByte _ _ _ (Nat.lt_trans below (by decide)), overlayOutside _ (by omega)]

theorem storeNext (m : Memory) {a : Nat} (b : UInt8) (rest : List UInt8)
    (program : programStart ≤ a) (inside : a < memorySize) :
    m.store a (b :: rest) = (m.put a b).store (a + 1 : Nat) rest :=
  storeAccepted m b rest (writeFaultNone program inside)

theorem storeByte (m : Memory) {a : Nat} (bytes : List UInt8) {n : Nat}
    (program : programStart ≤ a) (inside : n < memorySize) :
    (m.store a bytes).1.bytes[n]? = overlay (m.bytes[·]?) a bytes n := by
  induction bytes generalizing m a with
  | nil => exact (overlayNil _ a n).symm
  | cons b rest ih =>
    by_cases fits : a < memorySize
    · rw [storeNext m b rest program fits, ih _ (by omega)]
      exact overlayCons rest (putByte m a n b inside)
    · rw [storeRefused m b rest (writeFaultOutside (Nat.le_of_not_lt fits)),
        overlayOutside _ (by omega)]

theorem storeReserved (m : Memory) {a : Nat} (b : UInt8) (rest : List UInt8)
    (reserved : a < programStart) :
    m.store a (b :: rest) = (m, some (.outOfBounds a .reserved)) :=
  storeRefused m b rest (writeFaultReserved reserved)

theorem storeOutside (m : Memory) {a : Nat} (bytes : List UInt8) {n : Nat}
    (outside : ¬(a ≤ n ∧ n < a + bytes.length)) :
    (m.store a bytes).1.bytes[n]? = m.bytes[n]? := by
  by_cases inside : n < memorySize
  · by_cases program : programStart ≤ a
    · rw [m.storeByte bytes program inside, overlayOutside _ outside]
    · cases bytes with
      | nil => rfl
      | cons b rest => rw [m.storeReserved b rest (Nat.lt_of_not_le program)]
  · have past : memorySize ≤ n := Nat.le_of_not_lt inside
    rw [Vector.getElem?_eq_none past, Vector.getElem?_eq_none past]

theorem storeFault (m : Memory) {a : Nat} (bytes : List UInt8) (program : programStart ≤ a)
    (nonempty : bytes ≠ []) :
    (m.store a bytes).2 =
      if memorySize < a + bytes.length then
        some (.outOfBounds (max a memorySize : Nat) .outside)
      else none := by
  induction bytes generalizing m a with
  | nil => contradiction
  | cons b rest ih =>
    have length : (b :: rest).length = rest.length + 1 := rfl
    by_cases fits : a < memorySize
    · rw [storeNext m b rest program fits]
      cases rest with
      | nil =>
        have last : ¬memorySize < a + [b].length := by
          rw [List.length_singleton]
          omega
        rw [if_neg last]
        rfl
      | cons c tail =>
        have later := ih (m.put a b) (a := a + 1) (by omega) (by simp)
        have highest : max (a + 1) memorySize = max a memorySize := by omega
        rw [later, highest, length, Nat.add_assoc a 1, Nat.add_comm 1]
    · have here : max a memorySize = a := by omega
      rw [storeRefused m b rest (writeFaultOutside (Nat.le_of_not_lt fits)), if_pos (by omega),
        here]

theorem fetchRefused (m : Memory) {a : Nat} (n : Nat) (outside : memorySize ≤ a) :
    m.fetch a (n + 1) = ([], some (.outOfBounds a .outside)) := by
  simp only [fetch, m.readOutside outside]

theorem fetchNext (m : Memory) {a : Nat} (n : Nat) (inside : a < memorySize) :
    m.fetch a (n + 1) =
      (m.bytes[a] :: (m.fetch (a + 1 : Nat) n).1, (m.fetch (a + 1 : Nat) n).2) := by
  simp only [fetch, m.readInside inside]
  rfl

theorem fetchBytes (m : Memory) (a n : Nat) :
    (m.fetch a n).1 = (m.bytes.toList.drop a).take n := by
  induction n generalizing a with
  | zero => rfl
  | succ n ih =>
    have size : m.bytes.toList.length = memorySize := m.bytes.length_toList
    by_cases inside : a < memorySize
    · have within : a < m.bytes.toList.length := by omega
      rw [fetchNext m n inside, ih, List.drop_eq_getElem_cons within, List.take_succ_cons,
        Vector.getElem_toList]
    · rw [fetchRefused m n (Nat.le_of_not_lt inside), List.drop_eq_nil_of_le (by omega),
        List.take_nil]

theorem fetchFault (m : Memory) (a n : Nat) :
    (m.fetch a n).2 =
      if 0 < n ∧ memorySize < a + n then some (.outOfBounds (max a memorySize : Nat) .outside)
      else none := by
  induction n generalizing a with
  | zero => rfl
  | succ n ih =>
    by_cases inside : a < memorySize
    · have highest : max (a + 1) memorySize = max a memorySize := by omega
      have same : (0 < n ∧ memorySize < a + 1 + n) = (0 < n + 1 ∧ memorySize < a + (n + 1)) := by
        apply propext
        omega
      rw [fetchNext m n inside, ih, highest]
      simp only [same]
    · have here : max a memorySize = a := by omega
      rw [fetchRefused m n (Nat.le_of_not_lt inside), if_pos (by omega), here]

end Memory

namespace Registers

theorem setFromRest (r : Registers) (x : Nat) (bytes : List UInt8) :
    r.setFrom x bytes = { r with v := (r.setFrom x bytes).v } := by
  induction bytes generalizing r x with
  | nil => rfl
  | cons b rest ih => rw [setFrom, ih]

theorem setFromByte (r : Registers) (x : Nat) (bytes : List UInt8) {n : Nat} (inside : n < 16) :
    (r.setFrom x bytes).v[n]? = overlay (r.v[·]?) x bytes n := by
  induction bytes generalizing r x with
  | nil => exact (overlayNil _ x n).symm
  | cons b rest ih =>
    rw [setFrom, ih]
    apply overlayCons
    rw [Vector.getElem?_setIfInBounds]
    split <;> simp_all

end Registers
end Chip8
