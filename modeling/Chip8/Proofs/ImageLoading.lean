import Chip8.Machine
import Chip8.Proofs.MemoryAccess

/-! Loading an image, which is done whole or not at all. Bytes are written one after another, but
an image that may not be written is refused at its first byte: nothing reserved comes behind a
byte of program space, and the end of memory has been looked at before. -/
namespace Chip8

structure Laid (m n : Memory) (a : Nat) (image : List UInt8) : Prop where
  inside : ∀ k < image.length, n.bytes[a + k]? = image[k]?
  outside : ∀ k, ¬(a ≤ k ∧ k < a + image.length) → n.bytes[k]? = m.bytes[k]?
  /- An empty stretch from address 0 on has no last address. -/
  dumped : 0 < a ∨ image ≠ [] → n.dump a (a + image.length - 1) = .ok image

namespace Memory

theorem readFaultInside {a : Int} (inside : 0 ≤ a ∧ a < memorySize) : readFault? a = none := by
  obtain ⟨k, rfl⟩ := Int.eq_ofNat_of_zero_le inside.1
  rw [readFault?, placeInside (Int.ofNat_lt.mp inside.2)]

theorem readFaultOutside {a : Int} (outside : a < 0 ∨ memorySize ≤ a) :
    readFault? a = some (.outOfBounds a .outside) := by
  cases a with
  | negSucc k => rfl
  | ofNat k =>
    rw [Int.ofNat_eq_natCast] at outside ⊢
    rw [readFault?, placeOutside (by omega)]

theorem loadFaultCases (size : Nat) (a : Int) : loadFault? size a =
    if a < 0 ∨ 0x1000 ≤ a then some (.outOfBounds a .outside)
    else if 0x1000 - a < size then some (.programTooLarge size (0x1000 - a))
    else if a < 0x200 ∧ size ≠ 0 then some (.outOfBounds a .reserved)
    else none := by
  have start : programStart = 512 := rfl
  have total : memorySize = 4096 := rfl
  have limit : (memorySize : Int) - a = 0x1000 - a := rfl
  by_cases outside : a < 0 ∨ 0x1000 ≤ a
  · simp only [loadFault?, readFaultOutside outside, if_pos outside]
  · obtain ⟨k, rfl⟩ := Int.eq_ofNat_of_zero_le (show 0 ≤ a by omega)
    have readable : readFault? k = none := readFaultInside (by omega)
    simp only [loadFault?, readable, limit, if_neg outside]
    split
    · rfl
    · by_cases reserved : k < programStart
      · rw [writeFaultReserved reserved]
        by_cases empty : size = 0
        · rw [if_pos empty, if_neg (by omega)]
        · rw [if_neg empty, if_pos (by omega)]
      · rw [writeFaultNone (Nat.le_of_not_lt reserved) (by omega), ite_self,
          if_neg (by omega)]

theorem storeFits (m : Memory) {a : Nat} {bytes : List UInt8} (program : programStart ≤ a)
    (fits : a + bytes.length ≤ memorySize) : m.store a bytes = (m.putAll a bytes, none) := by
  induction bytes generalizing m a with
  | nil => rfl
  | cons b rest ih =>
    rw [List.length_cons] at fits
    rw [storeNext m b rest program (by omega), putAll]
    exact ih _ (by omega) (by omega)

theorem loadChecked (m : Memory) (a : Int) (image : List UInt8) :
    m.load a image = match loadFault? image.length a with
      | some f => (m, some f)
      | none => (m.putAll a.toNat image, none) := by
  simp only [load, loadFault?]
  cases readFault? a with
  | some f => rfl
  | none =>
    by_cases large : memorySize - a < image.length
    · simp only [if_pos large]
    · simp only [if_neg large]
      cases image with
      | nil => rfl
      | cons b rest =>
        rw [if_neg (by simp)]
        cases check : writeFault? a with
        | some f => exact storeRefused m b rest check
        | none =>
          obtain ⟨program, inside⟩ := writable check
          have start : programStart = 512 := rfl
          have place : a = a.toNat := by omega
          have stored : m.store a.toNat (b :: rest) = (m.putAll a.toNat (b :: rest), none) :=
            m.storeFits program (by omega)
          rwa [← place] at stored

theorem dumpInside (m : Memory) {a n : Nat} (inside : a < memorySize)
    (last : 0 < a + n ∧ a + n ≤ memorySize) :
    m.dump a (a + n - 1 : Int) = .ok ((m.bytes.toList.drop a).take n) := by
  have first : readFault? a = none := readFaultInside (by omega)
  have final : readFault? (a + n - 1) = none := readFaultInside (by omega)
  have length : ((a : Int) + n - 1 + 1 - a).toNat = n := by omega
  simp only [dump, first, final, length, Int.toNat_natCast]

theorem putAllLaid (m : Memory) {a : Nat} {image : List UInt8} (inside : a < memorySize)
    (fits : a + image.length ≤ memorySize) : Laid m (m.putAll a image) a image := by
  have laid : ∀ k < image.length, (m.putAll a image).bytes[a + k]? = image[k]? := by
    intro k within
    rw [putAllByte m a image (by omega), overlay, if_pos (by omega), Nat.add_sub_cancel_left]
  constructor
  case inside => exact laid
  case outside =>
    intro k outside
    by_cases past : memorySize ≤ k
    · rw [Vector.getElem?_eq_none past, Vector.getElem?_eq_none past]
    · rw [putAllByte m a image (by omega), overlayOutside _ outside]
  case dumped =>
    intro ends
    have positive : 0 < a + image.length := by
      cases ends with
      | inl above => omega
      | inr nonempty =>
        have := List.length_pos_iff.mpr nonempty
        omega
    rw [dumpInside _ inside ⟨positive, fits⟩]
    refine congrArg Except.ok (List.ext_getElem? fun k => ?_)
    rw [List.getElem?_take, List.getElem?_drop, Vector.getElem?_toList]
    split
    · exact laid k (by assumption)
    · rw [List.getElem?_eq_none (by omega)]

end Memory

namespace Machine

theorem loadChecked (m : Machine) (image : List UInt8) :
    m.load image = match Memory.loadFault? image.length programStart with
      | some f => (m, some f)
      | none =>
        ({ m with
            memory := m.memory.putAll programStart image
            program := image }.report (.loaded image.length), none) := by
  rw [load, Memory.loadChecked]
  cases Memory.loadFault? image.length programStart <;> rfl

theorem loadAnswer (m : Machine) (image : List UInt8) :
    (m.load image).2 = Memory.loadFault? image.length programStart := by
  rw [loadChecked]
  cases Memory.loadFault? image.length programStart <;> rfl

theorem loadRefused {m : Machine} {image : List UInt8} {f : Fault}
    (refused : (m.load image).2 = some f) : (m.load image).1 = m := by
  rw [loadAnswer] at refused
  simp only [loadChecked, refused]

end Machine

theorem loadAllOrNothing (a : Int) (image : List UInt8) :
    (∀ m : Memory,
      if a < 0 ∨ 0x1000 ≤ a then m.load a image = (m, some (.outOfBounds a .outside))
      else if 0x1000 - a < image.length then
        m.load a image = (m, some (.programTooLarge image.length (0x1000 - a)))
      else if a < 0x200 ∧ image ≠ [] then
        m.load a image = (m, some (.outOfBounds a .reserved))
      else ∃ n, m.load a image = (n, none) ∧ Laid m n a.toNat image) ∧
    ∀ m : Machine,
      (m.load image).2 = (m.memory.load 0x200 image).2 ∧
        ∀ f, (m.load image).2 = some f → (m.load image).1 = m := by
  constructor
  case right =>
    intro m
    refine ⟨?_, fun f refused => Machine.loadRefused refused⟩
    change _ = (m.memory.load programStart image).2
    rw [m.loadAnswer, Memory.loadChecked]
    cases Memory.loadFault? image.length programStart <;> rfl
  case left =>
    intro m
    have checked := m.loadChecked a image
    rw [Memory.loadFaultCases] at checked
    split
    case isTrue outside => rwa [if_pos outside] at checked
    case isFalse inside =>
      rw [if_neg inside] at checked
      split
      case isTrue large => rwa [if_pos large] at checked
      case isFalse fits =>
        rw [if_neg fits] at checked
        have empty : image.length = 0 ↔ image = [] := List.length_eq_zero_iff
        split
        case isTrue reserved =>
          rwa [if_pos ⟨reserved.1, mt empty.mp reserved.2⟩] at checked
        case isFalse free =>
          rw [if_neg fun reserved => free ⟨reserved.1, mt empty.mpr reserved.2⟩] at checked
          have total : memorySize = 4096 := rfl
          exact ⟨_, checked, m.putAllLaid (by omega) (by omega)⟩

end Chip8
