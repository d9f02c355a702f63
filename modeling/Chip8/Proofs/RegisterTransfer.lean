import Chip8.Proofs.PowerCycle
import Chip8.Proofs.WriteSet

/-! Registers to memory and back. Both ways byte for byte from I on, in the order of the
registers, so that each undoes the other; I is moved when all is done, or not at all. -/
namespace Chip8

/- What storing V0 to VX from `base` on, and loading them from there, come to. The machine that
does the second of the two may be any that has the memory the first has left, I at `base` again,
and, to store, the registers that were loaded. -/
structure Transferred (m : Machine) (x : Fin 16) (base : Nat) : Prop where
  stored : (m.storeRegisters? x).2 = none
  loaded : (m.loadRegisters? x).2 = none
  storedIndex : (m.storeRegisters? x).1.registers.index.toNat =
    if m.dialect.keepIndex then base else base + x.val + 1
  loadedIndex : (m.loadRegisters? x).1.registers.index.toNat =
    if m.dialect.keepIndex then base else base + x.val + 1
  restored : ∀ n : Machine, n.memory = (m.storeRegisters? x).1.memory →
    n.registers.index.toNat = base → ∃ after, n.loadRegisters? x = (after, none) ∧
      (∀ y ≤ x, after.v y = m.v y) ∧ (∀ y, x < y → after.v y = n.v y) ∧
      ∀ a, ¬(base ≤ a ∧ a ≤ base + x.val) → after.memory.bytes[a]? = m.memory.bytes[a]?
  returned : ∀ n : Machine, n.memory = (m.loadRegisters? x).1.memory →
    (∀ y ≤ x, n.v y = (m.loadRegisters? x).1.v y) → n.registers.index.toNat = base →
      ∃ after, n.storeRegisters? x = (after, none) ∧ after.memory = m.memory

structure DigitsStored (m : Machine) (x : Fin 16) (base : Nat) (n : Machine) : Prop where
  digits : ∃ h t o : UInt8, n.memory.bytes[base]? = some h ∧ n.memory.bytes[base + 1]? = some t ∧
    n.memory.bytes[base + 2]? = some o ∧ h.toNat ≤ 9 ∧ t.toNat ≤ 9 ∧ o.toNat ≤ 9 ∧
    100 * h.toNat + 10 * t.toNat + o.toNat = (m.v x).toNat
  others : ∀ a, ¬(base ≤ a ∧ a ≤ base + 2) → n.memory.bytes[a]? = m.memory.bytes[a]?

namespace Arithmetic

theorem digitsValue {a h t o : UInt8} (split : digits a = (h, t, o)) :
    h.toNat ≤ 9 ∧ t.toNat ≤ 9 ∧ o.toNat ≤ 9 ∧
      100 * h.toNat + 10 * t.toNat + o.toNat = a.toNat := by
  cases split
  have bound := a.toNat_lt
  have hundred : (100 : UInt8).toNat = 100 := rfl
  have ten : (10 : UInt8).toNat = 10 := rfl
  rw [UInt8.toNat_div, UInt8.toNat_mod, UInt8.toNat_mod, UInt8.toNat_div, hundred, ten]
  omega

end Arithmetic

namespace Registers

theorem firstLength (r : Registers) (x : Fin 16) : (r.first (x.val + 1)).length = x.val + 1 := by
  rw [first, List.length_take, Vector.length_toList]
  omega

theorem firstByte (r : Registers) {x y : Fin 16} (within : y ≤ x) :
    (r.first (x.val + 1))[y.val]? = some (r.get y) := by
  rw [first, List.getElem?_take_of_lt (Nat.lt_succ_of_le within), Vector.getElem?_toList]
  exact Vector.getElem?_eq_getElem y.isLt

end Registers

namespace Machine
variable {m : Machine} {x : Fin 16} {base : Nat}

theorem passIndexV (m : Machine) (x y : Fin 16) : (m.passIndex x).v y = m.v y := by
  obtain ⟨_, passed, _⟩ := m.passIndexRest x
  rw [passed]
  rfl

theorem loadMemory (m : Machine) (x : Fin 16) : (m.loadRegisters? x).1.memory = m.memory := by
  obtain ⟨_, _, loaded, _⟩ := m.loadRest x
  rw [loaded]

section
variable (index : m.registers.index.toNat = base) (program : programStart ≤ base)
  (fits : base + x.val < memorySize)
include index fits

theorem passIndexValue : (m.passIndex x).registers.index.toNat =
    if m.dialect.keepIndex then base else base + x.val + 1 := by
  unfold passIndex
  split
  · exact index
  · have total : memorySize = 4096 := rfl
    have moved : (wordOf ((x.val : Int) + 1)).toNat = x.val + 1 := by
      rw [wordOf, UInt16.toNat_ofNat']
      omega
    change (m.registers.index + wordOf ((x.val : Int) + 1)).toNat = _
    rw [UInt16.toNat_add, moved]
    omega

theorem loadWhole : m.loadRegisters? x =
    ({ m with registers := m.registers.setFrom 0 (m.memory.fetch base (x.val + 1)).1 }.passIndex x,
      none) := by
  have fault : (m.memory.fetch base (x.val + 1)).2 = none := by
    rw [Memory.fetchFault, if_neg (by omega)]
  simp only [loadRegisters?, index, fault]
  rfl

theorem loadedByte {y : Fin 16} (within : y ≤ x) :
    some ((m.loadRegisters? x).1.v y) = m.memory.bytes[base + y.val]? := by
  have size : m.memory.bytes.toList.length = memorySize := m.memory.bytes.length_toList
  have last : y.val ≤ x.val := within
  rw [loadWhole index fits, passIndexV]
  have byte := m.registers.setFromByte 0 (m.memory.fetch base (x.val + 1)).1 y.isLt
  rw [Memory.fetchBytes] at byte ⊢
  rw [Vector.getElem?_eq_getElem y.isLt, overlay, List.length_take, List.length_drop,
    if_pos (by omega), Nat.sub_zero, List.getElem?_take_of_lt (by omega), List.getElem?_drop,
    Vector.getElem?_toList] at byte
  exact byte

include program

theorem storeWhole : m.storeRegisters? x =
    ({ m with memory := m.memory.putAll base (m.registers.first (x.val + 1)) }.passIndex x,
      none) := by
  have room : base + (m.registers.first (x.val + 1)).length ≤ memorySize := by
    rw [Registers.firstLength]
    omega
  simp only [storeRegisters?, index, m.memory.storeFits program room]
  rfl

theorem storedLaid : Laid m.memory (m.storeRegisters? x).1.memory base
    (m.registers.first (x.val + 1)) := by
  rw [storeWhole index program fits, passIndexMemory]
  refine m.memory.putAllLaid (by omega) ?_
  rw [Registers.firstLength]
  omega

theorem storedByte {y : Fin 16} (within : y ≤ x) :
    (m.storeRegisters? x).1.memory.bytes[base + y.val]? = some (m.v y) := by
  have last : y.val ≤ x.val := within
  rw [(storedLaid index program fits).inside y.val (by rw [Registers.firstLength]; omega)]
  exact m.registers.firstByte within

theorem storedOutside {a : Nat} (outside : ¬(base ≤ a ∧ a ≤ base + x.val)) :
    (m.storeRegisters? x).1.memory.bytes[a]? = m.memory.bytes[a]? := by
  apply (storedLaid index program fits).outside
  rw [Registers.firstLength]
  omega

theorem transferred : Transferred m x base where
  stored := by rw [storeWhole index program fits]
  loaded := by rw [loadWhole index fits]
  storedIndex := by
    rw [storeWhole index program fits]
    exact passIndexValue index fits
  loadedIndex := by
    rw [loadWhole index fits, Registers.setFromRest]
    exact passIndexValue index fits
  restored := by
    intro n memory place
    refine ⟨(n.loadRegisters? x).1, by rw [loadWhole place fits], ?_, ?_, ?_⟩
    · intro y within
      apply Option.some.inj
      rw [loadedByte place fits within, memory, storedByte index program fits within]
    · intro y above
      exact n.loadOther (by simpa using above)
    · intro a outside
      rw [loadMemory, memory, storedOutside index program fits outside]
  returned := by
    intro n memory registers place
    rw [loadMemory] at memory
    refine ⟨(n.storeRegisters? x).1, by rw [storeWhole place program fits], ?_⟩
    refine Memory.alike fun a inside => ?_
    by_cases moved : base ≤ a ∧ a ≤ base + x.val
    · obtain ⟨y, rfl⟩ := Nat.exists_eq_add_of_le moved.1
      have within : (⟨y, by omega⟩ : Fin 16) ≤ x := Nat.le_of_add_le_add_left moved.2
      rw [storedByte place program fits within, registers _ within,
        loadedByte index fits within]
    · rw [storedOutside place program fits moved, memory]

end

theorem digitsStored (index : m.registers.index.toNat = base) (program : programStart ≤ base)
    (fits : base + 2 < memorySize) (x : Fin 16) :
    ∃ n, m.storeDigits? x = (n, none) ∧ DigitsStored m x base n := by
  obtain ⟨h, t, o, split⟩ : ∃ h t o, Arithmetic.digits (m.v x) = (h, t, o) := ⟨_, _, _, rfl⟩
  have room : base + [h, t, o].length ≤ memorySize := fits
  have laid : Laid m.memory (m.memory.putAll base [h, t, o]) base [h, t, o] :=
    m.memory.putAllLaid (by omega) room
  refine ⟨{ m with memory := m.memory.putAll base [h, t, o] }, ?_, ?_, ?_⟩
  · simp only [storeDigits?, index, split, m.memory.storeFits program room]
  · exact ⟨h, t, o, laid.inside 0 (by simp), laid.inside 1 (by simp),
      laid.inside 2 (by simp), Arithmetic.digitsValue split⟩
  · intro a outside
    exact laid.outside a fun inside => outside ⟨inside.1, Nat.le_of_lt_succ inside.2⟩

end Machine

theorem registersTransferred {m : Machine} {base : Nat}
    (index : m.registers.index.toNat = base) (program : 0x200 ≤ base) :
    (∀ x : Fin 16, base + x.val ≤ 0xFFF → Transferred m x base) ∧
      (base + 2 ≤ 0xFFF → ∀ x, ∃ n, m.storeDigits? x = (n, none) ∧ DigitsStored m x base n) :=
  ⟨fun _ fits => Machine.transferred index program (Nat.lt_succ_of_le fits),
    fun fits => Machine.digitsStored index program (Nat.lt_succ_of_le fits)⟩

def brimming : Machine :=
  (idleSession.after
    [.host (.setIndex 0xFF0), .host (.setV 0 207), .host (.setV 15 9)]).machine

theorem brimTransferred :
    brimming.registers.index.toNat = 0xFF0 ∧ 0x200 ≤ 0xFF0 ∧ Transferred brimming 15 0xFF0 ∧
      ∃ n, brimming.storeDigits? 0 = (n, none) ∧ DigitsStored brimming 0 0xFF0 n := by
  have placed : brimming.registers.index.toNat = 0xFF0 := rfl
  have program : 0x200 ≤ 0xFF0 := by decide
  obtain ⟨transferred, digits⟩ := registersTransferred placed program
  exact ⟨placed, program, transferred 15 (by decide), digits (by decide) 0⟩

end Chip8
