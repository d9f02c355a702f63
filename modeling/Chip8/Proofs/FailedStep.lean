import Chip8.Proofs.StepFault

/-! What a failing step leaves behind. Only loads and stores have done anything by the time they
fail: the bytes up to the end of memory have been moved, none beyond. -/
namespace Chip8.Machine

def leftBy (m : Machine) (i : Instruction) : Machine :=
  match i.opcode with
  | .storeDigits | .storeRegisters =>
    { m with memory := (m.memory.store m.registers.index.toNat (m.outgoing i)).1 }
  | .loadRegisters =>
    { m with
      registers := m.registers.setFrom 0
        (m.memory.fetch m.registers.index.toNat (i.x.val + 1)).1 }
  | _ => m

theorem executeFailed {m n : Machine} {i : Instruction} {f : Fault}
    (executed : m.execute i = (n, some f)) : n = m.leftBy i := by
  have due : m.dueFault? i = some f := by rw [← executeFault, executed]
  have left : (m.execute i).1 = n := by rw [executed]
  rw [← left]
  cases named : i.opcode <;> simp only [dueFault?, named] at due <;> try contradiction
  all_goals simp only [execute, leftBy, named]
  case ret =>
    split at due <;> try contradiction
    rename_i empty
    simp only [ret?, Registers.pop, empty]
  case call =>
    split at due <;> try contradiction
    rename_i full
    simp only [call?, Registers.push, if_pos full]
  case draw =>
    have read := m.memory.fetchFault m.registers.index.toNat i.n
    simp only [incoming, named, readDue?] at due
    rw [due] at read
    unfold draw?
    split
    · rfl
    · rename_i fetched
      rw [fetched] at read
      contradiction
  case storeDigits =>
    simp only [storeDigits?, outgoing, named]
    rfl
  case storeRegisters =>
    have stored := congrArg Prod.snd executed
    simp only [execute, named, storeRegisters?] at stored
    simp only [storeRegisters?, stored, outgoingRegisters named]
    rfl
  case loadRegisters =>
    have loaded := congrArg Prod.snd executed
    simp only [execute, named, loadRegisters?] at loaded
    simp only [loadRegisters?, loaded]
    rfl

def remains (m : Machine) : Machine :=
  match m.current? with
  | some i => (m.begun i).leftBy i
  | none => if m.registers.pc.toNat + 1 < memorySize then m.advance else m

theorem stepFailed {m n : Machine} {f : Fault} (running : m.haltedBy = none)
    (failed : m.step = (n, .error f)) :
    (∃ journal, n = { m.remains with haltedBy := some f, fault := some f, journal }) ∧
      ∀ i, m.current? = some i → (m.begun i).dueFault? i = some f := by
  cases stage m with
  | halted halt result =>
    rw [running] at halt
    contradiction
  | unfetched running past result =>
    have absent : m.current? = none := dif_neg (Nat.not_lt.mpr past)
    simp only [remains, absent, if_neg (Nat.not_lt.mpr past)]
    rw [result] at failed
    cases failed
    exact ⟨⟨_, rfl⟩, fun i current => by contradiction⟩
  | unknown running inside undecoded result =>
    have absent : m.current? = none := by rw [current?, dif_pos inside, undecoded]
    simp only [remains, absent, if_pos inside]
    rw [result] at failed
    unfold meetUnknown at failed
    split at failed
    · simp at failed
    · cases failed
      exact ⟨⟨_, rfl⟩, fun i current => by contradiction⟩
  | @failed i left g running current executed result =>
    have due := executeFault (m.begun i) i
    rw [executed] at due
    simp only [remains, current, ← executeFailed executed]
    rw [result] at failed
    cases failed
    refine ⟨⟨_, rfl⟩, ?_⟩
    rintro _ ⟨⟩
    exact due.symm
  | done running current executed result =>
    rw [result] at failed
    simp at failed

theorem leftByRest (m : Machine) (i : Instruction) :
    ∃ v memory, m.leftBy i = { m with registers := { m.registers with v }, memory } := by
  unfold leftBy
  split
  · exact ⟨_, _, rfl⟩
  · exact ⟨_, _, rfl⟩
  · rw [Registers.setFromRest]
    exact ⟨_, _, rfl⟩
  · exact ⟨_, _, rfl⟩

theorem remainsRest (m : Machine) :
    ∃ v memory journal, m.remains =
      { m with
        registers :=
          { m.registers with
            v
            pc :=
              if m.registers.pc.toNat + 1 < memorySize then m.registers.pc + 2
              else m.registers.pc }
        memory
        journal } := by
  unfold remains
  split
  · rename_i i current
    obtain ⟨inside, _⟩ := currentInside current
    obtain ⟨v, memory, left⟩ := leftByRest (m.begun i) i
    rw [left, if_pos inside]
    exact ⟨v, memory, _, rfl⟩
  · split
    · exact ⟨_, _, _, rfl⟩
    · exact ⟨_, _, _, rfl⟩

def Stores (i : Instruction) : Prop := i.opcode = .storeDigits ∨ i.opcode = .storeRegisters

theorem failedRest {m n : Machine} {f : Fault} (running : m.haltedBy = none)
    (failed : m.step = (n, .error f)) :
    ∃ v pc memory journal, n =
      { m with
        registers := { m.registers with v, pc }
        memory, journal
        haltedBy := some f
        fault := some f } := by
  obtain ⟨⟨journal, left⟩, _⟩ := stepFailed running failed
  obtain ⟨v, memory, record, rest⟩ := m.remainsRest
  rw [rest] at left
  exact ⟨_, _, _, _, left⟩

theorem storeDueSize {m : Machine} {i : Instruction} {f : Fault} (stores : Stores i)
    (due : m.dueFault? i = some f) :
    m.outgoing i ≠ [] ∧ (m.registers.index.toNat < programStart ∨
      memorySize < m.registers.index.toNat + (m.outgoing i).length) := by
  have refused : storeDue? m.registers.index.toNat (m.outgoing i).length = some f := by
    obtain stores | stores := stores <;> simpa only [dueFault?, stores] using due
  have nonempty : m.outgoing i ≠ [] := by
    obtain stores | stores := stores
    · simp [outgoing, stores]
    · exact List.ne_nil_of_length_pos (by rw [outgoingRegistersLength stores]; omega)
  refine ⟨nonempty, ?_⟩
  unfold storeDue? at refused
  split at refused
  · exact .inl (by assumption)
  · split at refused
    · exact .inr (by assumption)
    · contradiction

theorem leftByMemory {m : Machine} {i : Instruction} {f : Fault} (stores : Stores i)
    (due : m.dueFault? i = some f) {a : Nat} (inside : a < memorySize) :
    (m.leftBy i).memory.bytes[a]? =
      if 0x200 ≤ m.registers.index.toNat ∧ m.registers.index.toNat ≤ a then
        (m.outgoing i)[a - m.registers.index.toNat]?
      else m.memory.bytes[a]? := by
  have left : (m.leftBy i).memory =
      (m.memory.store m.registers.index.toNat (m.outgoing i)).1 := by
    obtain stores | stores := stores <;> simp only [leftBy, stores]
  obtain ⟨nonempty, refused⟩ := storeDueSize stores due
  rw [left]
  by_cases reserved : m.registers.index.toNat < programStart
  · obtain ⟨b, rest, bytes⟩ := List.exists_cons_of_ne_nil nonempty
    have below : ¬(0x200 ≤ m.registers.index.toNat ∧ m.registers.index.toNat ≤ a) :=
      fun both => absurd both.1 (Nat.not_le.mpr reserved)
    rw [bytes, m.memory.storeReserved b rest reserved, if_neg below]
  · have program := Nat.le_of_not_lt reserved
    have past := refused.resolve_left reserved
    have covered : (m.registers.index.toNat ≤ a ∧
        a < m.registers.index.toNat + (m.outgoing i).length) =
          (0x200 ≤ m.registers.index.toNat ∧ m.registers.index.toNat ≤ a) := by
      have start : programStart = 512 := rfl
      apply propext
      omega
    rw [m.memory.storeByte _ program inside, overlay]
    simp only [covered]

theorem leftByLoaded {m : Machine} {i : Instruction} {f : Fault}
    (loads : i.opcode = .loadRegisters) (due : m.dueFault? i = some f) {x : Nat}
    (inside : x < 16) :
    (m.leftBy i).registers.v[x]? =
      if m.registers.index.toNat + x ≤ 0xFFF then
        m.memory.bytes[m.registers.index.toNat + x]?
      else m.registers.v[x]? := by
  have size : memorySize = 4096 := rfl
  have listed : m.memory.bytes.toList.length = memorySize := m.memory.bytes.length_toList
  simp only [dueFault?, loads, incoming] at due
  obtain ⟨_, past, _⟩ := readDueSome.mp due
  simp only [leftBy, loads]
  rw [Registers.setFromByte _ _ _ inside, Memory.fetchBytes, overlay]
  have covered : (0 ≤ x ∧ x < 0 + ((m.memory.bytes.toList.drop m.registers.index.toNat).take
      (i.x.val + 1)).length) = (m.registers.index.toNat + x ≤ 0xFFF) := by
    rw [List.length_take, List.length_drop, listed]
    apply propext
    omega
  simp only [covered]
  split
  · rw [List.getElem?_take, if_pos (by omega), List.getElem?_drop, Vector.getElem?_toList,
      Nat.sub_zero]
  · rfl

theorem remainsKnown {m : Machine} {i : Instruction} (current : m.current? = some i) :
    m.remains = (m.begun i).leftBy i := by
  simp only [remains, current]

theorem remainsMemory {m : Machine} (unstored : ∀ i, m.current? = some i → ¬Stores i) :
    m.remains.memory = m.memory := by
  cases current : m.current? with
  | none =>
    simp only [remains, current]
    split <;> rfl
  | some i =>
    have other := unstored i current
    rw [remainsKnown current]
    unfold leftBy
    split
    · exact absurd (.inl (by assumption)) other
    · exact absurd (.inr (by assumption)) other
    · rfl
    · rfl

theorem remainsV {m : Machine}
    (unloaded : ∀ i, m.current? = some i → i.opcode ≠ .loadRegisters) :
    m.remains.registers.v = m.registers.v := by
  cases current : m.current? with
  | none =>
    simp only [remains, current]
    split <;> rfl
  | some i =>
    have other := unloaded i current
    rw [remainsKnown current]
    unfold leftBy
    split
    · rfl
    · rfl
    · contradiction
    · rfl

end Chip8.Machine

namespace Chip8
open Machine (Stores)

structure FailedStep (m n : Machine) (f : Fault) : Prop where
  halted : n.halted = true
  haltedBy : n.haltedBy = some f
  fault : n.fault = some f
  dialect : n.dialect = m.dialect
  skipUnknown : n.skipUnknown = m.skipUnknown
  program : n.program = m.program
  steps : n.steps = m.steps
  index : n.registers.index = m.registers.index
  stack : n.registers.stack = m.registers.stack
  screen : n.screen = m.screen
  keypad : n.keypad = m.keypad
  timers : n.timers = m.timers
  generator : n.generator = m.generator
  unfetched : 0xFFF ≤ m.registers.pc.toNat → n.registers.pc = m.registers.pc
  fetched : m.registers.pc.toNat < 0xFFF → n.registers.pc.toNat = m.registers.pc.toNat + 2
  memory : (∀ i, m.current? = some i → ¬Stores i) → n.memory = m.memory
  stored : ∀ i, m.current? = some i → Stores i → ∀ a < 4096,
    n.memory.bytes[a]? =
      if 0x200 ≤ m.registers.index.toNat ∧ m.registers.index.toNat ≤ a then
        (m.outgoing i)[a - m.registers.index.toNat]?
      else m.memory.bytes[a]?
  registers : (∀ i, m.current? = some i → i.opcode ≠ .loadRegisters) →
    n.registers.v = m.registers.v
  loaded : ∀ i, m.current? = some i → i.opcode = .loadRegisters → ∀ x < 16,
    n.registers.v[x]? =
      if m.registers.index.toNat + x ≤ 0xFFF then
        m.memory.bytes[m.registers.index.toNat + x]?
      else m.registers.v[x]?
  drawn : ∀ i, m.current? = some i → i.opcode = .draw →
    n.screen = m.screen ∧ n.registers.vf = m.registers.vf

theorem stepFailure {m n : Machine} {f : Fault} (running : m.halted = false)
    (failed : m.step = (n, .error f)) : FailedStep m n f := by
  have unhalted : m.haltedBy = none := by simpa [Machine.halted] using running
  obtain ⟨⟨journal, left⟩, due⟩ := Machine.stepFailed unhalted failed
  obtain ⟨v, memory, record, rest⟩ := m.remainsRest
  have size : memorySize = 4096 := rfl
  have vKept (unloaded : ∀ i, m.current? = some i → i.opcode ≠ .loadRegisters) :
      n.registers.v = m.registers.v := by
    rw [left]
    exact Machine.remainsV unloaded
  have screenKept : n.screen = m.screen := by rw [left, rest]
  constructor
  case halted =>
    rw [left]
    rfl
  case haltedBy | fault => rw [left]
  case unfetched =>
    intro past
    rw [left, rest]
    exact if_neg (by omega)
  case fetched =>
    intro before
    have inside : m.registers.pc.toNat + 1 < memorySize := by omega
    rw [left, rest]
    simp only [if_pos inside]
    exact Machine.passedPc inside
  case memory =>
    intro unstored
    rw [left]
    exact Machine.remainsMemory unstored
  case stored =>
    intro i current stores a inside
    rw [left, Machine.remainsKnown current]
    exact Machine.leftByMemory stores (due i current) inside
  case loaded =>
    intro i current loads x inside
    rw [left, Machine.remainsKnown current]
    exact Machine.leftByLoaded loads (due i current) inside
  case drawn =>
    intro i current draws
    have unloaded : ∀ j, m.current? = some j → j.opcode ≠ .loadRegisters := by
      intro j same
      cases Option.some.inj (current.symm.trans same)
      rw [draws]
      decide
    refine ⟨screenKept, ?_⟩
    simp only [Registers.vf, Registers.get, vKept unloaded]
  case registers => exact vKept
  all_goals rw [left, rest]

theorem straddlingFails :
    straddling.halted = false ∧
      straddling.step = (straddling.step.1, .error (.outOfBounds 0x1000 .outside)) ∧
      FailedStep straddling straddling.step.1 (.outOfBounds 0x1000 .outside) := by
  have outcome : straddling.step.2 = .error (.outOfBounds 0x1000 .outside) :=
    (Machine.stepFaultIff straddlingWellFormed rfl _).mpr straddlingFault
  have failed := (Prod.eta straddling.step).symm
  rw [outcome] at failed
  exact ⟨rfl, failed, stepFailure rfl failed⟩

end Chip8
