import Chip8.Proofs.WellFormed

/-! When a step fails, and with which fault. Six opcodes can fail once they are decoded: a return
and a call on the stack, a drawing and a load on bytes to read, the two stores on bytes to
write. -/
namespace Chip8.Machine

def outgoing (m : Machine) (i : Instruction) : List UInt8 :=
  match i.opcode with
  | .storeDigits => [m.v i.x / 100, m.v i.x / 10 % 10, m.v i.x % 10]
  | .storeRegisters => m.registers.v.toList.take (i.x.val + 1)
  | _ => []

def incoming (i : Instruction) : Nat :=
  match i.opcode with
  | .draw => i.n
  | .loadRegisters => i.x.val + 1
  | _ => 0

def readDue? (a n : Nat) : Option Fault :=
  if 0 < n ∧ memorySize < a + n then some (.outOfBounds (max a memorySize : Nat) .outside)
  else none

def storeDue? (a n : Nat) : Option Fault :=
  if a < programStart then some (.outOfBounds a .reserved)
  else if memorySize < a + n then some (.outOfBounds (max a memorySize : Nat) .outside)
  else none

def dueFault? (m : Machine) (i : Instruction) : Option Fault :=
  match i.opcode with
  | .ret =>
    if m.registers.stack = [] then some (.stackUnderflow m.registers.pc.toNat) else none
  | .call =>
    if stackDepth ≤ m.registers.stack.length then
      some (.stackOverflow m.registers.pc.toNat m.registers.stack.length)
    else none
  | .draw | .loadRegisters => readDue? m.registers.index.toNat (incoming i)
  | .storeDigits | .storeRegisters =>
    storeDue? m.registers.index.toNat (m.outgoing i).length
  | _ => none

theorem storeOutcome (m : Memory) (a : Nat) (bytes : List UInt8) (nonempty : bytes ≠ []) :
    (m.store a bytes).2 = storeDue? a bytes.length := by
  unfold storeDue?
  by_cases reserved : a < programStart
  · obtain ⟨b, rest, rfl⟩ := List.exists_cons_of_ne_nil nonempty
    rw [m.storeReserved b rest reserved, if_pos reserved]
  · rw [m.storeFault bytes (Nat.le_of_not_lt reserved) nonempty, if_neg reserved]

theorem outgoingRegisters {m : Machine} {i : Instruction} (stores : i.opcode = .storeRegisters) :
    m.outgoing i = m.registers.first (i.x.val + 1) := by
  simp only [outgoing, stores, Registers.first]

theorem outgoingRegistersLength {m : Machine} {i : Instruction}
    (stores : i.opcode = .storeRegisters) : (m.outgoing i).length = i.x.val + 1 := by
  have size : m.registers.v.toList.length = 16 := m.registers.v.length_toList
  have bound := i.x.isLt
  simp only [outgoing, stores, List.length_take, size]
  omega

theorem executeFault (m : Machine) (i : Instruction) : (m.execute i).2 = m.dueFault? i := by
  cases named : i.opcode <;> simp only [execute, dueFault?, named]
  case ret =>
    simp only [ret?, Registers.pop]
    cases m.registers.stack <;> rfl
  case call =>
    simp only [call?, Registers.push]
    by_cases full : stackDepth ≤ m.registers.stack.length
    · simp only [if_pos full]
    · simp only [if_neg full]
  case draw =>
    have read := m.memory.fetchFault m.registers.index.toNat i.n
    simp only [draw?, incoming, named, readDue?]
    rw [← read]
    split <;> simp_all
  case storeDigits =>
    rw [← storeOutcome m.memory _ _ (by simp [outgoing, named])]
    simp only [storeDigits?, outgoing, named]
    rfl
  case storeRegisters =>
    have nonempty : m.outgoing i ≠ [] :=
      List.ne_nil_of_length_pos (by rw [outgoingRegistersLength named]; omega)
    rw [← storeOutcome m.memory _ _ nonempty, outgoingRegisters named]
    rfl
  case loadRegisters =>
    have read := m.memory.fetchFault m.registers.index.toNat (i.x.val + 1)
    simp only [loadRegisters?, incoming, named, readDue?]
    rw [← read]

inductive StepFault (m : Machine) : Fault → Prop where
  | fetch (past : 0xFFF ≤ m.registers.pc.toNat) :
      StepFault m (.outOfBounds
        (if 0xFFF < m.registers.pc.toNat then m.registers.pc.toNat else 0x1000 : Nat) .outside)
  | unknown (inside : m.registers.pc.toNat + 1 < memorySize)
      (unmatched : ∀ p ∈ Pattern.all, p.fits (m.memory.wordAt _ inside) = false)
      (strict : m.skipUnknown = false) :
      StepFault m (.unknownOpcode (m.memory.wordAt _ inside).toNat
        (some m.registers.pc.toNat))
  | underflow {i : Instruction} (current : m.current? = some i) (ret : i.opcode = .ret)
      (empty : m.registers.stack = []) :
      StepFault m (.stackUnderflow (m.registers.pc.toNat + 2 : Nat))
  | overflow {i : Instruction} (current : m.current? = some i) (call : i.opcode = .call)
      (full : m.registers.stack.length = 16) :
      StepFault m (.stackOverflow (m.registers.pc.toNat + 2 : Nat) 16)
  | drawn {i : Instruction} (current : m.current? = some i) (draw : i.opcode = .draw)
      (rows : 1 ≤ i.n) (past : 0xFFF < m.registers.index.toNat + i.n - 1) :
      StepFault m (.outOfBounds (max m.registers.index.toNat 0x1000 : Nat) .outside)
  | loaded {i : Instruction} (current : m.current? = some i) (load : i.opcode = .loadRegisters)
      (past : 0xFFF < m.registers.index.toNat + i.x.val) :
      StepFault m (.outOfBounds (max m.registers.index.toNat 0x1000 : Nat) .outside)
  | stored {i : Instruction} {last : Nat} (current : m.current? = some i)
      (store : i.opcode = .storeDigits ∧ last = 2 ∨ i.opcode = .storeRegisters ∧ last = i.x.val)
      (refused : m.registers.index.toNat < 0x200 ∨ 0xFFF < m.registers.index.toNat + last) :
      StepFault m (.outOfBounds
        (if m.registers.index.toNat < 0x200 ∨ 0xFFF < m.registers.index.toNat then
          m.registers.index.toNat else 0x1000 : Nat)
        (if m.registers.index.toNat < 0x200 then .reserved else .outside))

theorem stepDue {m : Machine} {i : Instruction} (running : m.haltedBy = none)
    (current : m.current? = some i) :
    m.step.2 = match (m.begun i).dueFault? i with
      | some f => .error f
      | none => .ok i.opcode.redraws := by
  rw [stepKnown running current, ← executeFault]
  cases (m.begun i).execute i with
  | mk n outcome => cases outcome <;> rfl

theorem readDueSome {a n : Nat} {f : Fault} :
    readDue? a n = some f ↔
      1 ≤ n ∧ 0xFFF < a + n - 1 ∧ f = .outOfBounds (max a 0x1000 : Nat) .outside := by
  have size : memorySize = 4096 := rfl
  unfold readDue?
  split
  · rw [Option.some.injEq, size]
    constructor
    · rintro rfl
      exact ⟨by omega, by omega, rfl⟩
    · rintro ⟨_, _, rfl⟩
      rfl
  · constructor
    · intro none
      contradiction
    · rintro ⟨some, past, _⟩
      omega

theorem storeDueSome {a last : Nat} {f : Fault} :
    storeDue? a (last + 1) = some f ↔
      (a < 0x200 ∨ 0xFFF < a + last) ∧
        f = .outOfBounds (if a < 0x200 ∨ 0xFFF < a then a else 0x1000 : Nat)
          (if a < 0x200 then .reserved else .outside) := by
  have size : memorySize = 4096 := rfl
  have start : programStart = 512 := rfl
  unfold storeDue?
  by_cases reserved : a < 0x200
  · simp only [if_pos (start ▸ reserved), reserved, true_or, true_and, if_true,
      Option.some.injEq, eq_comm]
  · have program : ¬a < programStart := by omega
    rw [if_neg program, if_neg reserved]
    by_cases past : 0xFFF < a + last
    · have highest : max a memorySize = if a < 0x200 ∨ 0xFFF < a then a else 0x1000 := by
        split <;> omega
      rw [if_pos (by omega), highest, Option.some.injEq, eq_comm]
      exact (and_iff_right (.inr past)).symm
    · rw [if_neg (by omega)]
      constructor
      · intro none
        contradiction
      · rintro ⟨refused, _⟩
        omega

theorem unmatchedDecode (word : UInt16) :
    Instruction.decode? word = none ↔ ∀ p ∈ Pattern.all, p.fits word = false := by
  simp [Instruction.decode?]

theorem dueFaultIff {m : Machine} {i : Instruction} {f : Fault}
    (bounded : m.registers.stack.length ≤ 16) (current : m.current? = some i) :
    (m.begun i).dueFault? i = some f ↔ StepFault m f := by
  obtain ⟨inside, decoded⟩ := currentInside current
  have pc : (m.begun i).registers.pc.toNat = m.registers.pc.toNat + 2 := passedPc inside
  have stack : (m.begun i).registers.stack = m.registers.stack := rfl
  have index : (m.begun i).registers.index = m.registers.index := rfl
  constructor
  · intro due
    cases named : i.opcode <;> simp only [dueFault?, named, pc, stack, index] at due <;>
      try contradiction
    case ret =>
      split at due <;> try contradiction
      cases due
      exact .underflow current named (by assumption)
    case call =>
      split at due <;> try contradiction
      rename_i full
      have exact16 : m.registers.stack.length = 16 := Nat.le_antisymm bounded full
      cases due
      rw [exact16]
      exact .overflow current named exact16
    case draw =>
      simp only [incoming, named] at due
      obtain ⟨rows, past, rfl⟩ := readDueSome.mp due
      exact .drawn current named rows past
    case loadRegisters =>
      simp only [incoming, named] at due
      obtain ⟨_, past, rfl⟩ := readDueSome.mp due
      exact .loaded current named past
    case storeDigits =>
      have length : ((m.begun i).outgoing i).length = 2 + 1 := by simp [outgoing, named]
      rw [length] at due
      obtain ⟨refused, rfl⟩ := storeDueSome.mp due
      exact .stored current (.inl ⟨named, rfl⟩) refused
    case storeRegisters =>
      rw [outgoingRegistersLength named] at due
      obtain ⟨refused, rfl⟩ := storeDueSome.mp due
      exact .stored current (.inr ⟨named, rfl⟩) refused
  · intro fault
    cases fault with
    | fetch past =>
      have size : memorySize = 4096 := rfl
      omega
    | unknown inside unmatched strict =>
      rw [(unmatchedDecode _).mpr unmatched] at decoded
      contradiction
    | underflow same ret empty =>
      cases Option.some.inj (current.symm.trans same)
      simp only [dueFault?, ret, pc, stack, if_pos empty]
    | overflow same call full =>
      cases Option.some.inj (current.symm.trans same)
      simp only [dueFault?, call, pc, stack, full, stackDepth, Nat.le_refl, if_true]
      rfl
    | drawn same draw rows past =>
      cases Option.some.inj (current.symm.trans same)
      simp only [dueFault?, draw, incoming, index]
      exact readDueSome.mpr ⟨rows, past, rfl⟩
    | loaded same load past =>
      cases Option.some.inj (current.symm.trans same)
      simp only [dueFault?, load, incoming, index]
      exact readDueSome.mpr ⟨by omega, past, rfl⟩
    | stored same store refused =>
      cases Option.some.inj (current.symm.trans same)
      obtain ⟨digits, rfl⟩ | ⟨registers, rfl⟩ := store
      · have length : ((m.begun i).outgoing i).length = 2 + 1 := by simp [outgoing, digits]
        simp only [dueFault?, digits, index, length]
        exact storeDueSome.mpr ⟨refused, rfl⟩
      · simp only [dueFault?, registers, index, outgoingRegistersLength registers]
        exact storeDueSome.mpr ⟨refused, rfl⟩

theorem faultWithout {m : Machine} {f : Fault} (absent : m.current? = none)
    (fault : StepFault m f) :
    (0xFFF ≤ m.registers.pc.toNat ∧ f = .outOfBounds
      (if 0xFFF < m.registers.pc.toNat then m.registers.pc.toNat else 0x1000 : Nat) .outside) ∨
    (∃ inside : m.registers.pc.toNat + 1 < memorySize, m.skipUnknown = false ∧
      f = .unknownOpcode (m.memory.wordAt _ inside).toNat (some m.registers.pc.toNat)) := by
  cases fault with
  | fetch past => exact .inl ⟨past, rfl⟩
  | unknown inside unmatched strict => exact .inr ⟨inside, strict, rfl⟩
  | underflow current | overflow current | drawn current | loaded current | stored current =>
    rw [absent] at current
    contradiction

theorem faultPast {m : Machine} {f : Fault} (past : memorySize ≤ m.registers.pc.toNat + 1) :
    StepFault m f ↔ f = .outOfBounds (max m.registers.pc.toNat memorySize : Nat) .outside := by
  have size : memorySize = 4096 := rfl
  have absent : m.current? = none := dif_neg (Nat.not_lt.mpr past)
  have highest : max m.registers.pc.toNat memorySize =
      if 0xFFF < m.registers.pc.toNat then m.registers.pc.toNat else 0x1000 := by
    split <;> omega
  rw [highest]
  constructor
  · intro fault
    obtain ⟨_, same⟩ | ⟨inside, _⟩ := faultWithout absent fault
    · exact same
    · omega
  · rintro rfl
    exact .fetch (by omega)

theorem faultUnknown {m : Machine} {f : Fault} (inside : m.registers.pc.toNat + 1 < memorySize)
    (undecoded : Instruction.decode? (m.memory.wordAt _ inside) = none) :
    StepFault m f ↔ m.skipUnknown = false ∧
      f = .unknownOpcode (m.memory.wordAt _ inside).toNat (some m.registers.pc.toNat) := by
  have size : memorySize = 4096 := rfl
  have absent : m.current? = none := by rw [current?, dif_pos inside, undecoded]
  constructor
  · intro fault
    obtain ⟨past, _⟩ | ⟨_, strict, same⟩ := faultWithout absent fault
    · omega
    · exact ⟨strict, same⟩
  · rintro ⟨strict, rfl⟩
    exact .unknown inside ((unmatchedDecode _).mp undecoded) strict

theorem stepFaultIff {m : Machine} (wellFormed : WellFormed m) (running : m.haltedBy = none)
    (f : Fault) : m.step.2 = .error f ↔ StepFault m f := by
  have known {i : Instruction} (current : m.current? = some i) :
      m.step.2 = .error f ↔ StepFault m f := by
    rw [stepDue running current, ← dueFaultIff wellFormed.stack.1 current]
    cases (m.begun i).dueFault? i <;> simp
  cases stage m with
  | halted halt result =>
    rw [running] at halt
    contradiction
  | unfetched running past result =>
    rw [faultPast past, result]
    simp [halt, eq_comm]
  | unknown running inside undecoded result =>
    rw [faultUnknown inside undecoded, result]
    have lenient : m.advance.skipUnknown = m.skipUnknown := rfl
    cases skip : m.skipUnknown <;> simp [meetUnknown, lenient, skip, halt, eq_comm]
  | failed running current executed result => exact known current
  | done running current executed result => exact known current

end Chip8.Machine

namespace Chip8
open Machine (StepFault)

theorem stepRaises {m : Machine} (wellFormed : WellFormed m) (running : m.halted = false) :
    (∀ f, m.step.2 = .error f ↔ StepFault m f) ∧
      ((∀ f, ¬StepFault m f) → ∃ redrawn, m.step.2 = .ok redrawn) := by
  have unhalted : m.haltedBy = none := by simpa [Machine.halted] using running
  have raised := Machine.stepFaultIff wellFormed unhalted
  refine ⟨raised, ?_⟩
  intro unfailing
  cases outcome : m.step.2 with
  | error f => exact absurd ((raised f).mp outcome) (unfailing f)
  | ok redrawn => exact ⟨redrawn, rfl⟩

def straddling : Machine :=
  ((Machine.powerOn {} false ⟨Vector.replicate 624 0, 624⟩ .silent).serve
    (.load [0xF3, 0x55])).serve (.setIndex 0xFFE)

theorem straddlingWellFormed : WellFormed straddling :=
  soundWellFormed (Machine.serveSound _ _ (Machine.serveSound _ _ (Machine.powerOnSound ..)))

theorem straddlingCurrent : straddling.current? = some ⟨.storeRegisters, 0xF355⟩ := by
  decide +kernel

theorem straddlingFault : StepFault straddling (.outOfBounds 0x1000 .outside) :=
  .stored straddlingCurrent (.inr ⟨rfl, rfl⟩) (.inr (by decide))

theorem straddlingRaises :
    WellFormed straddling ∧ straddling.halted = false ∧
      straddling.step.2 = .error (.outOfBounds 0x1000 .outside) :=
  ⟨straddlingWellFormed, rfl, ((stepRaises straddlingWellFormed rfl).1 _).mpr straddlingFault⟩

end Chip8
