import Chip8.Proofs.InstructionFrame

/-! How far a step comes: not past a halt, not past the fetch, to a word that is no instruction,
or into an instruction, which fails or is done. What a step keeps is proved stage by stage. -/
namespace Chip8.Machine

def current? (m : Machine) : Option Instruction :=
  if h : m.registers.pc.toNat + 1 < memorySize then
    Instruction.decode? (m.memory.wordAt m.registers.pc.toNat h)
  else none

theorem currentInside {m : Machine} {i : Instruction} (current : m.current? = some i) :
    ∃ h : m.registers.pc.toNat + 1 < memorySize,
      Instruction.decode? (m.memory.wordAt m.registers.pc.toNat h) = some i := by
  unfold current? at current
  split at current
  · exact ⟨_, current⟩
  · contradiction

theorem passedPc {pc : UInt16} (inside : pc.toNat + 1 < memorySize) :
    (pc + 2).toNat = pc.toNat + 2 := by
  have size : memorySize = 4096 := rfl
  rw [UInt16.toNat_add]
  change (pc.toNat + 2) % 65536 = pc.toNat + 2
  omega

def begun (m : Machine) (i : Instruction) : Machine :=
  m.advance.report (.executing m.registers.pc i m.advance.registers)

theorem stepHalted {m : Machine} {cause : Fault} (halt : m.haltedBy = some cause) :
    m.step = (m, .error (.halted cause)) := by
  simp only [step, halt]

theorem stepUnfetched {m : Machine} (running : m.haltedBy = none)
    (past : memorySize ≤ m.registers.pc.toNat + 1) :
    m.step = m.halt (.outOfBounds (max m.registers.pc.toNat memorySize : Nat) .outside) := by
  simp only [step, running, m.memory.readWordOutside past]

theorem stepUnknown {m : Machine} (running : m.haltedBy = none)
    (inside : m.registers.pc.toNat + 1 < memorySize)
    (undecoded : Instruction.decode? (m.memory.wordAt _ inside) = none) :
    m.step = m.advance.meetUnknown
      (.unknownOpcode (m.memory.wordAt _ inside).toNat (some m.registers.pc.toNat)) := by
  have fetched := m.memory.readWordInside inside
  simp only [step, running, fetched, Instruction.decodeWord, undecoded]

theorem stepKnown {m : Machine} {i : Instruction} (running : m.haltedBy = none)
    (current : m.current? = some i) :
    m.step = match (m.begun i).execute i with
      | (n, some f) => n.halt f
      | (n, none) => (n.countStep, .ok i.opcode.redraws) := by
  obtain ⟨inside, decoded⟩ := currentInside current
  have fetched := m.memory.readWordInside inside
  simp only [step, running, fetched, Instruction.decodeWord, decoded]
  rfl

inductive Stage (m : Machine) : Prop where
  | halted {cause : Fault} (halt : m.haltedBy = some cause)
      (result : m.step = (m, .error (.halted cause)))
  | unfetched (running : m.haltedBy = none) (past : memorySize ≤ m.registers.pc.toNat + 1)
      (result : m.step =
        m.halt (.outOfBounds (max m.registers.pc.toNat memorySize : Nat) .outside))
  | unknown (running : m.haltedBy = none) (inside : m.registers.pc.toNat + 1 < memorySize)
      (undecoded : Instruction.decode? (m.memory.wordAt _ inside) = none)
      (result : m.step = m.advance.meetUnknown
        (.unknownOpcode (m.memory.wordAt _ inside).toNat (some m.registers.pc.toNat)))
  | failed {i : Instruction} {n : Machine} {f : Fault} (running : m.haltedBy = none)
      (current : m.current? = some i) (executed : (m.begun i).execute i = (n, some f))
      (result : m.step = n.halt f)
  | done {i : Instruction} {n : Machine} (running : m.haltedBy = none)
      (current : m.current? = some i) (executed : (m.begun i).execute i = (n, none))
      (result : m.step = (n.countStep, .ok i.opcode.redraws))

theorem stage (m : Machine) : Stage m := by
  cases running : m.haltedBy with
  | some cause => exact .halted running (stepHalted running)
  | none =>
    by_cases inside : m.registers.pc.toNat + 1 < memorySize
    · cases decoded : Instruction.decode? (m.memory.wordAt _ inside) with
      | none => exact .unknown running inside decoded (stepUnknown running inside decoded)
      | some i =>
        have current : m.current? = some i := by rw [current?, dif_pos inside, decoded]
        have known := stepKnown running current
        cases executed : (m.begun i).execute i with
        | mk n outcome =>
          rw [executed] at known
          cases outcome with
          | none => exact .done running current executed known
          | some f => exact .failed running current executed known
    · have past := Nat.le_of_not_lt inside
      exact .unfetched running past (stepUnfetched running past)

theorem stepKeeps {α : Type} {m : Machine} (part : Machine → α)
    (blind : ∀ (n : Machine) (pc : UInt16) (haltedBy fault : Option Fault) (steps : Nat)
      (journal : Journal), part { n with
        registers := { n.registers with pc }, haltedBy, fault, steps, journal } = part n)
    (executed : m.haltedBy = none → ∀ i, m.current? = some i →
      part ((m.begun i).execute i).1 = part (m.begun i)) :
    part m.step.1 = part m := by
  have haltKeeps (n : Machine) (f : Fault) : part (n.halt f).1 = part n := blind n _ _ _ _ _
  have begunKeeps (i : Instruction) : part (m.begun i) = part m := blind m _ _ _ _ _
  cases stage m with
  | halted halt result => rw [result]
  | unfetched running past result => rw [result, haltKeeps]
  | unknown running inside undecoded result =>
    rw [result]
    unfold meetUnknown
    split
    · exact blind m _ _ _ _ _
    · exact (haltKeeps _ _).trans (blind m _ _ _ _ _)
  | @failed i n f running current outcome result =>
    have kept := executed running i current
    rw [outcome, begunKeeps] at kept
    rw [result, haltKeeps]
    exact kept
  | @done i n running current outcome result =>
    have kept := executed running i current
    rw [outcome, begunKeeps] at kept
    rw [result]
    exact (blind n _ _ _ _ _).trans kept

end Chip8.Machine
