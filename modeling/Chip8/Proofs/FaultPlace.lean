import Chip8.Proofs.FailedStep

/-! The address that a fault names. An unknown word is reported where it was fetched; by the time
a call or a return looks at the stack the program counter has moved on, so that a full or an
empty stack is reported two bytes behind the instruction. -/
namespace Chip8

def Fault.place? : Fault → Option Int
  | .unknownOpcode _ pc => pc
  | .stackOverflow pc _ => some pc
  | .stackUnderflow pc => some pc
  | .outOfBounds .. => none
  | .programTooLarge .. => none
  | .halted _ => none

namespace Machine

inductive DueFault (m : Machine) (i : Instruction) : Fault → Prop where
  | underflow (ret : i.opcode = .ret) (empty : m.registers.stack = []) :
      DueFault m i (.stackUnderflow m.registers.pc.toNat)
  | overflow (call : i.opcode = .call) (full : 16 ≤ m.registers.stack.length) :
      DueFault m i (.stackOverflow m.registers.pc.toNat m.registers.stack.length)
  | bounds (a : Int) (v : Violation) : DueFault m i (.outOfBounds a v)

theorem dueFault {m : Machine} {i : Instruction} {f : Fault} (due : m.dueFault? i = some f) :
    DueFault m i f := by
  unfold dueFault? at due
  split at due
  case h_1 ret =>
    split at due <;> try contradiction
    cases due
    exact .underflow ret (by assumption)
  case h_2 call =>
    split at due <;> try contradiction
    cases due
    exact .overflow call (by assumption)
  case h_3 | h_4 =>
    obtain ⟨_, _, rfl⟩ := readDueSome.mp due
    exact .bounds _ _
  case h_5 | h_6 =>
    unfold storeDue? at due
    split at due
    · cases due
      exact .bounds _ _
    · split at due <;> try contradiction
      cases due
      exact .bounds _ _
  case h_7 => contradiction

inductive MetFault (m n : Machine) : Fault → Prop where
  | unknown (absent : m.current? = none) (word : Int)
      (passed : n.registers.pc.toNat = m.registers.pc.toNat + 2) :
      MetFault m n (.unknownOpcode word (some m.registers.pc.toNat))
  | executed {i : Instruction} {f : Fault} (current : m.current? = some i)
      (due : DueFault (m.begun i) i f)
      (passed : n.registers.pc.toNat = m.registers.pc.toNat + 2) : MetFault m n f
  | unfetched (a : Int) (v : Violation) : MetFault m n (.outOfBounds a v)

theorem metFault {m n : Machine} {f : Fault} (running : m.haltedBy = none)
    (failed : m.step = (n, .error f)) : MetFault m n f := by
  obtain ⟨⟨_, left⟩, due⟩ := stepFailed running failed
  obtain ⟨_, _, _, rest⟩ := m.remainsRest
  have passed (inside : m.registers.pc.toNat + 1 < memorySize) :
      n.registers.pc.toNat = m.registers.pc.toNat + 2 := by
    rw [left, rest]
    simp only [if_pos inside]
    exact passedPc inside
  cases stage m with
  | halted halt result =>
    rw [running] at halt
    contradiction
  | unfetched running past result =>
    rw [result] at failed
    cases failed
    exact .unfetched _ _
  | unknown running inside undecoded result =>
    rw [result] at failed
    unfold meetUnknown at failed
    split at failed
    · simp at failed
    · have absent : m.current? = none := by rw [current?, dif_pos inside, undecoded]
      cases failed
      exact .unknown absent _ (passed inside)
  | failed running current executed result =>
    obtain ⟨inside, _⟩ := currentInside current
    exact .executed current (dueFault (due _ current)) (passed inside)
  | done running current executed result =>
    rw [result] at failed
    simp at failed

end Machine

/- Which program counter a failed step names: the one it started from for an unknown word, the
one it stopped at for the stack. -/
structure FaultPlace (m n : Machine) (f : Fault) : Prop where
  unknown : f.reason = .unknownOpcode →
    f.place? = some (m.registers.pc.toNat : Int) ∧ m.current? = none
  overflow : f.reason = .stackOverflow → f.place? = some (n.registers.pc.toNat : Int) ∧
    ∃ i, m.current? = some i ∧ i.opcode = .call
  underflow : f.reason = .stackUnderflow → f.place? = some (n.registers.pc.toNat : Int) ∧
    ∃ i, m.current? = some i ∧ i.opcode = .ret
  placeless : f.place? = none ↔ f.reason = .outOfBounds
  located : f.place? ≠ none →
    (f.place? = some (m.registers.pc.toNat : Int) ↔ f.reason = .unknownOpcode)
  passed : f.place? ≠ none → n.registers.pc.toNat = m.registers.pc.toNat + 2

theorem placeless {m n : Machine} {f : Fault} (bounds : f.reason = .outOfBounds)
    (none : f.place? = none) : FaultPlace m n f := by
  constructor
  case unknown | overflow | underflow =>
    rw [bounds]
    exact fun other => by contradiction
  case placeless => exact iff_of_true none bounds
  case located | passed => exact (absurd none ·)

theorem stepFaultPlace {m n : Machine} {f : Fault} (running : m.halted = false)
    (failed : m.step = (n, .error f)) : FaultPlace m n f := by
  have unhalted : m.haltedBy = none := by simpa [Machine.halted] using running
  cases Machine.metFault unhalted failed with
  | unknown absent word passed =>
    constructor
    case unknown => exact fun _ => ⟨rfl, absent⟩
    case overflow | underflow => exact fun other => by contradiction
    case placeless => simp [Fault.place?, Fault.reason]
    case located => exact fun _ => iff_of_true rfl rfl
    case passed => exact fun _ => passed
  | unfetched a v => exact placeless rfl rfl
  | @executed i _ current due passed =>
    obtain ⟨inside, _⟩ := Machine.currentInside current
    have moved : (m.begun i).registers.pc.toNat = n.registers.pc.toNat :=
      (Machine.passedPc inside).trans passed.symm
    have behind : some (n.registers.pc.toNat : Int) ≠ some (m.registers.pc.toNat : Int) := by
      intro same
      have := Int.ofNat_inj.mp (Option.some.inj same)
      omega
    cases due with
    | underflow ret empty =>
      constructor
      case unknown | overflow => exact fun other => by contradiction
      case underflow =>
        rw [Fault.place?, moved]
        exact fun _ => ⟨rfl, i, current, ret⟩
      case placeless => simp [Fault.place?, Fault.reason]
      case located =>
        rw [Fault.place?, moved]
        exact fun _ => iff_of_false behind fun other => by contradiction
      case passed => exact fun _ => passed
    | overflow call full =>
      constructor
      case unknown | underflow => exact fun other => by contradiction
      case overflow =>
        rw [Fault.place?, moved]
        exact fun _ => ⟨rfl, i, current, call⟩
      case placeless => simp [Fault.place?, Fault.reason]
      case located =>
        rw [Fault.place?, moved]
        exact fun _ => iff_of_false behind fun other => by contradiction
      case passed => exact fun _ => passed
    | bounds a v => exact placeless rfl rfl

def stranded : Machine :=
  (Machine.powerOn {} false ⟨Vector.replicate 624 0, 624⟩ .silent).serve (.load [0x00, 0xEE])

theorem strandedRuns : stranded.halted = false := by decide +kernel

theorem strandedFails : stranded.step = (stranded.step.1, .error (.stackUnderflow 0x202)) := by
  have outcome : stranded.step.2 = .error (.stackUnderflow 0x202) := by decide +kernel
  rw [← outcome]

theorem strandedPlace : stranded.halted = false ∧
    stranded.step = (stranded.step.1, .error (.stackUnderflow 0x202)) ∧
      FaultPlace stranded stranded.step.1 (.stackUnderflow 0x202) :=
  ⟨strandedRuns, strandedFails, stepFaultPlace strandedRuns strandedFails⟩

theorem strandedBehind : ¬∀ (m n : Machine) (f : Fault), m.halted = false →
    m.step = (n, .error f) → f.place? ≠ none →
      f.place? = some (m.registers.pc.toNat : Int) := by
  intro located
  have place := located _ _ _ strandedRuns strandedFails (Option.some_ne_none _)
  exact absurd place (by decide +kernel)

end Chip8
