import Chip8.Proofs.MemoryAccess
import Chip8.Machine.Step

/-! What instructions leave alone. Most of them rewrite V, I and the program counter only; each
of the others reaches one more part of the machine. -/
namespace Chip8.Machine

def Rewrites (m n : Machine) : Prop :=
  ∃ v index pc, n = { m with registers := ⟨v, index, pc, m.registers.stack⟩ }

theorem rewritesSelf (m : Machine) : Rewrites m m := ⟨_, _, _, rfl⟩

theorem rewritesTrans {a b c : Machine} (first : Rewrites a b) (second : Rewrites b c) :
    Rewrites a c := by
  obtain ⟨_, _, _, rfl⟩ := first
  obtain ⟨v, index, pc, rfl⟩ := second
  exact ⟨v, index, pc, rfl⟩

theorem setVRewrites (m : Machine) (x b) : Rewrites m (m.setV x b) := ⟨_, _, _, rfl⟩

theorem setIndexRewrites (m : Machine) (i) : Rewrites m (m.setIndex i) := ⟨_, _, _, rfl⟩

theorem jumpRewrites (m : Machine) (address) : Rewrites m (m.jumpTo address) := ⟨_, _, _, rfl⟩

theorem setFlagRewrites (m : Machine) (b) : Rewrites m (m.setFlag b) := setVRewrites m _ _

theorem setResultRewrites (m : Machine) (x r) : Rewrites m (m.setResult x r) :=
  rewritesTrans (setVRewrites m x r.1) (setFlagRewrites _ r.2)

theorem skipRewrites (m : Machine) (condition) : Rewrites m (m.skipIf condition) := by
  unfold skipIf
  split
  · exact jumpRewrites m _
  · exact rewritesSelf m

theorem logicRewrites (m : Machine) (x b) : Rewrites m (m.logic x b) := by
  simp only [logic]
  split
  · exact rewritesTrans (setVRewrites m x b) (setFlagRewrites _ false)
  · exact setVRewrites m x b

theorem addIndexRewrites (m : Machine) (x) : Rewrites m (m.addIndex x) := by
  simp only [addIndex]
  split
  · exact rewritesTrans (setIndexRewrites m _) (setFlagRewrites _ _)
  · exact setIndexRewrites m _

theorem passIndexRewrites (m : Machine) (x) : Rewrites m (m.passIndex x) := by
  unfold passIndex
  split
  · exact rewritesSelf m
  · exact setIndexRewrites m _

theorem loadRewrites (m : Machine) (x) : Rewrites m (m.loadRegisters? x).1 := by
  have loaded (bytes) : Rewrites m { m with registers := m.registers.setFrom 0 bytes } := by
    rw [Registers.setFromRest]
    exact ⟨_, _, _, rfl⟩
  simp only [loadRegisters?]
  split
  · exact loaded _
  · exact rewritesTrans (loaded _) (passIndexRewrites _ x)

structure Frame (o : Opcode) (m n : Machine) : Prop where
  dialect : n.dialect = m.dialect
  skipUnknown : n.skipUnknown = m.skipUnknown
  program : n.program = m.program
  haltedBy : n.haltedBy = m.haltedBy
  fault : n.fault = m.fault
  steps : n.steps = m.steps
  stack : o ≠ .ret → o ≠ .call → n.registers.stack = m.registers.stack
  memory : o ≠ .storeDigits → o ≠ .storeRegisters → n.memory = m.memory
  screen : o ≠ .clear → o ≠ .draw → n.screen = m.screen
  timers : o ≠ .setDelay → o ≠ .setSound → n.timers = m.timers
  keypad : o ≠ .waitKey → n.keypad = m.keypad
  generator : o ≠ .random → n.generator = m.generator

theorem rewritesFrame {m n : Machine} (h : Rewrites m n) (o : Opcode) : Frame o m n := by
  obtain ⟨v, index, pc, rfl⟩ := h
  constructor <;> intros <;> rfl

theorem retFrame (m : Machine) : Frame .ret m m.ret?.1 := by
  unfold ret?
  cases popped : m.registers.pop with
  | error f => exact rewritesFrame (rewritesSelf m) .ret
  | ok top => constructor <;> intros <;> first | rfl | contradiction

theorem callFrame (m : Machine) (address) : Frame .call m (m.call? address).1 := by
  unfold call?
  cases pushed : m.registers.push m.registers.pc with
  | error f => exact rewritesFrame (rewritesSelf m) .call
  | ok r => constructor <;> intros <;> first | rfl | contradiction

theorem clearFrame (m : Machine) : Frame .clear m { m with screen := .blank } := by
  constructor <;> intros <;> first | rfl | contradiction

theorem randomFrame (m : Machine) (x mask) : Frame .random m (m.random x mask) := by
  constructor <;> intros <;> first | rfl | contradiction

theorem drawFrame (m : Machine) (i) : Frame .draw m (m.draw? i).1 := by
  unfold draw?
  split
  · exact rewritesFrame (rewritesSelf m) .draw
  · constructor <;> intros <;> first | rfl | contradiction

theorem waitKeyFrame (m : Machine) (x) : Frame .waitKey m (m.waitKey x) := by
  simp only [waitKey]
  split <;> split <;> constructor <;> intros <;> first | rfl | contradiction

theorem setDelayFrame (m : Machine) (b) :
    Frame .setDelay m { m with timers := m.timers.setDelay b } := by
  constructor <;> intros <;> first | rfl | contradiction

theorem setSoundFrame (m : Machine) (b) :
    Frame .setSound m { m with timers := m.timers.setSound b } := by
  constructor <;> intros <;> first | rfl | contradiction

theorem storeDigitsFrame (m : Machine) (x) : Frame .storeDigits m (m.storeDigits? x).1 := by
  constructor <;> intros <;> first | rfl | contradiction

theorem storeRegistersFrame (m : Machine) (x) :
    Frame .storeRegisters m (m.storeRegisters? x).1 := by
  have passed (memory : Memory) : Frame .storeRegisters m ({ m with memory }.passIndex x) := by
    unfold passIndex
    split <;> constructor <;> intros <;> first | rfl | contradiction
  simp only [storeRegisters?]
  split
  · constructor <;> intros <;> first | rfl | contradiction
  · exact passed _

theorem executeFrame (m : Machine) (i : Instruction) : Frame i.opcode m (m.execute i).1 := by
  cases named : i.opcode <;> simp only [execute, named]
  case ret => exact retFrame m
  case call => exact callFrame m _
  case clear => exact clearFrame m
  case random => exact randomFrame m _ _
  case draw => exact drawFrame m i
  case waitKey => exact waitKeyFrame m _
  case setDelay => exact setDelayFrame m _
  case setSound => exact setSoundFrame m _
  case storeDigits => exact storeDigitsFrame m _
  case storeRegisters => exact storeRegistersFrame m _
  case jump | jumpOffset => exact rewritesFrame (jumpRewrites m _) _
  case skipEqualByte | skipUnequalByte | skipEqual | skipUnequal | skipPressed | skipReleased =>
    exact rewritesFrame (skipRewrites m _) _
  case loadByte | addByte | copy | readDelay => exact rewritesFrame (setVRewrites m _ _) _
  case or | and | xor => exact rewritesFrame (logicRewrites m _ _) _
  case add | sub | shiftRight | subFrom | shiftLeft =>
    exact rewritesFrame (setResultRewrites m _ _) _
  case setIndex | digitSprite => exact rewritesFrame (setIndexRewrites m _) _
  case addIndex => exact rewritesFrame (addIndexRewrites m _) _
  case loadRegisters => exact rewritesFrame (loadRewrites m _) _

theorem armAgain {p : Keypad} (waiting : p.waiting = true) (presses : p.presses = []) :
    p.arm = p := by
  cases p
  simp_all [Keypad.arm]

theorem pendingPress {p : Keypad} (pending : p.pending = true) :
    p.waiting = true ∧ ∃ k rest, p.presses = k :: rest := by
  obtain ⟨waiting, nonempty⟩ : p.waiting = true ∧ p.presses ≠ [] := by
    simpa [Keypad.pending] using pending
  exact ⟨waiting, List.exists_cons_of_ne_nil nonempty⟩

theorem waitKeyBlocked {m : Machine} (x : Fin 16) (unpressed : m.keypad.pending = false) :
    ∃ journal, m.waitKey x =
      { m with
        keypad := m.keypad.arm
        registers := { m.registers with pc := m.registers.pc - 2 }
        journal } := by
  simp only [waitKey]
  cases waiting : m.keypad.waiting with
  | false => exact ⟨_, rfl⟩
  | true =>
    have empty : m.keypad.presses = [] := by simpa [Keypad.pending, waiting] using unpressed
    rw [armAgain waiting empty]
    simp only [if_true, Keypad.take, empty]
    exact ⟨m.journal, rfl⟩

theorem waitKeyAnswered {m : Machine} (x : Fin 16) {k : Fin 16} {rest : List (Fin 16)}
    (waiting : m.keypad.waiting = true) (presses : m.keypad.presses = k :: rest) :
    ∃ journal, m.waitKey x =
      { m with
        keypad := { m.keypad with waiting := false, presses := [] }
        registers := m.registers.set x (UInt8.ofNat k.val)
        journal } := by
  simp only [waitKey, waiting, if_true, Keypad.take, presses]
  exact ⟨_, rfl⟩

end Chip8.Machine
