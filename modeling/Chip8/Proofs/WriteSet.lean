import Chip8.Proofs.TickRate
import Chip8.Proofs.Turns

/-! What an instruction may write. Which V registers, whether I, how many bytes from I on, and how
far the program counter goes can be told before the instruction is executed; nothing else of the
machine changes, the part that its opcode is for apart. -/
namespace Chip8

def Opcode.leaps : Opcode → Bool
  | .jump | .call | .ret | .jumpOffset => true
  | _ => false

def Opcode.movesIndex (d : Dialect) : Opcode → Bool
  | .setIndex | .addIndex | .digitSprite => true
  | .storeRegisters | .loadRegisters => !d.keepIndex
  | _ => false

def Instruction.span (i : Instruction) : Nat :=
  match i.opcode with
  | .storeDigits => 3
  | .storeRegisters => i.x.val + 1
  | _ => 0

namespace Machine
open Registers (flag)

def targets (m : Machine) (i : Instruction) : List (Fin 16) :=
  match i.opcode with
  | .loadByte | .addByte | .copy | .random | .readDelay => [i.x]
  | .waitKey => if m.keypad.pending then [i.x] else []
  | .add | .sub | .subFrom | .shiftRight | .shiftLeft => [i.x, flag]
  | .or | .and | .xor => if m.dialect.logicClearsVF then [i.x, flag] else [i.x]
  | .draw => [flag]
  | .addIndex => if m.dialect.indexOverflow then [flag] else []
  | .loadRegisters => (List.finRange 16).filter (· ≤ i.x)
  | _ => []

def skips (m : Machine) (i : Instruction) : Bool :=
  match i.opcode with
  | .skipEqualByte => m.v i.x == i.nn
  | .skipUnequalByte => m.v i.x != i.nn
  | .skipEqual => m.v i.x == m.v i.y
  | .skipUnequal => m.v i.x != m.v i.y
  | .skipPressed => m.keypad.isPressed (keyOf (m.v i.x))
  | .skipReleased => !m.keypad.isPressed (keyOf (m.v i.x))
  | _ => false

def stride (m : Machine) (i : Instruction) : Nat :=
  if i.opcode = .waitKey ∧ m.keypad.pending = false then 0 else if m.skips i then 4 else 2

section
variable (m : Machine) (x : Fin 16)

theorem callRest (address : UInt16) : ∃ stack pc,
    (m.call? address).1 = { m with registers := { m.registers with stack, pc } } := by
  simp only [call?, Registers.push]
  by_cases full : stackDepth ≤ m.registers.stack.length
  · rw [if_pos full]
    exact ⟨_, _, rfl⟩
  · rw [if_neg full]
    exact ⟨_, _, rfl⟩

theorem retRest : ∃ stack pc,
    m.ret?.1 = { m with registers := { m.registers with stack, pc } } := by
  simp only [ret?, Registers.pop]
  cases m.registers.stack <;> exact ⟨_, _, rfl⟩

theorem logicRest (b : UInt8) :
    ∃ v, m.logic x b = { m with registers := { m.registers with v } } := by
  simp only [logic]
  split <;> exact ⟨_, rfl⟩

theorem passIndexRest :
    ∃ index, m.passIndex x = { m with registers := { m.registers with index } } ∧
      (m.dialect.keepIndex = true → index = m.registers.index) := by
  unfold passIndex
  split
  · exact ⟨_, rfl, fun _ => rfl⟩
  · rename_i moved
    exact ⟨_, rfl, fun kept => absurd kept moved⟩

theorem drawRest (i : Instruction) :
    ∃ v screen, (m.draw? i).1 = { m with registers := { m.registers with v }, screen } := by
  unfold draw?
  split <;> exact ⟨_, _, rfl⟩

theorem randomRest (mask : UInt8) : ∃ v, m.random x mask =
    { m with registers := { m.registers with v }, generator := m.generator.byte.2 } := by
  unfold random
  cases m.generator.byte
  exact ⟨_, rfl⟩

/- A key wait goes back, as long as no press has answered it; it may set VX, and it may arm or
empty the keypad. -/
theorem waitKeyRest :
    ∃ v keypad journal, m.waitKey x =
        { m with
          registers :=
            { m.registers with
              v
              pc := if m.keypad.pending then m.registers.pc else m.registers.pc - 2 }
          keypad
          journal } ∧
      keypad.pressed = m.keypad.pressed := by
  cases pending : m.keypad.pending with
  | false =>
    obtain ⟨journal, blocked⟩ := waitKeyBlocked x pending
    exact ⟨_, _, journal, blocked, rfl⟩
  | true =>
    obtain ⟨waiting, k, rest, presses⟩ := pendingPress pending
    obtain ⟨journal, answered⟩ := waitKeyAnswered x waiting presses
    exact ⟨_, _, journal, answered, rfl⟩

theorem storeRest :
    ∃ index, (m.storeRegisters? x).1 =
        { m with
          registers := { m.registers with index }
          memory := (m.memory.store m.registers.index.toNat
            (m.registers.first (x.val + 1))).1 } ∧
      (m.dialect.keepIndex = true → index = m.registers.index) := by
  simp only [storeRegisters?]
  split
  · exact ⟨_, rfl, fun _ => rfl⟩
  · obtain ⟨index, passed, kept⟩ := passIndexRest { m with memory := _ } x
    exact ⟨index, passed, kept⟩

theorem loadRest :
    ∃ v index, (m.loadRegisters? x).1 =
        { m with registers := { m.registers with v, index } } ∧
      (m.dialect.keepIndex = true → index = m.registers.index) := by
  simp only [loadRegisters?]
  rw [Registers.setFromRest]
  split
  · exact ⟨_, _, rfl, fun _ => rfl⟩
  · obtain ⟨index, passed, kept⟩ :=
      passIndexRest { m with registers := { m.registers with v := _ } } x
    exact ⟨_, index, passed, kept⟩

theorem addIndexRest :
    ∃ v index, m.addIndex x = { m with registers := { m.registers with v, index } } := by
  simp only [addIndex]
  split <;> exact ⟨_, _, rfl⟩

end

section
variable {x y : Fin 16} (m : Machine)

theorem setOther (b : UInt8) (other : y ≠ x) : (m.setV x b).v y = m.v y :=
  (m.registers.getSet x y b).trans (if_neg other.symm)

theorem flagOther (b : Bool) (other : y ≠ flag) : (m.setFlag b).v y = m.v y :=
  m.setOther _ other

theorem resultOther (r : UInt8 × Bool) (other : y ∉ [x, flag]) :
    (m.setResult x r).v y = m.v y := by
  obtain ⟨result, flagged⟩ : y ≠ x ∧ y ≠ flag := by simpa using other
  exact (flagOther _ r.2 flagged).trans (m.setOther r.1 result)

theorem logicOther (b : UInt8)
    (other : y ∉ if m.dialect.logicClearsVF then [x, flag] else [x]) :
    (m.logic x b).v y = m.v y := by
  show (if m.dialect.logicClearsVF then (m.setV x b).setFlag false else m.setV x b).v y = m.v y
  split at other
  · rename_i clears
    obtain ⟨result, flagged⟩ : y ≠ x ∧ y ≠ flag := by simpa using other
    rw [if_pos clears, flagOther _ false flagged, setOther m b result]
  · rename_i keeps
    rw [if_neg keeps, setOther m b (by simpa using other)]

theorem addIndexOther (other : y ∉ if m.dialect.indexOverflow then [flag] else []) :
    (m.addIndex x).v y = m.v y := by
  simp only [addIndex]
  split at other
  · rename_i flags
    rw [if_pos flags, flagOther _ _ (by simpa using other)]
    rfl
  · rename_i plain
    rw [if_neg plain]
    rfl

theorem drawOther (i : Instruction) (other : y ≠ flag) : (m.draw? i).1.v y = m.v y := by
  unfold draw?
  split
  · rfl
  · exact flagOther _ _ other

theorem randomOther (mask : UInt8) (other : y ≠ x) : (m.random x mask).v y = m.v y := by
  unfold random
  cases m.generator.byte
  exact setOther _ _ other

theorem waitKeyOther (other : y ∉ if m.keypad.pending then [x] else []) :
    (m.waitKey x).v y = m.v y := by
  cases pending : m.keypad.pending with
  | false =>
    obtain ⟨_, blocked⟩ := waitKeyBlocked x pending
    rw [blocked]
    rfl
  | true =>
    obtain ⟨waiting, k, rest, presses⟩ := pendingPress pending
    obtain ⟨_, answered⟩ := waitKeyAnswered x waiting presses
    rw [pending, if_pos rfl] at other
    rw [answered]
    exact m.setOther _ (by simpa using other)

theorem loadOther (other : y ∉ (List.finRange 16).filter (· ≤ x)) :
    (m.loadRegisters? x).1.v y = m.v y := by
  have above : x < y := by simpa using other
  have loaded : { m with
      registers := m.registers.setFrom 0
        (m.memory.fetch m.registers.index.toNat (x.val + 1)).1 }.v y = m.v y := by
    have byte := m.registers.setFromByte 0
      (m.memory.fetch m.registers.index.toNat (x.val + 1)).1 y.isLt
    rw [overlayOutside _ (by rw [Memory.fetchBytes, List.length_take]; omega),
      Vector.getElem?_eq_getElem y.isLt, Vector.getElem?_eq_getElem y.isLt] at byte
    exact Option.some.inj byte
  simp only [loadRegisters?]
  split
  · exact loaded
  · obtain ⟨_, passed, _⟩ := passIndexRest { m with
      registers := m.registers.setFrom 0
        (m.memory.fetch m.registers.index.toNat (x.val + 1)).1 } x
    rw [passed]
    exact loaded

end

theorem executeV (m : Machine) (i : Instruction) {y : Fin 16} (other : y ∉ m.targets i) :
    (m.execute i).1.v y = m.v y := by
  cases named : i.opcode <;> simp only [targets, named] at other <;> simp only [execute, named]
  case ret =>
    obtain ⟨_, _, returned⟩ := m.retRest
    rw [returned]
    rfl
  case call =>
    obtain ⟨_, _, called⟩ := m.callRest i.nnn
    rw [called]
    rfl
  case skipEqualByte | skipUnequalByte | skipEqual | skipUnequal | skipPressed | skipReleased =>
    unfold skipIf
    split <;> rfl
  case loadByte | addByte | copy | readDelay => exact m.setOther _ (by simpa using other)
  case random => exact m.randomOther _ (by simpa using other)
  case add | sub | subFrom | shiftRight | shiftLeft => exact m.resultOther _ other
  case or | and | xor => exact m.logicOther _ other
  case draw => exact m.drawOther i (by simpa using other)
  case waitKey => exact m.waitKeyOther other
  case addIndex => exact m.addIndexOther other
  case loadRegisters => exact m.loadOther other
  case storeRegisters =>
    obtain ⟨_, stored, _⟩ := m.storeRest i.x
    rw [stored]
    rfl
  all_goals rfl

theorem executeIndex (m : Machine) (i : Instruction)
    (still : i.opcode.movesIndex m.dialect = false) :
    (m.execute i).1.registers.index = m.registers.index := by
  cases named : i.opcode <;> simp only [Opcode.movesIndex, named] at still <;>
    simp only [execute, named]
  case ret =>
    obtain ⟨_, _, returned⟩ := m.retRest
    rw [returned]
  case call =>
    obtain ⟨_, _, called⟩ := m.callRest i.nnn
    rw [called]
  case skipEqualByte | skipUnequalByte | skipEqual | skipUnequal | skipPressed | skipReleased =>
    unfold skipIf
    split <;> rfl
  case or | and | xor =>
    obtain ⟨_, rest⟩ := m.logicRest i.x _
    rw [rest]
  case draw =>
    obtain ⟨_, _, drawn⟩ := m.drawRest i
    rw [drawn]
  case random =>
    obtain ⟨_, drawn⟩ := m.randomRest i.x i.nn
    rw [drawn]
  case waitKey =>
    obtain ⟨_, _, _, waited, _⟩ := m.waitKeyRest i.x
    rw [waited]
  case storeRegisters =>
    obtain ⟨_, stored, kept⟩ := m.storeRest i.x
    rw [stored]
    exact kept (by simpa using still)
  case loadRegisters =>
    obtain ⟨_, _, loaded, kept⟩ := m.loadRest i.x
    rw [loaded]
    exact kept (by simpa using still)
  all_goals first | rfl | contradiction

theorem executePc (m : Machine) (i : Instruction) (steady : i.opcode.leaps = false) :
    (m.execute i).1.registers.pc =
      if i.opcode = .waitKey ∧ m.keypad.pending = false then m.registers.pc - 2
      else if m.skips i then m.registers.pc + 2 else m.registers.pc := by
  cases named : i.opcode <;> simp only [Opcode.leaps, named, Bool.true_eq_false] at steady <;>
    simp only [execute, skips, named, reduceCtorEq, false_and, if_false, Bool.false_eq_true]
  case skipEqualByte | skipUnequalByte | skipEqual | skipUnequal | skipPressed | skipReleased =>
    unfold skipIf
    split <;> rfl
  case or | and | xor =>
    obtain ⟨_, rest⟩ := m.logicRest i.x _
    rw [rest]
  case draw =>
    obtain ⟨_, _, drawn⟩ := m.drawRest i
    rw [drawn]
  case random =>
    obtain ⟨_, drawn⟩ := m.randomRest i.x i.nn
    rw [drawn]
  case addIndex =>
    obtain ⟨_, _, added⟩ := m.addIndexRest i.x
    rw [added]
  case storeRegisters =>
    obtain ⟨_, stored, _⟩ := m.storeRest i.x
    rw [stored]
  case loadRegisters =>
    obtain ⟨_, _, loaded, _⟩ := m.loadRest i.x
    rw [loaded]
  case waitKey =>
    obtain ⟨_, _, _, waited, _⟩ := m.waitKeyRest i.x
    rw [waited]
    cases m.keypad.pending <;> rfl
  all_goals rfl

theorem executeMemory (m : Machine) (i : Instruction) {a : Nat}
    (outside : ¬(m.registers.index.toNat ≤ a ∧ a < m.registers.index.toNat + i.span)) :
    (m.execute i).1.memory.bytes[a]? = m.memory.bytes[a]? := by
  by_cases digits : i.opcode = .storeDigits
  · simp only [Instruction.span, digits] at outside
    simp only [execute, digits]
    exact m.memory.storeOutside [_, _, _] outside
  · by_cases registers : i.opcode = .storeRegisters
    · obtain ⟨_, stored, _⟩ := m.storeRest i.x
      have most : (m.registers.first (i.x.val + 1)).length ≤ i.x.val + 1 :=
        List.length_take_le _ _
      simp only [Instruction.span, registers] at outside
      simp only [execute, registers]
      rw [stored]
      exact m.memory.storeOutside _ (by omega)
    · rw [(executeFrame m i).memory digits registers]

theorem executeTimers (m : Machine) (i : Instruction) :
    (i.opcode ≠ .setDelay → (m.execute i).1.timers.delay = m.timers.delay) ∧
      (i.opcode ≠ .setSound → (m.execute i).1.timers.sound = m.timers.sound) := by
  by_cases delay : i.opcode = .setDelay
  · simp only [execute, delay]
    exact ⟨fun other => absurd rfl other, fun _ => rfl⟩
  · by_cases sound : i.opcode = .setSound
    · simp only [execute, sound]
      exact ⟨fun _ => rfl, fun other => absurd rfl other⟩
    · rw [(executeFrame m i).timers delay sound]
      exact ⟨fun _ => rfl, fun _ => rfl⟩

theorem executePressed (m : Machine) (i : Instruction) :
    (m.execute i).1.keypad.pressed = m.keypad.pressed := by
  by_cases wait : i.opcode = .waitKey
  · obtain ⟨_, _, _, waited, pressed⟩ := m.waitKeyRest i.x
    simp only [execute, wait]
    rw [waited]
    exact pressed
  · rw [(executeFrame m i).keypad wait]

theorem executeGenerator (m : Machine) (i : Instruction) :
    (m.execute i).1.generator =
      if i.opcode = .random then m.generator.byte.2 else m.generator := by
  split
  · rename_i random
    obtain ⟨_, drawn⟩ := m.randomRest i.x i.nn
    simp only [execute, random]
    rw [drawn]
  · rename_i other
    exact (executeFrame m i).generator other

theorem strideTaken {m : Machine} (inside : m.registers.pc.toNat + 1 < memorySize)
    (i : Instruction) :
    (if i.opcode = .waitKey ∧ m.keypad.pending = false then m.registers.pc + 2 - 2
      else if m.skips i then m.registers.pc + 2 + 2 else m.registers.pc + 2).toNat =
        m.registers.pc.toNat + m.stride i := by
  have size : memorySize = 4096 := rfl
  have passed := passedPc inside
  unfold stride
  split
  · rw [UInt16.add_sub_cancel, Nat.add_zero]
  · split
    · rw [UInt16.toNat_add, passed]
      show (m.registers.pc.toNat + 2 + 2) % 65536 = m.registers.pc.toNat + 4
      omega
    · exact passed

end Machine

structure Written (m : Machine) (i : Instruction) (n : Machine) : Prop where
  v : ∀ x, x ∉ m.targets i → n.v x = m.v x
  index : i.opcode.movesIndex m.dialect = false → n.registers.index = m.registers.index
  pc : i.opcode.leaps = false → n.registers.pc.toNat = m.registers.pc.toNat + m.stride i
  stack : i.opcode ≠ .call → i.opcode ≠ .ret → n.registers.stack = m.registers.stack
  memory : ∀ a, ¬(m.registers.index.toNat ≤ a ∧ a < m.registers.index.toNat + i.span) →
    n.memory.bytes[a]? = m.memory.bytes[a]?
  screen : i.opcode ≠ .clear → i.opcode ≠ .draw → n.screen = m.screen
  delay : i.opcode ≠ .setDelay → n.timers.delay = m.timers.delay
  sound : i.opcode ≠ .setSound → n.timers.sound = m.timers.sound
  ticks : n.timers.ticks = m.timers.ticks
  keypad : i.opcode ≠ .waitKey → n.keypad = m.keypad
  pressed : n.keypad.pressed = m.keypad.pressed
  generator : n.generator = if i.opcode = .random then m.generator.byte.2 else m.generator
  dialect : n.dialect = m.dialect
  skipUnknown : n.skipUnknown = m.skipUnknown
  program : n.program = m.program
  haltedBy : n.haltedBy = m.haltedBy
  fault : n.fault = m.fault
  steps : n.steps = m.steps + 1

theorem writeSet {m : Machine} {i : Instruction} (performs : m.Performs i) :
    Written m i m.step.1 := by
  obtain ⟨n, executed, result⟩ := Machine.performed performs
  obtain ⟨inside, _⟩ := Machine.currentInside performs.current
  have after : m.step.1 = ((m.begun i).execute i).1.countStep := by rw [result, executed]
  have frame := Machine.executeFrame (m.begun i) i
  rw [after]
  constructor
  case v => exact fun x other => (m.begun i).executeV i other
  case index => exact (m.begun i).executeIndex i
  case pc =>
    intro steady
    refine (congrArg UInt16.toNat ((m.begun i).executePc i steady)).trans ?_
    exact Machine.strideTaken inside i
  case memory => exact fun a outside => (m.begun i).executeMemory i outside
  case stack => exact fun call ret => frame.stack ret call
  case screen => exact frame.screen
  case delay => exact ((m.begun i).executeTimers i).1
  case sound => exact ((m.begun i).executeTimers i).2
  case ticks => exact (m.begun i).executeTicks i
  case keypad => exact frame.keypad
  case pressed => exact (m.begun i).executePressed i
  case generator => exact (m.begun i).executeGenerator i
  case dialect => exact frame.dialect
  case skipUnknown => exact frame.skipUnknown
  case program => exact frame.program
  case haltedBy => exact frame.haltedBy
  case fault => exact frame.fault
  case steps => exact congrArg (· + 1) frame.steps

def loading : Machine :=
  (idleSession.after [.host (.load [0xF2, 0x65]), .host (.setIndex 0x200)]).machine

theorem loadingWrites :
    loading.Performs ⟨.loadRegisters, 0xF265⟩ ∧
      Written loading ⟨.loadRegisters, 0xF265⟩ loading.step.1 := by
  obtain ⟨current, returned⟩ :
      loading.current? = some ⟨.loadRegisters, 0xF265⟩ ∧ loading.step.2.isOk = true := by
    decide +kernel
  have performs : loading.Performs ⟨.loadRegisters, 0xF265⟩ := ⟨current, returned⟩
  exact ⟨performs, writeSet performs⟩

end Chip8
