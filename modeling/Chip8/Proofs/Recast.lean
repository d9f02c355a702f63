import Chip8.Proofs.StepStages

/-! What steps do not look at. A dialect answers at most one question about an instruction, the
timers matter to the reading of the delay alone, the keypad to the three instructions on keys, the
leniency to words that are no instructions, and the journal to nothing. So two machines that differ
in no more than these five take the same step as long as it does not look at what is different, and
what a step does to timers, keypad and journal it does to any. -/
namespace Chip8

def Opcode.switch? : Opcode → Option Switch
  | .shiftRight | .shiftLeft => some .shiftInPlace
  | .storeRegisters | .loadRegisters => some .keepIndex
  | .jumpOffset => some .jumpAddsVX
  | .or | .and | .xor => some .logicClearsVF
  | .draw => some .clip
  | .addIndex => some .indexOverflow
  | _ => none

def Opcode.keyed : Opcode → Bool
  | .skipPressed | .skipReleased | .waitKey => true
  | _ => false

structure Guise where
  timers : Timers
  keypad : Keypad
  dialect : Dialect
  skipUnknown : Bool
  journal : Journal

namespace Machine

def guise (m : Machine) : Guise := ⟨m.timers, m.keypad, m.dialect, m.skipUnknown, m.journal⟩

def clad (m : Machine) (g : Guise) : Machine :=
  { m with
    timers := g.timers
    keypad := g.keypad
    dialect := g.dialect
    skipUnknown := g.skipUnknown
    journal := g.journal }

def recast (m : Machine) (timers : Timers) (dialect : Dialect) (journal : Journal) : Machine :=
  { m with timers, dialect, journal }

section
variable (m : Machine) (g : Guise)

theorem skipClad (condition : Bool) :
    (m.clad g).skipIf condition = (m.skipIf condition).clad g := by
  unfold skipIf
  split <;> rfl

theorem shiftedClad (agree : g.dialect.shiftInPlace = m.dialect.shiftInPlace)
    (i : Instruction) : (m.clad g).shifted i = m.shifted i := by
  show (if g.dialect.shiftInPlace then _ else _) = _
  rw [agree]
  rfl

theorem logicClad (agree : g.dialect.logicClearsVF = m.dialect.logicClearsVF) (x : Fin 16)
    (b : UInt8) : (m.clad g).logic x b = (m.logic x b).clad g := by
  show (if g.dialect.logicClearsVF then _ else _) =
    (if m.dialect.logicClearsVF then _ else _ : Machine).clad g
  rw [agree]
  split <;> rfl

theorem addIndexClad (agree : g.dialect.indexOverflow = m.dialect.indexOverflow) (x : Fin 16) :
    (m.clad g).addIndex x = (m.addIndex x).clad g := by
  show (if g.dialect.indexOverflow then _ else _) =
    (if m.dialect.indexOverflow then _ else _ : Machine).clad g
  rw [agree]
  split <;> rfl

theorem passIndexClad (agree : g.dialect.keepIndex = m.dialect.keepIndex) (x : Fin 16) :
    (m.clad g).passIndex x = (m.passIndex x).clad g := by
  show (if g.dialect.keepIndex then _ else _) =
    (if m.dialect.keepIndex then _ else _ : Machine).clad g
  rw [agree]
  split <;> rfl

theorem retClad : (m.clad g).ret? = (m.ret?.1.clad g, m.ret?.2) := by
  simp only [ret?, clad]
  cases m.registers.pop <;> rfl

theorem callClad (address : UInt16) :
    (m.clad g).call? address = ((m.call? address).1.clad g, (m.call? address).2) := by
  simp only [call?, clad]
  cases m.registers.push m.registers.pc <;> rfl

theorem drawClad (agree : g.dialect.clip = m.dialect.clip) (i : Instruction) :
    (m.clad g).draw? i = ((m.draw? i).1.clad g, (m.draw? i).2) := by
  simp only [draw?, clad, agree]
  cases m.memory.fetch m.registers.index.toNat i.n with
  | mk rows fault => cases fault <;> rfl

theorem storeRegistersClad (agree : g.dialect.keepIndex = m.dialect.keepIndex) (x : Fin 16) :
    (m.clad g).storeRegisters? x = ((m.storeRegisters? x).1.clad g, (m.storeRegisters? x).2) := by
  cases stored : m.memory.store m.registers.index.toNat (m.registers.first (x.val + 1)) with
  | mk memory fault =>
    have same : (m.clad g).memory.store (m.clad g).registers.index.toNat
        ((m.clad g).registers.first (x.val + 1)) = (memory, fault) := stored
    simp only [storeRegisters?, stored, same]
    cases fault with
    | none => exact congrArg (·, none) (passIndexClad { m with memory } g agree x)
    | some f => rfl

theorem loadRegistersClad (agree : g.dialect.keepIndex = m.dialect.keepIndex) (x : Fin 16) :
    (m.clad g).loadRegisters? x = ((m.loadRegisters? x).1.clad g, (m.loadRegisters? x).2) := by
  cases fetched : m.memory.fetch m.registers.index.toNat (x.val + 1) with
  | mk bytes fault =>
    have same : (m.clad g).memory.fetch (m.clad g).registers.index.toNat (x.val + 1) =
        (bytes, fault) := fetched
    simp only [loadRegisters?, fetched, same]
    cases fault with
    | none =>
      let loaded := { m with registers := m.registers.setFrom 0 bytes }
      exact congrArg (·, none) (loaded.passIndexClad g agree x)
    | some f => rfl

/- A key wait is the one instruction that writes into the journal, and that moves the keypad. -/
theorem waitKeyClad (m : Machine) (x : Fin 16) :
    ∃ (hold : Keypad → Keypad) (write : Journal → Journal), ∀ g : Guise, g.keypad = m.keypad →
      (m.clad g).waitKey x =
        (m.waitKey x).clad { g with keypad := hold g.keypad, journal := write g.journal } := by
  cases waiting : m.keypad.waiting with
  | false =>
    refine ⟨Keypad.arm, (·.record .waitArmed), fun g same => ?_⟩
    have idle : (m.clad g).keypad.waiting = false := (congrArg (·.waiting) same).trans waiting
    simp only [waitKey, waiting, idle]
    rfl
  | true =>
    have on (g : Guise) (same : g.keypad = m.keypad) : (m.clad g).keypad.waiting = true :=
      (congrArg (·.waiting) same).trans waiting
    cases taken : m.keypad.take with
    | mk key keypad =>
      have sameKey (g : Guise) (same : g.keypad = m.keypad) :
          (m.clad g).keypad.take = (key, keypad) := (congrArg (·.take) same).trans taken
      cases key with
      | none =>
        refine ⟨id, id, fun g same => ?_⟩
        simp only [waitKey, waiting, on g same, if_true, taken, sameKey g same]
        rfl
      | some k =>
        refine ⟨fun _ => keypad, (·.record (.waitSatisfied k)), fun g same => ?_⟩
        simp only [waitKey, waiting, on g same, if_true, taken, sameKey g same]
        rfl

end

structure Overlooks (m : Machine) (t : Timers) (d : Dialect) (o : Opcode) : Prop where
  switch : ∀ s, o.switch? = some s → s.get d = s.get m.dialect
  delay : o = .readDelay → t.delay = m.timers.delay

structure Disregards (m : Machine) (g : Guise) (o : Opcode) : Prop
    extends Overlooks m g.timers g.dialect o where
  keys : o.keyed = true → g.keypad = m.keypad

theorem executeClad (m : Machine) (i : Instruction) :
    ∃ (wind : Timers → Timers) (hold : Keypad → Keypad) (write : Journal → Journal),
      ∀ g : Guise, Disregards m g i.opcode → (m.clad g).execute i =
        ((m.execute i).1.clad
          { g with timers := wind g.timers, keypad := hold g.keypad, journal := write g.journal },
          (m.execute i).2) := by
  cases named : i.opcode <;> simp only [execute, named]
  case setDelay => exact ⟨(·.setDelay (m.v i.x)), id, id, fun _ _ => rfl⟩
  case setSound => exact ⟨(·.setSound (m.v i.x)), id, id, fun _ _ => rfl⟩
  case waitKey =>
    obtain ⟨hold, write, waited⟩ := m.waitKeyClad i.x
    exact ⟨id, hold, write, fun g same => congrArg (·, none) (waited g (same.keys rfl))⟩
  all_goals refine ⟨id, id, id, fun g same => ?_⟩
  case ret => exact m.retClad g
  case call => exact m.callClad g _
  case draw => exact m.drawClad g (same.switch _ rfl) i
  case storeRegisters => exact m.storeRegistersClad g (same.switch _ rfl) _
  case loadRegisters => exact m.loadRegistersClad g (same.switch _ rfl) _
  case skipEqualByte | skipUnequalByte | skipEqual | skipUnequal =>
    exact congrArg (·, none) (m.skipClad g _)
  case skipPressed | skipReleased =>
    have keypad : (m.clad g).keypad = m.keypad := same.keys rfl
    rw [keypad]
    exact congrArg (·, none) (m.skipClad g _)
  case or | and | xor => exact congrArg (·, none) (m.logicClad g (same.switch _ rfl) _ _)
  case addIndex => exact congrArg (·, none) (m.addIndexClad g (same.switch _ rfl) _)
  case shiftRight | shiftLeft =>
    rw [m.shiftedClad g (same.switch _ rfl) i]
    rfl
  case jumpOffset =>
    have agree : g.dialect.jumpAddsVX = m.dialect.jumpAddsVX := same.switch _ rfl
    show ((m.clad g).jumpTo (i.nnn + (m.v (if g.dialect.jumpAddsVX then _ else _)).toUInt16), _) = _
    rw [agree]
    rfl
  case readDelay =>
    show ((m.clad g).setV i.x g.timers.delay, _) = _
    rw [same.delay rfl]
    rfl
  all_goals rfl

theorem haltClad (m : Machine) (g : Guise) (f : Fault) :
    (m.clad g).halt f =
      ((m.halt f).1.clad { g with journal := g.journal.record (.halted f) }, (m.halt f).2) :=
  rfl

theorem meetUnknownClad (m : Machine) (f : Fault) :
    ∃ write : Journal → Journal, ∀ g : Guise, g.skipUnknown = m.skipUnknown →
      (m.clad g).meetUnknown f =
        ((m.meetUnknown f).1.clad { g with journal := write g.journal }, (m.meetUnknown f).2) := by
  cases lenient : m.skipUnknown with
  | true =>
    refine ⟨(·.record (.skipped f)), fun g same => ?_⟩
    have also : (m.clad g).skipUnknown = true := same
    simp only [meetUnknown, lenient, also, if_true]
    rfl
  | false =>
    refine ⟨(·.record (.halted f)), fun g same => ?_⟩
    have also : (m.clad g).skipUnknown = false := same
    simp only [meetUnknown, lenient, also, Bool.false_eq_true, if_false]
    exact m.haltClad g f

theorem begunClad (m : Machine) (i : Instruction) :
    ∃ write : Journal → Journal, ∀ g : Guise,
      (m.clad g).begun i = (m.begun i).clad { g with journal := write g.journal } :=
  ⟨(·.record (.executing m.registers.pc i m.advance.registers)), fun _ => rfl⟩

def Astray (m : Machine) : Prop :=
  ∃ inside : m.registers.pc.toNat + 1 < memorySize,
    Instruction.decode? (m.memory.wordAt _ inside) = none

structure Unseen (m : Machine) (g : Guise) : Prop where
  known : m.haltedBy = none → ∀ i, m.current? = some i → Disregards m g i.opcode
  unknown : m.haltedBy = none → Astray m → g.skipUnknown = m.skipUnknown

/- Three functions say it for all guises, so what is the same before is the same after. -/
theorem stepUnseen (m : Machine) :
    ∃ (wind : Timers → Timers) (hold : Keypad → Keypad) (write : Journal → Journal),
      ∀ g : Guise, Unseen m g → (m.clad g).step =
        (m.step.1.clad
          { g with timers := wind g.timers, keypad := hold g.keypad, journal := write g.journal },
          m.step.2) := by
  cases stage m with
  | halted halt result =>
    refine ⟨id, id, id, fun g _ => ?_⟩
    rw [result, stepHalted (m := m.clad g) halt]
    rfl
  | unfetched running past result =>
    let f := Fault.outOfBounds (max m.registers.pc.toNat memorySize : Nat) .outside
    refine ⟨id, id, (·.record (.halted f)), fun g _ => ?_⟩
    rw [result, stepUnfetched (m := m.clad g) running past]
    exact m.haltClad g f
  | unknown running inside undecoded result =>
    obtain ⟨write, met⟩ := m.advance.meetUnknownClad
      (.unknownOpcode (m.memory.wordAt _ inside).toNat (some m.registers.pc.toNat))
    refine ⟨id, id, write, fun g unseen => ?_⟩
    rw [result, stepUnknown (m := m.clad g) running inside undecoded]
    exact met g (unseen.unknown running ⟨inside, undecoded⟩)
  | @failed i n f running current executed result =>
    obtain ⟨enter, begun⟩ := m.begunClad i
    obtain ⟨wind, hold, write, clads⟩ := (m.begun i).executeClad i
    refine ⟨wind, hold, fun j => (write (enter j)).record (.halted f), fun g unseen => ?_⟩
    obtain ⟨⟨switch, delay⟩, keys⟩ := unseen.known running i current
    rw [result, stepKnown (m := m.clad g) running current, begun,
      clads { g with journal := enter g.journal } ⟨⟨switch, delay⟩, keys⟩, executed]
    exact n.haltClad _ f
  | @done i n running current executed result =>
    obtain ⟨enter, begun⟩ := m.begunClad i
    obtain ⟨wind, hold, write, clads⟩ := (m.begun i).executeClad i
    refine ⟨wind, hold, fun j => write (enter j), fun g unseen => ?_⟩
    obtain ⟨⟨switch, delay⟩, keys⟩ := unseen.known running i current
    rw [result, stepKnown (m := m.clad g) running current, begun,
      clads { g with journal := enter g.journal } ⟨⟨switch, delay⟩, keys⟩, executed]
    rfl

theorem unseenSelf (m : Machine) : Unseen m m.guise :=
  ⟨fun _ _ _ => ⟨⟨fun _ _ => rfl, fun _ => rfl⟩, fun _ => rfl⟩, fun _ _ => rfl⟩

theorem stepClad (m : Machine) :
    ∃ (wind : Timers → Timers) (hold : Keypad → Keypad) (write : Journal → Journal),
      m.step.1.guise =
          { m.guise with
            timers := wind m.timers, keypad := hold m.keypad, journal := write m.journal } ∧
        ∀ g : Guise, Unseen m g → (m.clad g).step =
          (m.step.1.clad
            { g with timers := wind g.timers, keypad := hold g.keypad, journal := write g.journal },
            m.step.2) := by
  obtain ⟨wind, hold, write, clads⟩ := m.stepUnseen
  exact ⟨wind, hold, write, congrArg (·.1.guise) (clads m.guise m.unseenSelf), clads⟩

theorem begunRecast (m : Machine) (i : Instruction) :
    ∃ write : Journal → Journal, ∀ t d j,
      (m.recast t d j).begun i = (m.begun i).recast t d (write j) := by
  obtain ⟨write, begun⟩ := m.begunClad i
  exact ⟨write, fun t d j => begun { m.guise with timers := t, dialect := d, journal := j }⟩

end Chip8.Machine
