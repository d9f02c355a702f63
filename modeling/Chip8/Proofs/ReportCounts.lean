import Chip8.Proofs.FailedStep
import Chip8.Proofs.TickRate
import Chip8.Proofs.Turns

/-! What a report counts. A slot is spent on a step or is lost, and what is lost is lost for good:
a machine that is halted or waits for a key stays so for the rest of the call. So the counts of a
report, of its machine and of its timeline agree, and the screen is drawn anew by the steps that
say so. -/
namespace Chip8

namespace Machine

theorem stepCounts (m : Machine) :
    m.step.1.steps = m.steps + if m.step.2.isOk then 1 else 0 := by
  cases stage m with
  | halted halt result | unfetched running past result =>
    rw [result]
    rfl
  | unknown running inside undecoded result =>
    rw [result]
    unfold meetUnknown
    split <;> rfl
  | failed running current executed result =>
    obtain ⟨v, pc, memory, journal, left⟩ := failedRest running result
    rw [result]
    exact congrArg (·.steps) left
  | @done i n running current executed result =>
    have kept := (executeFrame (m.begun i) i).steps
    rw [executed] at kept
    rw [result]
    exact congrArg (· + 1) kept

theorem redrawsIff (o : Opcode) : o.redraws = true ↔ o = .clear ∨ o = .draw := by
  cases o <;> simp [Opcode.redraws]

theorem stepRedraws (m : Machine) :
    m.step.2 = .ok true ↔ ∃ i, m.Performs i ∧ (i.opcode = .clear ∨ i.opcode = .draw) := by
  constructor
  · intro drawn
    have returned : m.step.2.isOk = true := by
      rw [drawn]
      rfl
    cases stage m with
    | halted halt result | unfetched running past result | failed running current executed result =>
      rw [result] at drawn
      contradiction
    | unknown running inside undecoded result =>
      rw [result] at drawn
      unfold meetUnknown at drawn
      split at drawn <;> simp [halt] at drawn
    | @done i n running current executed result =>
      rw [result] at drawn
      exact ⟨i, ⟨current, returned⟩, (redrawsIff i.opcode).mp (Except.ok.inj drawn)⟩
  · rintro ⟨i, performs, draws⟩
    obtain ⟨n, executed, result⟩ := performed performs
    rw [result, (redrawsIff i.opcode).mpr draws]

theorem stepScreen {m : Machine} (undrawn : m.step.2 ≠ .ok true) :
    m.step.1.screen = m.screen := by
  cases stage m with
  | halted halt result => rw [result]
  | unfetched running past result =>
    rw [result]
    rfl
  | unknown running inside undecoded result =>
    rw [result]
    unfold meetUnknown
    split <;> rfl
  | failed running current executed result =>
    obtain ⟨v, pc, memory, journal, left⟩ := failedRest running result
    rw [result]
    exact congrArg (·.screen) left
  | @done i n running current executed result =>
    have other : ¬(i.opcode = .clear ∨ i.opcode = .draw) := by
      intro draws
      rw [result, (redrawsIff i.opcode).mpr draws] at undrawn
      exact undrawn rfl
    obtain ⟨clear, draw⟩ := not_or.mp other
    have kept := (executeFrame (m.begun i) i).screen clear draw
    rw [executed] at kept
    rw [result]
    exact kept

theorem slotCounts (m : Machine) (r : Report) :
    ∃ n ≤ 1, (m.slot r).1.steps = m.steps + n ∧
      (m.slot r).2.instructions = r.instructions + n ∧
      (n < 1 → ((m.slot r).1.halted || (m.slot r).1.blocked) = true) := by
  have counted := m.stepCounts
  cases spent m r with
  | halted stopped result =>
    rw [result]
    refine ⟨0, Nat.zero_le 1, rfl, ?_, fun _ => by simp [stopped]⟩
    split <;> rfl
  | blocked running unpressed result =>
    rw [result]
    exact ⟨0, Nat.zero_le 1, rfl, rfl, fun _ => by simp [unpressed]⟩
  | failed running free outcome result =>
    rw [outcome] at counted
    rw [result]
    exact ⟨0, Nat.zero_le 1, counted, rfl, fun _ => by simp [stepErrorHalts outcome]⟩
  | done running free outcome result =>
    rw [outcome] at counted
    rw [result]
    exact ⟨1, Nat.le_refl 1, counted, rfl, fun few => absurd few (Nat.lt_irrefl 1)⟩

theorem stuckCases {m : Machine} (stuck : (m.halted || m.blocked) = true) :
    m.halted = true ∨ m.awaitingKey = true ∧ m.keypad.presses = [] := by
  cases Bool.or_eq_true_iff.mp stuck with
  | inl halted => exact .inl halted
  | inr blocked =>
    obtain ⟨waiting, unpressed⟩ : m.keypad.waiting = true ∧ m.keypad.pending = false := by
      simpa [Machine.blocked] using blocked
    refine .inr ⟨waiting, ?_⟩
    simpa [Keypad.pending, waiting] using unpressed

theorem playCounts (state : Machine × Report) (beats : List Beat) :
    ∃ n ≤ beats.count .slot, (play state beats).1.steps = state.1.steps + n ∧
      (play state beats).2.instructions = state.2.instructions + n ∧
      (n < beats.count .slot →
        ((play state beats).1.halted || (play state beats).1.blocked) = true) := by
  induction beats generalizing state with
  | nil => exact ⟨0, Nat.le_refl 0, rfl, rfl, fun few => absurd few (Nat.lt_irrefl 0)⟩
  | cons b rest ih =>
    obtain ⟨n, most, steps, instructions, lost⟩ := ih (beat state b)
    cases b with
    | tick =>
      rw [List.count_cons_of_ne (by decide)]
      exact ⟨n, most, steps, instructions, lost⟩
    | slot =>
      obtain ⟨k, one, first, counted, idle⟩ := slotCounts state.1 state.2
      have stays (stuck : ((state.1.slot state.2).1.halted ||
          (state.1.slot state.2).1.blocked) = true) :
          ((play state (.slot :: rest)).1.halted ||
            (play state (.slot :: rest)).1.blocked) = true := by
        have same : (play state (.slot :: rest)).1 = rest.foldl pass (state.1.slot state.2).1 :=
          playPasses (beat state .slot) rest
        rw [same, stuckPasses stuck rest]
        exact stuck
      have stepsAll : (play state (.slot :: rest)).1.steps = state.1.steps + (k + n) := by
        rw [← Nat.add_assoc, ← first]
        exact steps
      have countedAll :
          (play state (.slot :: rest)).2.instructions = state.2.instructions + (k + n) := by
        rw [← Nat.add_assoc, ← counted]
        exact instructions
      rw [List.count_cons_self]
      refine ⟨k + n, by omega, stepsAll, countedAll, fun few => ?_⟩
      by_cases now : k < 1
      · exact stays (idle now)
      · exact lost (by omega)

theorem slotRedraws (m : Machine) (r : Report) :
    (m.slot r).2.redrawn = true ↔
      r.redrawn = true ∨ (m.halted || m.blocked) = false ∧ m.step.2 = .ok true := by
  cases spent m r with
  | halted stopped result =>
    rw [result, stopped]
    split <;> simp
  | blocked running unpressed result => simp [result, unpressed]
  | failed running free outcome result => simp [result, outcome]
  | done running free outcome result => simp [result, running, free, outcome]

theorem playRedraws (state : Machine × Report) (beats : List Beat) :
    (play state beats).2.redrawn = true ↔ state.2.redrawn = true ∨
      ∃ k ∈ state.1.stepped (state.1.beatTurns beats), k.step.2 = .ok true := by
  induction beats generalizing state with
  | nil => simp [play, beatTurns, stepped]
  | cons b rest ih =>
    have later := ih (beat state b)
    cases b with
    | tick => exact later
    | slot =>
      have first := slotRedraws state.1 state.2
      have passed : (beat state .slot).1 = state.1.spendSlot := slotPasses state.1 state.2
      rw [passed] at later
      refine later.trans ?_
      rw [beatTurns]
      cases stuck : (state.1.halted || state.1.blocked) with
      | true => simp_all [spendSlot, beat]
      | false => simp_all [spendSlot, beat, stepped, or_assoc]

theorem turnsScreen {m : Machine} {ts : List Turn} (hostless : ∀ call, Turn.host call ∉ ts)
    (undrawn : ∀ k ∈ m.stepped ts, k.step.2 ≠ .ok true) : (m.turns ts).screen = m.screen := by
  induction ts generalizing m with
  | nil => rfl
  | cons t rest ih =>
    have later : ∀ call, Turn.host call ∉ rest :=
      fun call found => hostless call (List.mem_cons_of_mem t found)
    cases t with
    | step =>
      obtain ⟨now, after⟩ := List.forall_mem_cons.mp undrawn
      exact (ih later after).trans (stepScreen now)
    | tick => exact ih (m := m.tick) later undrawn
    | host call => exact absurd List.mem_cons_self (hostless call)

end Machine

variable {R : Type} [Add R] [Sub R] [Mul R] [Div R] [LT R] [DecidableLT R] [LE R]
  [DecidableLE R] [Number.Scalar R]

structure Tally (s : Session R) (a : Action R) (report : Report) : Prop where
  turns : (s.act a).machine = s.machine.turns (s.turnsOf a)
  instructions : (s.act a).machine.steps = s.machine.steps + report.instructions
  received : (s.act a).machine.timers.ticks = s.machine.timers.ticks + report.ticks
  scheduled : (s.act a).schedule.ticks = s.schedule.ticks + report.ticks
  slots : s.schedule.slots + report.instructions ≤ (s.act a).schedule.slots
  lost : s.schedule.slots + report.instructions < (s.act a).schedule.slots →
    (s.act a).machine.halted = true ∨
      (s.act a).machine.awaitingKey = true ∧ (s.act a).machine.keypad.presses = []
  redrawn : report.redrawn = true ↔ ∃ k ∈ s.machine.stepped (s.turnsOf a),
    ∃ i, k.Performs i ∧ (i.opcode = .clear ∨ i.opcode = .draw)
  kept : report.redrawn = false → (s.act a).machine.screen.rows = s.machine.screen.rows

namespace Session

def report? (s : Session R) (a : Action R) : Option Report :=
  (s.answer? a).bind Except.toOption

variable {s : Session R} {a : Action R} {report : Report}

theorem reportTimed (reported : s.report? a = some report) : a.timed = true := by
  cases a with
  | frame | advance => rfl
  | host | step | run | tick | clock => contradiction

theorem reportAnswer (reported : s.report? a = some report) :
    s.answer? a = some (.ok report) := by
  unfold report? at reported
  cases answered : s.answer? a with
  | none => simp [answered] at reported
  | some answer =>
    cases answer with
    | error e => simp [answered, Except.toOption] at reported
    | ok r =>
      rw [answered] at reported
      cases reported
      rfl

end Session

theorem reportCounts {s : Session R} {a : Action R} {report : Report}
    (returned : s.report? a = some report) : Tally s a report := by
  have timed := Session.reportTimed returned
  have passed := Session.timedPassed s timed
  have turned := s.actTurned a
  have taken := s.timedTurns timed
  obtain rfl := passed.report report (Session.reportAnswer returned)
  obtain ⟨received, reported⟩ := Machine.playTicks (s.machine, {}) (s.schedule.beatsOf a)
  obtain ⟨n, most, steps, instructions, lost⟩ :=
    Machine.playCounts (s.machine, {}) (s.schedule.beatsOf a)
  have redraws := Machine.playRedraws (s.machine, {}) (s.schedule.beatsOf a)
  rw [← passed.machine] at received steps lost
  rw [Nat.zero_add] at reported instructions
  simp only [Bool.false_eq_true, false_or, ← taken] at redraws
  constructor
  case turns => exact turned
  case instructions => exact steps.trans (congrArg (s.machine.steps + ·) instructions.symm)
  case received => exact received.trans (congrArg (s.machine.timers.ticks + ·) reported.symm)
  case scheduled => exact passed.ticks.trans (congrArg (s.schedule.ticks + ·) reported.symm)
  case slots =>
    rw [passed.slots]
    exact Nat.add_le_add_left (instructions ▸ most) _
  case lost =>
    intro fewer
    rw [passed.slots, Nat.add_lt_add_iff_left] at fewer
    exact Machine.stuckCases (lost (instructions ▸ fewer))
  case redrawn =>
    refine redraws.trans ?_
    simp only [Machine.stepRedraws]
  case kept =>
    intro undrawn
    rw [turned]
    refine congrArg Display.rows (Machine.turnsScreen ?_ ?_)
    · intro call
      rw [taken]
      exact s.machine.beatsHostless _ call
    · intro k found drawn
      exact Bool.false_ne_true (undrawn.symm.trans (redraws.mpr ⟨k, found, drawn⟩))

open Number (Quantity)

def clearingSession : Session Quantity :=
  idleSession.act (.host (.load [0x00, 0xE0, 0xF0, 0x0A]))

theorem clearingCounts :
    clearingSession.report? (.advance (.real 0.005)) =
        some { instructions := 2, redrawn := true, stop := some .keyWait } ∧
      Tally clearingSession (.advance (.real 0.005))
        { instructions := 2, redrawn := true, stop := some .keyWait } := by
  have returned : clearingSession.report? (.advance (.real 0.005)) =
      some { instructions := 2, redrawn := true, stop := some .keyWait } := by
    decide +kernel
  exact ⟨returned, reportCounts returned⟩

end Chip8
