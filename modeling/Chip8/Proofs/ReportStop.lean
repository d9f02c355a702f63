import Chip8.Proofs.ReportCounts

/-! Why a call stopped, as its report has it. The first failing step of a call is its last step,
and its fault is the report's error; a call to a machine that had stopped before finds the fault
of that time, as soon as it has a slot to spend. Slots after that change nothing. -/
namespace Chip8

namespace Machine

structure Stopped (f : Fault) (reason : StopReason) (state : Machine × Report) : Prop where
  halted : state.1.halted = true
  fault : state.1.fault = some f
  error : state.2.error = some f
  stop : state.2.stop = some reason

structure Clean (r : Report) : Prop where
  error : r.error = none
  stop : r.stop = none

theorem beatStopped {f : Fault} {reason : StopReason} {state : Machine × Report}
    (stopped : Stopped f reason state) (b : Beat) : Stopped f reason (beat state b) := by
  obtain ⟨halted, fault, error, stop⟩ := stopped
  cases b with
  | tick => exact ⟨halted, fault, error, stop⟩
  | slot =>
    have kept : beat state .slot = state := by simp [beat, slot, halted, error]
    rw [kept]
    exact ⟨halted, fault, error, stop⟩

theorem playStopped {f : Fault} {reason : StopReason} {state : Machine × Report}
    (stopped : Stopped f reason state) (beats : List Beat) :
    Stopped f reason (play state beats) := by
  induction beats generalizing state with
  | nil => exact stopped
  | cons b rest ih => exact ih (beatStopped stopped b)

theorem stoppedSteps {m : Machine} (stopped : m.halted = true) (beats : List Beat) :
    m.stepped (m.beatTurns beats) = [] := by
  induction beats generalizing m with
  | nil => rfl
  | cons b rest ih =>
    cases b with
    | tick => exact ih (m := m.tick) stopped
    | slot =>
      rw [beatTurns, if_pos (by simp [stopped])]
      exact ih stopped

theorem stepRuns {m : Machine} {redrawn : Bool} (done : m.step.2 = .ok redrawn) :
    m.step.1.halted = false := by
  cases stage m with
  | halted halt result | unfetched running past result | failed running current executed result =>
    rw [result] at done
    contradiction
  | unknown running inside undecoded result =>
    rw [result] at done ⊢
    unfold meetUnknown at done ⊢
    split at done
    · rename_i lenient
      rw [if_pos lenient]
      exact congrArg Option.isSome running
    · simp [halt] at done
  | @done i n running current executed result =>
    have kept := (executeFrame (m.begun i) i).haltedBy
    rw [executed] at kept
    rw [result]
    exact congrArg Option.isSome (kept.trans running)

theorem playFound {state : Machine × Report} {f : Fault} (halted : state.1.halted = true)
    (fault : state.1.fault = some f) (clean : Clean state.2) (beats : List Beat) :
    beats.count .slot = 0 ∧ Clean (play state beats).2 ∨
      0 < beats.count .slot ∧ Stopped f .halted (play state beats) := by
  induction beats generalizing state with
  | nil => exact .inl ⟨rfl, clean⟩
  | cons b rest ih =>
    cases b with
    | tick =>
      rw [List.count_cons_of_ne (by decide)]
      exact @ih (beat state .tick) halted fault ⟨clean.error, clean.stop⟩
    | slot =>
      have found : beat state .slot =
          (state.1, { state.2 with stop := some .halted, error := some f }) := by
        simp [beat, slot, halted, clean.error, fault]
      have stopped : Stopped f .halted (beat state .slot) := by
        rw [found]
        exact ⟨halted, fault, rfl, rfl⟩
      rw [List.count_cons_self]
      exact .inr ⟨Nat.succ_pos _, playStopped stopped rest⟩

inductive Ending (m : Machine) (beats : List Beat) (after : Machine × Report) : Prop where
  | running (halted : after.1.halted = false) (clean : Clean after.2)
      (fine : ∀ k ∈ m.stepped (m.beatTurns beats), k.step.2.isOk = true)
  | failed (earlier : List Machine) (k : Machine) (f : Fault) (spent : 0 < beats.count .slot)
      (steps : m.stepped (m.beatTurns beats) = earlier ++ [k])
      (fine : ∀ j ∈ earlier, j.step.2.isOk = true) (failure : k.step.2 = .error f)
      (stopped : Stopped f f.reason after)

section
variable {m : Machine} {rest : List Beat} {after : Machine × Report}

theorem endingTick (ending : Ending m.tick rest after) : Ending m (.tick :: rest) after := by
  cases ending with
  | running halted clean fine => exact .running halted clean fine
  | failed earlier k f spent steps fine failure stopped =>
    refine .failed earlier k f ?_ steps fine failure stopped
    rwa [List.count_cons_of_ne (by decide)]

theorem endingBlocked (unpressed : m.blocked = true) (ending : Ending m rest after) :
    Ending m (.slot :: rest) after := by
  have lost : m.beatTurns (.slot :: rest) = m.beatTurns rest := by
    rw [beatTurns, if_pos (by simp [unpressed])]
  cases ending with
  | running halted clean fine => exact .running halted clean (lost ▸ fine)
  | failed earlier k f spent steps fine failure stopped =>
    refine .failed earlier k f ?_ (lost ▸ steps) fine failure stopped
    rw [List.count_cons_self]
    exact Nat.succ_pos _

theorem endingStep {redrawn : Bool} (running : m.halted = false) (free : m.blocked = false)
    (done : m.step.2 = .ok redrawn) (ending : Ending m.step.1 rest after) :
    Ending m (.slot :: rest) after := by
  have turns : m.stepped (m.beatTurns (.slot :: rest)) =
      m :: m.step.1.stepped (m.step.1.beatTurns rest) := by
    rw [beatTurns, if_neg (by simp [running, free])]
    rfl
  have returns : m.step.2.isOk = true := by
    rw [done]
    rfl
  cases ending with
  | running halted clean fine =>
    refine .running halted clean ?_
    rw [turns]
    exact List.forall_mem_cons.mpr ⟨returns, fine⟩
  | failed earlier k f spent steps fine failure stopped =>
    refine .failed (m :: earlier) k f ?_ ?_ ?_ failure stopped
    · rw [List.count_cons_self]
      exact Nat.succ_pos _
    · rw [turns, steps]
      rfl
    · exact List.forall_mem_cons.mpr ⟨returns, fine⟩

theorem endingFailure {f : Fault} (running : m.halted = false) (free : m.blocked = false)
    (failure : m.step.2 = .error f) (stopped : Stopped f f.reason after) :
    Ending m (.slot :: rest) after := by
  refine .failed [] m f ?_ ?_ ?_ failure stopped
  · rw [List.count_cons_self]
    exact Nat.succ_pos _
  · rw [beatTurns, if_neg (by simp [running, free])]
    exact congrArg (m :: ·) (stoppedSteps (stepErrorHalts failure) rest)
  · exact List.forall_mem_nil _

end

/- The induction is on the beats; a failing step settles the rest of them at once. -/
theorem playEnding {state : Machine × Report} (running : state.1.halted = false)
    (clean : Clean state.2) (beats : List Beat) : Ending state.1 beats (play state beats) := by
  induction beats generalizing state with
  | nil => exact .running running clean (List.forall_mem_nil _)
  | cons b rest ih =>
    cases b with
    | tick =>
      exact endingTick (@ih (beat state .tick) running ⟨clean.error, clean.stop⟩)
    | slot =>
      have later : play state (.slot :: rest) = play (state.1.slot state.2) rest := rfl
      rw [later]
      cases spent state.1 state.2 with
      | halted stopped result => exact absurd running (by simp [stopped])
      | blocked running unpressed result =>
        rw [result]
        exact endingBlocked unpressed (ih running clean)
      | @failed f running free outcome result =>
        have unhalted : state.1.haltedBy = none := by simpa [halted] using running
        obtain ⟨v, pc, memory, journal, left⟩ := failedRest unhalted (Prod.ext rfl outcome)
        have stopped : Stopped f f.reason (state.1.slot state.2) := by
          rw [result]
          exact ⟨congrArg Machine.halted left, congrArg Machine.fault left, rfl, rfl⟩
        exact endingFailure running free outcome (playStopped stopped rest)
      | done running free outcome result =>
        have stepped : (state.1.slot state.2).1 = state.1.step.1 := by rw [result]
        have next : Clean (state.1.slot state.2).2 := by
          rw [result]
          exact ⟨clean.error, clean.stop⟩
        have goes := stepRuns outcome
        rw [← stepped] at goes
        refine endingStep running free outcome ?_
        rw [← stepped]
        exact ih goes next

theorem closeClean {m : Machine} {r : Report} (clean : Clean r) :
    (m.close r).error = none ∧
      (m.close r).stop = if m.awaitingKey then some .keyWait else none := by
  refine ⟨clean.error, ?_⟩
  simp [close, clean.stop]

theorem closeStopped {f : Fault} {reason : StopReason} {state : Machine × Report}
    (stopped : Stopped f reason state) :
    (state.1.close state.2).error = some f ∧ (state.1.close state.2).stop = some reason := by
  refine ⟨stopped.error, ?_⟩
  simp [close, stopped.stop]

end Machine

variable {R : Type} [Add R] [Sub R] [Mul R] [Div R] [LT R] [DecidableLT R] [LE R]
  [DecidableLE R] [Number.Scalar R]

structure Verdict (s : Session R) (a : Action R) (report : Report) : Prop where
  turns : (s.act a).machine = s.machine.turns (s.turnsOf a)
  error : report.error.isSome = true ↔
    s.schedule.slots < (s.act a).schedule.slots ∧ (s.act a).machine.halted = true
  fault : ∀ f, report.error = some f → (s.act a).machine.fault = some f
  found : ∀ f, report.error = some f → s.machine.halted = true → report.stop = some .halted
  failed : ∀ f, report.error = some f → s.machine.halted = false →
    report.stop = some f.reason ∧
      ∃ earlier k, s.machine.stepped (s.turnsOf a) = earlier ++ [k] ∧
        (∀ j ∈ earlier, j.step.2.isOk = true) ∧ k.step.2 = .error f
  idle : s.machine.halted = true → s.machine.stepped (s.turnsOf a) = []
  clean : report.error = none →
    report.stop = (if (s.act a).machine.awaitingKey then some .keyWait else none) ∧
      ∀ k ∈ s.machine.stepped (s.turnsOf a), k.step.2.isOk = true

section
variable {s : Session R} {a : Action R} {report : Report}

theorem cleanVerdict (passed : Session.Passed s a) (returned : s.report? a = some report)
    (clean : Machine.Clean (Machine.play (s.machine, {}) (s.schedule.beatsOf a)).2)
    (quiet : (s.schedule.beatsOf a).count .slot = 0 ∨ (s.act a).machine.halted = false)
    (idle : s.machine.halted = true → s.machine.stepped (s.turnsOf a) = [])
    (fine : ∀ k ∈ s.machine.stepped (s.turnsOf a), k.step.2.isOk = true) :
    Verdict s a report := by
  obtain rfl := passed.report report (Session.reportAnswer returned)
  obtain ⟨error, stop⟩ := Machine.closeClean (m := (s.act a).machine) clean
  constructor
  case turns => exact s.actTurned a
  case error =>
    rw [error, passed.slots]
    cases quiet with
    | inl none => simp [none]
    | inr running => simp [running]
  case fault | found | failed =>
    intro f found
    rw [error] at found
    contradiction
  case idle => exact idle
  case clean => exact fun _ => ⟨stop, fine⟩

theorem stoppedVerdict {f : Fault} {reason : StopReason} (passed : Session.Passed s a)
    (returned : s.report? a = some report)
    (stopped : Machine.Stopped f reason (Machine.play (s.machine, {}) (s.schedule.beatsOf a)))
    (spent : 0 < (s.schedule.beatsOf a).count .slot)
    (idle : s.machine.halted = true → s.machine.stepped (s.turnsOf a) = [])
    (found : s.machine.halted = true → reason = .halted)
    (failed : s.machine.halted = false → reason = f.reason ∧
      ∃ earlier k, s.machine.stepped (s.turnsOf a) = earlier ++ [k] ∧
        (∀ j ∈ earlier, j.step.2.isOk = true) ∧ k.step.2 = .error f) :
    Verdict s a report := by
  obtain rfl := passed.report report (Session.reportAnswer returned)
  obtain ⟨error, stop⟩ := Machine.closeStopped stopped
  obtain ⟨halted, fault, -, -⟩ := stopped
  rw [← passed.machine] at error stop halted fault
  constructor
  case turns => exact s.actTurned a
  case error => simp [error, passed.slots, spent, halted]
  case fault =>
    intro g same
    exact fault.trans (error.symm.trans same)
  case found =>
    intro g same before
    rw [stop, found before]
  case failed =>
    intro g same running
    cases Option.some.inj (error.symm.trans same)
    obtain ⟨own, steps⟩ := failed running
    exact ⟨stop.trans (congrArg some own), steps⟩
  case idle => exact idle
  case clean =>
    intro none
    rw [error] at none
    contradiction

theorem reportStop (wellFormed : WellFormed s.machine) (returned : s.report? a = some report) :
    Verdict s a report := by
  have timed := Session.reportTimed returned
  have passed := Session.timedPassed s timed
  have taken := s.timedTurns timed
  have idle : s.machine.halted = true → s.machine.stepped (s.turnsOf a) = [] := by
    intro halted
    rw [taken]
    exact Machine.stoppedSteps halted _
  cases running : s.machine.halted with
  | true =>
    obtain ⟨cause, halt⟩ := Option.isSome_iff_exists.mp running
    have fault : s.machine.fault = some cause := wellFormed.halt.symm.trans halt
    cases @Machine.playFound (s.machine, {}) cause running fault ⟨rfl, rfl⟩
      (s.schedule.beatsOf a) with
    | inl unspent =>
      refine cleanVerdict passed returned unspent.2 (.inl unspent.1) idle ?_
      rw [idle running]
      exact List.forall_mem_nil _
    | inr found =>
      refine stoppedVerdict passed returned found.2 found.1 idle (fun _ => rfl) ?_
      intro unhalted
      exact absurd running (by simp [unhalted])
  | false =>
    cases @Machine.playEnding (s.machine, {}) running ⟨rfl, rfl⟩ (s.schedule.beatsOf a) with
    | running halted clean fine =>
      rw [← taken] at fine
      rw [← passed.machine] at halted
      exact cleanVerdict passed returned clean (.inr halted) idle fine
    | failed earlier k f spent steps fine failure stopped =>
      rw [← taken] at steps
      refine stoppedVerdict passed returned stopped spent idle ?_
        (fun _ => ⟨rfl, earlier, k, steps, fine, failure⟩)
      intro halted
      exact absurd halted (by simp [running])

end

open Number (Quantity)

def unreturning : Session Quantity :=
  idleSession.act (.host (.load [0x60, 0x05, 0x00, 0xEE]))

theorem unreturningStop :
    WellFormed unreturning.machine ∧
      unreturning.report? (.advance (.real 0.005)) =
        some { instructions := 1, stop := some .stackUnderflow,
               error := some (.stackUnderflow 0x204) } ∧
      Verdict unreturning (.advance (.real 0.005))
        { instructions := 1, stop := some .stackUnderflow,
          error := some (.stackUnderflow 0x204) } := by
  have sound : Sound unreturning.machine :=
    Machine.serveSound idleSession.machine (.load [0x60, 0x05, 0x00, 0xEE])
      (Machine.powerOnSound ..)
  have wellFormed := soundWellFormed sound
  have returned : unreturning.report? (.advance (.real 0.005)) =
      some { instructions := 1, stop := some .stackUnderflow,
             error := some (.stackUnderflow 0x204) } := by
    decide +kernel
  exact ⟨wellFormed, returned, reportStop wellFormed returned⟩

end Chip8
