import Chip8.Proofs.ExactTime
import Chip8.Schedule.Realtime

/-! The pacing loop, lap by lap. A lap reads the clock, plays a frame as long as the time since the
lap before it began and, unless the frame fails, pauses until its deadline. In exact arithmetic the
frames are together as long as the time that has passed, and the deadlines are whole periods from
the start, however late a frame begins and however long a pause becomes. -/
namespace Chip8
open Number (Scalar Unconvertible)

structure Lap (R : Type) where
  start : R
  elapsed : R
  report : Report
  rest : Option (R × Option R)

def Lap.failed {R : Type} (l : Lap R) : Bool := l.report.error.isSome

variable {R : Type} [Add R] [Sub R] [Mul R] [Div R] [LT R] [DecidableLT R] [Scalar R]

omit [LT R] [DecidableLT R] in
theorem Session.frameTimerHz (s : Session R) (elapsed : Option R) :
    (s.frame elapsed).1.schedule.timerHz = s.schedule.timerHz := by
  obtain ⟨budget, spent⟩ :=
    s.schedule.spendOutcome (s.schedule.ticks + 1) (elapsed.getD s.schedule.period)
  cases checked : Scalar.check (elapsed.getD s.schedule.period) with
  | error kind => simp only [frame, checked]
  | ok _ =>
    cases worth : (s.schedule.spend (elapsed.getD s.schedule.period)).2 with
    | error kind | ok count => simp only [frame, frameOf, checked, spent, worth]

variable {C W : Type} (wall : WallClock C R) (watch : Report → Machine → W → Machine × W)

structure Shown (p : Paced R C W) (l : Lap R) (q : Paced R C W) : Prop where
  read : wall.read p.clock = (l.start, q.clock)
  framed : ∃ session, p.session.frame (some l.elapsed) = (session, .ok l.report) ∧
    q.session.schedule = session.schedule ∧
    watch l.report session.machine p.watcher = (q.session.machine, q.watcher)

/- The second half: nothing after a failure, else the clock is read again, and slept on if there is
a pause. -/
inductive Rested (p : Paced R C W) : Option (R × Option R) → Paced R C W → Prop where
  | broken : Rested p none p
  | onward {reading : R} {clock : C} (read : wall.read p.clock = (reading, clock)) :
      Rested p (some (reading, none)) { p with clock }
  | slept {reading pause : R} {clock later : C} (read : wall.read p.clock = (reading, clock))
      (sleep : wall.sleep clock pause = some later) :
      Rested p (some (reading, some pause)) { p with clock := later }

inductive Raised (p : Paced R C W) : PacingError R → Prop where
  | frame {start elapsed : R} {clock : C} {session : Session R} {e : ScheduleError R}
      (read : wall.read p.clock = (start, clock))
      (framed : p.session.frame (some elapsed) = (session, .error e)) : Raised p (.schedule e)
  | pause {l : Lap R} {q : Paced R C W} {reading delay : R} {clock : C} {kind : Unconvertible}
      (shown : Shown wall watch p l q) (read : wall.read q.clock = (reading, clock))
      (refused : Scalar.check delay = .error kind) : Raised p (.schedule (.unconvertible kind))
  | sleep {l : Lap R} {q : Paced R C W} {reading pause : R} {clock : C}
      (shown : Shown wall watch p l q) (read : wall.read q.clock = (reading, clock))
      (sleep : wall.sleep clock pause = none) : Raised p .interrupted

inductive Lapped : Paced R C W → List (Lap R) → Paced R C W → Prop where
  | nil (p : Paced R C W) : Lapped p [] p
  | cons {p q n z : Paced R C W} {l : Lap R} {laps : List (Lap R)}
      (shown : Shown wall watch p l q) (rested : Rested wall q l.rest n)
      (later : Lapped n laps z) : Lapped p (l :: laps) z

inductive Pacing (period : R) : Pace R → Nat → Paced R C W → List (Lap R) → Paced R C W → Prop where
  | done (pace : Pace R) (p : Paced R C W) : Pacing period pace 0 p [] p
  | failed {pace : Pace R} {frames : Nat} {p q : Paced R C W} {l : Lap R}
      (shown : Shown wall watch p l q) (length : l.elapsed = pace.elapsed l.start)
      (error : l.failed = true) (rest : l.rest = none) :
      Pacing period pace (frames + 1) p [l] q
  | next {pace : Pace R} {frames : Nat} {p q n z : Paced R C W} {l : Lap R} {laps : List (Lap R)}
      {reading : R} {pause : Option R} (shown : Shown wall watch p l q)
      (length : l.elapsed = pace.elapsed l.start) (clean : l.failed = false)
      (rest : l.rest = some (reading, pause)) (paused : pace.pause reading = .ok pause)
      (rested : Rested wall q l.rest n)
      (later : Pacing period (pace.next l.start period) frames n laps z) :
      Pacing period pace (frames + 1) p (l :: laps) z

variable {wall watch} {period : R} {pace : Pace R} {frames : Nat} {p q : Paced R C W}
  {laps : List (Lap R)}

omit [LT R] [DecidableLT R] in
theorem shownPeriod {l : Lap R} (shown : Shown wall watch p l q) :
    q.session.schedule.period = p.session.schedule.period := by
  obtain ⟨session, framed, schedule, -⟩ := shown.framed
  have rate := Session.frameTimerHz p.session (some l.elapsed)
  rw [framed] at rate
  rw [Schedule.period, Schedule.period, schedule, rate]

omit [Add R] [Mul R] [Div R] in
theorem pauseRefused {reading : R} {kind : Unconvertible}
    (refused : pace.pause reading = .error kind) :
    Scalar.check (pace.deadline - reading) = .error kind := by
  unfold Pace.pause at refused
  cases checked : Scalar.check (pace.deadline - reading) with
  | error other =>
    simp only [checked, Except.map] at refused
    cases refused
    rfl
  | ok _ => simp [checked, Except.map] at refused

omit [Add R] [Mul R] [Div R] in
theorem pauseTaken {reading : R} {pause : Option R} (paused : pace.pause reading = .ok pause) :
    pause = if Scalar.ofInt 0 < pace.deadline - reading then some (pace.deadline - reading)
      else none := by
  unfold Pace.pause at paused
  cases checked : Scalar.check (pace.deadline - reading) with
  | error kind => simp [checked, Except.map] at paused
  | ok _ =>
    simp only [checked, Except.map] at paused
    cases paused
    rfl

theorem runFirst {report : Report} {outcome : Except (PacingError R) Report}
    (ran : Paced.runFrom wall watch pace report p (frames + 1) = (q, outcome)) :
    (∃ e, outcome = .error e ∧ Raised wall watch p e) ∨
      ∃ l n, Shown wall watch p l n ∧ l.elapsed = pace.elapsed l.start ∧
        (l.failed = true ∧ l.rest = none ∧ q = n ∧ outcome = .ok l.report ∨
          l.failed = false ∧ ∃ reading pause z, l.rest = some (reading, pause) ∧
            pace.pause reading = .ok pause ∧ Rested wall n l.rest z ∧
            Paced.runFrom wall watch (pace.next l.start n.session.schedule.period) l.report z
              frames = (q, outcome)) := by
  rcases read : wall.read p.clock with ⟨start, clock⟩
  rcases framed : p.session.frame (some (pace.elapsed start)) with ⟨session, e | own⟩
  · simp only [Paced.runFrom, read, framed] at ran
    cases ran
    exact .inl ⟨_, rfl, .frame read framed⟩
  rcases watched : watch own session.machine p.watcher with ⟨machine, watcher⟩
  have shown (rest : Option (R × Option R)) :
      Shown wall watch p ⟨start, pace.elapsed start, own, rest⟩
        ⟨{ session with machine }, clock, watcher⟩ :=
    ⟨read, session, framed, rfl, watched⟩
  simp only [Paced.runFrom, read, framed, watched] at ran
  cases error : own.error.isSome with
  | true =>
    rw [error, if_pos rfl] at ran
    cases ran
    exact .inr ⟨_, _, shown none, rfl, .inl ⟨error, rfl, rfl, rfl⟩⟩
  | false =>
    rw [error, if_neg Bool.false_ne_true] at ran
    rcases again : wall.read clock with ⟨reading, later⟩
    rcases paused : pace.pause reading with kind | _ | pause
    · simp only [again, paused] at ran
      cases ran
      exact .inl ⟨_, rfl, .pause (shown none) again (pauseRefused paused)⟩
    · simp only [again, paused] at ran
      exact .inr ⟨_, _, shown (some (reading, none)), rfl, .inr ⟨error, _, _, _, rfl, paused,
        .onward again, ran⟩⟩
    · rcases slept : wall.sleep later pause with _ | woken
      · simp only [again, paused, slept] at ran
        cases ran
        exact .inl ⟨_, rfl, .sleep (shown none) again slept⟩
      · simp only [again, paused, slept] at ran
        exact .inr ⟨_, _, shown (some (reading, some pause)), rfl,
          .inr ⟨error, _, _, _, rfl, paused, .slept again slept, ran⟩⟩

omit [Add R] [Sub R] [Mul R] [Div R] [LT R] [DecidableLT R] [Scalar R] in
theorem restedSession {rest : Option (R × Option R)} (rested : Rested wall p rest q) :
    q.session = p.session := by
  cases rested <;> rfl

theorem runPacing {report final : Report} (same : p.session.schedule.period = period)
    (returned : Paced.runFrom wall watch pace report p frames = (q, .ok final)) :
    ∃ laps, Pacing wall watch period pace frames p laps q ∧
      final = (laps.getLast?.map Lap.report).getD report := by
  induction frames generalizing pace report p with
  | zero =>
    cases returned
    exact ⟨[], .done pace _, rfl⟩
  | succ frames ih =>
    rcases runFirst returned with ⟨e, ended, -⟩ | ⟨l, n, shown, length, failed | ⟨clean, going⟩⟩
    · contradiction
    · obtain ⟨error, rest, rfl, ended⟩ := failed
      cases ended
      exact ⟨[l], .failed shown length error rest, rfl⟩
    · obtain ⟨reading, pause, z, rest, paused, rested, onward⟩ := going
      have period := (shownPeriod shown).trans same
      rw [period] at onward
      obtain ⟨laps, later, last⟩ := ih (restedSession rested ▸ period) onward
      refine ⟨l :: laps, .next shown length clean rest paused rested later, ?_⟩
      rw [last, List.getLast?_cons]
      cases laps.getLast? <;> rfl

theorem runRaises {report : Report} {e : PacingError R}
    (raised : Paced.runFrom wall watch pace report p frames = (q, .error e)) :
    ∃ laps m, Lapped wall watch p laps m ∧ (∀ l ∈ laps, l.failed = false) ∧
      laps.length < frames ∧ Raised wall watch m e := by
  induction frames generalizing pace report p with
  | zero => cases raised
  | succ frames ih =>
    rcases runFirst raised with ⟨e, ended, call⟩ | ⟨l, n, shown, length, failed | ⟨clean, going⟩⟩
    · cases ended
      exact ⟨[], p, .nil p, List.forall_mem_nil _, Nat.succ_pos frames, call⟩
    · obtain ⟨-, -, -, ended⟩ := failed
      contradiction
    · obtain ⟨reading, pause, z, rest, paused, rested, onward⟩ := going
      obtain ⟨laps, m, later, fine, fewer, call⟩ := ih onward
      exact ⟨l :: laps, m, .cons shown rested later, List.forall_mem_cons.mpr ⟨clean, fine⟩,
        Nat.succ_lt_succ fewer, call⟩

theorem pacingLapped (pacing : Pacing wall watch period pace frames p laps q) :
    Lapped wall watch p laps q := by
  induction pacing with
  | done pace p => exact .nil p
  | failed shown length error rest => exact .cons shown (rest ▸ .broken) (.nil _)
  | next shown length clean rest paused rested later ih => exact .cons shown rested ih

theorem pacingCount (pacing : Pacing wall watch period pace frames p laps q) :
    laps.length ≤ frames ∧
      laps.length = (laps.findIdx? Lap.failed).elim frames (· + 1) := by
  induction pacing with
  | done pace p => exact ⟨Nat.le_refl 0, rfl⟩
  | failed shown length error rest =>
    rw [List.findIdx?_cons, error]
    exact ⟨Nat.succ_le_succ (Nat.zero_le _), rfl⟩
  | @next pace frames p q n z l laps reading pause shown length clean rest paused rested later ih =>
    obtain ⟨most, count⟩ := ih
    rw [List.findIdx?_cons, clean, List.length_cons, count]
    refine ⟨by omega, ?_⟩
    cases laps.findIdx? Lap.failed <;> rfl

theorem pacingRests (pacing : Pacing wall watch period pace frames p laps q) :
    ∀ l ∈ laps, (l.rest = none ↔ l.failed = true) ∧
      ∀ reading pause, l.rest = some (reading, some pause) → Scalar.ofInt 0 < pause := by
  induction pacing with
  | done pace p => exact List.forall_mem_nil _
  | failed shown length error rest =>
    exact List.forall_mem_singleton.mpr ⟨by simp [error, rest], by simp [rest]⟩
  | next shown length clean rest paused rested later ih =>
    refine List.forall_mem_cons.mpr ⟨⟨by simp [clean, rest], ?_⟩, ih⟩
    intro reading pause taken
    cases Option.some.inj (rest.symm.trans taken)
    have delay := pauseTaken paused
    split at delay
    · rename_i positive
      cases delay
      exact positive
    · contradiction

structure Exact (value : R → ℚ) : Prop where
  add : ∀ a b, value (a + b) = value a + value b
  sub : ∀ a b, value (a - b) = value a - value b
  mul : ∀ a b, value (a * b) = value a * value b
  div : ∀ a b, value (a / b) = value a / value b
  less : ∀ a b, a < b ↔ value a < value b
  ofInt : ∀ n, value (Scalar.ofInt n) = n
  one : value Scalar.one = 1

theorem exactFractions : Exact (fun x : ℚ => x) := by
  constructor <;> intros <;> rfl

def pauseOf (left : ℚ) : Option ℚ := if 0 < left then some left else none

theorem pauseExact {value : R → ℚ} (exact : Exact value) {reading : R} {pause : Option R}
    (paused : pace.pause reading = .ok pause) :
    pause.map value = pauseOf (value pace.deadline - value reading) := by
  have positive : Scalar.ofInt 0 < pace.deadline - reading ↔
      0 < value pace.deadline - value reading := by
    rw [exact.less, exact.ofInt, exact.sub, Int.cast_zero]
  rw [pauseTaken paused, pauseOf, ← exact.sub]
  rw [← exact.sub] at positive
  by_cases left : Scalar.ofInt 0 < pace.deadline - reading
  · rw [if_pos left, if_pos (positive.mp left)]
    rfl
  · rw [if_neg left, if_neg (mt positive.mpr left)]
    rfl

theorem pacingElapsed {value : R → ℚ} (exact : Exact value)
    (pacing : Pacing wall watch period pace frames p laps q) {i : Nat} {l : Lap R}
    (found : laps[i]? = some l) :
    ((laps.take (i + 1)).map fun l => value l.elapsed).sum = value l.start - value pace.last := by
  induction pacing generalizing i with
  | done pace p => simp at found
  | @failed pace frames p q own shown length error rest =>
    cases i with
    | zero =>
      cases Option.some.inj found
      simp [length, Pace.elapsed, exact.sub]
    | succ i => simp at found
  | @next pace frames p q n z own laps reading pause shown length clean rest paused rested later
      ih =>
    cases i with
    | zero =>
      cases Option.some.inj found
      simp [length, Pace.elapsed, exact.sub]
    | succ i =>
      have onward : ((laps.take (i + 1)).map fun l => value l.elapsed).sum =
          value l.start - value own.start := ih found
      rw [List.take_succ_cons, List.map_cons, List.sum_cons, onward, length, Pace.elapsed,
        exact.sub]
      ring

theorem pacingPauses {value : R → ℚ} (exact : Exact value)
    (pacing : Pacing wall watch period pace frames p laps q) {i : Nat} {l : Lap R}
    (found : laps[i]? = some l) {reading : R} {pause : Option R}
    (rest : l.rest = some (reading, pause)) :
    pause.map value = pauseOf (value pace.deadline + i * value period - value reading) := by
  induction pacing generalizing i with
  | done pace p => simp at found
  | @failed pace frames p q own shown length error ended =>
    cases i with
    | zero =>
      cases Option.some.inj found
      rw [ended] at rest
      contradiction
    | succ i => simp at found
  | @next pace frames p q n z own laps _ _ shown length clean ended paused rested later ih =>
    cases i with
    | zero =>
      cases Option.some.inj found
      cases Option.some.inj (ended.symm.trans rest)
      rw [pauseExact exact paused, Nat.cast_zero, zero_mul, add_zero]
    | succ i =>
      have onward : pause.map value =
          pauseOf (value (pace.deadline + period) + i * value period - value reading) := ih found
      rw [onward, exact.add, Nat.cast_succ]
      congr 1
      ring

structure Counted (frames : Nat) (laps : List (Lap R)) (report : Report) : Prop where
  most : laps.length ≤ frames
  count : laps.length = (laps.findIdx? Lap.failed).elim frames (· + 1)
  last : report = (laps.getLast?.map Lap.report).getD {}
  rest : ∀ l ∈ laps, l.rest = none ↔ l.failed = true
  pause : ∀ l ∈ laps, ∀ reading pause, l.rest = some (reading, some pause) →
    Scalar.ofInt 0 < pause

structure OnTime (value : R → ℚ) (period first : ℚ) (laps : List (Lap R)) : Prop where
  elapsed : ∀ i l, laps[i]? = some l →
    ((laps.take (i + 1)).map fun l => value l.elapsed).sum = value l.start - first + period
  pause : ∀ (i : ℕ) l reading pause, laps[i]? = some l → l.rest = some (reading, pause) →
    pause.map value = pauseOf (first + (i + 1) * period - value reading)

theorem startedOnTime {value : R → ℚ} (exact : Exact value) {first timerHz : R}
    (pacing : Pacing wall watch (Scalar.one / timerHz) (.start (Scalar.one / timerHz) first) frames
      p laps q) : OnTime value (1 / value timerHz) (value first) laps := by
  have period : value (Scalar.one / timerHz) = 1 / value timerHz := by rw [exact.div, exact.one]
  have last : value (Pace.start (Scalar.one / timerHz) first).last =
      value first - 1 / value timerHz := by
    rw [Pace.start, exact.sub, period]
  have deadline : value (Pace.start (Scalar.one / timerHz) first).deadline =
      value first + 1 / value timerHz := by
    rw [Pace.start, exact.add, exact.sub, exact.mul, exact.ofInt, period, Int.cast_ofNat]
    ring
  constructor
  case elapsed =>
    intro i l found
    rw [pacingElapsed exact pacing found, last]
    ring
  case pause =>
    intro i l reading pause found rest
    rw [pacingPauses exact pacing found rest, deadline, period]
    congr 1
    ring

/- How the pacing of some frames ends: it returns, with all that it has done, or a call of it
raises, and then so does it. -/
inductive PacedEnd (wall : WallClock C R) (watch : Report → Machine → W → Machine × W)
    (p : Paced R C W) (frames : Nat) :
    Paced R C W → Except (PacingError R) Report → Prop where
  | returned {first : R} {clock : C} {laps : List (Lap R)} {q : Paced R C W} {report : Report}
      (read : wall.read p.clock = (first, clock))
      (lapped : Lapped wall watch { p with clock } laps q)
      (counted : Counted frames laps report)
      (onTime : ∀ value : R → ℚ, Exact value →
        OnTime value (1 / value p.session.schedule.timerHz) (value first) laps) :
      PacedEnd wall watch p frames q (.ok report)
  | unstarted {first : R} {clock : C} {kind : Unconvertible}
      (read : wall.read p.clock = (first, clock))
      (refused : Scalar.check (Pace.start p.session.schedule.period first).deadline = .error kind) :
      PacedEnd wall watch p frames { p with clock } (.error (.schedule (.unconvertible kind)))
  | raised {first : R} {clock : C} {laps : List (Lap R)} {m q : Paced R C W} {e : PacingError R}
      (read : wall.read p.clock = (first, clock))
      (lapped : Lapped wall watch { p with clock } laps m)
      (fine : ∀ l ∈ laps, l.failed = false) (fewer : laps.length < frames)
      (call : Raised wall watch m e) : PacedEnd wall watch p frames q (.error e)

theorem realtimePaced (wall : WallClock C R) (watch : Report → Machine → W → Machine × W)
    (p : Paced R C W) (n : ℤ) :
    PacedEnd wall watch p n.toNat (Paced.run wall watch p n.toNat).1
      (Paced.run wall watch p n.toNat).2 := by
  rcases read : wall.read p.clock with ⟨first, clock⟩
  cases checked : Scalar.check (Pace.start p.session.schedule.period first).deadline with
  | error kind =>
    simp only [Paced.run, read, checked]
    exact .unstarted read checked
  | ok _ =>
    simp only [Paced.run, read, checked]
    rcases ran : Paced.runFrom wall watch (.start p.session.schedule.period first) {}
      { p with clock } n.toNat with ⟨q, e | report⟩
    · obtain ⟨laps, m, lapped, fine, fewer, call⟩ := runRaises ran
      exact .raised read lapped fine fewer call
    · obtain ⟨laps, pacing, last⟩ := runPacing rfl ran
      obtain ⟨most, count⟩ := pacingCount pacing
      have rests := pacingRests pacing
      have counted : Counted n.toNat laps report :=
        ⟨most, count, last, fun l found => (rests l found).1, fun l found => (rests l found).2⟩
      exact .returned read (pacingLapped pacing) counted fun value exact =>
        startedOnTime exact pacing

def slackClock : WallClock ℚ ℚ where
  read t := (t, t + 1 / 1000)
  sleep t pause := some (t + pause + 1 / 1000)

example :
    let watch := fun r m seen => (m, r.ticks :: seen)
    let paced := Paced.run slackClock watch ⟨secondSession, 0, []⟩ 3
    paced.2.isOk = true ∧ paced.1.watcher = [1, 1, 1] ∧ paced.1.clock = 3 / 60 + 2 / 1000 := by
  decide +kernel

end Chip8
