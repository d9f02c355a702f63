import Chip8.Proofs.StartDue
import Chip8.Proofs.Timeline

/-! The timer side of a timeline. Steps, runs and slots, lost or not, never tick; so what a host
reads about ticks after each stretch depends on the timer rate and the lengths of the stretches
alone, and as long as time only grows it is the number of periods that have passed. -/
namespace Chip8
open Number (Quantity Scalar)

namespace Machine

theorem executeTicks (m : Machine) (i : Instruction) :
    (m.execute i).1.timers.ticks = m.timers.ticks := by
  by_cases delay : i.opcode = .setDelay
  · simp only [execute, delay]
    rfl
  · by_cases sound : i.opcode = .setSound
    · simp only [execute, sound]
      rfl
    · rw [(executeFrame m i).timers delay sound]

theorem stepTicks (m : Machine) : m.step.1.timers.ticks = m.timers.ticks :=
  stepKeeps (·.timers.ticks) (fun _ _ _ _ _ _ => rfl) (fun _ i _ => executeTicks (m.begun i) i)

theorem runTicks (m : Machine) (limit : Nat) : (m.run limit).1.timers.ticks = m.timers.ticks := by
  induction limit generalizing m with
  | zero => rfl
  | succ limit ih =>
    have first := stepTicks m
    unfold run
    split <;> rename_i stepped <;> rw [stepped] at first
    · exact first
    · split
      · exact first
      · exact (ih _).trans first

theorem slotTicks (m : Machine) (r : Report) :
    (m.slot r).1.timers.ticks = m.timers.ticks ∧ (m.slot r).2.ticks = r.ticks := by
  cases spent m r with
  | halted stopped result =>
    rw [result]
    split <;> exact ⟨rfl, rfl⟩
  | blocked running unpressed result =>
    rw [result]
    exact ⟨rfl, rfl⟩
  | failed running free outcome result | done running free outcome result =>
    rw [result]
    exact ⟨stepTicks m, rfl⟩

theorem playTicks (state : Machine × Report) (beats : List Beat) :
    (play state beats).1.timers.ticks = state.1.timers.ticks + beats.count .tick ∧
      (play state beats).2.ticks = state.2.ticks + beats.count .tick := by
  induction beats generalizing state with
  | nil => exact ⟨rfl, rfl⟩
  | cons b rest ih =>
    obtain ⟨received, reported⟩ := ih (beat state b)
    cases b with
    | tick =>
      rw [List.count_cons_self, Nat.add_comm _ 1, ← Nat.add_assoc, ← Nat.add_assoc]
      exact ⟨received, reported⟩
    | slot =>
      obtain ⟨kept, counted⟩ := slotTicks state.1 state.2
      rw [List.count_cons_of_ne (by decide), ← kept, ← counted]
      exact ⟨received, reported⟩

theorem loadTicks (m : Machine) (image : List UInt8) :
    (m.load image).1.timers.ticks = m.timers.ticks := by
  unfold load
  split <;> rfl

theorem serveTicks (m : Machine) {call : HostCall} (powered : call ≠ .restart) :
    (m.serve call).timers.ticks = m.timers.ticks := by
  by_cases load : ∃ image, call = .load image
  · obtain ⟨image, rfl⟩ := load
    exact loadTicks m image
  · obtain ⟨_, _, _, _, _, _, _, served⟩ :=
      serveRest m (fun image same => load ⟨image, same⟩) powered
    rw [served]

end Machine

def Action.quiet {R : Type} : Action R → Bool
  | .host call => call != .restart
  | .step | .run _ | .advance _ => true
  | .tick | .clock _ _ | .frame _ => false

def Action.stretch? {R : Type} : Action R → Option R
  | .advance elapsed => some elapsed
  | _ => none

structure Reading (R : Type) where
  elapsed : R
  ticks : Nat
  reported : Nat
  received : Int
  deriving DecidableEq, Repr

section
variable {R : Type} [Add R] [Mul R] [LT R] [LE R] [Scalar R]

structure Forward (timerHz start : R) (stretches : List R) : Prop where
  grows : ∀ t ∈ stretches.scanl (· + ·) start, ∀ e ∈ stretches, ¬e < Scalar.ofInt 0 → t ≤ t + e
  ordered : ∀ t ∈ stretches.scanl (· + ·) start, ∀ u ∈ stretches.scanl (· + ·) start, t ≤ u →
    ∀ m ∈ (Schedule.due t timerHz).toOption, ∀ n ∈ (Schedule.due u timerHz).toOption, m ≤ n

theorem forwardTail {timerHz start e : R} {rest : List R} (h : Forward timerHz start (e :: rest)) :
    Forward timerHz (start + e) rest := by
  have later : ∀ t ∈ rest.scanl (· + ·) (start + e), t ∈ (e :: rest).scanl (· + ·) start := by
    intro t found
    rw [List.scanl_cons]
    exact List.mem_cons_of_mem start found
  exact ⟨fun t ht u hu => h.grows t (later t ht) u (List.mem_cons_of_mem e hu),
    fun t ht u hu => h.ordered t (later t ht) u (later u hu)⟩

theorem forwardHead {timerHz start e : R} {rest : List R} (h : Forward timerHz start (e :: rest))
    (nonnegative : ¬e < Scalar.ofInt 0) {m n : Int} (before : Schedule.due start timerHz = .ok m)
    (after : Schedule.due (start + e) timerHz = .ok n) : m ≤ n := by
  have first : start ∈ (e :: rest).scanl (· + ·) start := by simp
  have second : start + e ∈ (e :: rest).scanl (· + ·) start := by
    cases rest <;> simp
  have grown := h.grows start first e (List.mem_cons_self) nonnegative
  have started : m ∈ (Schedule.due start timerHz).toOption := by
    rw [before]
    rfl
  have ended : n ∈ (Schedule.due (start + e) timerHz).toOption := by
    rw [after]
    rfl
  exact h.ordered start first (start + e) second grown m started n ended

variable [DecidableLT R]

def tickline (timerHz elapsed : R) (ticks : Nat) : List R → List (Reading R)
  | [] => []
  | e :: rest =>
    if e < Scalar.ofInt 0 then []
    else
      match Schedule.due (elapsed + e) timerHz with
      | .error _ => []
      | .ok due =>
        let count := (due - ticks).toNat
        ⟨elapsed + e, ticks + count, count, (ticks + count : Nat)⟩ ::
          tickline timerHz (elapsed + e) (ticks + count) rest

theorem ticklineDue {timerHz elapsed : R} {ticks : Nat} {stretches : List R}
    (start : Schedule.due elapsed timerHz = .ok (ticks : Int))
    (forward : Forward timerHz elapsed stretches) :
    ∀ r ∈ tickline timerHz elapsed ticks stretches,
      Schedule.due r.elapsed timerHz = .ok (r.ticks : Int) := by
  induction stretches generalizing elapsed ticks with
  | nil => simp [tickline]
  | cons e rest ih =>
    by_cases negative : e < Scalar.ofInt 0
    · simp [tickline, negative]
    · cases next : Schedule.due (elapsed + e) timerHz with
      | error kind => simp [tickline, negative, next]
      | ok due =>
        have more : (ticks : Int) ≤ due := forwardHead forward negative start next
        have reached : (ticks + (due - ticks).toNat : Nat) = due := by omega
        simp only [tickline, if_neg negative, next, List.forall_mem_cons, reached, true_and]
        exact ih (by rw [next, reached]) (forwardTail forward)

end

variable {R : Type} [Add R] [Sub R] [Mul R] [Div R] [LT R] [DecidableLT R] [LE R]
  [DecidableLE R] [Scalar R]

def reading (origin : Machine) (seen : Session R × Report) : Reading R where
  elapsed := seen.1.schedule.elapsed
  ticks := seen.1.schedule.ticks
  reported := seen.2.ticks
  received := seen.1.machine.timers.ticks - origin.timers.ticks

namespace Session
variable {s : Session R}

theorem quietAct {a : Action R} (quiet : a.quiet = true) (timeless : a.stretch? = none) :
    s.answer? a = none ∧ (s.act a).schedule = s.schedule ∧
      (s.act a).machine.timers.ticks = s.machine.timers.ticks := by
  cases a with
  | host call => exact ⟨rfl, rfl, Machine.serveTicks _ (by simpa [Action.quiet] using quiet)⟩
  | step => exact ⟨rfl, rfl, Machine.stepTicks _⟩
  | run limit => exact ⟨rfl, rfl, Machine.runTicks _ _⟩
  | tick | clock | frame | advance => contradiction

structure Stretched (s : Session R) (elapsed : R) (report : Report) (due : Int) : Prop where
  forward : ¬elapsed < Scalar.ofInt 0
  ticksDue : Schedule.due (s.schedule.elapsed + elapsed) s.schedule.timerHz = .ok due
  reached : (s.act (.advance elapsed)).schedule.elapsed = s.schedule.elapsed + elapsed
  count : (s.schedule.beatsOf (.advance elapsed)).count .tick = (due - s.schedule.ticks).toNat
  received : (s.act (.advance elapsed)).machine.timers.ticks =
    s.machine.timers.ticks + (s.schedule.beatsOf (.advance elapsed)).count .tick
  reported : report.ticks = (s.schedule.beatsOf (.advance elapsed)).count .tick

theorem advanceReturns {elapsed : R} {report : Report}
    (answered : s.answer? (.advance elapsed) = some (.ok report)) :
    ∃ due, Stretched s elapsed report due := by
  have passed := advancePassed s elapsed
  have played := Machine.playTicks (s.machine, {}) (s.schedule.beatsOf (.advance elapsed))
  have received := (congrArg (·.timers.ticks) passed.machine).trans played.1
  have reported := (congrArg Report.ticks (passed.report report answered)).trans played.2
  rw [Nat.zero_add] at reported
  have advanced := s.advancing elapsed
  obtain ⟨due, forward, ticksDue, reached, count⟩ : ∃ due, ¬elapsed < Scalar.ofInt 0 ∧
      Schedule.due (s.schedule.elapsed + elapsed) s.schedule.timerHz = .ok due ∧
      (s.advance elapsed).1.schedule.elapsed = s.schedule.elapsed + elapsed ∧
      (s.schedule.beatsOf (.advance elapsed)).count .tick = (due - s.schedule.ticks).toNat := by
    have returned := Option.some.inj answered
    generalize s.advance elapsed = outcome at advanced returned ⊢
    generalize s.schedule.beatsOf (.advance elapsed) = beats at advanced ⊢
    cases advanced with
    | refused | stalled => contradiction
    | @returned slotsDue due rounds _ _ forward _ tickBound loop =>
      have counted := s.schedule.roundsCount slotsDue due s.schedule.slots s.schedule.ticks
      rw [loop] at counted
      exact ⟨due, forward, tickBound, rfl, counted.2⟩
  exact ⟨due, forward, ticksDue, reached, count, received, reported⟩

/- The machine's own count runs ahead of the timeline's by what it had at the start. -/
theorem tickReadings {origin : Machine} {actions : List (Action R)}
    {seen : List (Session R × Report)} (quiet : ∀ a ∈ actions, a.quiet = true)
    (balanced : s.machine.timers.ticks = origin.timers.ticks + s.schedule.ticks)
    (ok : s.visits actions = .ok seen) :
    seen.map (reading origin) = tickline s.schedule.timerHz s.schedule.elapsed s.schedule.ticks
      (actions.filterMap Action.stretch?) := by
  induction actions generalizing s seen with
  | nil =>
    cases ok
    rfl
  | cons a rest ih =>
    obtain ⟨first, later⟩ := List.forall_mem_cons.mp quiet
    cases length : a.stretch? with
    | none =>
      obtain ⟨untimed, schedule, received⟩ := quietAct (s := s) first length
      rw [List.filterMap_cons_none length, ← schedule]
      exact ih later (by rw [received, schedule, balanced]) (visitsUntimed ok untimed)
    | some elapsed =>
      have stretch : a = .advance elapsed := by
        cases a <;> simp_all [Action.stretch?]
      subst stretch
      obtain ⟨report, others, answered, tail, rfl⟩ := visitsTimed ok rfl
      obtain ⟨due, stretched⟩ := advanceReturns answered
      have passed := advancePassed s elapsed
      have now : reading origin (s.act (.advance elapsed), report) =
          ⟨s.schedule.elapsed + elapsed, s.schedule.ticks + (due - s.schedule.ticks).toNat,
            (due - s.schedule.ticks).toNat,
            (s.schedule.ticks + (due - s.schedule.ticks).toNat : Nat)⟩ := by
        rw [← stretched.count]
        simp only [reading, stretched.reached, passed.ticks, stretched.reported,
          stretched.received, balanced]
        congr 1
        omega
      have next := ih later (by rw [stretched.received, passed.ticks, balanced, Nat.add_assoc]) tail
      rw [stretched.reached, passed.timerHz, passed.ticks, stretched.count] at next
      rw [List.map_cons, now, next, List.filterMap_cons_some length, tickline,
        if_neg stretched.forward]
      simp only [stretched.ticksDue]

end Session

omit [Add R] [Sub R] [Mul R] [Div R] [LT R] [DecidableLT R] in
theorem startFresh {cpuHz timerHz : R} {schedule : Schedule R}
    (fresh : Schedule.start cpuHz timerHz = .ok schedule) :
    schedule.timerHz = timerHz ∧ schedule.elapsed = Scalar.zero ∧ schedule.ticks = 0 := by
  unfold Schedule.start at fresh
  split at fresh
  · contradiction
  · split at fresh
    · contradiction
    · cases fresh
      exact ⟨rfl, rfl, rfl⟩

theorem freshReadings {cpuHz timerHz : R} {s : Session R}
    (fresh : Schedule.start cpuHz timerHz = .ok s.schedule) {actions : List (Action R)}
    (quiet : ∀ a ∈ actions, a.quiet = true) {seen : List (Session R × Report)}
    (ok : s.visits actions = .ok seen) :
    seen.map (reading s.machine) =
      tickline timerHz Scalar.zero 0 (actions.filterMap Action.stretch?) := by
  obtain ⟨rate, start, none⟩ := startFresh fresh
  have balanced : s.machine.timers.ticks = s.machine.timers.ticks + s.schedule.ticks := by
    rw [none, Nat.add_zero]
  have readings := Session.tickReadings quiet balanced ok
  rwa [rate, start, none] at readings

theorem freshDue {cpuHz timerHz : Quantity} {s : Session Quantity}
    (fresh : Schedule.start cpuHz timerHz = .ok s.schedule) {actions : List (Action Quantity)}
    (quiet : ∀ a ∈ actions, a.quiet = true) {seen : List (Session Quantity × Report)}
    (ok : s.visits actions = .ok seen)
    (forward : Forward timerHz Scalar.zero (actions.filterMap Action.stretch?)) :
    ∀ v ∈ seen, Schedule.due v.1.schedule.elapsed timerHz = .ok (v.1.schedule.ticks : Int) := by
  have exact : ∀ r ∈ tickline timerHz Scalar.zero 0 (actions.filterMap Action.stretch?),
      Schedule.due r.elapsed timerHz = .ok (r.ticks : Int) := by
    cases stretches : actions.filterMap Action.stretch? with
    | nil => simp [tickline]
    | cons e rest =>
      rw [stretches] at forward
      cases first : Schedule.due (Scalar.zero + e) timerHz with
      | error kind => simp [tickline, first]
      | ok due => exact ticklineDue (startDue first) forward
  intro v found
  rw [← freshReadings fresh quiet ok] at exact
  exact exact (reading s.machine v) (List.mem_map_of_mem found)

theorem ticksAgree {timerHz cpuHz₁ cpuHz₂ : Quantity} {s₁ s₂ : Session Quantity}
    (fresh₁ : Schedule.start cpuHz₁ timerHz = .ok s₁.schedule)
    (fresh₂ : Schedule.start cpuHz₂ timerHz = .ok s₂.schedule)
    {actions₁ actions₂ : List (Action Quantity)}
    (quiet₁ : ∀ a ∈ actions₁, a.quiet = true) (quiet₂ : ∀ a ∈ actions₂, a.quiet = true)
    (same : actions₁.filterMap Action.stretch? = actions₂.filterMap Action.stretch?)
    {seen₁ seen₂ : List (Session Quantity × Report)}
    (ok₁ : s₁.visits actions₁ = .ok seen₁) (ok₂ : s₂.visits actions₂ = .ok seen₂) :
    seen₁.map (reading s₁.machine) = seen₂.map (reading s₂.machine) ∧
      (Forward timerHz Scalar.zero (actions₁.filterMap Action.stretch?) →
        ∀ v ∈ seen₁ ++ seen₂,
          Schedule.due v.1.schedule.elapsed timerHz = .ok (v.1.schedule.ticks : Int)) := by
  have readings₁ := freshReadings fresh₁ quiet₁ ok₁
  have readings₂ := freshReadings fresh₂ quiet₂ ok₂
  refine ⟨by rw [readings₁, readings₂, same], ?_⟩
  intro forward v found
  cases List.mem_append.mp found with
  | inl first => exact freshDue fresh₁ quiet₁ ok₁ forward v first
  | inr second => exact freshDue fresh₂ quiet₂ ok₂ (same ▸ forward) v second

def sessionAt (cpuHz : Int) : Session Quantity :=
  ⟨⟨.whole cpuHz, .whole 60, .real 0, 0, 0, .real 0⟩,
    .powerOn {} false ⟨Vector.replicate 624 0, 624⟩ .silent⟩

def countUp : List (Action Quantity) :=
  [.host (.load [0x70, 0x01, 0x12, 0x00]), .advance (.real 0.02), .advance (.real 0.0375)]

def awaitKey : List (Action Quantity) :=
  [.host (.load [0xF0, 0x0A, 0x00, 0x00]), .advance (.real 0.02), .host (.press 5 true), .step,
    .advance (.real 0.0375)]

theorem countUpAwaitKey :
    ∃ seen₁ seen₂, (sessionAt 50).visits countUp = .ok seen₁ ∧
      (sessionAt 200).visits awaitKey = .ok seen₂ ∧
      seen₁.map (reading (sessionAt 50).machine) =
        seen₂.map (reading (sessionAt 200).machine) ∧
      ∀ v ∈ seen₁ ++ seen₂,
        Schedule.due v.1.schedule.elapsed (.whole 60) = .ok (v.1.schedule.ticks : Int) := by
  have forward : Forward (.whole 60) (Scalar.zero : Quantity)
      (countUp.filterMap Action.stretch?) := ⟨by decide +kernel, by decide +kernel⟩
  have returned₁ : ((sessionAt 50).visits countUp).isOk = true := by decide +kernel
  have returned₂ : ((sessionAt 200).visits awaitKey).isOk = true := by decide +kernel
  obtain ⟨seen₁, ok₁⟩ := Session.visitsReturn returned₁
  obtain ⟨seen₂, ok₂⟩ := Session.visitsReturn returned₂
  have same : countUp.filterMap Action.stretch? = awaitKey.filterMap Action.stretch? := by
    simp [countUp, awaitKey, Action.stretch?, List.filterMap_cons]
  have fresh₁ : Schedule.start (.whole 50) (.whole 60) = .ok (sessionAt 50).schedule := rfl
  have fresh₂ : Schedule.start (.whole 200) (.whole 60) = .ok (sessionAt 200).schedule := rfl
  obtain ⟨agree, due⟩ := ticksAgree fresh₁ fresh₂ (by decide +kernel) (by decide +kernel) same
    ok₁ ok₂
  exact ⟨seen₁, seen₂, ok₁, ok₂, agree, due forward⟩

end Chip8
