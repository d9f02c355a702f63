import Chip8.Proofs.HostCalls

/-! How time passes for a session. A frame or a stretch plays its beats, ticks and slots, to the
machine and counts them on the timeline; calls that return leave a report each. -/
namespace Chip8
open Number (Scalar Unconvertible)

def Action.timed {R : Type} : Action R → Bool
  | .frame _ | .advance _ => true
  | _ => false

variable {R : Type} [Add R] [Sub R] [Mul R] [Div R] [LT R] [DecidableLT R] [LE R]
  [DecidableLE R] [Scalar R]

structure Round where
  slots : Nat
  ticks : Nat
  beat : Beat
  deriving DecidableEq, Repr

namespace Schedule

def rounds (s : Schedule R) (slotsDue ticksDue : Int) (slots ticks : Nat) : List Round :=
  if slots < slotsDue ∨ ticks < ticksDue then
    if ticks < ticksDue ∧
        (slotsDue ≤ slots ∨ s.tickInstant (ticks + 1) ≤ s.slotInstant (slots + 1)) then
      ⟨slots, ticks, .tick⟩ :: s.rounds slotsDue ticksDue slots (ticks + 1)
    else ⟨slots, ticks, .slot⟩ :: s.rounds slotsDue ticksDue (slots + 1) ticks
  else []
termination_by (slotsDue - slots).toNat + (ticksDue - ticks).toNat
decreasing_by
  · omega
  · have slot := (slotLeft ‹_› ‹_›).1
    omega

def played (s : Schedule R) (rounds : List Round) : List Beat :=
  (rounds.takeWhile fun r => (s.instants r.slots r.ticks).isOk).map (·.beat)

/- What a call plays to the machine, also when it does not return: a frame whose worth is no
number has ticked by then. -/
def beatsOf (s : Schedule R) : Action R → List Beat
  | .frame elapsed =>
    match Scalar.check (elapsed.getD s.period) with
    | .error _ => []
    | .ok () =>
      match (s.spend (elapsed.getD s.period)).2 with
      | .error _ => [.tick]
      | .ok count => .tick :: List.replicate count.toNat .slot
  | .advance elapsed =>
    if elapsed < Scalar.ofInt 0 then []
    else
      match due (s.elapsed + elapsed) s.cpuHz, due (s.elapsed + elapsed) s.timerHz with
      | .ok slotsDue, .ok ticksDue => s.played (s.rounds slotsDue ticksDue s.slots s.ticks)
      | _, _ => []
  | _ => []

def count (s : Schedule R) (beats : List Beat) : Schedule R :=
  { s with slots := s.slots + beats.count .slot, ticks := s.ticks + beats.count .tick }

section
omit [Add R] [Sub R] [Mul R] [LT R] [DecidableLT R] [Div R] [LE R] [DecidableLE R]
variable {s : Schedule R} {r : Round}

theorem playedStalled (rest : List Round) {kind : Unconvertible}
    (stall : s.instants r.slots r.ticks = .error kind) : s.played (r :: rest) = [] := by
  simp [played, stall, Except.isOk, Except.toBool]

theorem playedTimed (rest : List Round) (timed : s.instants r.slots r.ticks = .ok ()) :
    s.played (r :: rest) = r.beat :: s.played rest := by
  simp [played, timed, Except.isOk, Except.toBool]

theorem timedRounds {rounds : List Round} :
    rounds.forM (fun r => s.instants r.slots r.ticks) = .ok () ↔
      ∀ r ∈ rounds, s.instants r.slots r.ticks = .ok () := by
  induction rounds with
  | nil => exact iff_of_true rfl (List.forall_mem_nil _)
  | cons r rest ih =>
    have next : (r :: rest).forM (fun r => s.instants r.slots r.ticks) =
      (s.instants r.slots r.ticks).bind
        fun _ => rest.forM fun r => s.instants r.slots r.ticks := rfl
    rw [List.forall_mem_cons, ← ih, next]
    cases s.instants r.slots r.ticks <;> simp [Except.bind]

theorem playedAll {rounds : List Round}
    (timed : ∀ r ∈ rounds, s.instants r.slots r.ticks = .ok ()) :
    s.played rounds = rounds.map (·.beat) := by
  induction rounds with
  | nil => rfl
  | cons r rest ih =>
    obtain ⟨first, later⟩ := List.forall_mem_cons.mp timed
    rw [playedTimed rest first, ih later, List.map_cons]

end

section
omit [Add R] [Sub R] [Mul R] [LT R] [DecidableLT R]
variable (s : Schedule R) (slotsDue ticksDue : Int) (slots ticks : Nat)

theorem roundsFirst (more : slots < slotsDue ∨ ticks < ticksDue) : ∃ beat rest,
    s.rounds slotsDue ticksDue slots ticks = ⟨slots, ticks, beat⟩ :: rest := by
  rw [rounds, if_pos more]
  split <;> exact ⟨_, _, rfl⟩

theorem replayRounds (state : Machine × Report) :
    s.replay slotsDue ticksDue state slots ticks =
      (Machine.play state (s.played (s.rounds slotsDue ticksDue slots ticks)),
        slots + (s.played (s.rounds slotsDue ticksDue slots ticks)).count .slot,
        ticks + (s.played (s.rounds slotsDue ticksDue slots ticks)).count .tick,
        (s.rounds slotsDue ticksDue slots ticks).forM fun r => s.instants r.slots r.ticks) := by
  fun_induction replay s slotsDue ticksDue state slots ticks with
  | case1 state slots ticks more kind stall =>
    obtain ⟨beat, rest, first⟩ := s.roundsFirst slotsDue ticksDue slots ticks more
    rw [first, playedStalled rest stall]
    simp [Machine.play, stall, bind, Except.bind]
  | case2 state slots ticks more timed first ih =>
    have next : s.rounds slotsDue ticksDue slots ticks =
        ⟨slots, ticks, .tick⟩ :: s.rounds slotsDue ticksDue slots (ticks + 1) := by
      rw [rounds, if_pos more, if_pos first]
    rw [ih, next, playedTimed _ timed]
    simp [Machine.play, timed, bind, Except.bind, Nat.add_assoc, Nat.add_comm]
  | case3 state slots ticks more timed other ih =>
    have next : s.rounds slotsDue ticksDue slots ticks =
        ⟨slots, ticks, .slot⟩ :: s.rounds slotsDue ticksDue (slots + 1) ticks := by
      rw [rounds, if_pos more, if_neg other]
    rw [ih, next, playedTimed _ timed]
    simp [Machine.play, timed, bind, Except.bind, Nat.add_assoc, Nat.add_comm]
  | case4 state slots ticks done =>
    rw [rounds, if_neg done]
    rfl

theorem roundsCount :
    ((s.rounds slotsDue ticksDue slots ticks).map (·.beat)).count .slot = (slotsDue - slots).toNat ∧
      ((s.rounds slotsDue ticksDue slots ticks).map (·.beat)).count .tick =
        (ticksDue - ticks).toNat := by
  fun_induction rounds s slotsDue ticksDue slots ticks with
  | case1 slots ticks more first ih =>
    simp only [List.map_cons, List.count_cons, ih]
    simp
    omega
  | case2 slots ticks more other ih =>
    have slot := (slotLeft more other).1
    simp only [List.map_cons, List.count_cons, ih]
    simp
    omega
  | case3 slots ticks done =>
    simp
    omega

end

omit [Div R] [LT R] [DecidableLT R] [LE R] [DecidableLE R] in
theorem spendOutcome (s : Schedule R) (ticks : Nat) (elapsed : R) :
    ∃ budget, { s with ticks }.spend elapsed =
      ({ s with budget, ticks }, (s.spend elapsed).2) := by
  simp only [spend]
  split
  · exact ⟨s.budget, rfl⟩
  · split <;> exact ⟨_, rfl⟩

end Schedule

namespace Session

def answer? (s : Session R) : Action R → Option (Except (ScheduleError R) Report)
  | .frame elapsed => some (s.frame elapsed).2
  | .advance elapsed => some (s.advance elapsed).2
  | _ => none

/- The ways in which a stretch goes. It is refused before anything is done, or goes through the
rounds for what is due by its end, all of them or those before one that fails. -/
inductive Advancing (s : Session R) (e : R) :
    Session R × Except (ScheduleError R) Report → List Beat → Prop where
  | refused {error : ScheduleError R} (cause : e < Scalar.ofInt 0 ∨
      (∃ kind, Schedule.due (s.schedule.elapsed + e) s.schedule.cpuHz = .error kind) ∨
      ∃ kind, Schedule.due (s.schedule.elapsed + e) s.schedule.timerHz = .error kind) :
      Advancing s e (s, .error error) []
  | stalled {slotsDue ticksDue : Int} {rounds : List Round} {kind : Unconvertible}
      (forward : ¬e < Scalar.ofInt 0)
      (slotBound : Schedule.due (s.schedule.elapsed + e) s.schedule.cpuHz = .ok slotsDue)
      (tickBound : Schedule.due (s.schedule.elapsed + e) s.schedule.timerHz = .ok ticksDue)
      (loop : s.schedule.rounds slotsDue ticksDue s.schedule.slots s.schedule.ticks = rounds)
      (stall : rounds.forM (fun r => s.schedule.instants r.slots r.ticks) = .error kind) :
      Advancing s e
        (⟨s.schedule.count (s.schedule.played rounds),
          (Machine.play (s.machine, {}) (s.schedule.played rounds)).1⟩,
          .error (.unconvertible kind)) (s.schedule.played rounds)
  | returned {slotsDue ticksDue : Int} {rounds : List Round} {machine : Machine} {report : Report}
      (forward : ¬e < Scalar.ofInt 0)
      (slotBound : Schedule.due (s.schedule.elapsed + e) s.schedule.cpuHz = .ok slotsDue)
      (tickBound : Schedule.due (s.schedule.elapsed + e) s.schedule.timerHz = .ok ticksDue)
      (loop : s.schedule.rounds slotsDue ticksDue s.schedule.slots s.schedule.ticks = rounds)
      (timed : rounds.forM (fun r => s.schedule.instants r.slots r.ticks) = .ok ())
      (ended : Machine.play (s.machine, {}) (rounds.map (·.beat)) = (machine, report)) :
      Advancing s e
        (⟨{ s.schedule.count (rounds.map (·.beat)) with elapsed := s.schedule.elapsed + e },
          machine⟩, .ok (machine.close report)) (rounds.map (·.beat))

theorem advancing (s : Session R) (e : R) :
    Advancing s e (s.advance e) (s.schedule.beatsOf (.advance e)) := by
  by_cases negative : e < Scalar.ofInt 0
  · simp only [advance, Schedule.beatsOf, negative, if_true]
    exact .refused (.inl negative)
  · cases slotsDue : Schedule.due (s.schedule.elapsed + e) s.schedule.cpuHz with
    | error kind =>
      simp only [advance, Schedule.beatsOf, negative, if_false, slotsDue]
      exact .refused (.inr (.inl ⟨kind, slotsDue⟩))
    | ok slots =>
      cases ticksDue : Schedule.due (s.schedule.elapsed + e) s.schedule.timerHz with
      | error kind =>
        simp only [advance, Schedule.beatsOf, negative, if_false, slotsDue, ticksDue]
        exact .refused (.inr (.inr ⟨kind, ticksDue⟩))
      | ok ticks =>
        simp only [advance, Schedule.beatsOf, negative, if_false, slotsDue, ticksDue,
          Schedule.replayRounds]
        cases timed : (s.schedule.rounds slots ticks s.schedule.slots s.schedule.ticks).forM
          (fun r => s.schedule.instants r.slots r.ticks) with
        | error kind => exact .stalled negative slotsDue ticksDue rfl timed
        | ok =>
          rw [Schedule.playedAll (Schedule.timedRounds.mp timed)]
          exact .returned negative slotsDue ticksDue rfl timed rfl

structure Passed (s : Session R) (a : Action R) : Prop where
  machine : (s.act a).machine = (Machine.play (s.machine, {}) (s.schedule.beatsOf a)).1
  slots : (s.act a).schedule.slots =
    s.schedule.slots + (s.schedule.beatsOf a).count .slot
  ticks : (s.act a).schedule.ticks =
    s.schedule.ticks + (s.schedule.beatsOf a).count .tick
  cpuHz : (s.act a).schedule.cpuHz = s.schedule.cpuHz
  timerHz : (s.act a).schedule.timerHz = s.schedule.timerHz
  report : ∀ r, s.answer? a = some (.ok r) → r =
    (s.act a).machine.close (Machine.play (s.machine, {}) (s.schedule.beatsOf a)).2

theorem framePassed (s : Session R) (elapsed : Option R) : Passed s (.frame elapsed) := by
  cases checked : Scalar.check (elapsed.getD s.schedule.period) with
  | error kind =>
    constructor <;> simp [act, answer?, frame, Schedule.beatsOf, checked, Machine.play]
  | ok _ =>
    obtain ⟨budget, spent⟩ :=
      s.schedule.spendOutcome (s.schedule.ticks + 1) (elapsed.getD s.schedule.period)
    cases outcome : (s.schedule.spend (elapsed.getD s.schedule.period)).2 with
    | error kind =>
      constructor <;>
        simp [act, answer?, frame, frameOf, Schedule.beatsOf, checked, spent, outcome,
          Machine.play]
    | ok count =>
      constructor <;>
        simp [act, answer?, frame, frameOf, Schedule.beatsOf, checked, spent, outcome,
          Machine.playSlotsList, Machine.play, List.count_replicate]

theorem advancePassed (s : Session R) (elapsed : R) : Passed s (.advance elapsed) := by
  have advanced := advancing s elapsed
  constructor <;> simp only [act, answer?, Option.some.injEq] <;>
    generalize s.advance elapsed = outcome at advanced ⊢ <;>
    generalize s.schedule.beatsOf (.advance elapsed) = beats at advanced ⊢ <;>
    cases advanced <;> simp_all [Schedule.count, Machine.play]

theorem timedPassed (s : Session R) {a : Action R} (timed : a.timed = true) : Passed s a := by
  cases a with
  | frame elapsed => exact framePassed s elapsed
  | advance elapsed => exact advancePassed s elapsed
  | host | step | run | tick | clock => contradiction

theorem actSchedule (schedule : Schedule R) (m n : Machine) (a : Action R) :
    ((Session.mk schedule n).act a).schedule = ((Session.mk schedule m).act a).schedule := by
  cases a with
  | host | step | run | tick => rfl
  | clock cpuHz timerHz =>
    simp only [act]
    split <;> rfl
  | frame elapsed =>
    simp only [act, frame, frameOf]
    split
    · rfl
    · split <;> rfl
  | advance elapsed =>
    simp only [act, advance, Schedule.replayRounds]
    split
    · rfl
    · split
      · rfl
      · rfl
      · rename_i slotsDue ticksDue _ _
        generalize (schedule.rounds slotsDue ticksDue schedule.slots schedule.ticks).forM
          (fun r => schedule.instants r.slots r.ticks) = ended
        cases ended <;> rfl

def visits (s : Session R) :
    List (Action R) → Except (ScheduleError R) (List (Session R × Report))
  | [] => .ok []
  | a :: rest =>
    match s.answer? a with
    | none => (s.act a).visits rest
    | some (.error e) => .error e
    | some (.ok report) => ((s.act a).visits rest).map ((s.act a, report) :: ·)

variable {s : Session R} {a : Action R} {rest : List (Action R)}
  {seen : List (Session R × Report)}

theorem visitsReturn {actions : List (Action R)} (returned : (s.visits actions).isOk = true) :
    ∃ seen, s.visits actions = .ok seen := by
  cases outcome : s.visits actions with
  | error e => simp [outcome, Except.isOk, Except.toBool] at returned
  | ok seen => exact ⟨seen, rfl⟩

theorem visitsUntimed (ok : s.visits (a :: rest) = .ok seen) (untimed : s.answer? a = none) :
    (s.act a).visits rest = .ok seen := by
  simpa only [visits, untimed] using ok

theorem visitsTimed (ok : s.visits (a :: rest) = .ok seen) (timed : a.timed = true) :
    ∃ report later, s.answer? a = some (.ok report) ∧ (s.act a).visits rest = .ok later ∧
      seen = (s.act a, report) :: later := by
  cases answered : s.answer? a with
  | none => cases a <;> simp [answer?, Action.timed] at answered timed
  | some answer =>
    simp only [visits, answered] at ok
    cases answer with
    | error e => contradiction
    | ok report =>
      cases tail : (s.act a).visits rest with
      | error e => simp [tail, Except.map] at ok
      | ok later =>
        rw [tail] at ok
        cases ok
        exact ⟨report, later, rfl, rfl, rfl⟩

end Session
end Chip8
