import Chip8.Proofs.FiniteRate

/-! What a failing frame leaves behind. Its tick comes before its slots are worked out, so unless it
has no length to begin with the tick has happened, and the budget may be no finite number any more.
From then on every frame fails, until another timeline takes over. -/
namespace Chip8
open Number (Quantity Scalar Unconvertible Endless)

def Schedule.length? (s : Schedule Quantity) : Option Float → Option Float
  | some e => some e
  | none => s.timerHz.toDouble?.map (1 / ·)

theorem frameLength (s : Schedule Quantity) (length : Option Float) :
    (length.map Quantity.real).getD s.period = match s.length? length with
      | some e => .real e
      | none => .beyond := by
  cases length with
  | some e => rfl
  | none =>
    have period : s.period = _ := combineReal Quantity.quotient (· / ·) 1 s.timerHz
    simp only [Option.map_none, Option.getD_none, period, Schedule.length?]
    cases s.timerHz.toDouble? <;> rfl

def Session.tickedWith (s : Session Quantity) (budget : Float) : Session Quantity :=
  ⟨{ s.schedule with ticks := s.schedule.ticks + 1, budget := .real budget }, s.machine.tick⟩

section
variable {s : Session Quantity} {b : Float} {length : Option Float}

inductive Lost (s : Schedule Quantity) (b e : Float) : Float → Prop where
  | unrated (absent : s.cpuHz.toDouble? = none) : Lost s b e b
  | endless {r : Float} (rate : s.cpuHz.toDouble? = some r) (endless : Endless (b + e * r)) :
      Lost s b e (b + e * r)

inductive Framing (s : Session Quantity) (b : Float) (length : Option Float) :
    Session Quantity × Except (ScheduleError Quantity) Report → Prop where
  | unmeasured (absent : s.schedule.length? length = none) :
      Framing s b length (s, .error (.unconvertible .tooLarge))
  | failed {e c : Float} {kind : Unconvertible} (long : s.schedule.length? length = some e)
      (lost : Lost s.schedule b e c) :
      Framing s b length (s.tickedWith c, .error (.unconvertible kind))
  | returned {e r : Float} {next : Session Quantity} {report : Report}
      (long : s.schedule.length? length = some e) (rate : s.schedule.cpuHz.toDouble? = some r)
      (finite : ¬Endless (b + e * r)) : Framing s b length (next, .ok report)

theorem framing (budget : s.schedule.budget = .real b) (length : Option Float) :
    Framing s b length (s.frame (length.map .real)) := by
  have elapsed := frameLength s.schedule length
  cases long : s.schedule.length? length with
  | none =>
    rw [long] at elapsed
    have checked : Scalar.check Quantity.beyond = .error .tooLarge := rfl
    simp only [Session.frame, elapsed, checked]
    exact .unmeasured long
  | some e =>
    rw [long] at elapsed
    have checked : Scalar.check (Quantity.real e) = .ok () := rfl
    have worth := worthReal e s.schedule.cpuHz
    have spent := spending (s := { s.schedule with ticks := s.schedule.ticks + 1 }) budget (.real e)
    simp only [Session.frame, elapsed, checked, Session.frameOf]
    generalize Schedule.spend { s.schedule with ticks := s.schedule.ticks + 1 } (Quantity.real e) =
      outcome at spent ⊢
    cases rate : s.schedule.cpuHz.toDouble? with
    | none =>
      rw [rate] at worth
      cases spent with
      | beyond => exact .failed long (.unrated rate)
      | endless found | spent found => simp [worth] at found
    | some r =>
      rw [rate] at worth
      cases spent with
      | beyond absent => simp [worth] at absent
      | endless found endless =>
        cases Option.some.inj (worth.symm.trans found)
        exact .failed long (.endless rate endless)
      | spent found counted =>
        cases Option.some.inj (worth.symm.trans found)
        exact .returned long rate (Number.countedFinite counted)

end

def Action.unclocked {R : Type} : Action R → Bool
  | .clock _ _ => false
  | _ => true

structure Spoiled (s : Schedule Quantity) (b : Float) : Prop where
  budget : s.budget = .real b
  cause : s.cpuHz.toDouble? = none ∨ Endless b

section
variable {b : Float}

theorem spoiledSpend {s : Schedule Quantity} (spoiled : Spoiled s b) (q : Quantity) :
    ∃ c, Spoiled (s.spend q).1 c := by
  obtain ⟨budget, cause⟩ := spoiled
  have spent := spending budget q
  generalize s.spend q = outcome at spent ⊢
  cases spent with
  | beyond => exact ⟨b, rfl, cause⟩
  | @endless y _ worth endless => exact ⟨b + y, rfl, .inr endless⟩
  | @spent y d _ worth counted =>
    refine ⟨b + y - d, rfl, .inl (cause.resolve_right fun lost => ?_)⟩
    exact Number.countedFinite counted (Number.addEndless lost y)

variable {s : Session Quantity}

theorem spoiledAct {a : Action Quantity} (unclocked : a.unclocked = true)
    (spoiled : Spoiled s.schedule b) : ∃ c, Spoiled (s.act a).schedule c := by
  cases a with
  | host | step | run | tick => exact ⟨b, spoiled⟩
  | clock => contradiction
  | advance e =>
    refine ⟨b, ?_⟩
    have advanced := s.advancing e
    simp only [Session.act]
    generalize s.advance e = outcome at advanced ⊢
    generalize s.schedule.beatsOf (.advance e) = beats at advanced
    cases advanced <;> exact ⟨spoiled.budget, spoiled.cause⟩
  | frame length =>
    simp only [Session.act, Session.frame]
    split
    · exact ⟨b, spoiled⟩
    · obtain ⟨c, left⟩ := spoiledSpend (s := { s.schedule with ticks := s.schedule.ticks + 1 })
        ⟨spoiled.budget, spoiled.cause⟩ (length.getD s.schedule.period)
      simp only [Session.frameOf]
      generalize Schedule.spend { s.schedule with ticks := s.schedule.ticks + 1 } _ =
        outcome at left ⊢
      obtain ⟨schedule, answer⟩ := outcome
      cases answer <;> exact ⟨c, left.budget, left.cause⟩

theorem spoiledAfter {actions : List (Action Quantity)}
    (unclocked : ∀ a ∈ actions, a.unclocked = true) (spoiled : Spoiled s.schedule b) :
    ∃ c, Spoiled (s.after actions).schedule c := by
  induction actions generalizing s b with
  | nil => exact ⟨b, spoiled⟩
  | cons a rest ih =>
    obtain ⟨first, later⟩ := List.forall_mem_cons.mp unclocked
    obtain ⟨c, next⟩ := spoiledAct first spoiled
    exact ih later next

theorem lostSpoils {e c : Float} (lost : Lost s.schedule b e c) :
    Spoiled (s.tickedWith c).schedule c := by
  cases lost with
  | unrated absent => exact ⟨rfl, .inl absent⟩
  | endless rate endless => exact ⟨rfl, .inr endless⟩

theorem spoiledFails (spoiled : Spoiled s.schedule b) (length : Option Float) :
    ∃ error, (s.frame (length.map .real)).2 = .error error := by
  have framed := framing spoiled.budget length
  generalize s.frame _ = outcome at framed ⊢
  cases framed with
  | unmeasured | failed => exact ⟨_, rfl⟩
  | returned long rate finite =>
    obtain absent | lost := spoiled.cause
    · rw [absent] at rate
      contradiction
    · exact absurd (Number.addEndless lost _) finite

end

theorem tickApart (s : Session Quantity) (budget : Float) : s.tickedWith budget ≠ s := by
  intro same
  have ticks : s.schedule.ticks + 1 = s.schedule.ticks := congrArg (·.schedule.ticks) same
  omega

structure FrameFailure (s : Session Quantity) (b : Float) (length : Option Float) : Prop where
  fails : (∃ error, (s.frame (length.map .real)).2 = .error error) ↔
    s.schedule.length? length = none ∨
      ∃ e c, s.schedule.length? length = some e ∧ Lost s.schedule b e c
  atomic : ∀ next error, s.frame (length.map .real) = (next, .error error) →
    (next = s ↔ s.schedule.length? length = none)
  left : ∀ next error, s.frame (length.map .real) = (next, .error error) → next ≠ s →
    ∃ e c, s.schedule.length? length = some e ∧ Lost s.schedule b e c ∧ next = s.tickedWith c
  spoiled : ∀ next error, s.frame (length.map .real) = (next, .error error) → next ≠ s →
    ∀ actions, (∀ a ∈ actions, a.unclocked = true) → ∀ later : Option Float,
      ∃ error, ((next.after actions).frame (later.map .real)).2 = .error error

theorem failedFrame {s : Session Quantity} {b : Float} (budget : s.schedule.budget = .real b)
    (length : Option Float) : FrameFailure s b length := by
  have framed := framing budget length
  generalize called : s.frame (length.map .real) = outcome at framed
  cases framed with
  | unmeasured absent =>
    constructor <;> rw [called]
    case fails => exact iff_of_true ⟨_, rfl⟩ (.inl absent)
    case atomic =>
      rintro next error ⟨⟩
      exact iff_of_true rfl absent
    case left | spoiled =>
      rintro next error ⟨⟩ apart
      exact absurd rfl apart
  | @failed e c kind long lost =>
    constructor <;> rw [called]
    case fails => exact iff_of_true ⟨_, rfl⟩ (.inr ⟨e, c, long, lost⟩)
    case atomic =>
      rintro next error ⟨⟩
      exact iff_of_false (tickApart s c) (by simp [long])
    case left =>
      rintro next error ⟨⟩ -
      exact ⟨e, c, long, lost, rfl⟩
    case spoiled =>
      rintro next error ⟨⟩ - actions unclocked later
      obtain ⟨d, spoiled⟩ := spoiledAfter unclocked (lostSpoils lost)
      exact spoiledFails spoiled later
  | @returned e r next report long rate finite =>
    constructor <;> rw [called]
    case fails =>
      refine iff_of_false (by simp) ?_
      rintro (absent | ⟨d, c, measured, lost⟩)
      · simp [long] at absent
      · cases Option.some.inj (long.symm.trans measured)
        cases lost with
        | unrated absent => simp [rate] at absent
        | endless rated endless =>
          cases Option.some.inj (rate.symm.trans rated)
          exact finite endless
    all_goals
      rintro next error ⟨⟩

def delaySession : Session Quantity :=
  ⟨⟨.whole 1, .whole 60, .real 0, 0, 0, .real 0⟩,
    (Machine.powerOn {} false ⟨Vector.replicate 624 0, 624⟩ .silent).serve (.setDelay 5)⟩

theorem nanFrameSpoils :
    delaySession.schedule.budget = .real 0 ∧
      (∃ c, Lost delaySession.schedule 0 (0 / 0) c) ∧
      ∃ next error, delaySession.frame (some (.real (0 / 0))) = (next, .error error) ∧
        next ≠ delaySession ∧ ∀ later : Option Float, ∃ error,
          ((next.after [.advance (.real 1), .frame none]).frame (later.map .real)).2 =
            .error error := by
  have lost : Lost delaySession.schedule 0 (0 / 0) _ := .endless rfl (.inl (by decide +kernel))
  have failure := failedFrame (s := delaySession) (b := 0) rfl (some (0 / 0))
  obtain ⟨error, failed⟩ := failure.fails.mpr (.inr ⟨_, _, rfl, lost⟩)
  have called : delaySession.frame (some (.real (0 / 0))) =
      ((delaySession.frame (some (.real (0 / 0)))).1, .error error) := Prod.ext rfl failed
  have apart : (delaySession.frame (some (.real (0 / 0)))).1 ≠ delaySession := fun same =>
    absurd ((failure.atomic _ error called).mp same) (by simp [Schedule.length?])
  exact ⟨rfl, ⟨_, lost⟩, _, error, called, apart,
    failure.spoiled _ error called apart _ (by decide)⟩

/- A frame whose length is no number fails. Its tick stays, and the frame after it fails where it
would have returned. -/
theorem nanFrameTicks :
    Schedule.start (.whole 1) (.whole 60) = .ok delaySession.schedule ∧
      (delaySession.frame (some (.real (0 / 0)))).2.isOk = false ∧
      delaySession.machine.timers.delay = 5 ∧
      (delaySession.frame (some (.real (0 / 0)))).1.machine.timers.delay = 4 ∧
      (delaySession.frame (some (.real (0 / 0)))).1.schedule.ticks = 1 ∧
      (delaySession.frame none).2.isOk = true ∧
      ((delaySession.frame (some (.real (0 / 0)))).1.frame none).2.isOk = false :=
  ⟨rfl, by decide +kernel⟩

end Chip8
