import Chip8.Proofs.EventOrder
import Chip8.Proofs.FiniteRate
import Chip8.Proofs.ReportStop

/-! When a stretch of time is refused: if it is negative, if what is due by its end does not come of
a finite number, or if anything is due while a count is past all doubles. A stretch that is refused
leaves everything as it was. Once the first round of one that is not has its instants, all of its
rounds have theirs, and a step that fails on the way is left to the report. -/
namespace Chip8

namespace Number
open Float.Model (UnpackedFloat)

theorem equalOrder {x y : Float} (same : (x == y) = true) : x ≤ y := by
  rw [orderUnpacked, UnpackedFloat.le]
  have equal : x.toModel.unpack.compare y.toModel.unpack = some .eq := eq_of_beq same
  rw [equal]
  rfl

end Number

open Number (Quantity Scalar Unconvertible Endless)

theorem belowZero (x : Float) : Quantity.real x < Scalar.ofInt 0 ↔ x < 0 := by
  change decide (x < 0) = true ↔ _
  rw [decide_eq_true_eq]

theorem upToZero (x : Float) : Quantity.real x ≤ Scalar.ofInt 0 ↔ x ≤ 0 := by
  change decide (x ≤ 0) = true ↔ _
  rw [decide_eq_true_eq]

theorem nonzeroRate {x : Float} (accepted : ¬Quantity.real x ≤ Scalar.ofInt 0) :
    (x == 0) = false := by
  rw [upToZero] at accepted
  exact Bool.eq_false_iff.mpr fun zero => accepted (Number.equalOrder zero)

theorem acceptedRates {cpuHz timerHz : Float}
    (accepted : (Schedule.start (Quantity.real cpuHz) (.real timerHz)).isOk = true) :
    (cpuHz == 0) = false ∧ (timerHz == 0) = false := by
  by_cases cpu : Quantity.real cpuHz ≤ Scalar.ofInt 0
  · simp [Schedule.start, cpu, Except.isOk, Except.toBool] at accepted
  · by_cases timer : Quantity.real timerHz ≤ Scalar.ofInt 0
    · simp [Schedule.start, cpu, timer, Except.isOk, Except.toBool] at accepted
    · exact ⟨nonzeroRate cpu, nonzeroRate timer⟩

section
variable {R : Type} [Add R] [Sub R] [Mul R] [Div R] [LT R] [DecidableLT R] [LE R]
  [DecidableLE R] [Scalar R] {s : Session R} {e : R}

namespace Session

theorem advanceFaults {k : Machine} {f : Fault}
    (unplayed : ∀ error, (s.advance e).2 = .error error → s.schedule.beatsOf (.advance e) = [])
    (among : k ∈ s.machine.stepped (s.turnsOf (.advance e))) (failure : k.step.2 = .error f) :
    ∃ report, (s.advance e).2 = .ok report ∧ report.error = some f := by
  rw [s.timedTurns (a := .advance e) rfl] at among
  have running : s.machine.halted = false := by
    rw [Bool.eq_false_iff]
    intro halted
    rw [Machine.stoppedSteps halted] at among
    contradiction
  have unfailed {j : Machine} (fine : j.step.2.isOk = true) (same : k = j) : False := by
    rw [← same, failure] at fine
    contradiction
  cases @Machine.playEnding (s.machine, {}) running ⟨rfl, rfl⟩
    (s.schedule.beatsOf (.advance e)) with
  | running halted clean fine => exact (unfailed (fine k among) rfl).elim
  | failed earlier j g spent steps fine failed stopped =>
    rw [steps] at among
    obtain before | last := List.mem_append.mp among
    · exact (unfailed (fine k before) rfl).elim
    · obtain rfl := List.mem_singleton.mp last
      obtain rfl : f = g := Except.error.inj (failure.symm.trans failed)
      cases answered : (s.advance e).2 with
      | error error =>
        rw [unplayed error answered] at spent
        contradiction
      | ok report =>
        obtain rfl := (advancePassed s e).report report (congrArg some answered)
        have passed := (advancePassed s e).machine
        refine ⟨_, rfl, ?_⟩
        rw [passed]
        exact (Machine.closeStopped stopped).1

end Session
end

structure InDoubles (slots ticks : Nat) : Prop where
  slot : ∃ x, (Quantity.whole (slots + 1 : Nat)).toDouble? = some x
  tick : ∃ x, (Quantity.whole (ticks + 1 : Nat)).toDouble? = some x

theorem numberDouble {k : Nat} (below : (k : ℚ) + 1 < Number.limit) :
    ∃ x, (Quantity.whole (k + 1 : Nat)).toDouble? = some x := by
  have size : |(((k + 1 : Nat) : ℤ) : ℚ)| < Number.limit := by
    rw [Int.cast_natCast, abs_of_nonneg (Nat.cast_nonneg _), Nat.cast_add_one]
    exact below
  exact Number.wholeDouble size

theorem checkedQuotient {n : Int} {rate : Float} :
    Scalar.checkQuotient (Scalar.ofInt n) (Quantity.real rate) = .ok () ↔
      ∃ x, (Quantity.whole n).toDouble? = some x := by
  have value : Quantity.whole n / Quantity.real rate = _ := combineRight _ _ (.whole n) rate
  simp only [Scalar.checkQuotient, Scalar.ofInt, value]
  cases (Quantity.whole n).toDouble? <;> simp

structure Doubles (s : Schedule Quantity) (cpuHz timerHz elapsed : Float) : Prop where
  cpuHz : s.cpuHz = .real cpuHz
  timerHz : s.timerHz = .real timerHz
  elapsed : s.elapsed = .real elapsed

namespace Schedule
variable {s : Schedule Quantity} {cpuHz timerHz elapsed e : Float} {slotsDue ticksDue : Int}
  {slots ticks : Nat} {r : Round}

theorem roundsCounts (among : r ∈ s.rounds slotsDue ticksDue slots ticks) :
    (r.slots = slots ∨ (r.slots : Int) ≤ slotsDue) ∧
      (r.ticks = ticks ∨ (r.ticks : Int) ≤ ticksDue) := by
  fun_induction rounds s slotsDue ticksDue slots ticks with
  | case1 slots ticks more first ih =>
    obtain rfl | later := List.mem_cons.mp among
    · exact ⟨.inl rfl, .inl rfl⟩
    · have counts := ih later
      omega
  | case2 slots ticks more other ih =>
    obtain rfl | later := List.mem_cons.mp among
    · exact ⟨.inl rfl, .inl rfl⟩
    · have slot := (slotLeft more other).1
      have counts := ih later
      omega
  | case3 slots ticks done => contradiction

theorem dueDoubles (doubles : Doubles s cpuHz timerHz elapsed) :
    due (s.elapsed + .real e) s.cpuHz = Number.floor ((elapsed + e) * cpuHz + 1e-9) ∧
      due (s.elapsed + .real e) s.timerHz = Number.floor ((elapsed + e) * timerHz + 1e-9) := by
  have target : s.elapsed + .real e = .real (elapsed + e) := by
    rw [doubles.elapsed]
    rfl
  rw [target, doubles.cpuHz, doubles.timerHz, realDue, realDue]
  exact ⟨rfl, rfl⟩

theorem instantsDoubles (doubles : Doubles s cpuHz timerHz elapsed) :
    s.instants slots ticks = .ok () ↔ InDoubles slots ticks := by
  have both : s.instants slots ticks = .ok () ↔
      Scalar.checkQuotient (Scalar.ofInt (slots + 1 : Nat)) s.cpuHz = .ok () ∧
        Scalar.checkQuotient (Scalar.ofInt (ticks + 1 : Nat)) s.timerHz = .ok () := by
    unfold instants
    cases Scalar.checkQuotient (Scalar.ofInt (slots + 1 : Nat)) s.cpuHz <;> simp [bind, Except.bind]
  rw [both, doubles.cpuHz, doubles.timerHz, checkedQuotient, checkedQuotient]
  exact ⟨fun counted => ⟨counted.1, counted.2⟩, fun counted => ⟨counted.slot, counted.tick⟩⟩

theorem roundsTimed (doubles : Doubles s cpuHz timerHz elapsed)
    (slotsRange : (slotsDue : ℚ) + 1 < Number.limit)
    (ticksRange : (ticksDue : ℚ) + 1 < Number.limit)
    (counted : InDoubles slots ticks) :
    ∀ r ∈ s.rounds slotsDue ticksDue slots ticks, s.instants r.slots r.ticks = .ok () := by
  intro r among
  have below {k : Nat} {due : Int} (reached : k ≤ due) (range : (due : ℚ) + 1 < Number.limit) :
      (k : ℚ) + 1 < Number.limit := by
    have size : (k : ℚ) ≤ due := by exact_mod_cast reached
    linarith
  obtain ⟨slot, tick⟩ := roundsCounts among
  refine (instantsDoubles doubles).mpr ⟨?_, ?_⟩
  · obtain same | due := slot
    · rw [same]
      exact counted.slot
    · exact numberDouble (below due slotsRange)
  · obtain same | due := tick
    · rw [same]
      exact counted.tick
    · exact numberDouble (below due ticksRange)

theorem roundsStalled (doubles : Doubles s cpuHz timerHz elapsed)
    (slotsRange : (slotsDue : ℚ) + 1 < Number.limit)
    (ticksRange : (ticksDue : ℚ) + 1 < Number.limit)
    {kind : Unconvertible} (stall : (s.rounds slotsDue ticksDue slots ticks).forM
      (fun r => s.instants r.slots r.ticks) = .error kind) :
    (slots < slotsDue ∨ ticks < ticksDue) ∧ ¬InDoubles slots ticks ∧
      s.played (s.rounds slotsDue ticksDue slots ticks) = [] := by
  have past : ¬InDoubles slots ticks := by
    intro counted
    rw [timedRounds.mpr (roundsTimed doubles slotsRange ticksRange counted)] at stall
    contradiction
  have more : slots < slotsDue ∨ ticks < ticksDue := by
    by_contra done
    rw [rounds, if_neg done] at stall
    contradiction
  refine ⟨more, past, ?_⟩
  obtain ⟨beat, rest, first⟩ := s.roundsFirst slotsDue ticksDue slots ticks more
  rw [first]
  cases timed : s.instants slots ticks with
  | error kind => exact playedStalled rest timed
  | ok => exact absurd ((instantsDoubles doubles).mp timed) past

end Schedule

structure PastDoubles (s : Schedule Quantity) (cpuHz timerHz target : Float) : Prop where
  due : ∃ slotsDue ticksDue, Number.floor (target * cpuHz + 1e-9) = .ok slotsDue ∧
    Number.floor (target * timerHz + 1e-9) = .ok ticksDue ∧
    (s.slots < slotsDue ∨ s.ticks < ticksDue)
  past : ¬InDoubles s.slots s.ticks

/- When a stretch fails, what it has done by then, and why nothing else can fail. -/
structure Refusal (s : Session Quantity) (cpuHz timerHz elapsed e : Float) : Prop where
  refused : (s.schedule.slots : ℚ) + 1 < Number.limit → (s.schedule.ticks : ℚ) + 1 < Number.limit →
    ((∃ error, (s.advance (.real e)).2 = .error error) ↔ e < 0 ∨
      Endless ((elapsed + e) * cpuHz + 1e-9) ∨ Endless ((elapsed + e) * timerHz + 1e-9))
  failed : (∃ error, (s.advance (.real e)).2 = .error error) ↔ e < 0 ∨
    Endless ((elapsed + e) * cpuHz + 1e-9) ∨ Endless ((elapsed + e) * timerHz + 1e-9) ∨
    PastDoubles s.schedule cpuHz timerHz (elapsed + e)
  unchanged : ∀ error, (s.advance (.real e)).2 = .error error →
    (s.advance (.real e)).1 = s ∧ s.schedule.beatsOf (.advance (.real e)) = []
  faults : ∀ k ∈ s.machine.stepped (s.turnsOf (.advance (.real e))), ∀ f, k.step.2 = .error f →
    ∃ report, (s.advance (.real e)).2 = .ok report ∧ report.error = some f
  divisors : (cpuHz == 0) = false ∧ (timerHz == 0) = false

section
variable {s : Session Quantity} {cpuHz timerHz elapsed : Float}

theorem doublesFail (doubles : Doubles s.schedule cpuHz timerHz elapsed) (e : Float) :
    (∃ error, (s.advance (.real e)).2 = .error error) ↔ e < 0 ∨
      Endless ((elapsed + e) * cpuHz + 1e-9) ∨ Endless ((elapsed + e) * timerHz + 1e-9) ∨
      PastDoubles s.schedule cpuHz timerHz (elapsed + e) := by
  obtain ⟨slots, ticks⟩ := Schedule.dueDoubles (e := e) doubles
  have advanced := s.advancing (.real e)
  generalize s.advance (.real e) = outcome at advanced ⊢
  generalize s.schedule.beatsOf (.advance (.real e)) = beats at advanced
  rw [← belowZero, ← Number.floorFails, ← Number.floorFails]
  cases advanced with
  | refused cause =>
    rw [slots, ticks] at cause
    exact iff_of_true ⟨_, rfl⟩ (by tauto)
  | @stalled slotsDue ticksDue rounds kind forward slotBound tickBound loop stall =>
    rw [slots] at slotBound
    rw [ticks] at tickBound
    rw [← loop] at stall
    obtain ⟨more, past, -⟩ := Schedule.roundsStalled doubles (Number.floorRange slotBound)
      (Number.floorRange tickBound) stall
    have late : PastDoubles s.schedule cpuHz timerHz (elapsed + e) :=
      ⟨⟨slotsDue, ticksDue, slotBound, tickBound, more⟩, past⟩
    exact iff_of_true ⟨_, rfl⟩ (.inr (.inr (.inr late)))
  | @returned slotsDue ticksDue rounds machine report forward slotBound tickBound loop timed =>
    rw [slots] at slotBound
    rw [ticks] at tickBound
    refine iff_of_false (by simp) ?_
    rintro (negative | ⟨kind, failed⟩ | ⟨kind, failed⟩ | ⟨⟨slotsNow, ticksNow, slot, tick, more⟩,
      past⟩)
    · exact forward negative
    · rw [slotBound] at failed
      contradiction
    · rw [tickBound] at failed
      contradiction
    · obtain rfl : slotsDue = slotsNow := Except.ok.inj (slotBound.symm.trans slot)
      obtain rfl : ticksDue = ticksNow := Except.ok.inj (tickBound.symm.trans tick)
      obtain ⟨beat, rest, first⟩ := s.schedule.roundsFirst slotsDue ticksDue _ _ more
      rw [← loop, first, Schedule.timedRounds] at timed
      have own := timed _ List.mem_cons_self
      exact past ((Schedule.instantsDoubles doubles).mp own)

theorem doublesUnchanged (doubles : Doubles s.schedule cpuHz timerHz elapsed) {e : Float}
    {error : ScheduleError Quantity} (failed : (s.advance (.real e)).2 = .error error) :
    (s.advance (.real e)).1 = s ∧ s.schedule.beatsOf (.advance (.real e)) = [] := by
  obtain ⟨slots, ticks⟩ := Schedule.dueDoubles (e := e) doubles
  have advanced := s.advancing (.real e)
  generalize s.advance (.real e) = outcome at advanced failed ⊢
  generalize s.schedule.beatsOf (.advance (.real e)) = beats at advanced ⊢
  cases advanced with
  | refused cause => exact ⟨rfl, rfl⟩
  | stalled forward slotBound tickBound loop stall =>
    rw [slots] at slotBound
    rw [ticks] at tickBound
    rw [← loop] at stall ⊢
    obtain ⟨-, -, none⟩ := Schedule.roundsStalled doubles (Number.floorRange slotBound)
      (Number.floorRange tickBound) stall
    rw [none]
    exact ⟨rfl, rfl⟩
  | returned => contradiction

end

theorem stretchRefused {s : Session Quantity} {cpuHz timerHz elapsed : Float}
    (doubles : Doubles s.schedule cpuHz timerHz elapsed)
    (accepted : (Schedule.start (Quantity.real cpuHz) (.real timerHz)).isOk = true) (e : Float) :
    Refusal s cpuHz timerHz elapsed e := by
  constructor
  case refused =>
    intro slot tick
    have countable : ¬PastDoubles s.schedule cpuHz timerHz (elapsed + e) :=
      fun late => late.past ⟨numberDouble slot, numberDouble tick⟩
    rw [doublesFail doubles, or_iff_left countable]
  case failed => exact doublesFail doubles e
  case unchanged => exact fun error failed => doublesUnchanged doubles failed
  case faults =>
    exact fun k among f failure => Session.advanceFaults
      (fun error failed => (doublesUnchanged doubles failed).2) among failure
  case divisors => exact acceptedRates accepted

def halfwaySession (slots : Nat) : Session Quantity :=
  ⟨⟨.real 700, .real 60, .real 0.5, slots, 30, .real 0⟩,
    .powerOn {} false ⟨Vector.replicate 624 0, 624⟩ .silent⟩

/- So long a stretch that its slots come to no finite number, though its ticks would; and a second
after more slots than there are doubles for, which has sixty more ticks due. -/
theorem halfwayRefused :
    (∀ slots, Doubles (halfwaySession slots).schedule 700 60 0.5) ∧
    (Schedule.start (Quantity.real 700) (.real 60)).isOk = true ∧
    Endless ((0.5 + 1e306) * 700 + 1e-9) ∧ ¬Endless ((0.5 + 1e306) * 60 + 1e-9) ∧
    (∃ error, ((halfwaySession 350).advance (.real 1e306)).2 = .error error) ∧
    ((halfwaySession 350).advance (.real 1e306)).1 = halfwaySession 350 ∧
    (∃ error, ((halfwaySession (10 ^ 400)).advance (.real 1)).2 = .error error) ∧
    ((halfwaySession (10 ^ 400)).advance (.real 1)).1 = halfwaySession (10 ^ 400) := by
  have doubles (slots : Nat) : Doubles (halfwaySession slots).schedule 700 60 0.5 := ⟨rfl, rfl, rfl⟩
  have accepted : (Schedule.start (Quantity.real 700) (.real 60)).isOk = true := by decide +kernel
  have endless : Endless ((0.5 + 1e306) * 700 + 1e-9) := .inr (by decide +kernel)
  have finite : ¬Endless ((0.5 + 1e306) * 60 + 1e-9) := by
    unfold Endless
    decide +kernel
  have below {k : Nat} (few : k ≤ 350) : (k : ℚ) + 1 < Number.limit := by
    have size : (k : ℚ) ≤ 350 := by exact_mod_cast few
    have range : |(351 : ℚ)| < Number.limit :=
      Number.inRange (show |(351 : ℚ)| ≤ 2 ^ (9 : ℤ) by norm_num) (by decide)
    rw [abs_of_pos (by norm_num)] at range
    linarith
  have long := stretchRefused (doubles 350) accepted 1e306
  obtain ⟨error, failed⟩ := (long.refused (below (show 350 ≤ 350 by decide))
    (below (show 30 ≤ 350 by decide))).mpr (.inr (.inl endless))
  have due : Number.floor ((0.5 + 1) * 700 + 1e-9) = .ok 1050 ∧
      Number.floor ((0.5 + 1) * 60 + 1e-9) = .ok 90 := by decide +kernel
  have none : (Quantity.whole (10 ^ 400 + 1 : Nat)).toDouble? = none := by decide +kernel
  have countless := stretchRefused (doubles (10 ^ 400)) accepted 1
  have past : PastDoubles (halfwaySession (10 ^ 400)).schedule 700 60 (0.5 + 1) := by
    refine ⟨⟨1050, 90, due.1, due.2, .inr (show (30 : Int) < 90 by decide)⟩, ?_⟩
    rintro ⟨⟨x, some⟩, -⟩
    exact absurd (none.symm.trans some) (by simp)
  obtain ⟨stop, stalled⟩ := countless.failed.mpr (.inr (.inr (.inr past)))
  exact ⟨doubles, accepted, endless, finite, ⟨error, failed⟩, (long.unchanged error failed).1,
    ⟨stop, stalled⟩, (countless.unchanged stop stalled).1⟩

end Chip8
