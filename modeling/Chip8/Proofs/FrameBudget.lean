import Chip8.Proofs.ExactTime

/-! Frames alone, in exact fractions. What a frame cannot spend on whole slots stays in the budget
for the frames to come, so the slots are those of the whole time, however it was cut into frames. -/
namespace Chip8
open Number (Scalar)

namespace Session

section
variable {R : Type} [Add R] [Sub R] [Mul R] [Div R] [LT R] [DecidableLT R] [LE R]
  [DecidableLE R] [Scalar R] {s : Session R}

theorem frameTick {elapsed : Option R} {report : Report}
    (returned : s.answer? (.frame elapsed) = some (.ok report)) :
    (s.act (.frame elapsed)).schedule.ticks = s.schedule.ticks + 1 := by
  cases checked : Scalar.check (elapsed.getD s.schedule.period) with
  | error kind => simp [answer?, frame, checked] at returned
  | ok _ =>
    obtain ⟨budget, spent⟩ :=
      s.schedule.spendOutcome (s.schedule.ticks + 1) (elapsed.getD s.schedule.period)
    cases outcome : (s.schedule.spend (elapsed.getD s.schedule.period)).2 with
    | error kind => simp [answer?, frame, frameOf, checked, spent, outcome] at returned
    | ok count => simp only [act, frame, frameOf, checked, spent, outcome]

theorem framesTick {lengths : List (Option R)} {seen : List (Session R × Report)}
    (returned : s.visits (lengths.map .frame) = .ok seen) :
    seen.length = lengths.length ∧
      (s.after (lengths.map .frame)).schedule.ticks = s.schedule.ticks + lengths.length := by
  induction lengths generalizing s seen with
  | nil =>
    cases returned
    exact ⟨rfl, rfl⟩
  | cons length rest ih =>
    obtain ⟨report, later, answered, tail, rfl⟩ := visitsTimed returned rfl
    obtain ⟨reports, ticks⟩ := ih tail
    refine ⟨congrArg (· + 1) reports, ?_⟩
    rw [List.length_cons, Nat.add_comm rest.length, ← Nat.add_assoc, ← frameTick answered]
    exact ticks

end

end Session

def frameTime (timerHz : ℚ) (lengths : List (Option ℚ)) : ℚ :=
  (lengths.map (·.getD (1 / timerHz))).sum

theorem frameLedger (timerHz : ℚ) (l : Ledger) (lengths : List (Option ℚ)) :
    ((lengths.map Action.frame).foldl (Ledger.enter timerHz) l).framed =
        l.framed + frameTime timerHz lengths ∧
      ((lengths.map Action.frame).foldl (Ledger.enter timerHz) l).stretched = l.stretched := by
  induction lengths generalizing l with
  | nil => exact ⟨(add_zero l.framed).symm, rfl⟩
  | cons length rest ih =>
    obtain ⟨framed, stretched⟩ := ih (l.enter timerHz (.frame length))
    refine ⟨framed.trans ?_, stretched⟩
    simp only [Ledger.enter, frameTime, List.map_cons, List.sum_cons, add_assoc]

/- What is left of the frames so far: all their time is either slots or budget. -/
structure Carried (cpuHz time : ℚ) (frames : ℕ) (s : Schedule ℚ) : Prop where
  elapsed : s.elapsed = time
  slots : s.slots = ⌊cpuHz * time + 1 / 10 ^ 9⌋
  budget : s.budget = cpuHz * time - s.slots
  least : -(1 / 10 ^ 9) ≤ s.budget
  most : s.budget < 1 - 1 / 10 ^ 9
  ticks : s.ticks = frames

theorem balancedCarried {cpuHz timerHz : ℚ} {l : Ledger} {s : Schedule ℚ}
    (balanced : Balanced cpuHz timerHz l s) (still : l.stretched = 0) :
    Carried cpuHz l.framed s.ticks s := by
  have slack : (Scalar.slack : ℚ) = 1 / 10 ^ 9 := by norm_num [Scalar.slack]
  have elapsed : s.elapsed = l.framed := by rw [balanced.elapsed, still, add_zero]
  have due : dueBy l.framed cpuHz = ⌊cpuHz * l.framed + 1 / 10 ^ 9⌋ := by
    rw [dueBy, slack, mul_comm]
  have slots : (s.slots : ℤ) = ⌊cpuHz * l.framed + 1 / 10 ^ 9⌋ := by
    rw [balancedWhole balanced ⟨0, by rw [still, zero_mul, Int.cast_zero]⟩, elapsed, due]
  have budget : s.budget = cpuHz * l.framed - s.slots := by
    rw [balanced.budget, due, ← slots, mul_comm]
    push_cast
    rfl
  have below := Int.floor_le (cpuHz * l.framed + 1 / 10 ^ 9)
  have above := Int.lt_floor_add_one (cpuHz * l.framed + 1 / 10 ^ 9)
  rw [← slots] at below above
  push_cast at below above
  constructor
  case elapsed => exact elapsed
  case slots => exact slots
  case budget => exact budget
  case least =>
    rw [budget]
    linarith
  case most =>
    rw [budget]
    linarith
  case ticks => rfl

theorem startExact {cpuHz timerHz : ℚ} (positive : 0 < cpuHz) (ticking : 0 < timerHz) :
    ∃ fresh, Schedule.start cpuHz timerHz = .ok fresh ∧ fresh.ticks = 0 := by
  have slots : ¬cpuHz ≤ Scalar.ofInt 0 := not_le.mpr positive
  have ticks : ¬timerHz ≤ Scalar.ofInt 0 := not_le.mpr ticking
  refine ⟨⟨cpuHz, timerHz, Scalar.zero, 0, 0, Scalar.zero⟩, ?_, rfl⟩
  rw [Schedule.start, if_neg slots, if_neg ticks]

theorem framesCarry {cpuHz timerHz : ℚ} (positive : 0 < cpuHz) (ticking : 0 < timerHz) :
    ∃ fresh, Schedule.start cpuHz timerHz = .ok fresh ∧
      (∀ (m : Machine) (lengths : List (Option ℚ)), (∀ e, some e ∈ lengths → 0 ≤ e) →
        (∃ seen, (Session.mk fresh m).visits (lengths.map .frame) = .ok seen ∧
          seen.length = lengths.length) ∧
        Carried cpuHz (frameTime timerHz lengths) lengths.length
          ((Session.mk fresh m).after (lengths.map .frame)).schedule) ∧
      ∀ (m n : Machine) (lengths others : List (Option ℚ)), (∀ e, some e ∈ lengths → 0 ≤ e) →
        (∀ e, some e ∈ others → 0 ≤ e) →
        frameTime timerHz others = frameTime timerHz lengths →
        ((Session.mk fresh n).after (others.map .frame)).schedule.slots =
          ((Session.mk fresh m).after (lengths.map .frame)).schedule.slots := by
  obtain ⟨fresh, started, untold⟩ := startExact positive ticking
  obtain ⟨-, -, start⟩ := startBalanced started
  have carry (m : Machine) (lengths : List (Option ℚ)) (forward : ∀ e, some e ∈ lengths → 0 ≤ e) :
      (∃ seen, (Session.mk fresh m).visits (lengths.map .frame) = .ok seen ∧
        seen.length = lengths.length) ∧
      Carried cpuHz (frameTime timerHz lengths) lengths.length
        ((Session.mk fresh m).after (lengths.map .frame)).schedule := by
    have lasting : ∀ a ∈ lengths.map Action.frame, a.lasting = true := by
      refine List.forall_mem_map.mpr ?_
      intro length found
      cases length with
      | none => rfl
      | some e => exact decide_eq_true (forward e found)
    obtain ⟨⟨seen, returned⟩, balanced⟩ :=
      Session.balancedAfter (s := ⟨fresh, m⟩) positive ticking lasting start
    obtain ⟨framed, stretched⟩ := frameLedger timerHz ⟨0, 0, 0⟩ lengths
    obtain ⟨reports, ticks⟩ := Session.framesTick returned
    have carried := balancedCarried balanced stretched
    rw [framed, zero_add, ticks, untold, Nat.zero_add] at carried
    exact ⟨⟨seen, returned, reports⟩, carried⟩
  refine ⟨fresh, started, carry, ?_⟩
  intro m n lengths others forward ahead same
  have left := (carry n others ahead).2.slots
  have right := (carry m lengths forward).2.slots
  rw [same, ← right] at left
  exact_mod_cast left

def cutTwo : List (Option ℚ) := [some (1 / 2), some 1]

def cutFour : List (Option ℚ) :=
  [some (1 / 7 - 1 / 10 ^ 10), some 0, none, some (563 / 420 + 1 / 10 ^ 10)]

theorem cutsCarry :
    (0 : ℚ) < 7 ∧ (0 : ℚ) < 60 ∧ (∀ e, some e ∈ cutTwo → 0 ≤ e) ∧
      (∀ e, some e ∈ cutFour → 0 ≤ e) ∧ frameTime 60 cutFour = frameTime 60 cutTwo ∧
      ∃ fresh, Schedule.start (7 : ℚ) 60 = .ok fresh ∧
        (∃ seen, (Session.mk fresh secondSession.machine).visits (cutFour.map .frame) = .ok seen ∧
          seen.length = 4) ∧
        Carried 7 (3 / 2) 4
          ((Session.mk fresh secondSession.machine).after (cutFour.map .frame)).schedule ∧
        ((Session.mk fresh secondSession.machine.armWait).after
            (cutFour.map .frame)).schedule.slots =
          ((Session.mk fresh secondSession.machine).after (cutTwo.map .frame)).schedule.slots := by
  have positive : (0 : ℚ) < 7 := by norm_num
  have ticking : (0 : ℚ) < 60 := by norm_num
  have two : ∀ e, some e ∈ cutTwo → 0 ≤ e := by simp [cutTwo]
  have four : ∀ e, some e ∈ cutFour → 0 ≤ e := by
    intro e found
    obtain rfl | rfl | rfl : e = 1 / 7 - 1 / 10 ^ 10 ∨ e = 0 ∨ e = 563 / 420 + 1 / 10 ^ 10 := by
      simpa [cutFour] using found
    all_goals norm_num
  have whole : frameTime 60 cutFour = 3 / 2 := by norm_num [frameTime, cutFour]
  have same : frameTime 60 cutFour = frameTime 60 cutTwo := by
    rw [whole]
    norm_num [frameTime, cutTwo]
  obtain ⟨fresh, started, carry, agree⟩ := framesCarry positive ticking
  obtain ⟨returned, carried⟩ := carry secondSession.machine cutFour four
  rw [whole] at carried
  exact ⟨positive, ticking, two, four, same, fresh, started, returned, carried,
    agree _ _ cutTwo cutFour two four same⟩

end Chip8
