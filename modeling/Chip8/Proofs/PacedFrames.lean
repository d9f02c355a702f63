import Chip8.Proofs.FiniteRate
import Chip8.Schedule.Realtime

/-! Frames paced against a clock. As long as neither the clock nor the rate goes too far, they end
in no way but their own, unless somebody interrupts them. -/
namespace Chip8
open Number (Quantity Scalar value?)

def WallClock.Bounded {C : Type} (wall : WallClock C Quantity) (i : ℕ) : Prop :=
  ∀ c, ∃ e v next, wall.read c = (.real e, next) ∧ value? e = some v ∧ |v| ≤ 2 ^ (i : ℤ)

def Number.Quantity.within (q : Quantity) (j : ℕ) : Prop :=
  ∀ x v, q.toDouble? = some x → value? x = some v → |v| ≤ 2 ^ (j : ℤ)

structure Pace.Kept (p : Pace Quantity) (i : ℕ) : Prop where
  last : ∃ e v, p.last = .real e ∧ value? e = some v ∧ |v| ≤ 2 ^ (i + 2 : ℤ)
  deadline : ∃ e, p.deadline = .real e

section
variable {C : Type} {wall : WallClock C Quantity} {i j : ℕ} {rate : ℚ}

theorem startChecked (e : Float) :
    Scalar.check (Pace.start (.real sixtieth) (Quantity.real e)).deadline = .ok () := rfl

theorem startKept {e : Float} {v : ℚ} (known : value? e = some v) (bound : |v| ≤ 2 ^ (i : ℤ))
    (most : i ≤ 1015) : (Pace.start (.real sixtieth) (.real e)).Kept i := by
  obtain ⟨y, period, small⟩ := sixtiethValue
  have away : |v - y| ≤ 2 ^ (i + 1 : ℤ) := powerDifference bound small (by omega) (by omega)
  obtain ⟨w, last, near⟩ := Number.subNear known period away (by omega)
    (Number.inRange away (by omega))
  exact ⟨⟨_, w, rfl, last, powerNear near away (by omega) (by omega)⟩, _, rfl⟩

theorem elapsedWorth {p : Pace Quantity} {e : Float} {v : ℚ} (kept : p.Kept i)
    (known : value? e = some v) (bound : |v| ≤ 2 ^ (i : ℤ)) (slow : |rate| ≤ 2 ^ (j : ℤ))
    (most : i + j ≤ 1015) :
    ∃ d y, p.elapsed (.real e) = .real d ∧ value? d = some y ∧ |y * rate| ≤ 2 ^ (1019 : ℤ) := by
  obtain ⟨l, w, last, lastKnown, lastBound⟩ := kept.last
  have away : |v - w| ≤ 2 ^ (i + 3 : ℤ) := powerDifference bound lastBound (by omega) (by omega)
  obtain ⟨y, elapsed, near⟩ := Number.subNear known lastKnown away (by omega)
    (Number.inRange away (by omega))
  have size : |y| ≤ 2 ^ (i + 4 : ℤ) := powerNear near away (by omega) (by omega)
  refine ⟨e - l, y, by rw [Pace.elapsed, last]; rfl, elapsed, ?_⟩
  calc |y * rate| = |y| * |rate| := abs_mul y rate
    _ ≤ 2 ^ (i + 4 : ℤ) * 2 ^ (j : ℤ) := mul_le_mul size slow (abs_nonneg rate) (by positivity)
    _ = 2 ^ (i + 4 + j : ℤ) := (zpow_add₀ two_ne_zero _ _).symm
    _ ≤ 2 ^ (1019 : ℤ) := zpow_le_zpow_right₀ one_le_two (by omega)

theorem Paced.runFromSteady {W : Type} (watch : Report → Machine → W → Machine × W)
    (bounded : wall.Bounded i) (slow : |rate| ≤ 2 ^ (j : ℤ)) (most : i + j ≤ 1015)
    {pace : Pace Quantity} (kept : pace.Kept i) {report : Report} {p : Paced Quantity C W}
    (solvent : Solvent rate p.session.schedule) (frames : ℕ) (error : ScheduleError Quantity) :
    (runFrom wall watch pace report p frames).2 ≠ .error (.schedule error) := by
  induction frames generalizing pace report p with
  | zero => nofun
  | succ frames ih =>
    obtain ⟨e, v, clock, now, known, bound⟩ := bounded p.clock
    obtain ⟨d, y, elapsed, elapsedKnown, worth⟩ := elapsedWorth kept known bound slow most
    obtain ⟨session, own, framed, left⟩ :=
      p.session.frameSolvent (some (.real d)) solvent rfl elapsedKnown worth
    obtain ⟨l, deadline⟩ := kept.deadline
    -- Whatever the frame before was, the clock has set the pace for the next one.
    have next : (pace.next (.real e) (.real sixtieth)).Kept i :=
      ⟨⟨e, v, rfl, known, bound.trans (zpow_le_zpow_right₀ one_le_two (by omega))⟩,
        l + sixtieth, by rw [Pace.next, deadline]; rfl⟩
    obtain ⟨x, -, clock, after, -, -⟩ := bounded clock
    obtain ⟨delay, paused⟩ : ∃ delay, pace.pause (.real x) = .ok delay := by
      rw [Pace.pause, deadline]
      exact ⟨_, rfl⟩
    simp only [runFrom, now, elapsed, framed, solventPeriod left, after, paused]
    split
    · nofun
    · cases delay with
      | none =>
        refine ih next ?_
        exact left
      | some delay =>
        cases slept : wall.sleep clock delay with
        | none => simp [slept]
        | some clock =>
          simp only [slept]
          refine ih next ?_
          exact left

theorem Paced.runSteady {W : Type} (watch : Report → Machine → W → Machine × W)
    (bounded : wall.Bounded i) (slow : |rate| ≤ 2 ^ (j : ℤ)) (most : i + j ≤ 1015)
    {p : Paced Quantity C W} (solvent : Solvent rate p.session.schedule) (frames : ℕ)
    (error : ScheduleError Quantity) :
    (run wall watch p frames).2 ≠ .error (.schedule error) := by
  obtain ⟨e, v, clock, now, known, bound⟩ := bounded p.clock
  have kept := startKept known bound (by omega)
  simp only [run, now, solventPeriod solvent, startChecked]
  refine runFromSteady watch bounded slow most kept ?_ frames error
  exact solvent

theorem Paced.runUnfit {W : Type} (watch : Report → Machine → W → Machine × W)
    (bounded : wall.Bounded i) {p : Paced Quantity C W} {b : Float}
    (unfit : ¬p.session.schedule.cpuHz.finite) (budget : p.session.schedule.budget = .real b)
    (period : p.session.schedule.period = .real sixtieth) (frames : ℕ) :
    ∃ q error, run wall watch p (frames + 1) = (q, .error (.schedule error)) := by
  obtain ⟨e, v, clock, now, -, -⟩ := bounded p.clock
  obtain ⟨x, -, later, next, -, -⟩ := bounded clock
  obtain ⟨n, error, framed⟩ := Session.frameFails
    (some ((Pace.start (.real sixtieth) (Quantity.real e)).elapsed (.real x))) unfit budget rfl
  simp only [run, now, period, startChecked, runFrom, next, framed]
  exact ⟨_, _, rfl⟩

theorem Paced.runNone {W : Type} (watch : Report → Machine → W → Machine × W)
    (bounded : wall.Bounded i) {p : Paced Quantity C W}
    (period : p.session.schedule.period = .real sixtieth) :
    ∃ q report, run wall watch p 0 = (q, .ok report) := by
  obtain ⟨e, v, clock, now, -, -⟩ := bounded p.clock
  simp only [run, now, period, startChecked, runFrom]
  exact ⟨_, _, rfl⟩

end
end Chip8
