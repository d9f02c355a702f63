import Chip8.Proofs.DoubleArithmetic
import Chip8.Proofs.HostedFrames
import Chip8.Proofs.StartDue

/-! Frames at a finite rate. What a frame is worth is a finite double, and so is the budget after
it, since all the whole slots are taken out of it again; so no frame fails, whatever came before. -/
namespace Chip8
open Number (Quantity Scalar Unconvertible Endless value?)

section
variable {a b c : ℚ} {i j k : ℤ}

theorem powerSum (first : |a| ≤ 2 ^ i) (second : |b| ≤ 2 ^ j) (left : i < k) (right : j < k) :
    |a + b| ≤ 2 ^ k := by
  have half : (2 : ℚ) ^ k = 2 ^ (k - 1) + 2 ^ (k - 1) := by
    rw [← two_mul, ← zpow_one_add₀ two_ne_zero, add_sub_cancel]
  have one : (2 : ℚ) ^ i ≤ 2 ^ (k - 1) := zpow_le_zpow_right₀ one_le_two (by omega)
  have other : (2 : ℚ) ^ j ≤ 2 ^ (k - 1) := zpow_le_zpow_right₀ one_le_two (by omega)
  rw [half]
  exact (abs_add_le a b).trans (add_le_add (first.trans one) (second.trans other))

theorem powerDifference (first : |a| ≤ 2 ^ i) (second : |b| ≤ 2 ^ j) (left : i < k)
    (right : j < k) : |a - b| ≤ 2 ^ k := by
  rw [← abs_neg] at second
  rw [sub_eq_add_neg]
  exact powerSum first second left right

theorem powerNear (near : |a - b| ≤ 2 ^ i) (size : |b| ≤ 2 ^ j) (left : i < k) (right : j < k) :
    |a| ≤ 2 ^ k := by
  have sum := powerSum near size left right
  rwa [sub_add_cancel] at sum

theorem powerApart (first : |a - b| ≤ 2 ^ i) (second : |b - c| ≤ 2 ^ j) (left : i < k)
    (right : j < k) : |a - c| ≤ 2 ^ k := by
  have sum := powerSum first second left right
  rwa [sub_add_sub_cancel] at sum

end

def Number.Quantity.finite (q : Quantity) : Prop := ∃ x, q.toDouble? = some x ∧ x.isFinite = true

structure Solvent (rate : ℚ) (s : Schedule Quantity) : Prop where
  budget : ∃ b v, s.budget = .real b ∧ value? b = some v ∧ |v| ≤ 2 ^ (1000 : ℤ)
  cpuHz : ∃ r, s.cpuHz.toDouble? = some r ∧ value? r = some rate
  timerHz : s.timerHz = .whole defaultTimerHz

theorem slackValue : ∃ v, value? 1e-9 = some v ∧ |v| ≤ 2 ^ (0 : ℤ) := by
  refine ⟨_, Number.knownValue (b := ⟨false, 4835703278458517, -82, false⟩) rfl, ?_⟩
  rw [Number.Binary.value]
  norm_num

theorem Number.slackEndless (x : Float) : Endless (x + 1e-9) ↔ Endless x := by
  rw [← valueEndless, ← valueEndless]
  constructor
  · intro lost
    rw [Option.eq_none_iff_forall_ne_some]
    intro v known
    obtain ⟨slack, slackKnown, small⟩ := slackValue
    have range : |v + slack| < limit := by
      have size := abs_add_le v slack
      rw [zpow_zero] at small
      linarith [largestRoom, valueLargest known]
    obtain ⟨w, found, -⟩ :=
      addNear known slackKnown (range.trans limitPower).le (by omega) range
    rw [found] at lost
    contradiction
  · exact fun none => addNone (.inl none)

theorem Number.addEndless {x : Float} (endless : Endless x) (y : Float) : Endless (x + y) :=
  (valueEndless _).mp (addNone (.inl ((valueEndless x).mpr endless)))

theorem Number.countedFinite {x : Float} {count : Int}
    (counted : truncate (x + 1e-9) = .ok count) : ¬Endless x := by
  intro endless
  obtain ⟨kind, failed⟩ := (truncateFails _).mpr ((slackEndless x).mpr endless)
  rw [failed] at counted
  contradiction

section
variable {b : Float} {s : Schedule Quantity}

inductive Spending (s : Schedule Quantity) (b : Float) (q : Quantity) :
    Schedule Quantity × Except Unconvertible Int → Prop where
  | beyond (none : (q * s.cpuHz).toDouble? = none) :
      Spending s b q ({ s with budget := .real b }, .error .tooLarge)
  | endless {y : Float} {kind : Unconvertible} (worth : (q * s.cpuHz).toDouble? = some y)
      (endless : Endless (b + y)) :
      Spending s b q ({ s with budget := .real (b + y) }, .error kind)
  | spent {y d : Float} {count : Int} (worth : (q * s.cpuHz).toDouble? = some y)
      (counted : Number.truncate (b + y + 1e-9) = .ok count)
      (taken : (Quantity.whole count).toDouble? = some d) :
      Spending s b q ({ s with budget := .real (b + y - d) }, .ok count)

theorem spending (budget : s.budget = .real b) (q : Quantity) : Spending s b q (s.spend q) := by
  have total : s.budget + q * s.cpuHz = _ := budget ▸ combineReal _ _ b (q * s.cpuHz)
  cases worth : (q * s.cpuHz).toDouble? with
  | none =>
    rw [worth] at total
    have checked : Scalar.check Quantity.beyond = .error .tooLarge := rfl
    have kept : { s with budget := Quantity.real b } = s := by rw [← budget]
    have beyond := Spending.beyond (b := b) worth
    rw [kept] at beyond
    simpa only [Schedule.spend, total, checked] using beyond
  | some y =>
    rw [worth] at total
    have checked : Scalar.check (Quantity.real (b + y)) = .ok () := rfl
    have slack : Scalar.truncate (Quantity.real (b + y) + Scalar.slack) =
        Number.truncate (b + y + 1e-9) := rfl
    simp only [Schedule.spend, total, checked, slack]
    cases truncated : Number.truncate (b + y + 1e-9) with
    | error kind =>
      have lost := (Number.truncateFails _).mp ⟨kind, truncated⟩
      exact .endless worth ((Number.slackEndless _).mp lost)
    | ok count =>
      obtain ⟨d, double⟩ := Number.wholeDouble (Number.truncateRange truncated)
      have rest : Quantity.real (b + y) - .whole count = _ := combineReal _ _ (b + y) (.whole count)
      rw [double] at rest
      have whole : (Scalar.ofInt count : Quantity) = .whole count := rfl
      simp only [whole, rest]
      exact .spent worth truncated double

theorem worthReal (e : Float) (rate : Quantity) :
    (Quantity.real e * rate).toDouble? = rate.toDouble?.map (e * ·) := by
  have worth : Quantity.real e * rate = _ := combineReal _ _ e rate
  rw [worth]
  cases rate.toDouble? <;> rfl

end

theorem takenOut {b : Float} {v : ℚ} (known : value? b = some v) (bound : |v| ≤ 2 ^ (1021 : ℤ)) :
    ∃ count d w, Number.truncate (b + 1e-9) = .ok count ∧
      (Quantity.whole count).toDouble? = some d ∧ value? (b - d) = some w ∧
      |w| ≤ 2 ^ (1000 : ℤ) := by
  obtain ⟨slack, slackKnown, slackSmall⟩ := slackValue
  have sum : |v + slack| ≤ 2 ^ (1022 : ℤ) := powerSum bound slackSmall (by omega) (by omega)
  obtain ⟨c, reached, sumNear⟩ := Number.addNear known slackKnown sum (by omega)
    (Number.inRange sum (by omega))
  obtain ⟨count, counted, countNear⟩ := Number.truncateValue reached
  have unit : |(count : ℚ) - c| ≤ 2 ^ (0 : ℤ) := by
    rw [zpow_zero]
    exact countNear.le
  have more : |v + slack - v| ≤ 2 ^ (0 : ℤ) := by
    rw [add_sub_cancel_left]
    exact slackSmall
  -- The count is off the budget by a fraction, by what the sum was rounded by, and by the slack.
  have away : |(count : ℚ) - (v + slack)| ≤ 2 ^ (971 : ℤ) :=
    powerApart unit sumNear (by omega) (by omega)
  have near : |(count : ℚ) - v| ≤ 2 ^ (972 : ℤ) := powerApart away more (by omega) (by omega)
  have size : |(count : ℚ)| ≤ 2 ^ (1022 : ℤ) := powerNear near bound (by omega) (by omega)
  obtain ⟨d, x, double, doubleKnown, doubleNear⟩ := Number.wholeNear size
    (Number.inRange size (by omega))
  have rest : |v - x| ≤ 2 ^ (973 : ℤ) := by
    rw [abs_sub_comm]
    exact powerApart doubleNear near (by omega) (by omega)
  obtain ⟨w, left, close⟩ := Number.subNear known doubleKnown rest (by omega)
    (Number.inRange rest (by omega))
  exact ⟨count, d, w, counted, double, left, powerNear close rest (by omega) (by omega)⟩

theorem spendReturns {rate y : ℚ} {s : Schedule Quantity} {e : Float} (solvent : Solvent rate s)
    (known : value? e = some y) (bound : |y * rate| ≤ 2 ^ (1019 : ℤ)) :
    ∃ budget count, s.spend (.real e) = ({ s with budget }, .ok count) ∧
      Solvent rate { s with budget } := by
  obtain ⟨⟨b, v, budget, budgetKnown, small⟩, ⟨r, double, rateKnown⟩, timer⟩ := solvent
  obtain ⟨p, productKnown, productNear⟩ :=
    Number.mulNear known rateKnown bound (by omega) (Number.inRange bound (by omega))
  have productSmall : |p| ≤ 2 ^ (1020 : ℤ) := powerNear productNear bound (by omega) (by omega)
  have sum : |v + p| ≤ 2 ^ (1021 : ℤ) := powerSum small productSmall (by omega) (by omega)
  obtain ⟨w, sumKnown, sumNear⟩ := Number.addNear budgetKnown productKnown sum (by omega)
    (Number.inRange sum (by omega))
  have more : |v + p - p| ≤ 2 ^ (1000 : ℤ) := by
    rw [add_sub_cancel_right]
    exact small
  have gained : |w - p| ≤ 2 ^ (1001 : ℤ) := powerApart sumNear more (by omega) (by omega)
  have bounded : |w| ≤ 2 ^ (1021 : ℤ) := powerNear gained productSmall (by omega) (by omega)
  have spent := spending budget (.real e)
  have worth := worthReal e s.cpuHz
  rw [double] at worth
  generalize s.spend (.real e) = outcome at spent ⊢
  cases spent with
  | beyond none => simp [worth] at none
  | endless found endless =>
    obtain rfl := Option.some.inj (worth.symm.trans found)
    rw [← Number.valueEndless, sumKnown] at endless
    cases endless
  | @spent y d count found counted taken =>
    obtain rfl := Option.some.inj (worth.symm.trans found)
    obtain ⟨count', d', left, same, taken', leftKnown, leftSmall⟩ := takenOut sumKnown bounded
    obtain rfl := Except.ok.inj (same.symm.trans counted)
    obtain rfl := Option.some.inj (taken'.symm.trans taken)
    exact ⟨_, count', rfl, ⟨_, left, rfl, leftKnown, leftSmall⟩, ⟨r, double, rateKnown⟩, timer⟩

theorem Session.frameSolvent {rate y : ℚ} {s : Session Quantity} (length : Option Quantity)
    {e : Float} (solvent : Solvent rate s.schedule)
    (long : length.getD s.schedule.period = .real e) (known : value? e = some y)
    (bound : |y * rate| ≤ 2 ^ (1019 : ℤ)) :
    ∃ next report, s.frame length = (next, .ok report) ∧ Solvent rate next.schedule := by
  have ticked : Solvent rate { s.schedule with ticks := s.schedule.ticks + 1 } :=
    ⟨solvent.budget, solvent.cpuHz, solvent.timerHz⟩
  obtain ⟨budget, count, spent, left⟩ := spendReturns ticked known bound
  have checked : Scalar.check (Quantity.real e) = .ok () := rfl
  simp only [Session.frame, long, checked, Session.frameOf, spent]
  exact ⟨_, _, rfl, left.budget, left.cpuHz, left.timerHz⟩

theorem Hosted.frameSolvent {rate y : ℚ} {h : Hosted Quantity} (length : Option Quantity)
    {e : Float} (solvent : Solvent rate h.session.schedule)
    (long : length.getD h.session.schedule.period = .real e) (known : value? e = some y)
    (bound : |y * rate| ≤ 2 ^ (1019 : ℤ)) :
    ∃ next report, h.frame length = (next, .ok report) ∧ Solvent rate next.session.schedule := by
  obtain ⟨next, report, framed, left⟩ := h.session.frameSolvent length solvent long known bound
  simp only [Hosted.frame, framed]
  exact ⟨_, _, rfl, left⟩

def sixtieth : Float := Float.ofBits 0x3F91111111111111

theorem sixtiethPeriod : Scalar.one / Quantity.whole defaultTimerHz = .real sixtieth := rfl

theorem sixtiethValue : ∃ y, value? sixtieth = some y ∧ |y| ≤ 2 ^ (-5 : ℤ) := by
  refine ⟨_, Number.knownValue (b := ⟨false, 4803839602528529, -58, false⟩) rfl, ?_⟩
  rw [Number.Binary.value]
  norm_num

theorem sixtiethWorth {rate : ℚ} {s : Schedule Quantity} (solvent : Solvent rate s) :
    ∃ y, value? sixtieth = some y ∧ |y * rate| ≤ 2 ^ (1019 : ℤ) := by
  obtain ⟨y, known, small⟩ := sixtiethValue
  obtain ⟨r, -, rateKnown⟩ := solvent.cpuHz
  have bound := Number.valueBound rateKnown
  have split : (2 : ℚ) ^ (1019 : ℤ) = 2 ^ (-5 : ℤ) * 2 ^ (1024 : ℤ) := by
    rw [← zpow_add₀ two_ne_zero]
    rfl
  refine ⟨y, known, ?_⟩
  rw [abs_mul, split]
  exact mul_le_mul small bound.le (abs_nonneg rate) (by positivity)

theorem solventPeriod {rate : ℚ} {s : Schedule Quantity} (solvent : Solvent rate s) :
    s.period = .real sixtieth := by rw [Schedule.period, solvent.timerHz, sixtiethPeriod]

theorem Hosted.plainFrame {rate : ℚ} {h : Hosted Quantity}
    (solvent : Solvent rate h.session.schedule) :
    ∃ next report, h.frame none = (next, .ok report) ∧ Solvent rate next.session.schedule := by
  obtain ⟨y, known, bound⟩ := sixtiethWorth solvent
  exact frameSolvent none solvent (solventPeriod solvent) known bound

theorem startFields {rate timer : Quantity} {s : Schedule Quantity}
    (fresh : Schedule.start rate timer = .ok s) : s = ⟨rate, timer, .real 0, 0, 0, .real 0⟩ := by
  unfold Schedule.start at fresh
  split at fresh
  · contradiction
  · split at fresh
    · contradiction
    · cases fresh
      rfl

theorem zeroValue : value? 0 = some 0 := by
  rw [Number.valueUnpacked]
  rfl

theorem startSolvent {rate : Quantity} {r : Float} {v : ℚ} {s : Schedule Quantity}
    (double : rate.toDouble? = some r) (known : value? r = some v)
    (fresh : Schedule.start rate (.whole defaultTimerHz) = .ok s) : Solvent v s := by
  rw [startFields fresh]
  refine ⟨⟨0, 0, rfl, zeroValue, ?_⟩, ⟨r, double, known⟩, rfl⟩
  rw [abs_zero]
  positivity

theorem finiteSolvent {rate : Quantity} {schedule : Schedule Quantity} (finite : rate.finite)
    (fresh : Schedule.start rate (.whole defaultTimerHz) = .ok schedule) :
    ∃ v, Solvent v schedule := by
  obtain ⟨x, double, finite⟩ := finite
  obtain ⟨v, known⟩ := Option.isSome_iff_exists.mp ((Number.valueFinite x).trans finite)
  exact ⟨v, startSolvent double known fresh⟩

section
variable {e b : Float} {s : Schedule Quantity}

theorem spendFails (unfit : ¬s.cpuHz.finite) (budget : s.budget = .real b) :
    ∃ t kind, s.spend (.real e) = (t, .error kind) := by
  have spent := spending budget (.real e)
  have worth := worthReal e s.cpuHz
  generalize s.spend (.real e) = outcome at spent ⊢
  cases spent with
  | beyond | endless => exact ⟨_, _, rfl⟩
  | spent found counted =>
    rw [found] at worth
    obtain ⟨r, rate, rfl⟩ := Option.map_eq_some_iff.mp worth.symm
    have none : value? r = none := by
      rw [← Option.not_isSome_iff_eq_none, Number.valueFinite]
      exact fun finite => unfit ⟨r, rate, finite⟩
    have lost : value? (b + e * r) = .none := Number.addNone (.inr (Number.mulNone (.inr none)))
    exact absurd ((Number.valueEndless _).mp lost) (Number.countedFinite counted)

theorem Session.frameFails {s : Session Quantity} (length : Option Quantity)
    (unfit : ¬s.schedule.cpuHz.finite) (budget : s.schedule.budget = .real b)
    (long : length.getD s.schedule.period = .real e) :
    ∃ n error, s.frame length = (n, .error error) := by
  obtain ⟨t, kind, spent⟩ :=
    spendFails (s := { s.schedule with ticks := s.schedule.ticks + 1 }) (e := e) unfit budget
  have checked : Scalar.check (Quantity.real e) = .ok () := rfl
  simp only [Session.frame, long, checked, Session.frameOf, spent]
  exact ⟨_, _, rfl⟩

end

end Chip8
