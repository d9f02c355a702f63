import Chip8.Proofs.Timeline
import Mathlib.Data.Rat.Floor
import Mathlib.Tactic.Linarith

/-! The slots of a timeline in exact fractions, where every rounding is the one that the
timeline itself makes. Frames keep a budget of their own and stretches go by the whole time, so
where the two meet within a slot it may be spent twice or not at all, but never more than one. -/
namespace Chip8
open Number (Scalar)

instance : Scalar ℚ where
  ofInt n := n
  zero := 0
  one := 1
  slack := 1 / 1000000000
  check _ := .ok ()
  checkQuotient _ _ := .ok ()
  floor x := .ok ⌊x⌋
  truncate x := .ok (if 0 ≤ x then ⌊x⌋ else ⌈x⌉)

def dueBy (instant rate : ℚ) : ℤ := ⌊instant * rate + Scalar.slack⌋

def Action.lasting : Action ℚ → Bool
  | .frame none => true
  | .frame (some elapsed) | .advance elapsed => decide (0 ≤ elapsed)
  | _ => false

structure Ledger where
  framed : ℚ
  stretched : ℚ
  before : ℚ
  deriving DecidableEq, Repr

def Ledger.enter (timerHz : ℚ) (l : Ledger) : Action ℚ → Ledger
  | .frame elapsed =>
    { l with framed := l.framed + elapsed.getD (1 / timerHz), before := l.stretched }
  | .advance elapsed => { l with stretched := l.stretched + elapsed }
  | _ => l

def ledger (timerHz : ℚ) (actions : List (Action ℚ)) : Ledger :=
  actions.foldl (Ledger.enter timerHz) ⟨0, 0, 0⟩

def Whole (x : ℚ) : Prop := ∃ n : ℤ, x = n

structure Balanced (cpuHz timerHz : ℚ) (l : Ledger) (s : Schedule ℚ) : Prop where
  cpuRate : s.cpuHz = cpuHz
  timerRate : s.timerHz = timerHz
  framed : 0 ≤ l.framed
  stretched : 0 ≤ l.stretched
  elapsed : s.elapsed = l.framed + l.stretched
  budget : s.budget = l.framed * cpuHz - dueBy l.framed cpuHz
  least : dueBy l.framed cpuHz + ⌊l.stretched * cpuHz⌋ ≤ s.slots
  most : s.slots ≤ dueBy l.framed cpuHz + ⌈l.stretched * cpuHz⌉
  onTime : Whole (l.before * cpuHz) → s.slots = dueBy s.elapsed cpuHz

theorem dueWhole (framed : ℚ) {stretched cpuHz : ℚ} {n : ℤ} (whole : stretched * cpuHz = n) :
    dueBy (framed + stretched) cpuHz = dueBy framed cpuHz + n := by
  rw [dueBy, dueBy, ← Int.floor_add_intCast, ← whole]
  congr 1
  ring

theorem dueLeast (framed stretched cpuHz : ℚ) :
    dueBy framed cpuHz + ⌊stretched * cpuHz⌋ ≤ dueBy (framed + stretched) cpuHz := by
  have sum : (framed + stretched) * cpuHz + Scalar.slack =
      framed * cpuHz + Scalar.slack + stretched * cpuHz := by ring
  rw [dueBy, dueBy, sum]
  exact Int.le_floor_add _ _

theorem dueMost (framed stretched cpuHz : ℚ) :
    dueBy (framed + stretched) cpuHz ≤ dueBy framed cpuHz + ⌈stretched * cpuHz⌉ := by
  have sum : (framed + stretched) * cpuHz + Scalar.slack =
      framed * cpuHz + Scalar.slack + stretched * cpuHz := by ring
  have ceiling : stretched * cpuHz ≤ ⌈stretched * cpuHz⌉ := Int.le_ceil _
  rw [dueBy, dueBy, sum, ← Int.floor_add_intCast]
  exact Int.floor_le_floor (by linarith)

theorem dueLater {t u cpuHz : ℚ} (positive : 0 < cpuHz) (later : t ≤ u) :
    dueBy t cpuHz ≤ dueBy u cpuHz := by
  have product : t * cpuHz ≤ u * cpuHz := mul_le_mul_of_nonneg_right later positive.le
  exact Int.floor_le_floor (by linarith)

namespace Session
variable {s : Session ℚ}

theorem frameActs {elapsed : Option ℚ} {count : ℤ} (paid : 0 ≤ count)
    (worth : count = ⌊s.schedule.budget + elapsed.getD s.schedule.period * s.schedule.cpuHz +
      Scalar.slack⌋) :
    (s.act (.frame elapsed)).schedule =
        { s.schedule with
          ticks := s.schedule.ticks + 1
          slots := s.schedule.slots + count.toNat
          elapsed := s.schedule.elapsed + elapsed.getD s.schedule.period
          budget :=
            s.schedule.budget + elapsed.getD s.schedule.period * s.schedule.cpuHz - count } ∧
      ∃ report, s.answer? (.frame elapsed) = some (.ok report) := by
  have positive : 0 ≤ s.schedule.budget + elapsed.getD s.schedule.period * s.schedule.cpuHz +
      Scalar.slack := Int.floor_nonneg.mp (worth ▸ paid)
  have truncated : Scalar.truncate (s.schedule.budget + elapsed.getD s.schedule.period *
      s.schedule.cpuHz + Scalar.slack) = .ok count := by
    rw [worth]
    exact congrArg Except.ok (if_pos positive)
  have checked (x : ℚ) : Scalar.check x = .ok () := rfl
  have cast : (Scalar.ofInt count : ℚ) = count := rfl
  simp [act, answer?, frame, frameOf, Schedule.spend, checked, truncated, cast]

theorem advanceActs {elapsed : ℚ} (forward : 0 ≤ elapsed) :
    (s.act (.advance elapsed)).schedule =
        { s.schedule with
          elapsed := s.schedule.elapsed + elapsed
          slots := s.schedule.slots +
            (dueBy (s.schedule.elapsed + elapsed) s.schedule.cpuHz - s.schedule.slots).toNat
          ticks := s.schedule.ticks +
            (dueBy (s.schedule.elapsed + elapsed) s.schedule.timerHz - s.schedule.ticks).toNat } ∧
      ∃ report, s.answer? (.advance elapsed) = some (.ok report) := by
  have advanced := s.advancing elapsed
  simp only [act, answer?]
  generalize s.advance elapsed = outcome at advanced ⊢
  generalize s.schedule.beatsOf (.advance elapsed) = beats at advanced
  cases advanced with
  | refused cause =>
    obtain negative | ⟨_, ⟨⟩⟩ | ⟨_, ⟨⟩⟩ := cause
    exact absurd negative (not_lt.mpr forward)
  | @stalled slotsDue ticksDue rounds kind _ _ _ loop stall =>
    have timed : ∀ r ∈ rounds, s.schedule.instants r.slots r.ticks = .ok () := fun _ _ => rfl
    rw [Schedule.timedRounds.mpr timed] at stall
    contradiction
  | @returned slotsDue ticksDue rounds machine report _ slotBound tickBound loop =>
    obtain rfl : dueBy (s.schedule.elapsed + elapsed) s.schedule.cpuHz = slotsDue :=
      Except.ok.inj slotBound
    obtain rfl : dueBy (s.schedule.elapsed + elapsed) s.schedule.timerHz = ticksDue :=
      Except.ok.inj tickBound
    have counted := s.schedule.roundsCount (dueBy (s.schedule.elapsed + elapsed) s.schedule.cpuHz)
      (dueBy (s.schedule.elapsed + elapsed) s.schedule.timerHz) s.schedule.slots s.schedule.ticks
    rw [loop] at counted
    exact ⟨by rw [Schedule.count, counted.1, counted.2], _, rfl⟩

variable {cpuHz timerHz : ℚ} {l : Ledger}

theorem frameBalanced (positive : 0 < cpuHz) (ticking : 0 < timerHz) {elapsed : Option ℚ}
    (lasting : (Action.frame elapsed).lasting = true)
    (balanced : Balanced cpuHz timerHz l s.schedule) :
    Balanced cpuHz timerHz (l.enter timerHz (.frame elapsed)) (s.act (.frame elapsed)).schedule ∧
      ∃ report, s.answer? (.frame elapsed) = some (.ok report) := by
  have period : s.schedule.period = 1 / timerHz := by rw [Schedule.period, balanced.timerRate]; rfl
  have length : 0 ≤ elapsed.getD (1 / timerHz) := by
    cases elapsed with
    | none => exact (one_div_pos.mpr ticking).le
    | some e => exact of_decide_eq_true lasting
  generalize named : elapsed.getD (1 / timerHz) = e at length
  have more : dueBy l.framed cpuHz ≤ dueBy (l.framed + e) cpuHz :=
    dueLater positive (by linarith)
  have worth : dueBy (l.framed + e) cpuHz - dueBy l.framed cpuHz =
      ⌊s.schedule.budget + elapsed.getD s.schedule.period * s.schedule.cpuHz + Scalar.slack⌋ := by
    rw [period, named, balanced.budget, balanced.cpuRate, dueBy, ← Int.floor_sub_intCast]
    congr 1
    ring
  obtain ⟨acts, report⟩ := frameActs (by omega) worth
  refine ⟨?_, report⟩
  have entered : l.enter timerHz (.frame elapsed) =
      { l with framed := l.framed + e, before := l.stretched } := by
    rw [Ledger.enter, named]
  rw [acts, period, named, entered]
  have least := balanced.least
  have most := balanced.most
  constructor
  case cpuRate => exact balanced.cpuRate
  case timerRate => exact balanced.timerRate
  case framed => exact add_nonneg balanced.framed length
  case stretched => exact balanced.stretched
  case elapsed =>
    show s.schedule.elapsed + e = l.framed + e + l.stretched
    rw [balanced.elapsed]
    ring
  case budget =>
    show s.schedule.budget + e * s.schedule.cpuHz - ((_ : ℤ) : ℚ) = _
    rw [balanced.budget, balanced.cpuRate]
    push_cast
    ring
  case least =>
    dsimp only
    push_cast
    omega
  case most =>
    dsimp only
    push_cast
    omega
  case onTime =>
    rintro ⟨n, whole⟩
    have floor : ⌊l.stretched * cpuHz⌋ = n := by rw [whole, Int.floor_intCast]
    have ceiling : ⌈l.stretched * cpuHz⌉ = n := by rw [whole, Int.ceil_intCast]
    have total : s.schedule.elapsed + e = l.framed + e + l.stretched := by
      rw [balanced.elapsed]
      ring
    rw [total, dueWhole _ whole]
    dsimp only
    push_cast
    omega

theorem advanceBalanced (positive : 0 < cpuHz) {elapsed : ℚ} (forward : 0 ≤ elapsed)
    (balanced : Balanced cpuHz timerHz l s.schedule) :
    Balanced cpuHz timerHz (l.enter timerHz (.advance elapsed))
        (s.act (.advance elapsed)).schedule ∧
      ∃ report, s.answer? (.advance elapsed) = some (.ok report) := by
  obtain ⟨acts, report⟩ := advanceActs forward
  refine ⟨?_, report⟩
  have total : s.schedule.elapsed + elapsed = l.framed + (l.stretched + elapsed) := by
    rw [balanced.elapsed, add_assoc]
  have stretched : l.stretched * cpuHz ≤ (l.stretched + elapsed) * cpuHz :=
    mul_le_mul_of_nonneg_right (by linarith) positive.le
  have ceiling : ⌈l.stretched * cpuHz⌉ ≤ ⌈(l.stretched + elapsed) * cpuHz⌉ :=
    Int.ceil_le_ceil stretched
  have least := dueLeast l.framed (l.stretched + elapsed) cpuHz
  have most := dueMost l.framed (l.stretched + elapsed) cpuHz
  have mostBefore := balanced.most
  rw [acts, balanced.cpuRate, total]
  constructor
  case cpuRate => exact balanced.cpuRate
  case timerRate => exact balanced.timerRate
  case framed => exact balanced.framed
  case stretched => exact add_nonneg balanced.stretched forward
  case elapsed => rfl
  case budget => exact balanced.budget
  case least =>
    show dueBy l.framed cpuHz + ⌊(l.stretched + elapsed) * cpuHz⌋ ≤ ((_ : ℕ) : ℤ)
    push_cast
    omega
  case most =>
    show ((_ : ℕ) : ℤ) ≤ dueBy l.framed cpuHz + ⌈(l.stretched + elapsed) * cpuHz⌉
    push_cast
    omega
  case onTime =>
    intro whole
    have before := balanced.onTime whole
    have later : dueBy s.schedule.elapsed cpuHz ≤
        dueBy (l.framed + (l.stretched + elapsed)) cpuHz :=
      dueLater positive (by rw [balanced.elapsed]; linarith)
    show ((_ : ℕ) : ℤ) = dueBy (l.framed + (l.stretched + elapsed)) cpuHz
    push_cast
    omega

theorem balancedAfter (positive : 0 < cpuHz) (ticking : 0 < timerHz) {actions : List (Action ℚ)}
    (lasting : ∀ a ∈ actions, a.lasting = true) (balanced : Balanced cpuHz timerHz l s.schedule) :
    (∃ seen, s.visits actions = .ok seen) ∧
      Balanced cpuHz timerHz (actions.foldl (Ledger.enter timerHz) l)
        (s.after actions).schedule := by
  induction actions generalizing s l with
  | nil => exact ⟨⟨[], rfl⟩, balanced⟩
  | cons a rest ih =>
    obtain ⟨first, later⟩ := List.forall_mem_cons.mp lasting
    have step : Balanced cpuHz timerHz (l.enter timerHz a) (s.act a).schedule ∧
        ∃ report, s.answer? a = some (.ok report) := by
      cases a with
      | frame elapsed => exact frameBalanced positive ticking first balanced
      | advance elapsed => exact advanceBalanced positive (of_decide_eq_true first) balanced
      | host | step | run | tick | clock => contradiction
    obtain ⟨next, report, answered⟩ := step
    obtain ⟨⟨seen, tail⟩, final⟩ := ih later next
    exact ⟨⟨(s.act a, report) :: seen, by simp only [visits, answered, tail, Except.map]⟩, final⟩

end Session

variable {cpuHz timerHz : ℚ} {l : Ledger} {s : Schedule ℚ}

theorem balancedDrift (balanced : Balanced cpuHz timerHz l s) :
    |(s.slots : ℤ) - dueBy s.elapsed cpuHz| ≤ 1 := by
  have least := balanced.least
  have most := balanced.most
  have dueLeast := dueLeast l.framed l.stretched cpuHz
  have dueMost := dueMost l.framed l.stretched cpuHz
  have rounded : ⌈l.stretched * cpuHz⌉ ≤ ⌊l.stretched * cpuHz⌋ + 1 := Int.ceil_le_floor_add_one _
  rw [balanced.elapsed, abs_le]
  omega

theorem balancedWhole (balanced : Balanced cpuHz timerHz l s)
    (whole : Whole (l.stretched * cpuHz)) : s.slots = dueBy s.elapsed cpuHz := by
  obtain ⟨n, whole⟩ := whole
  have least := balanced.least
  have most := balanced.most
  rw [whole, Int.floor_intCast] at least
  rw [whole, Int.ceil_intCast] at most
  rw [balanced.elapsed, dueWhole _ whole]
  omega

theorem startBalanced (fresh : Schedule.start cpuHz timerHz = .ok s) :
    0 < cpuHz ∧ 0 < timerHz ∧ Balanced cpuHz timerHz ⟨0, 0, 0⟩ s := by
  have nothing : dueBy 0 cpuHz = 0 := by
    rw [dueBy, zero_mul, zero_add, Int.floor_eq_zero_iff]
    exact ⟨by norm_num [Scalar.slack], by norm_num [Scalar.slack]⟩
  unfold Schedule.start at fresh
  split at fresh
  · contradiction
  · rename_i positive
    split at fresh
    · contradiction
    · rename_i ticking
      cases fresh
      refine ⟨not_le.mp positive, not_le.mp ticking, ?_⟩
      constructor
      case cpuRate | timerRate => rfl
      case framed | stretched => exact le_rfl
      case elapsed => exact (add_zero 0).symm
      case budget => simp [nothing, Scalar.zero]
      case least | most => simp [nothing]
      case onTime => exact fun _ => nothing.symm

theorem slotsNearTime {s : Session ℚ} (fresh : Schedule.start cpuHz timerHz = .ok s.schedule)
    {actions : List (Action ℚ)} (lasting : ∀ a ∈ actions, a.lasting = true) :
    (∃ seen, s.visits actions = .ok seen) ∧
      (s.after actions).schedule.elapsed =
        (ledger timerHz actions).framed + (ledger timerHz actions).stretched ∧
      |((s.after actions).schedule.slots : ℤ) -
        dueBy (s.after actions).schedule.elapsed cpuHz| ≤ 1 ∧
      (Whole ((ledger timerHz actions).before * cpuHz) ∨
          Whole ((ledger timerHz actions).stretched * cpuHz) →
        (s.after actions).schedule.slots = dueBy (s.after actions).schedule.elapsed cpuHz) := by
  obtain ⟨positive, ticking, start⟩ := startBalanced fresh
  obtain ⟨returned, balanced⟩ := Session.balancedAfter positive ticking lasting start
  refine ⟨returned, balanced.elapsed, balancedDrift balanced, ?_⟩
  rintro (before | all)
  · exact balanced.onTime before
  · exact balancedWhole balanced all

def secondSession : Session ℚ :=
  ⟨⟨1, 60, 0, 0, 0, 0⟩, .powerOn {} false ⟨Vector.replicate 624 0, 624⟩ .silent⟩

def wholeSeconds : List (Action ℚ) :=
  [.frame (some (1 / 2)), .advance 1, .frame none, .advance (1 / 4)]

theorem wholeSecondsNear :
    Schedule.start 1 60 = .ok secondSession.schedule ∧
      (∀ a ∈ wholeSeconds, a.lasting = true) ∧
      Whole ((ledger 60 wholeSeconds).before * 1) ∧
      (∃ seen, secondSession.visits wholeSeconds = .ok seen) ∧
      (secondSession.after wholeSeconds).schedule.slots =
        dueBy (secondSession.after wholeSeconds).schedule.elapsed 1 := by
  have fresh : Schedule.start 1 60 = .ok secondSession.schedule := rfl
  have lasting : ∀ a ∈ wholeSeconds, a.lasting = true := by decide +kernel
  have whole : Whole ((ledger 60 wholeSeconds).before * 1) := ⟨1, by decide +kernel⟩
  obtain ⟨returned, _, _, onTime⟩ := slotsNearTime fresh lasting
  exact ⟨fresh, lasting, whole, returned, onTime (.inl whole)⟩

def switchOnce : List (Action ℚ) := [.advance (1 / 2), .frame (some (1 / 2))]

def switchTwice : List (Action ℚ) :=
  [.frame (some (1 / 2)), .advance (1 / 2), .frame (some (1 / 2))]

/- Half a second by a stretch and half a second by a frame pass without the slot of that second;
half a second each by a frame, a stretch and a frame spend two slots in one and a half seconds. -/
theorem switchDrifts :
    (∀ a ∈ switchOnce ++ switchTwice, a.lasting = true) ∧
      (secondSession.after switchOnce).schedule.slots = 0 ∧
      dueBy (secondSession.after switchOnce).schedule.elapsed 1 = 1 ∧
      (secondSession.after switchTwice).schedule.slots = 2 ∧
      dueBy (secondSession.after switchTwice).schedule.elapsed 1 = 1 := by
  decide +kernel

end Chip8
