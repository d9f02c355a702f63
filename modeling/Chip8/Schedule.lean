import Chip8.Machine.Play
import Chip8.Number.Scalar

/-! Instruction slots at one rate and timer ticks at another on one timeline. Time moves by
whole frames, each with one tick and the slots that its length is worth, or by any stretch,
whose slots and ticks come in the order of their instants. -/
namespace Chip8

open Number (Scalar Unconvertible)

inductive Rate where
  | cpu
  | timer
  deriving DecidableEq, Repr

def Rate.name : Rate → String
  | .cpu => "cpu_hz"
  | .timer => "timer_hz"

inductive ScheduleError (R : Type) where
  | rate (which : Rate) (given : R)
  | negative (elapsed : R)
  | unconvertible (kind : Unconvertible)
  deriving DecidableEq, Repr

def ScheduleError.message {R : Type} (text : R → String) : ScheduleError R → String
  | .rate which given => which.name ++ " must be positive, got " ++ text given
  | .negative elapsed => "elapsed must be >= 0, got " ++ text elapsed
  | .unconvertible kind => kind.message

structure Schedule (R : Type) where
  cpuHz : R
  timerHz : R
  elapsed : R
  slots : Nat
  ticks : Nat
  budget : R
  deriving Repr

def defaultCpuHz : Int := 700

def defaultTimerHz : Int := 60

structure Session (R : Type) where
  schedule : Schedule R
  machine : Machine

variable {R : Type} [Div R] [LE R] [DecidableLE R] [Scalar R]

namespace Schedule

def start (cpuHz timerHz : R) : Except (ScheduleError R) (Schedule R) :=
  if cpuHz ≤ Scalar.ofInt 0 then .error (.rate .cpu cpuHz)
  else if timerHz ≤ Scalar.ofInt 0 then .error (.rate .timer timerHz)
  else .ok ⟨cpuHz, timerHz, Scalar.zero, 0, 0, Scalar.zero⟩

def period (s : Schedule R) : R := Scalar.one / s.timerHz

def slotInstant (s : Schedule R) (k : Nat) : R := Scalar.ofInt k / s.cpuHz

def tickInstant (s : Schedule R) (k : Nat) : R := Scalar.ofInt k / s.timerHz

def instants (s : Schedule R) (slots ticks : Nat) : Except Unconvertible Unit := do
  Scalar.checkQuotient (Scalar.ofInt (slots + 1 : Nat)) s.cpuHz
  Scalar.checkQuotient (Scalar.ofInt (ticks + 1 : Nat)) s.timerHz

theorem slotLeft {slots ticks : Nat} {slotsDue ticksDue : Int} {first : Prop}
    (more : slots < slotsDue ∨ ticks < ticksDue)
    (other : ¬(ticks < ticksDue ∧ (slotsDue ≤ slots ∨ first))) :
    slots < slotsDue ∧ (ticks < ticksDue → ¬first) := by
  by_cases tick : ticks < ticksDue
  · obtain ⟨slot, later⟩ := not_or.mp fun sooner => other ⟨tick, sooner⟩
    exact ⟨Int.not_le.mp slot, fun _ => later⟩
  · exact ⟨more.resolve_right tick, fun left => absurd left tick⟩

/-- Round by round, a tick or a slot, until both counts have reached what is due or the instants
of a round cannot be worked out. A tick goes before a slot of the same instant. -/
def replay (s : Schedule R) (slotsDue ticksDue : Int) (state : Machine × Report)
    (slots ticks : Nat) : (Machine × Report) × Nat × Nat × Except Unconvertible Unit :=
  if slots < slotsDue ∨ ticks < ticksDue then
    match s.instants slots ticks with
    | .error kind => (state, slots, ticks, .error kind)
    | .ok () =>
      if ticks < ticksDue ∧
          (slotsDue ≤ slots ∨ s.tickInstant (ticks + 1) ≤ s.slotInstant (slots + 1)) then
        s.replay slotsDue ticksDue (Machine.beat state .tick) slots (ticks + 1)
      else s.replay slotsDue ticksDue (Machine.beat state .slot) (slots + 1) ticks
  else (state, slots, ticks, .ok ())
termination_by (slotsDue - slots).toNat + (ticksDue - ticks).toNat
decreasing_by
  · omega
  · have slot := (slotLeft ‹_› ‹_›).1
    omega

end Schedule

variable [Add R] [Sub R] [Mul R] [LT R] [DecidableLT R]

namespace Schedule

def due (instant rate : R) : Except Unconvertible Int :=
  Scalar.floor (instant * rate + Scalar.slack)

def spend (s : Schedule R) (elapsed : R) : Schedule R × Except Unconvertible Int :=
  let budget := s.budget + elapsed * s.cpuHz
  match Scalar.check budget with
  | .error kind => (s, .error kind)
  | .ok () =>
    match Scalar.truncate (budget + Scalar.slack) with
    | .error kind => ({ s with budget }, .error kind)
    | .ok count => ({ s with budget := budget - Scalar.ofInt count }, .ok count)

end Schedule

namespace Session

/-- One tick, then the slots that the elapsed time is worth; the fraction is carried over. A
frame whose worth is no number has ticked by then. -/
def frameOf (s : Session R) (elapsed : R) : Session R × Except (ScheduleError R) Report :=
  let (machine, report) := Machine.beat (s.machine, {}) .tick
  match { s.schedule with ticks := s.schedule.ticks + 1 }.spend elapsed with
  | (schedule, .error kind) => (⟨schedule, machine⟩, .error (.unconvertible kind))
  | (schedule, .ok count) =>
    let (machine, report) := Machine.playSlots (machine, report) count.toNat
    let schedule :=
      { schedule with
        slots := schedule.slots + count.toNat
        elapsed := schedule.elapsed + elapsed }
    (⟨schedule, machine⟩, .ok (machine.close report))

def frame (s : Session R) (elapsed : Option R) : Session R × Except (ScheduleError R) Report :=
  let elapsed := elapsed.getD s.schedule.period
  match Scalar.check elapsed with
  | .error kind => (s, .error (.unconvertible kind))
  | .ok () => s.frameOf elapsed

def advance (s : Session R) (elapsed : R) : Session R × Except (ScheduleError R) Report :=
  if elapsed < Scalar.ofInt 0 then (s, .error (.negative elapsed))
  else
    let target := s.schedule.elapsed + elapsed
    match Schedule.due target s.schedule.cpuHz, Schedule.due target s.schedule.timerHz with
    | .error kind, _ => (s, .error (.unconvertible kind))
    | .ok _, .error kind => (s, .error (.unconvertible kind))
    | .ok slotsDue, .ok ticksDue =>
      match s.schedule.replay slotsDue ticksDue (s.machine, {}) s.schedule.slots
        s.schedule.ticks with
      | ((machine, _), slots, ticks, .error kind) =>
        (⟨{ s.schedule with slots, ticks }, machine⟩, .error (.unconvertible kind))
      | ((machine, report), slots, ticks, .ok ()) =>
        (⟨{ s.schedule with elapsed := target, slots, ticks }, machine⟩,
          .ok (machine.close report))

end Session
end Chip8
