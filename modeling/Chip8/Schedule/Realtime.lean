import Chip8.Schedule

/-! Frames paced against a clock. Each frame is as long as the time since the frame before it
began; the pauses between frames aim at deadlines one period apart, so lateness does not add
up. -/
namespace Chip8

open Number (Scalar Unconvertible)

structure WallClock (C R : Type) where
  read : C → R × C
  sleep : C → R → Option C

inductive PacingError (R : Type) where
  | schedule (error : ScheduleError R)
  | interrupted
  deriving DecidableEq, Repr

structure Pace (R : Type) where
  last : R
  deadline : R
  deriving Repr

namespace Pace

variable {R : Type} [Add R] [Sub R] [Mul R] [LT R] [DecidableLT R] [Scalar R]

/-- The first frame counts as one period long. -/
def start (period reading : R) : Pace R :=
  ⟨reading - period, reading - period + Scalar.ofInt 2 * period⟩

def elapsed (p : Pace R) (now : R) : R := now - p.last

def pause (p : Pace R) (reading : R) : Except Unconvertible (Option R) :=
  let delay := p.deadline - reading
  (Scalar.check delay).map fun () => if Scalar.ofInt 0 < delay then some delay else none

def next (p : Pace R) (now period : R) : Pace R := ⟨now, p.deadline + period⟩

end Pace

structure Paced (R C W : Type) where
  session : Session R
  clock : C
  watcher : W

namespace Paced

variable {R : Type} [Add R] [Sub R] [Mul R] [Div R] [LT R] [DecidableLT R] [Scalar R]
  {C W : Type}

def runFrom (wall : WallClock C R) (watch : Report → Machine → W → Machine × W)
    (pace : Pace R) (report : Report) (p : Paced R C W) :
    Nat → Paced R C W × Except (PacingError R) Report
  | 0 => (p, .ok report)
  | frames + 1 =>
    let (now, clock) := wall.read p.clock
    match p.session.frame (some (pace.elapsed now)) with
    | (session, .error e) => ({ p with session, clock }, .error (.schedule e))
    | (session, .ok report) =>
      let (machine, watcher) := watch report session.machine p.watcher
      let session := { session with machine }
      if report.error.isSome then (⟨session, clock, watcher⟩, .ok report)
      else
        let next := pace.next now session.schedule.period
        let (reading, clock) := wall.read clock
        match pace.pause reading with
        | .error kind => (⟨session, clock, watcher⟩, .error (.schedule (.unconvertible kind)))
        | .ok none => runFrom wall watch next report ⟨session, clock, watcher⟩ frames
        | .ok (some delay) =>
          match wall.sleep clock delay with
          | none => (⟨session, clock, watcher⟩, .error .interrupted)
          | some clock => runFrom wall watch next report ⟨session, clock, watcher⟩ frames

def run (wall : WallClock C R) (watch : Report → Machine → W → Machine × W)
    (p : Paced R C W) (frames : Nat) : Paced R C W × Except (PacingError R) Report :=
  let (reading, clock) := wall.read p.clock
  let pace := Pace.start p.session.schedule.period reading
  match Scalar.check pace.deadline with
  | .error kind => ({ p with clock }, .error (.schedule (.unconvertible kind)))
  | .ok () => runFrom wall watch pace {} { p with clock } frames

end Paced
end Chip8
