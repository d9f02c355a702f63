import Chip8.Schedule

/-! A host without a keyboard: some keys are held down for the whole run. Since a held key
never goes down again by itself, the host lets go of it and presses it for every key wait. -/
namespace Chip8

open Number (Scalar)

structure Host where
  held : List (Fin 16)
  frames : Nat := 0
  instructions : Nat := 0
  soundFrames : Nat := 0
  deriving DecidableEq, Repr

namespace Host

def hold (m : Machine) (keys : List (Fin 16)) : Machine × Host :=
  (keys.foldl (fun m k => m.setKey k true) m, { held := keys })

def attach (m : Machine) (keys : List Int) : Machine × Except KeyError Host :=
  match m.setKeys true keys with
  | (m, some e) => (m, .error e)
  | (m, none) => (m, .ok { held := keys.filterMap fun k => (key? k).toOption })

def pressAgain (m : Machine) (k : Fin 16) : Machine := (m.setKey k false).setKey k true

def remind (h : Host) (m : Machine) : Machine :=
  if m.blocked then h.held.foldl pressAgain m else m

def afterFrame (r : Report) (m : Machine) (h : Host) : Machine × Host :=
  (h.remind m,
    { h with
      frames := h.frames + 1
      instructions := h.instructions + r.instructions
      soundFrames := h.soundFrames + if r.soundActive then 1 else 0 })

end Host

structure Hosted (R : Type) where
  session : Session R
  host : Host

namespace Hosted

variable {R : Type} [Add R] [Sub R] [Mul R] [Div R] [Scalar R]

def frame (h : Hosted R) (elapsed : Option R) : Hosted R × Except (ScheduleError R) Report :=
  match h.session.frame elapsed with
  | (session, .error e) => ({ h with session }, .error e)
  | (session, .ok report) =>
    let (machine, host) := Host.afterFrame report session.machine h.host
    (⟨{ session with machine }, host⟩, .ok report)

def run (h : Hosted R) (reports : Array Report) :
    Nat → Hosted R × Except (ScheduleError R) (Array Report)
  | 0 => (h, .ok reports)
  | frames + 1 =>
    match h.frame none with
    | (h, .error e) => (h, .error e)
    | (h, .ok report) =>
      if report.error.isSome then (h, .ok (reports.push report))
      else h.run (reports.push report) frames

end Hosted
end Chip8
