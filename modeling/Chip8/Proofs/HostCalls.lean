import Chip8.Proofs.Evolution

/-! All that a host can do to a session, one action after another. Calls that are refused, such
as a key that does not exist or a byte that cannot be written, leave the machine as it was. -/
namespace Chip8
open Number (Scalar)

inductive HostCall where
  | load (image : List UInt8)
  | restart
  | press (key : Int) (down : Bool)
  | armWait
  | poke (address value : Int)
  | setV (x value : Int)
  | setIndex (value : Int)
  | setPc (value : Int)
  | push (address : Int)
  | pop
  | draw (x y : Int) (rows : List Int)
  | setDelay (value : Int)
  | setSound (value : Int)
  deriving DecidableEq, Repr

def Machine.serve (m : Machine) : HostCall → Machine
  | .load image => (m.load image).1
  | .restart => m.restart
  | .press key down => (m.setKeys down [key]).1
  | .armWait => m.armWait
  | .poke address value => { m with memory := (m.memory.store address [byteOf value]).1 }
  | .setV x value =>
    match position? 16 x with
    | some x => m.setV x (byteOf value)
    | none => m
  | .setIndex value => m.setIndex (wordOf value)
  | .setPc value => m.jumpTo (wordOf value)
  | .push address =>
    match m.registers.push (wordOf address) with
    | .ok registers => { m with registers }
    | .error _ => m
  | .pop =>
    match m.registers.pop with
    | .ok (_, registers) => { m with registers }
    | .error _ => m
  | .draw x y rows => { m with screen := (m.screen.draw m.dialect.clip x y rows).1 }
  | .setDelay value => { m with timers := m.timers.setDelay (byteOf value) }
  | .setSound value => { m with timers := m.timers.setSound (byteOf value) }

theorem serveRest (m : Machine) {call : HostCall} (unloaded : ∀ image, call ≠ .load image)
    (powered : call ≠ .restart) :
    ∃ registers memory delay sound screen keypad journal, m.serve call =
      { m with
        registers, memory, screen, keypad, journal
        timers := { m.timers with delay, sound } } := by
  cases call <;> simp only [Machine.serve]
  case load image => exact absurd rfl (unloaded image)
  case restart => contradiction
  case press key down =>
    simp only [Machine.setKeys]
    split <;> exact ⟨_, _, _, _, _, _, _, rfl⟩
  case setV => split <;> exact ⟨_, _, _, _, _, _, _, rfl⟩
  case push => split <;> exact ⟨_, _, _, _, _, _, _, rfl⟩
  case pop => split <;> exact ⟨_, _, _, _, _, _, _, rfl⟩
  all_goals exact ⟨_, _, _, _, _, _, _, rfl⟩

inductive Action (R : Type) where
  | host (call : HostCall)
  | step
  | run (limit : Int)
  | tick
  /- From here on another schedule drives the machine, unless its rates are refused. -/
  | clock (cpuHz timerHz : R)
  | frame (elapsed : Option R)
  | advance (elapsed : R)

def Action.Allowed {R : Type} (rule : Machine → HostCall → Prop) (m : Machine) :
    Action R → Prop
  | .host call => rule m call
  | _ => True

structure Kept (rule : Machine → HostCall → Prop) (P : Machine → Prop) : Prop where
  step : ∀ m, P m → P m.step.1
  tick : ∀ m, P m → P m.tick
  serve : ∀ m call, rule m call → P m → P (m.serve call)

variable {R : Type} [Add R] [Sub R] [Mul R] [Div R] [LT R] [DecidableLT R] [LE R]
  [DecidableLE R] [Scalar R]

namespace Session

def act (s : Session R) : Action R → Session R
  | .host call => { s with machine := s.machine.serve call }
  | .step => { s with machine := s.machine.step.1 }
  | .run limit => { s with machine := (s.machine.run limit.toNat).1 }
  | .tick => { s with machine := s.machine.tick }
  | .clock cpuHz timerHz =>
    match Schedule.start cpuHz timerHz with
    | .ok schedule => { s with schedule }
    | .error _ => s
  | .frame elapsed => (s.frame elapsed).1
  | .advance elapsed => (s.advance elapsed).1

def after (s : Session R) (actions : List (Action R)) : Session R := actions.foldl act s

def Lawful (rule : Machine → HostCall → Prop) : Session R → List (Action R) → Prop
  | _, [] => True
  | s, a :: rest => a.Allowed rule s.machine ∧ Lawful rule (s.act a) rest

theorem lawfulAll (s : Session R) (actions : List (Action R)) :
    Lawful (fun _ _ => True) s actions := by
  induction actions generalizing s with
  | nil => trivial
  | cons a rest ih => exact ⟨by cases a <;> trivial, ih (s.act a)⟩

theorem clockMachine (s : Session R) (cpuHz timerHz : R) :
    (s.act (.clock cpuHz timerHz)).machine = s.machine := by
  simp only [act]
  split <;> rfl

variable {rule : Machine → HostCall → Prop} {P : Machine → Prop}

theorem actKept (kept : Kept rule P) {s : Session R} {a : Action R}
    (allowed : a.Allowed rule s.machine) (h : P s.machine) : P (s.act a).machine := by
  have along {n} (path : Evolves s.machine n) : P n := evolvesKeeps kept.step kept.tick path h
  cases a with
  | host call => exact kept.serve _ call allowed h
  | step => exact kept.step _ h
  | run limit => exact along (Machine.runEvolves _ _)
  | tick => exact kept.tick _ h
  | clock cpuHz timerHz => rwa [clockMachine]
  | frame elapsed => exact along (frameEvolves s elapsed)
  | advance elapsed => exact along (advanceEvolves s elapsed)

theorem afterKept (kept : Kept rule P) {s : Session R} {actions : List (Action R)}
    (lawful : Lawful rule s actions) (h : P s.machine) : P (s.after actions).machine := by
  induction actions generalizing s with
  | nil => exact h
  | cons a rest ih => exact ih lawful.2 (actKept kept lawful.1 h)

end Session
end Chip8
