import Chip8.Machine.Step

/-! A machine on a timeline. A beat is either a timer tick or a slot for one instruction; a
slot is lost while the machine is stopped or waits for a key. -/
namespace Chip8

inductive Beat where
  | tick
  | slot
  deriving DecidableEq, Repr

structure Report where
  instructions : Nat := 0
  ticks : Nat := 0
  redrawn : Bool := false
  soundActive : Bool := false
  stop : Option StopReason := none
  error : Option Fault := none
  deriving DecidableEq, Repr

namespace Machine

def slot (m : Machine) (r : Report) : Machine × Report :=
  if m.halted then
    (m, if r.error.isNone then { r with stop := some .halted, error := m.fault } else r)
  else if m.blocked then (m, r)
  else
    match m.step with
    | (m, .error f) => (m, { r with stop := some f.reason, error := some f })
    | (m, .ok redrawn) =>
      (m, { r with instructions := r.instructions + 1, redrawn := r.redrawn || redrawn })

def beat (state : Machine × Report) (b : Beat) : Machine × Report :=
  match b with
  | .tick => (state.1.tick, { state.2 with ticks := state.2.ticks + 1 })
  | .slot => state.1.slot state.2

def play (state : Machine × Report) (beats : List Beat) : Machine × Report :=
  beats.foldl beat state

def playSlots (state : Machine × Report) : Nat → Machine × Report
  | 0 => state
  | n + 1 => playSlots (beat state .slot) n

theorem playSlotsList (state : Machine × Report) (n : Nat) :
    playSlots state n = play state (List.replicate n .slot) := by
  induction n generalizing state with
  | zero => rfl
  | succ n ih => simp only [playSlots, ih, play, List.replicate_succ, List.foldl_cons]

def close (m : Machine) (r : Report) : Report :=
  { r with
    stop := if r.stop.isNone && m.awaitingKey then some .keyWait else r.stop
    soundActive := m.timers.soundActive }

end Machine
end Chip8
