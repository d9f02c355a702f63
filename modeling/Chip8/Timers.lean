import Chip8.Word

/-! The delay and sound timers: two bytes that count down to zero, and the ticks so far. -/
namespace Chip8

structure Timers where
  delay : UInt8
  sound : UInt8
  ticks : Nat
  deriving DecidableEq, Repr

namespace Timers

def zero : Timers := ⟨0, 0, 0⟩

def countDown (t : UInt8) : UInt8 := if t = 0 then 0 else t - 1

def tick (t : Timers) : Timers := ⟨countDown t.delay, countDown t.sound, t.ticks + 1⟩

def tickTimes (t : Timers) : Nat → Timers
  | 0 => t
  | n + 1 => t.tick.tickTimes n

def setDelay (t : Timers) (b : UInt8) : Timers := { t with delay := b }

def setSound (t : Timers) (b : UInt8) : Timers := { t with sound := b }

def soundActive (t : Timers) : Bool := t.sound != 0

theorem countDownNat (t : UInt8) : (countDown t).toNat = t.toNat - 1 := by
  unfold countDown
  split
  · next h => subst h; rfl
  · next h =>
    have : t.toNat ≠ 0 := fun e => h (UInt8.toNat_inj.mp e)
    have := t.toNat_lt
    simp only [UInt8.toNat_sub, UInt8.toNat_one]
    omega

theorem tickTimesAdd (t : Timers) (a b : Nat) :
    t.tickTimes (a + b) = (t.tickTimes a).tickTimes b := by
  induction a generalizing t with
  | zero => rw [Nat.zero_add, tickTimes]
  | succ a ih =>
    rw [Nat.succ_add]
    exact ih t.tick

end Timers
end Chip8
