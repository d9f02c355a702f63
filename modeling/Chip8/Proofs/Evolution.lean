import Chip8.Proofs.StepStages
import Chip8.Schedule
import Mathlib.Logic.Relation

/-! Steps and ticks are all that a bounded run or a timeline ever does to a machine. What both
of them keep, every run, frame and stretch of time keeps. -/
namespace Chip8

inductive Move (m : Machine) : Machine → Prop where
  | step : Move m m.step.1
  | tick : Move m m.tick

def Evolves : Machine → Machine → Prop := Relation.ReflTransGen Move

theorem evolvesKeeps {P : Machine → Prop} (step : ∀ m, P m → P m.step.1)
    (tick : ∀ m, P m → P m.tick) {m n : Machine} (path : Evolves m n) (initial : P m) : P n := by
  induction path with
  | refl => exact initial
  | tail _ move ih =>
    cases move with
    | step => exact step _ ih
    | tick => exact tick _ ih

theorem stepEvolves (m : Machine) : Evolves m m.step.1 := .single .step

theorem tickEvolves (m : Machine) : Evolves m m.tick := .single .tick

namespace Machine

theorem runEvolves (m : Machine) (limit : Nat) : Evolves m (m.run limit).1 := by
  induction limit generalizing m with
  | zero => exact .refl
  | succ limit ih =>
    have first := stepEvolves m
    unfold run
    split
    · rename_i n f stepped
      rwa [stepped] at first
    · rename_i n redrawn stepped
      rw [stepped] at first
      split
      · exact first
      · exact first.trans (ih n)

inductive Spent (m : Machine) (r : Report) : Prop where
  | halted (stopped : m.halted = true)
      (result : m.slot r =
        (m, if r.error.isNone then { r with stop := some .halted, error := m.fault } else r))
  | blocked (running : m.halted = false) (unpressed : m.blocked = true)
      (result : m.slot r = (m, r))
  | failed {f : Fault} (running : m.halted = false) (free : m.blocked = false)
      (outcome : m.step.2 = .error f)
      (result : m.slot r = (m.step.1, { r with stop := some f.reason, error := some f }))
  | done {redrawn : Bool} (running : m.halted = false) (free : m.blocked = false)
      (outcome : m.step.2 = .ok redrawn)
      (result : m.slot r =
        (m.step.1,
          { r with instructions := r.instructions + 1, redrawn := r.redrawn || redrawn }))

theorem spent (m : Machine) (r : Report) : Spent m r := by
  cases running : m.halted with
  | true => exact .halted running (by simp only [slot, running, if_true])
  | false =>
    cases free : m.blocked with
    | true => exact .blocked running free (by simp [slot, running, free])
    | false =>
      cases stepped : m.step with
      | mk n outcome =>
        cases outcome with
        | error f =>
          refine .failed running free (by rw [stepped]) ?_
          simp [slot, running, free, stepped]
        | ok redrawn =>
          refine .done running free (by rw [stepped]) ?_
          simp [slot, running, free, stepped]

theorem slotEvolves (m : Machine) (r : Report) : Evolves m (m.slot r).1 := by
  cases spent m r with
  | halted stopped result | blocked running unpressed result =>
    rw [result]
    exact .refl
  | failed running free outcome result | done running free outcome result =>
    rw [result]
    exact stepEvolves m

theorem beatEvolves (state : Machine × Report) (b : Beat) :
    Evolves state.1 (beat state b).1 := by
  cases b with
  | tick => exact tickEvolves state.1
  | slot => exact slotEvolves state.1 state.2

theorem playEvolves (state : Machine × Report) (beats : List Beat) :
    Evolves state.1 (play state beats).1 := by
  induction beats generalizing state with
  | nil => exact .refl
  | cons b rest ih => exact (beatEvolves state b).trans (ih (beat state b))

end Machine

open Number (Scalar)
variable {R : Type} [Div R] [Scalar R]

theorem Schedule.replayEvolves [LE R] [DecidableLE R] (s : Schedule R) (slotsDue ticksDue : Int)
    (state : Machine × Report) (slots ticks : Nat) :
    Evolves state.1 (s.replay slotsDue ticksDue state slots ticks).1.1 := by
  fun_induction replay s slotsDue ticksDue state slots ticks with
  | case1 | case4 => exact .refl
  | case2 state slots ticks more timed first ih => exact (Machine.beatEvolves state .tick).trans ih
  | case3 state slots ticks more timed other ih => exact (Machine.beatEvolves state .slot).trans ih

namespace Session
variable [Add R] [Mul R]

theorem advanceEvolves [LT R] [DecidableLT R] [LE R] [DecidableLE R] (s : Session R)
    (elapsed : R) : Evolves s.machine (s.advance elapsed).1.machine := by
  simp only [advance]
  split
  · exact .refl
  · split
    · exact .refl
    · exact .refl
    · rename_i slotsDue ticksDue _ _
      have along := s.schedule.replayEvolves slotsDue ticksDue (s.machine, {}) s.schedule.slots
        s.schedule.ticks
      generalize s.schedule.replay _ _ _ _ _ = outcome at along ⊢
      obtain ⟨⟨machine, report⟩, slots, ticks, _ | _⟩ := outcome <;> exact along

variable [Sub R]

omit [Div R] in
theorem frameOfEvolves (s : Session R) (elapsed : R) :
    Evolves s.machine (s.frameOf elapsed).1.machine := by
  have ticked := Machine.beatEvolves (s.machine, {}) .tick
  unfold frameOf
  generalize Machine.beat (s.machine, {}) .tick = state at ticked ⊢
  simp only
  split
  · exact ticked
  · rename_i schedule count spent
    have played := Machine.playEvolves state (List.replicate count.toNat .slot)
    rw [← Machine.playSlotsList] at played
    exact ticked.trans played

theorem frameEvolves (s : Session R) (elapsed : Option R) :
    Evolves s.machine (s.frame elapsed).1.machine := by
  unfold frame
  simp only
  split
  · exact .refl
  · exact frameOfEvolves s _

end Session
end Chip8
