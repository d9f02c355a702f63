import Chip8.Proofs.WriteSet
import Mathlib.Data.List.Induction

/-! The timers over a whole history. Nothing but a load and a tick moves a timer, so at every moment
it holds what was loaded into it last, less the ticks since, and never less than zero. -/
namespace Chip8

inductive Timer where
  | delay
  | sound
  deriving DecidableEq, Repr

namespace Timer

def value (timer : Timer) (timers : Timers) : UInt8 :=
  match timer with
  | .delay => timers.delay
  | .sound => timers.sound

def opcode : Timer → Opcode
  | .delay => .setDelay
  | .sound => .setSound

theorem valueTick (timer : Timer) (timers : Timers) :
    (timer.value timers.tick).toNat = (timer.value timers).toNat - 1 := by
  cases timer <;> exact Timers.countDownNat _

end Timer

def HostCall.loads? (timer : Timer) : HostCall → Option UInt8
  | .restart => some 0
  | .setDelay value => if timer = .delay then some (byteOf value) else none
  | .setSound value => if timer = .sound then some (byteOf value) else none
  | _ => none

namespace Machine

def instructionLoads? (m : Machine) (timer : Timer) (i : Instruction) : Option UInt8 :=
  if i.opcode = timer.opcode then some (m.v i.x) else none

def loads? (m : Machine) (timer : Timer) : Turn → Option UInt8
  | .step => m.executing?.bind (m.instructionLoads? timer)
  | .tick => none
  | .host call => call.loads? timer

inductive Unloaded (timer : Timer) : Machine → List Turn → Prop where
  | nil (m : Machine) : Unloaded timer m []
  | cons {m : Machine} {t : Turn} {rest : List Turn} (first : m.loads? timer t = none)
      (later : Unloaded timer (m.turn t) rest) : Unloaded timer m (t :: rest)

inductive LastLoad (timer : Timer) (m : Machine) : List Turn → UInt8 → Nat → Prop where
  | fresh {ts : List Turn} (unloaded : Unloaded timer m ts) :
      LastLoad timer m ts 0 (ts.count .tick)
  | loaded {earlier later : List Turn} {t : Turn} {v : UInt8}
      (loads : (m.turns earlier).loads? timer t = some v)
      (unloaded : Unloaded timer ((m.turns earlier).turn t) later) :
      LastLoad timer m (earlier ++ t :: later) v (later.count .tick)

variable {m : Machine} {timer : Timer} {t : Turn} {ts : List Turn} {v : UInt8} {k : Nat}

theorem executeLoads (m : Machine) (timer : Timer) (i : Instruction) :
    timer.value (m.execute i).1.timers =
      (m.instructionLoads? timer i).getD (timer.value m.timers) := by
  unfold instructionLoads?
  split
  · rename_i loads
    cases timer <;> simp only [execute, loads, Timer.opcode] <;> rfl
  · rename_i other
    cases timer with
    | delay => exact (m.executeTimers i).1 other
    | sound => exact (m.executeTimers i).2 other

theorem stepLoads (m : Machine) (timer : Timer) :
    timer.value m.step.1.timers = (m.loads? timer .step).getD (timer.value m.timers) := by
  cases stage m with
  | halted halt result => simp [result, loads?, executing?, halted, halt]
  | unfetched running past result =>
    have outside : m.current? = none := dif_neg (by omega)
    rw [result]
    simp [loads?, executing?, outside, halt, report]
  | unknown running inside undecoded result =>
    have unknown : m.current? = none := by rw [current?, dif_pos inside, undecoded]
    rw [result, meetUnknown]
    split <;> simp [loads?, executing?, unknown, halt, report, countStep, advance, jumpTo]
  | @failed i n f running current executed result =>
    have loaded := executeLoads (m.begun i) timer i
    rw [executed] at loaded
    rw [result, loads?, executingCurrent running current]
    exact loaded
  | @done i n running current executed result =>
    have loaded := executeLoads (m.begun i) timer i
    rw [executed] at loaded
    rw [result, loads?, executingCurrent running current]
    exact loaded

theorem serveLoads (m : Machine) (timer : Timer) (call : HostCall) :
    timer.value (m.serve call).timers = (call.loads? timer).getD (timer.value m.timers) := by
  cases call with
  | restart => cases timer <;> rfl
  | setDelay value | setSound value => cases timer <;> rfl
  | load image =>
    simp only [serve, load]
    split <;> rfl
  | press key down =>
    simp only [serve, setKeys]
    split <;> rfl
  | setV | push | pop =>
    simp only [serve]
    split <;> rfl
  | armWait | poke | setIndex | setPc | draw => rfl

theorem turnLoaded (loads : m.loads? timer t = some v) :
    timer.value (m.turn t).timers = v := by
  cases t with
  | step => simp only [turn, stepLoads, loads, Option.getD_some]
  | tick => contradiction
  | host call =>
    have called : call.loads? timer = some v := loads
    simp only [turn, serveLoads, called, Option.getD_some]

theorem turnUnloaded (unloaded : m.loads? timer t = none) :
    (timer.value (m.turn t).timers).toNat =
      (timer.value m.timers).toNat - [t].count .tick := by
  cases t with
  | step => simp [turn, stepLoads, unloaded]
  | tick => exact timer.valueTick m.timers
  | host call =>
    have quiet : call.loads? timer = none := unloaded
    simp [turn, serveLoads, quiet]

theorem unloadedCounts (unloaded : Unloaded timer m ts) :
    (timer.value (m.turns ts).timers).toNat = (timer.value m.timers).toNat - ts.count .tick := by
  induction unloaded with
  | nil m => rfl
  | @cons m t rest first later ih =>
    have now := turnUnloaded first
    have ticks : ([t] ++ rest).count .tick = [t].count .tick + rest.count .tick :=
      List.count_append
    have onward : m.turns (t :: rest) = (m.turn t).turns rest := rfl
    rw [onward, ih, now, Nat.sub_sub, ← ticks]
    rfl

theorem unloadedNext (unloaded : Unloaded timer m ts)
    (next : (m.turns ts).loads? timer t = none) : Unloaded timer m (ts ++ [t]) := by
  induction unloaded with
  | nil m => exact .cons next (.nil _)
  | cons first later ih => exact .cons first (ih next)

/- By induction on the turns, the latest one last: it loads the timer, or the load before it is
still the last one. -/
theorem lastLoadKnown (timer : Timer) (m : Machine) (ts : List Turn) :
    ∃ v k, LastLoad timer m ts v k := by
  induction ts using List.reverseRecOn with
  | nil => exact ⟨0, 0, .fresh (.nil m)⟩
  | append_singleton ts t ih =>
    cases next : (m.turns ts).loads? timer t with
    | some v => exact ⟨v, 0, .loaded next (.nil _)⟩
    | none =>
      obtain ⟨v, k, last⟩ := ih
      cases last with
      | fresh unloaded => exact ⟨0, _, .fresh (unloadedNext unloaded next)⟩
      | @loaded earlier later u v loads unloaded =>
        rw [turnsAppend] at next
        have longer : LastLoad timer m (earlier ++ u :: (later ++ [t])) v _ :=
          .loaded loads (unloadedNext unloaded next)
        have same : earlier ++ u :: later ++ [t] = earlier ++ u :: (later ++ [t]) :=
          List.append_assoc ..
        exact ⟨v, _, same ▸ longer⟩

theorem lastLoadCounts (empty : timer.value m.timers = 0) (last : LastLoad timer m ts v k) :
    (timer.value (m.turns ts).timers).toNat = v.toNat - k := by
  cases last with
  | fresh unloaded =>
    have counts := unloadedCounts unloaded
    rw [empty] at counts
    exact counts
  | @loaded earlier later t v loads unloaded =>
    have counts := unloadedCounts unloaded
    rw [turnLoaded loads] at counts
    rw [turnsAppend]
    exact counts

theorem readsDelay {i : Instruction} (executing : i ∈ m.executing?)
    (reads : i.opcode = .readDelay) :
    m.step.2 = .ok false ∧ m.step.1.v i.x = m.timers.delay := by
  have running : m.haltedBy = none := by
    by_contra halted
    simp [executing?, Machine.halted, Option.isSome_iff_ne_none.mpr halted] at executing
  have stepped := stepKnown running (currentExecuting executing)
  rw [stepped]
  simp only [execute, reads]
  have written := Registers.getSet (m.begun i).registers i.x i.x m.timers.delay
  rw [if_pos rfl] at written
  exact ⟨rfl, written⟩

end Machine

structure CountedDown (m : Machine) (ts : List Turn) : Prop where
  known : ∀ timer, ∃ v k, Machine.LastLoad timer m ts v k
  value : ∀ timer v k, Machine.LastLoad timer m ts v k →
    (timer.value (m.turns ts).timers).toNat = v.toNat - k
  read : ∀ v k, Machine.LastLoad .delay m ts v k → ∀ i ∈ (m.turns ts).executing?,
    i.opcode = .readDelay → (m.turns ts).step.2 = .ok false ∧
      ((m.turns ts).step.1.v i.x).toNat = v.toNat - k
  active : ∀ v k, Machine.LastLoad .sound m ts v k →
    ((m.turns ts).timers.soundActive = true ↔ 0 < v.toNat - k)

theorem countedDown {m : Machine} (empty : m.timers = .zero) (ts : List Turn) :
    CountedDown m ts := by
  have value (timer v k) (last : Machine.LastLoad timer m ts v k) :
      (timer.value (m.turns ts).timers).toNat = v.toNat - k :=
    Machine.lastLoadCounts (by cases timer <;> rw [empty] <;> rfl) last
  constructor
  case known => exact fun timer => Machine.lastLoadKnown timer m ts
  case value => exact value
  case read =>
    intro v k last i executing reads
    obtain ⟨returned, read⟩ := Machine.readsDelay executing reads
    exact ⟨returned, by rw [read]; exact value .delay v k last⟩
  case active =>
    intro v k last
    have sound : (m.turns ts).timers.sound.toNat = v.toNat - k := value .sound v k last
    simp [Timers.soundActive, ← sound, Nat.pos_iff_ne_zero, ← UInt8.toNat_inj]

variable {R : Type} [Add R] [Sub R] [Mul R] [Div R] [LT R] [DecidableLT R] [LE R]
  [DecidableLE R] [Number.Scalar R]

/- The moments of a history are those between its turns, in the midst of runs, frames and stretches
as well. -/
theorem timersCountDown (schedule : Schedule R) (dialect : Dialect) (skipUnknown : Bool)
    (generator : Generator) (journal : Journal) (actions : List (Action R)) :
    let m := Machine.powerOn dialect skipUnknown generator journal
    let ts := (Session.mk schedule m).turns actions
    ((Session.mk schedule m).after actions).machine = m.turns ts ∧
      ∀ n, CountedDown m (ts.take n) :=
  ⟨Session.afterTurned _ actions, fun _ => countedDown rfl _⟩

end Chip8
