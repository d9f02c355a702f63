import Chip8.Proofs.PlainRun

/-! A machine turn by turn. A turn is a step, a tick or a call of the host; runs, frames and
stretches are made of turns, so what holds after every turn holds in the midst of them as well. -/
namespace Chip8

inductive Turn where
  | step
  | tick
  | host (call : HostCall)
  deriving DecidableEq, Repr

namespace Machine

def turn (m : Machine) : Turn → Machine
  | .step => m.step.1
  | .tick => m.tick
  | .host call => m.serve call

def turns (m : Machine) (ts : List Turn) : Machine := ts.foldl turn m

def moment (m : Machine) (ts : List Turn) (k : Nat) : Machine := m.turns (ts.take k)

def stepped (m : Machine) : List Turn → List Machine
  | [] => []
  | .step :: rest => m :: m.step.1.stepped rest
  | .tick :: rest => m.tick.stepped rest
  | .host call :: rest => (m.serve call).stepped rest

def executing? (m : Machine) : Option Instruction := if m.halted then none else m.current?

theorem executingCurrent {m : Machine} {i : Instruction} (running : m.haltedBy = none)
    (current : m.current? = some i) : i ∈ m.executing? := by
  simp [executing?, halted, running, current]

theorem currentExecuting {m : Machine} {i : Instruction} (executing : i ∈ m.executing?) :
    m.current? = some i := by
  unfold executing? at executing
  split at executing
  · contradiction
  · exact executing

structure Performs (m : Machine) (i : Instruction) : Prop where
  current : m.current? = some i
  returns : m.step.2.isOk = true

theorem performed {m : Machine} {i : Instruction} (performs : m.Performs i) :
    ∃ n, (m.begun i).execute i = (n, none) ∧ m.step = (n.countStep, .ok i.opcode.redraws) := by
  obtain ⟨current, returned⟩ := performs
  cases stage m with
  | halted halt result | unfetched running past result =>
    rw [result] at returned
    contradiction
  | unknown running inside undecoded result => simp [current?, inside, undecoded] at current
  | failed running found executed result =>
    rw [result] at returned
    contradiction
  | @done j n running found executed result =>
    cases Option.some.inj (current.symm.trans found)
    exact ⟨n, executed, result⟩

def runTurns (m : Machine) : Nat → List Turn
  | 0 => []
  | n + 1 => .step :: if m.step.2.isOk && !m.step.1.awaitingKey then m.step.1.runTurns n else []

/- A slot that is lost is no turn. -/
def beatTurns (m : Machine) : List Beat → List Turn
  | [] => []
  | .tick :: rest => .tick :: m.tick.beatTurns rest
  | .slot :: rest =>
    if m.halted || m.blocked then m.beatTurns rest else .step :: m.step.1.beatTurns rest

theorem turnsAppend (m : Machine) (first rest : List Turn) :
    m.turns (first ++ rest) = (m.turns first).turns rest :=
  List.foldl_append

theorem momentSucc (m : Machine) {ts : List Turn} {k : Nat} {t : Turn} (next : ts[k]? = some t) :
    m.moment ts (k + 1) = (m.moment ts k).turn t := by
  rw [moment, List.take_add_one, next, turnsAppend]
  rfl

theorem momentEnd (m : Machine) {ts : List Turn} {k : Nat} (past : ts[k]? = none) :
    m.moment ts (k + 1) = m.moment ts k := by
  rw [moment, List.take_add_one, past]
  exact congrArg m.turns (List.append_nil _)

theorem turnsAllowed {rule : Machine → HostCall → Prop} {P : Machine → Prop} (kept : Kept rule P)
    {m : Machine} (h : P m) {ts : List Turn}
    (allowed : ∀ call, Turn.host call ∈ ts → ∀ n, rule n call) : P (m.turns ts) := by
  induction ts generalizing m with
  | nil => exact h
  | cons t rest ih =>
    have later : ∀ call, Turn.host call ∈ rest → ∀ n, rule n call :=
      fun call made => allowed call (List.mem_cons_of_mem t made)
    cases t with
    | step => exact ih (kept.step m h) later
    | tick => exact ih (kept.tick m h) later
    | host call => exact ih (kept.serve m call (allowed call List.mem_cons_self m) h) later

theorem turnsKept {P : Machine → Prop} (kept : Kept (fun _ _ => True) P) {m : Machine}
    (h : P m) (ts : List Turn) : P (m.turns ts) :=
  turnsAllowed kept h fun _ _ _ => trivial

theorem steppedAppend (m : Machine) (first rest : List Turn) :
    m.stepped (first ++ rest) = m.stepped first ++ (m.turns first).stepped rest := by
  induction first generalizing m with
  | nil => rfl
  | cons t first ih =>
    cases t with
    | step => exact congrArg (m :: ·) (ih m.step.1)
    | tick => exact ih m.tick
    | host call => exact ih (m.serve call)

theorem runTurned (m : Machine) (limit : Nat) : m.turns (m.runTurns limit) = (m.run limit).1 := by
  induction limit generalizing m with
  | zero => rfl
  | succ limit ih =>
    have first (rest : List Turn) : m.turns (.step :: rest) = m.step.1.turns rest := rfl
    rw [runTurns, first, run]
    cases stepped : m.step with
    | mk n outcome =>
      cases outcome with
      | error f => rfl
      | ok redrawn =>
        cases waiting : n.awaitingKey with
        | true => simp [waiting, turns]
        | false => simpa [waiting, Except.isOk, Except.toBool] using ih n

theorem beatTurned (m : Machine) (beats : List Beat) :
    m.turns (m.beatTurns beats) = beats.foldl pass m := by
  induction beats generalizing m with
  | nil => rfl
  | cons b rest ih =>
    cases b with
    | tick => exact ih m.tick
    | slot =>
      rw [List.foldl_cons, pass, spendSlot, beatTurns]
      split
      · exact ih m
      · exact ih m.step.1

theorem runHostless (m : Machine) (limit : Nat) (call : HostCall) :
    Turn.host call ∉ m.runTurns limit := by
  induction limit generalizing m with
  | zero => exact List.not_mem_nil
  | succ limit ih =>
    rw [runTurns]
    split <;> simp [ih]

theorem beatsHostless (m : Machine) (beats : List Beat) (call : HostCall) :
    Turn.host call ∉ m.beatTurns beats := by
  induction beats generalizing m with
  | nil => exact List.not_mem_nil
  | cons b rest ih =>
    cases b with
    | tick => simp [beatTurns, ih]
    | slot =>
      rw [beatTurns]
      split <;> simp [ih]

end Machine

variable {R : Type} [Add R] [Sub R] [Mul R] [Div R] [LT R] [DecidableLT R] [LE R]
  [DecidableLE R] [Number.Scalar R]

namespace Session

def turnsOf (s : Session R) : Action R → List Turn
  | .host call => [.host call]
  | .step => [.step]
  | .run limit => s.machine.runTurns limit.toNat
  | .tick => [.tick]
  | .clock _ _ => []
  | .frame elapsed => s.machine.beatTurns (s.schedule.beatsOf (.frame elapsed))
  | .advance elapsed => s.machine.beatTurns (s.schedule.beatsOf (.advance elapsed))

def turns (s : Session R) : List (Action R) → List Turn
  | [] => []
  | a :: rest => s.turnsOf a ++ (s.act a).turns rest

theorem timedTurns (s : Session R) {a : Action R} (timed : a.timed = true) :
    s.turnsOf a = s.machine.beatTurns (s.schedule.beatsOf a) := by
  cases a with
  | frame elapsed | advance elapsed => rfl
  | host | step | run | tick | clock => contradiction

theorem actTurned (s : Session R) (a : Action R) :
    (s.act a).machine = s.machine.turns (s.turnsOf a) := by
  have time (timed : a.timed = true) :
      (s.act a).machine = s.machine.turns (s.turnsOf a) := by
    rw [(timedPassed s timed).machine, Machine.playPasses, timedTurns s timed,
      Machine.beatTurned]
  cases a with
  | host | step | tick => rfl
  | run limit => exact (s.machine.runTurned _).symm
  | clock cpuHz timerHz => exact clockMachine s cpuHz timerHz
  | frame elapsed | advance elapsed => exact time rfl

theorem afterTurned (s : Session R) (actions : List (Action R)) :
    (s.after actions).machine = s.machine.turns (s.turns actions) := by
  induction actions generalizing s with
  | nil => rfl
  | cons a rest ih =>
    rw [turns, Machine.turnsAppend, ← actTurned]
    exact ih (s.act a)

theorem hostTurn {s : Session R} {actions : List (Action R)} {call : HostCall}
    (made : Turn.host call ∈ s.turns actions) : Action.host call ∈ actions := by
  induction actions generalizing s with
  | nil => contradiction
  | cons a rest ih =>
    cases List.mem_append.mp made with
    | inr later => exact List.mem_cons_of_mem a (ih later)
    | inl now =>
      cases a with
      | host other =>
        cases List.mem_singleton.mp now
        exact List.mem_cons_self
      | step | tick | clock => simp [turnsOf] at now
      | run limit => exact absurd now (s.machine.runHostless _ call)
      | frame elapsed | advance elapsed => exact absurd now (s.machine.beatsHostless _ call)

end Session
end Chip8
