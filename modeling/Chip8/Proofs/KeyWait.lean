import Chip8.Number.Quantity
import Chip8.Proofs.HostCalls

/-! How a key wait goes, as long as the host only restarts the machine, moves its keys, and loads
nothing while the wait is on. Without a press every step is lost; the first press is answered by
the next one. -/
namespace Chip8

def undisturbed (m : Machine) : HostCall → Prop
  | .restart | .press _ _ => True
  | .load _ => m.awaitingKey = false
  | _ => False

namespace Machine

def OnWait (m : Machine) : Prop :=
  m.awaitingKey = true → m.haltedBy = none ∧ ∃ i, m.current? = some i ∧ i.opcode = .waitKey

theorem currentSame {m n : Machine} (memory : n.memory = m.memory)
    (pc : n.registers.pc = m.registers.pc) : n.current? = m.current? := by
  simp only [current?, memory, pc]

theorem onWaitIdle {m : Machine} (idle : m.awaitingKey = false) : OnWait m := by
  intro waiting
  rw [idle] at waiting
  contradiction

theorem onWaitSame {m n : Machine} (h : OnWait m) (memory : n.memory = m.memory)
    (pc : n.registers.pc = m.registers.pc) (haltedBy : n.haltedBy = m.haltedBy)
    (waiting : n.awaitingKey = m.awaitingKey) : OnWait n := by
  intro awaiting
  rw [waiting] at awaiting
  rw [haltedBy, currentSame memory pc]
  exact h awaiting

theorem idleUnless {m : Machine} (h : OnWait m)
    (other : ∀ i, m.current? = some i → i.opcode ≠ .waitKey) : m.awaitingKey = false := by
  cases waiting : m.awaitingKey with
  | false => rfl
  | true =>
    obtain ⟨_, i, current, wait⟩ := h waiting
    exact absurd wait (other i current)

theorem waitKeyStep {m : Machine} {i : Instruction} (running : m.haltedBy = none)
    (current : m.current? = some i) (wait : i.opcode = .waitKey) :
    m.step = (((m.begun i).waitKey i.x).countStep, .ok false) := by
  simp only [stepKnown running current, execute, wait]
  rfl

/- The wait is armed, if it is not yet, and the program counter goes back where it was. -/
theorem stepUnpressed {m : Machine} {i : Instruction} (running : m.haltedBy = none)
    (current : m.current? = some i) (wait : i.opcode = .waitKey)
    (unpressed : m.keypad.pending = false) :
    ∃ journal, m.step =
      ({ m with keypad := m.keypad.arm, steps := m.steps + 1, journal }, .ok false) := by
  have blocked : ∃ journal, (m.begun i).waitKey i.x =
      { m.begun i with
        keypad := m.keypad.arm
        registers := { m.registers with pc := m.registers.pc + 2 - 2 }
        journal } := waitKeyBlocked i.x unpressed
  obtain ⟨journal, blocked⟩ := blocked
  rw [waitKeyStep running current wait, blocked, UInt16.add_sub_cancel]
  exact ⟨journal, rfl⟩

theorem stepPressed {m : Machine} {i : Instruction} (running : m.haltedBy = none)
    (current : m.current? = some i) (wait : i.opcode = .waitKey) {key : Fin 16}
    {rest : List (Fin 16)} (waiting : m.awaitingKey = true)
    (presses : m.keypad.presses = key :: rest) :
    ∃ journal, m.step =
      ({ m with
          keypad := { m.keypad with waiting := false, presses := [] }
          registers := { m.registers.set i.x (UInt8.ofNat key.val) with pc := m.registers.pc + 2 }
          steps := m.steps + 1
          journal }, .ok false) := by
  have answered : ∃ journal, (m.begun i).waitKey i.x =
      { m.begun i with
        keypad := { m.keypad with waiting := false, presses := [] }
        registers := (m.begun i).registers.set i.x (UInt8.ofNat key.val)
        journal } := waitKeyAnswered i.x waiting presses
  obtain ⟨journal, answered⟩ := answered
  rw [waitKeyStep running current wait, answered]
  exact ⟨journal, rfl⟩

theorem stepOnWait (m : Machine) (h : OnWait m) : OnWait m.step.1 := by
  have absentIdle (absent : m.current? = none) : m.awaitingKey = false :=
    idleUnless h (fun i current => by rw [absent] at current; contradiction)
  have otherIdle {i n outcome} (current : m.current? = some i) (other : i.opcode ≠ .waitKey)
      (executed : (m.begun i).execute i = (n, outcome)) : n.awaitingKey = false := by
    have idle : m.awaitingKey = false := by
      refine idleUnless h ?_
      intro j same
      cases Option.some.inj (current.symm.trans same)
      exact other
    have keypad := (executeFrame (m.begun i) i).keypad other
    rw [executed] at keypad
    rw [awaitingKey, keypad]
    exact idle
  cases stage m with
  | halted halt result => rwa [result]
  | unfetched running past result =>
    rw [result]
    exact onWaitIdle (absentIdle (dif_neg (Nat.not_lt.mpr past)))
  | unknown running inside undecoded result =>
    have idle := absentIdle (by rw [current?, dif_pos inside, undecoded])
    rw [result]
    unfold meetUnknown
    split <;> exact onWaitIdle idle
  | @failed i n f running current executed result =>
    have other : i.opcode ≠ .waitKey := by
      intro wait
      have succeeds := congrArg Prod.snd executed
      simp [execute, wait] at succeeds
    have idle := otherIdle current other executed
    rw [result]
    exact onWaitIdle idle
  | @done i n running current executed result =>
    by_cases wait : i.opcode = .waitKey
    · cases pending : m.keypad.pending with
      | false =>
        obtain ⟨_, blocked⟩ := stepUnpressed running current wait pending
        rw [blocked]
        exact fun _ => ⟨running, i, current, wait⟩
      | true =>
        obtain ⟨waiting, key, rest, presses⟩ := pendingPress pending
        obtain ⟨_, answered⟩ := stepPressed running current wait waiting presses
        rw [answered]
        exact onWaitIdle rfl
    · have idle := otherIdle current wait executed
      rw [result]
      exact onWaitIdle idle

theorem serveOnWait (m : Machine) (call : HostCall) (allowed : undisturbed m call)
    (h : OnWait m) : OnWait (m.serve call) := by
  cases call <;> simp only [undisturbed] at allowed <;> simp only [serve]
  case restart => exact onWaitIdle rfl
  case load image =>
    refine onWaitIdle ?_
    unfold load
    split <;> exact allowed
  case press key down =>
    simp only [setKeys]
    cases key? key with
    | error e => exact h
    | ok k => exact onWaitSame h rfl rfl rfl rfl

theorem onWaitKept : Kept undisturbed OnWait where
  step := stepOnWait
  tick _ h := onWaitSame h rfl rfl rfl rfl
  serve := serveOnWait

def stepTimes (m : Machine) : Nat → Machine × List (Except Fault Bool)
  | 0 => (m, [])
  | k + 1 => ((m.step.1.stepTimes k).1, m.step.2 :: (m.step.1.stepTimes k).2)

theorem stepWaiting {m : Machine} {i : Instruction} (running : m.haltedBy = none)
    (current : m.current? = some i) (wait : i.opcode = .waitKey)
    (waiting : m.awaitingKey = true) (unpressed : m.keypad.presses = []) (k : Nat) :
    ∃ journal, m.stepTimes k =
      ({ m with steps := m.steps + k, journal }, List.replicate k (.ok false)) := by
  induction k generalizing m with
  | zero => exact ⟨m.journal, rfl⟩
  | succ k ih =>
    have none : m.keypad.pending = false := by simp [Keypad.pending, unpressed]
    obtain ⟨first, stepped⟩ := stepUnpressed running current wait none
    rw [armAgain waiting unpressed] at stepped
    obtain ⟨journal, later⟩ := ih (m := { m with steps := m.steps + 1, journal := first })
      running current waiting unpressed
    refine ⟨journal, ?_⟩
    simp only [stepTimes, stepped, later, List.replicate_succ, Nat.add_assoc, Nat.add_comm 1]

theorem slotsLost {m : Machine} (running : m.halted = false) (waiting : m.awaitingKey = true)
    (unpressed : m.keypad.presses = []) (r : Report) (k : Nat) :
    playSlots (m, r) k = (m, r) := by
  have lost : m.slot r = (m, r) := by
    have blocked : m.blocked = true := by
      simp [blocked, Keypad.pending, unpressed, show m.keypad.waiting = true from waiting]
    simp [slot, running, blocked]
  induction k with
  | zero => rfl
  | succ k ih => simpa only [playSlots, beat, lost] using ih

end Machine

structure KeyWait (m : Machine) (i : Instruction) : Prop where
  running : m.halted = false
  current : m.current? = some i
  wait : i.opcode = .waitKey
  idle : m.keypad.presses = [] → ∀ k, ∃ journal, m.stepTimes k =
    ({ m with steps := m.steps + k, journal }, List.replicate k (.ok false))
  lost : m.keypad.presses = [] → ∀ r k, Machine.playSlots (m, r) k = (m, r)
  forward : (m.registers.pc + 2).toNat = m.registers.pc.toNat + 2
  answered : ∀ key rest, m.keypad.presses = key :: rest → ∃ journal, m.step =
    ({ m with
        keypad := { m.keypad with waiting := false, presses := [] }
        registers := { m.registers.set i.x (UInt8.ofNat key.val) with pc := m.registers.pc + 2 }
        steps := m.steps + 1
        journal }, .ok false)

theorem keyWaitHolds {m : Machine} (h : Machine.OnWait m) (waiting : m.awaitingKey = true) :
    ∃ i, KeyWait m i := by
  obtain ⟨unhalted, i, current, wait⟩ := h waiting
  have running : m.halted = false := by simp [Machine.halted, unhalted]
  obtain ⟨inside, _⟩ := Machine.currentInside current
  refine ⟨i, ?_⟩
  constructor
  case running => exact running
  case current => exact current
  case wait => exact wait
  case idle => exact Machine.stepWaiting unhalted current wait waiting
  case lost => exact Machine.slotsLost running waiting
  case forward => exact Machine.passedPc inside
  case answered =>
    intro key rest presses
    exact Machine.stepPressed unhalted current wait waiting presses

variable {R : Type} [Add R] [Sub R] [Mul R] [Div R] [LT R] [DecidableLT R] [LE R]
  [DecidableLE R] [Number.Scalar R]

theorem keyWaitAfter (schedule : Schedule R) (dialect : Dialect) (skipUnknown : Bool)
    (generator : Generator) (journal : Journal) (actions : List (Action R))
    (lawful : Session.Lawful undisturbed
      ⟨schedule, .powerOn dialect skipUnknown generator journal⟩ actions)
    (waiting : ((Session.mk schedule
      (.powerOn dialect skipUnknown generator journal)).after actions).machine.awaitingKey =
        true) :
    ∃ i, KeyWait ((Session.mk schedule
      (.powerOn dialect skipUnknown generator journal)).after actions).machine i :=
  keyWaitHolds (Session.afterKept Machine.onWaitKept lawful (Machine.onWaitIdle rfl)) waiting

open Number (Quantity)

def idleSession : Session Quantity :=
  ⟨⟨.whole 700, .whole 60, .whole 0, 0, 0, .whole 0⟩,
    .powerOn {} false ⟨Vector.replicate 624 0, 624⟩ .silent⟩

def pressedActions : List (Action Quantity) :=
  [.host (.load [0xF3, 0x0A]), .step, .tick, .host (.press 5 true)]

theorem keyWaitPressed :
    Session.Lawful undisturbed idleSession pressedActions ∧
      (idleSession.after pressedActions).machine.awaitingKey = true ∧
      ∃ i, KeyWait (idleSession.after pressedActions).machine i := by
  have lawful : Session.Lawful undisturbed idleSession pressedActions :=
    ⟨rfl, trivial, trivial, trivial, trivial⟩
  have waiting : (idleSession.after pressedActions).machine.awaitingKey = true := by
    decide +kernel
  exact ⟨lawful, waiting, keyWaitAfter _ _ _ _ _ _ lawful waiting⟩

end Chip8
