import Chip8.Proofs.FailedStep
import Chip8.Proofs.Turns

/-! Calls and returns nest. From a call on, the return address and all that lies below it on the
stack stay where they are until a return takes that address, and this return leads behind the
call. In between the host may do anything but meddle with the stack or the program counter. -/
namespace Chip8

def HostCall.unstacked : HostCall → Bool
  | .restart | .setPc _ | .push _ | .pop => false
  | _ => true

namespace Machine

def depth (m : Machine) : Nat := m.registers.stack.length

inductive Shift (m : Machine) : Prop where
  | kept (stack : m.step.1.registers.stack = m.registers.stack)
  | pushed {i : Instruction} (performs : m.Performs i) (call : i.opcode = .call)
      (stack : m.step.1.registers.stack = (m.registers.pc + 2) :: m.registers.stack)
  | popped {i : Instruction} (performs : m.Performs i) (ret : i.opcode = .ret)
      (stack : m.registers.stack = m.step.1.registers.pc :: m.step.1.registers.stack)

theorem callPushes {m n : Machine} {address : UInt16} (called : m.call? address = (n, none)) :
    n.registers.stack = m.registers.pc :: m.registers.stack := by
  unfold call? at called
  split at called
  · simp at called
  · rename_i pushed
    cases called
    exact (Registers.pushLength pushed).1

theorem retPops {m n : Machine} (returned : m.ret? = (n, none)) :
    m.registers.stack = n.registers.pc :: n.registers.stack := by
  unfold ret? at returned
  split at returned
  · simp at returned
  · rename_i address registers popped
    cases returned
    exact popStack (s := registers) popped

theorem shift (m : Machine) : Shift m := by
  cases stage m with
  | halted halt result => exact .kept (by rw [result])
  | unfetched running past result =>
    refine .kept ?_
    rw [result]
    rfl
  | unknown running inside undecoded result =>
    refine .kept ?_
    rw [result]
    unfold meetUnknown
    split <;> rfl
  | failed running current executed result =>
    obtain ⟨v, pc, memory, journal, left⟩ := failedRest running result
    refine .kept ?_
    rw [result]
    exact congrArg (·.registers.stack) left
  | @done i n running current executed result =>
    have performs : m.Performs i := ⟨current, by rw [result]; rfl⟩
    have after : m.step.1.registers = n.registers := by rw [result]; rfl
    by_cases call : i.opcode = .call
    · simp only [execute, call] at executed
      refine .pushed performs call ?_
      rw [after]
      exact callPushes executed
    · by_cases ret : i.opcode = .ret
      · simp only [execute, ret] at executed
        refine .popped performs ret ?_
        rw [after]
        exact retPops (m := m.begun i) executed
      · have kept := (executeFrame (m.begun i) i).stack ret call
        rw [executed] at kept
        refine .kept ?_
        rw [after]
        exact kept

theorem serveStack (m : Machine) {call : HostCall} (unstacked : call.unstacked = true) :
    (m.serve call).registers.stack = m.registers.stack := by
  cases call <;> simp only [serve]
  case restart | setPc | push | pop => contradiction
  case load image =>
    unfold load
    split <;> rfl
  case press key down =>
    simp only [setKeys]
    split <;> rfl
  case setV x value => split <;> rfl
  all_goals rfl

def Nested (m n : Machine) : Prop :=
  ∃ above, n.registers.stack = above ++ (m.registers.pc + 2) :: m.registers.stack

structure Returns (m before after : Machine) : Prop where
  step : after = before.step.1
  ret : ∃ i, before.Performs i ∧ i.opcode = .ret
  pc : after.registers.pc.toNat = m.registers.pc.toNat + 2
  stack : after.registers.stack = m.registers.stack

theorem nestedDepth {m n : Machine} (nested : Nested m n) : m.depth < n.depth := by
  obtain ⟨above, stacked⟩ := nested
  rw [depth, depth, stacked, List.length_append, List.length_cons]
  omega

theorem stepNested {m n : Machine}
    (passed : (m.registers.pc + 2).toNat = m.registers.pc.toNat + 2) (nested : Nested m n) :
    Nested m n.step.1 ∨ Returns m n n.step.1 := by
  obtain ⟨above, stacked⟩ := nested
  cases shift n with
  | kept stack => exact .inl ⟨above, stack.trans stacked⟩
  | pushed performs call stack =>
    refine .inl ⟨(n.registers.pc + 2) :: above, ?_⟩
    rw [stack, stacked, List.cons_append]
  | @popped i performs ret stack =>
    rw [stacked] at stack
    cases above with
    | nil =>
      obtain ⟨address, rest⟩ := List.cons.inj stack
      exact .inr ⟨rfl, ⟨i, performs, ret⟩, by rw [← address, passed], rest.symm⟩
    | cons a above =>
      exact .inl ⟨above, (List.cons.inj stack).2.symm⟩

theorem turnNested {m n : Machine}
    (passed : (m.registers.pc + 2).toNat = m.registers.pc.toNat + 2) (nested : Nested m n)
    {t : Turn} (unstacked : ∀ call, t = .host call → call.unstacked = true) :
    Nested m (n.turn t) ∨ t = .step ∧ Returns m n (n.turn t) := by
  cases t with
  | step => exact (stepNested passed nested).imp_right (⟨rfl, ·⟩)
  | tick => exact .inl nested
  | host call =>
    obtain ⟨above, stacked⟩ := nested
    exact .inl ⟨above, (n.serveStack (unstacked call rfl)).trans stacked⟩

/- The induction is on the turns. A moment before the return is nested, so the turn that follows
it leaves it nested or is the return. -/
theorem momentNested {m n : Machine}
    (passed : (m.registers.pc + 2).toNat = m.registers.pc.toNat + 2) (nested : Nested m n)
    {ts : List Turn} (unstacked : ∀ call, Turn.host call ∈ ts → call.unstacked = true) {k : Nat}
    (inside : ∀ j < k, (n.moment ts j).depth ≠ m.depth) :
    Nested m (n.moment ts k) ∨
      ∃ j, k = j + 1 ∧ ts[j]? = some .step ∧ Returns m (n.moment ts j) (n.moment ts k) := by
  induction k with
  | zero => exact .inl nested
  | succ k ih =>
    have before : Nested m (n.moment ts k) := by
      cases ih (fun j below => inside j (Nat.lt_succ_of_lt below)) with
      | inl nested => exact nested
      | inr returned =>
        obtain ⟨_, _, _, returns⟩ := returned
        exact absurd (congrArg List.length returns.stack) (inside k (Nat.lt_succ_self k))
    cases next : ts[k]? with
    | none =>
      rw [n.momentEnd next]
      exact .inl before
    | some t =>
      have allowed : ∀ call, t = .host call → call.unstacked = true := by
        rintro call rfl
        exact unstacked call (List.mem_of_getElem? next)
      rw [n.momentSucc next]
      cases turnNested passed before allowed with
      | inl nested => exact .inl nested
      | inr returned =>
        obtain ⟨rfl, returns⟩ := returned
        exact .inr ⟨k, rfl, next, returns⟩

theorem callPerformed {m : Machine} {i : Instruction} (calls : m.Performs i)
    (call : i.opcode = .call) : Nested m m.step.1 := by
  obtain ⟨n, executed, result⟩ := performed calls
  simp only [execute, call] at executed
  refine ⟨[], ?_⟩
  rw [result]
  exact callPushes executed

end Machine

variable {R : Type} [Add R] [Sub R] [Mul R] [Div R] [LT R] [DecidableLT R] [LE R]
  [DecidableLE R] [Number.Scalar R]

open Machine (Nested Returns)

theorem callReturns {m : Machine} {i : Instruction} (calls : m.Performs i)
    (call : i.opcode = .call) {s : Session R} (called : s.machine = m.step.1)
    {actions : List (Action R)}
    (unstacked : ∀ call, Action.host call ∈ actions → call.unstacked = true) :
    (s.after actions).machine = s.machine.turns (s.turns actions) ∧
      ∀ k, (∀ j < k, (s.machine.moment (s.turns actions) j).depth ≠ m.depth) →
        ((s.machine.moment (s.turns actions) k).depth ≠ m.depth →
          Nested m (s.machine.moment (s.turns actions) k)) ∧
        ((s.machine.moment (s.turns actions) k).depth = m.depth →
          ∃ j, k = j + 1 ∧ (s.turns actions)[j]? = some .step ∧
            Returns m (s.machine.moment (s.turns actions) j)
              (s.machine.moment (s.turns actions) k)) := by
  obtain ⟨fetched, _⟩ := Machine.currentInside calls.current
  have passed := Machine.passedPc fetched
  have nested : Nested m s.machine := by
    rw [called]
    exact Machine.callPerformed calls call
  refine ⟨s.afterTurned actions, ?_⟩
  intro k inside
  have allowed : ∀ call, Turn.host call ∈ s.turns actions → call.unstacked = true :=
    fun call made => unstacked call (Session.hostTurn made)
  cases Machine.momentNested passed nested allowed inside with
  | inl within =>
    have away := Nat.ne_of_gt (Machine.nestedDepth within)
    exact ⟨fun _ => within, fun home => absurd home away⟩
  | inr returned =>
    have home : (s.machine.moment (s.turns actions) k).depth = m.depth := by
      obtain ⟨_, _, _, returns⟩ := returned
      exact congrArg List.length returns.stack
    exact ⟨fun away => absurd home away, fun _ => returned⟩

open Number (Quantity)

def caller : Machine :=
  (idleSession.act (.host (.load
    [0x22, 0x06, 0x12, 0x02, 0x00, 0x00, 0x22, 0x0A, 0x00, 0xEE, 0x00, 0xEE]))).machine

def inRoutine : Session Quantity := { idleSession with machine := caller.step.1 }

def excursion : List (Action Quantity) :=
  [.step, .tick, .host (.press 5 true), .run 1, .advance (.real 0.002)]

theorem excursionReturns :
    caller.Performs ⟨.call, 0x2206⟩ ∧
      (∀ call, Action.host call ∈ excursion → call.unstacked = true) ∧
      ((∀ j < 5, (inRoutine.machine.moment (inRoutine.turns excursion) j).depth ≠ caller.depth) ∧
        (inRoutine.machine.moment (inRoutine.turns excursion) 5).depth = caller.depth) ∧
      ∃ j, 5 = j + 1 ∧ (inRoutine.turns excursion)[j]? = some .step ∧
        Returns caller (inRoutine.machine.moment (inRoutine.turns excursion) j)
          (inRoutine.machine.moment (inRoutine.turns excursion) 5) := by
  have called : inRoutine.machine = caller.step.1 := by rw [inRoutine]
  have unstacked : ∀ call, Action.host call ∈ excursion → call.unstacked = true := by
    simp [excursion, HostCall.unstacked]
  obtain ⟨current, returned, away, home⟩ :
      caller.current? = some ⟨.call, 0x2206⟩ ∧ caller.step.2.isOk = true ∧
        (∀ j < 5,
          (inRoutine.machine.moment (inRoutine.turns excursion) j).depth ≠ caller.depth) ∧
        (inRoutine.machine.moment (inRoutine.turns excursion) 5).depth = caller.depth := by
    decide +kernel
  have calls : caller.Performs ⟨.call, 0x2206⟩ := ⟨current, returned⟩
  have moments := (callReturns calls rfl called unstacked).2 5 away
  exact ⟨calls, unstacked, ⟨away, home⟩, moments.2 home⟩

end Chip8
