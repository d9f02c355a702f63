import Chip8.Proofs.CallReturn
import Chip8.Proofs.PowerCycle
import Chip8.Proofs.ReportStop
import Chip8.Proofs.WriteSet

/-! Addresses that a program works out for itself. The program counter moves only from where a word
could be fetched, so whatever is added to it, popped into it or jumped to stays far below the size
of a word, and a program that leaves memory is caught at its next fetch. -/
namespace Chip8

def HostCall.indirect : HostCall → Bool
  | .setIndex _ | .setPc _ | .push _ | .pop => false
  | _ => true

theorem nnnBound (i : Instruction) : i.nnn.toNat ≤ 0xFFF := by
  rw [Instruction.nnn, UInt16.toNat_and]
  exact Nat.and_le_right

namespace Machine

def target (m : Machine) (i : Instruction) : Nat :=
  match i.opcode with
  | .jump | .call => i.nnn.toNat
  | .ret => (m.registers.stack.headD 0).toNat
  | .jumpOffset =>
    i.nnn.toNat + (m.v (if m.dialect.jumpAddsVX then i.x else Registers.zeroth)).toNat
  | _ => m.registers.pc.toNat + m.stride i

def goal (m : Machine) : Nat :=
  if m.halted ∨ memorySize ≤ m.registers.pc.toNat + 1 then m.registers.pc.toNat
  else
    match m.current? with
    | some i => if m.step.2.isOk then m.target i else m.registers.pc.toNat + 2
    | none => m.registers.pc.toNat + 2

theorem callJumps {m n : Machine} {address : UInt16} (called : m.call? address = (n, none)) :
    n.registers.pc = address := by
  unfold call? at called
  split at called
  · simp at called
  · cases called
    rfl

theorem offsetExact (i : Instruction) (b : UInt8) :
    (i.nnn + b.toUInt16).toNat = i.nnn.toNat + b.toNat := by
  have address := nnnBound i
  have offset := b.toNat_lt
  rw [UInt16.toNat_add, UInt8.toNat_toUInt16]
  omega

theorem targetSteady (m : Machine) {i : Instruction} (steady : i.opcode.leaps = false) :
    m.target i = m.registers.pc.toNat + m.stride i := by
  cases named : i.opcode <;> simp only [Opcode.leaps, named, Bool.true_eq_false] at steady <;>
    simp only [target, named]

theorem performedTarget {m : Machine} {i : Instruction} (performs : m.Performs i) :
    m.step.1.registers.pc.toNat = m.target i := by
  obtain ⟨n, executed, result⟩ := performed performs
  obtain ⟨inside, _⟩ := currentInside performs.current
  have landed : n = ((m.begun i).execute i).1 := by rw [executed]
  have after : m.step.1.registers.pc = n.registers.pc := by rw [result]; rfl
  rw [after]
  cases leaps : i.opcode.leaps with
  | false =>
    rw [landed, m.targetSteady leaps]
    refine (congrArg UInt16.toNat ((m.begun i).executePc i leaps)).trans ?_
    exact strideTaken inside i
  | true =>
    cases named : i.opcode <;> simp only [Opcode.leaps, named, Bool.false_eq_true] at leaps <;>
      simp only [execute, named] at executed landed <;> simp only [target, named]
    case jump => rw [landed]; rfl
    case call => rw [callJumps executed]
    case jumpOffset =>
      rw [landed]
      exact offsetExact i _
    case ret =>
      have popped : m.registers.stack = n.registers.pc :: n.registers.stack :=
        retPops (m := m.begun i) executed
      rw [popped]
      rfl

theorem goalFetched {m : Machine} (running : m.haltedBy = none)
    (inside : m.registers.pc.toNat + 1 < memorySize) :
    m.goal = match m.current? with
      | some i => if m.step.2.isOk then m.target i else m.registers.pc.toNat + 2
      | none => m.registers.pc.toNat + 2 := by
  have going : ¬(m.halted = true ∨ memorySize ≤ m.registers.pc.toNat + 1) := by
    simp [halted, running, inside]
  rw [goal, if_neg going]

theorem stepGoal (m : Machine) : m.step.1.registers.pc.toNat = m.goal := by
  cases stage m with
  | halted halt result =>
    have stopped : m.halted = true := by simp [Machine.halted, halt]
    rw [result, goal, if_pos (.inl stopped)]
  | unfetched running past result =>
    rw [result, goal, if_pos (.inr past)]
    rfl
  | unknown running inside undecoded result =>
    have absent : m.current? = none := by rw [current?, dif_pos inside, undecoded]
    rw [result, goalFetched running inside, absent, meetUnknown]
    split <;> exact passedPc inside
  | @failed i n f running current executed result =>
    obtain ⟨inside, _⟩ := currentInside current
    have outcome : m.step = (m.step.1, .error f) := by rw [result]; rfl
    obtain ⟨⟨journal, left⟩, _⟩ := stepFailed running outcome
    obtain ⟨v, memory, record, rest⟩ := m.remainsRest
    have failed : ¬m.step.2.isOk = true := by rw [outcome]; exact Bool.false_ne_true
    simp only [goalFetched running inside, current, if_neg failed, left, rest, if_pos inside]
    exact passedPc inside
  | @done i n running current executed result =>
    have performs : m.Performs i := ⟨current, by rw [result]; rfl⟩
    obtain ⟨inside, _⟩ := currentInside current
    simp only [goalFetched running inside, current, if_pos performs.returns]
    exact performedTarget performs

structure InRange (dialect : Dialect) (m : Machine) : Prop where
  own : m.dialect = dialect
  pc : m.registers.pc.toNat ≤ 0x10FE
  stack : ∀ a ∈ m.registers.stack, 2 ≤ a.toNat ∧ a.toNat ≤ 0x1000
  index : dialect.indexOverflow = true → m.registers.index.toNat ≤ 0x1000

section
variable {dialect : Dialect} {m n : Machine}

theorem strideBound (m : Machine) (i : Instruction) : m.stride i ≤ 4 := by
  unfold stride
  split
  · decide
  · split <;> decide

theorem targetBound {i : Instruction} (range : InRange dialect m)
    (inside : m.registers.pc.toNat + 1 < memorySize) : m.target i ≤ 0x10FE := by
  have size : memorySize = 4096 := rfl
  cases leaps : i.opcode.leaps with
  | false =>
    have stride := m.strideBound i
    rw [m.targetSteady leaps]
    omega
  | true =>
    have address := nnnBound i
    cases named : i.opcode <;> simp only [Opcode.leaps, named, Bool.false_eq_true] at leaps <;>
      simp only [target, named]
    case jump | call => omega
    case jumpOffset =>
      have offset :=
        (m.v (if m.dialect.jumpAddsVX then i.x else Registers.zeroth)).toNat_lt
      omega
    case ret =>
      cases stacked : m.registers.stack with
      | nil => decide
      | cons a rest =>
        have bounds := range.stack a (by rw [stacked]; exact List.mem_cons_self)
        rw [List.headD_cons]
        omega

theorem goalBound (range : InRange dialect m) : m.goal ≤ 0x10FE := by
  have size : memorySize = 4096 := rfl
  unfold goal
  split
  · exact range.pc
  · rename_i going
    have inside := Nat.lt_of_not_le (not_or.mp going).2
    split
    · split
      · exact targetBound range inside
      · omega
    · omega

theorem stepStacked (range : InRange dialect m) :
    ∀ a ∈ m.step.1.registers.stack, 2 ≤ a.toNat ∧ a.toNat ≤ 0x1000 := by
  cases shift m with
  | kept stack =>
    rw [stack]
    exact range.stack
  | pushed performs call stack =>
    obtain ⟨inside, _⟩ := currentInside performs.current
    have size : memorySize = 4096 := rfl
    have passed := passedPc inside
    rw [stack]
    refine List.forall_mem_cons.mpr ⟨?_, range.stack⟩
    omega
  | popped performs ret stack =>
    have above := range.stack
    rw [stack] at above
    exact (List.forall_mem_cons.mp above).2

theorem wordOfSmall {n : Nat} (small : n < 65536) : (wordOf n).toNat = n := by
  simp only [wordOf, UInt16.toNat_ofNat']
  omega

/- I stays within memory, or right behind it, where a store or a load moves it past its bytes. -/
theorem passIndexBound {x : Fin 16}
    (room : m.registers.index.toNat + (x.val + 1) ≤ 0x1000) :
    (m.passIndex x).registers.index.toNat ≤ 0x1000 := by
  unfold passIndex
  split
  · omega
  · have offset : (wordOf (x.val + 1)).toNat = x.val + 1 := wordOfSmall (n := x.val + 1) (by omega)
    show (m.registers.index + wordOf (x.val + 1)).toNat ≤ 0x1000
    rw [UInt16.toNat_add, offset]
    omega

theorem executeIndexBound {i : Instruction} (flags : m.dialect.indexOverflow = true)
    (bound : m.registers.index.toNat ≤ 0x1000) (executed : m.execute i = (n, none)) :
    n.registers.index.toNat ≤ 0x1000 := by
  have landed : n = (m.execute i).1 := by rw [executed]
  have due : m.dueFault? i = none := by rw [← executeFault, executed]
  have size : memorySize = 4096 := rfl
  cases moves : i.opcode.movesIndex m.dialect with
  | false => rwa [landed, m.executeIndex i moves]
  | true =>
    cases named : i.opcode <;> simp only [Opcode.movesIndex, named, Bool.false_eq_true] at moves <;>
      simp only [execute, named] at landed executed <;> simp only [dueFault?, named] at due
    case setIndex =>
      have address := nnnBound i
      rw [landed]
      exact Nat.le_succ_of_le address
    case addIndex =>
      simp only [addIndex, flags, if_true] at landed
      rw [landed]
      show (wordOf ((m.registers.index.toNat + (m.v i.x).toNat) % 4096 : Nat)).toNat ≤ 0x1000
      rw [wordOfSmall (by omega)]
      omega
    case digitSprite =>
      have address : Memory.fontAddress (m.v i.x).toNat ≤ 155 := by
        simp only [Memory.fontAddress, fontStart, fontHeight]
        omega
      rw [landed]
      show (wordOf (Memory.fontAddress (m.v i.x).toNat)).toNat ≤ 0x1000
      rw [wordOfSmall (by omega)]
      omega
    case storeRegisters =>
      rw [outgoingRegistersLength named, storeDue?] at due
      have room : m.registers.index.toNat + (i.x.val + 1) ≤ 0x1000 := by
        split at due <;> try contradiction
        split at due <;> try contradiction
        omega
      obtain ⟨passed, stored⟩ := Prod.mk.inj executed
      simp only [stored, Option.isSome_none, Bool.false_eq_true, if_false] at passed
      rw [← passed]
      exact passIndexBound room
    case loadRegisters =>
      simp only [incoming, named, readDue?] at due
      have room : m.registers.index.toNat + (i.x.val + 1) ≤ 0x1000 := by
        split at due <;> try contradiction
        omega
      obtain ⟨passed, loaded⟩ := Prod.mk.inj executed
      simp only [loaded, Option.isSome_none, Bool.false_eq_true, if_false] at passed
      rw [← passed, Registers.setFromRest]
      exact passIndexBound room

theorem stepIndexBound (flags : m.dialect.indexOverflow = true)
    (bound : m.registers.index.toNat ≤ 0x1000) : m.step.1.registers.index.toNat ≤ 0x1000 := by
  cases stage m with
  | halted halt result => rwa [result]
  | unfetched running past result =>
    rw [result]
    exact bound
  | unknown running inside undecoded result =>
    rw [result, meetUnknown]
    split <;> exact bound
  | @failed i n f running current executed result =>
    have outcome : m.step = (m.step.1, .error f) := by rw [result]; rfl
    obtain ⟨v, pc, memory, journal, left⟩ := failedRest running outcome
    rw [left]
    exact bound
  | @done i n running current executed result =>
    rw [result]
    exact executeIndexBound (m := m.begun i) (n := n) flags bound executed

theorem stepInRange (m : Machine) (range : InRange dialect m) : InRange dialect m.step.1 := by
  have own : m.step.1.dialect = m.dialect := congrArg Prod.fst (stepSettings m)
  constructor
  case own => rw [own, range.own]
  case pc =>
    rw [stepGoal]
    exact goalBound range
  case stack => exact stepStacked range
  case index =>
    intro flags
    exact stepIndexBound (by rw [range.own, flags]) (range.index flags)

theorem rangeSame (range : InRange dialect m) (own : n.dialect = m.dialect)
    (pc : n.registers.pc = m.registers.pc) (stack : n.registers.stack = m.registers.stack)
    (index : n.registers.index = m.registers.index) : InRange dialect n :=
  ⟨own.trans range.own, pc ▸ range.pc, stack ▸ range.stack, index ▸ range.index⟩

theorem registersFresh (fresh : m.registers = .powerOn) : InRange m.dialect m := by
  refine ⟨rfl, ?_, ?_, fun _ => ?_⟩ <;> rw [fresh]
  · decide
  · exact fun _ member => absurd member List.not_mem_nil
  · decide

theorem serveInRange (m : Machine) (call : HostCall) (indirect : call.indirect = true)
    (range : InRange dialect m) : InRange dialect (m.serve call) := by
  cases call <;> simp only [HostCall.indirect, Bool.false_eq_true] at indirect <;> simp only [serve]
  case restart =>
    rw [← range.own]
    exact registersFresh (m := m.restart) rfl
  case load image =>
    unfold load
    split <;> exact rangeSame range rfl rfl rfl rfl
  case press key down =>
    simp only [setKeys]
    split <;> exact rangeSame range rfl rfl rfl rfl
  case setV x value => split <;> exact rangeSame range rfl rfl rfl rfl
  all_goals exact rangeSame range rfl rfl rfl rfl

theorem rangeKept (dialect : Dialect) :
    Kept (fun _ call => call.indirect = true) (InRange dialect) where
  step := stepInRange
  tick _ range := rangeSame range rfl rfl rfl rfl
  serve := serveInRange

end

structure Caught (m : Machine) : Prop where
  fault : m.step.2 = .error (.outOfBounds (max m.registers.pc.toNat 0x1000 : Nat) .outside)
  halted : m.step.1.halted = true
  pc : m.step.1.registers.pc = m.registers.pc

theorem fetchCaught {m : Machine} (running : m.halted = false)
    (past : 0xFFF ≤ m.registers.pc.toNat) : Caught m := by
  have size : memorySize = 4096 := rfl
  have unhalted : m.haltedBy = none := by simpa [halted] using running
  have stopped := stepUnfetched unhalted (by omega)
  constructor <;> rw [stopped] <;> rfl

structure Unwrapped (dialect : Dialect) (m : Machine) : Prop where
  range : InRange dialect m
  fetched : m.registers.pc.toNat < 0xFFF → (m.registers.pc + 2).toNat = m.registers.pc.toNat + 2
  moved : m.step.1.registers.pc.toNat = m.goal
  pushed : ∀ i, m.Performs i → i.opcode = .call →
    m.step.1.registers.stack.map (·.toNat) =
      (m.registers.pc.toNat + 2) :: m.registers.stack.map (·.toNat)
  past : m.halted = false → 0xFFF ≤ m.registers.pc.toNat → Caught m
  left : m.step.2.isOk = true → 0xFFF ≤ m.goal → Caught m.step.1

theorem rangeUnwrapped {dialect : Dialect} {m : Machine} (range : InRange dialect m) :
    Unwrapped dialect m := by
  have size : memorySize = 4096 := rfl
  constructor
  case range => exact range
  case fetched =>
    intro below
    exact passedPc (by omega)
  case moved => exact stepGoal m
  case pushed =>
    intro i performs call
    obtain ⟨n, executed, result⟩ := performed performs
    obtain ⟨inside, _⟩ := currentInside performs.current
    simp only [execute, call] at executed
    have stack : m.step.1.registers.stack = (m.registers.pc + 2) :: m.registers.stack := by
      rw [result]
      exact callPushes executed
    rw [stack, List.map_cons, passedPc inside]
  case past => exact fetchCaught
  case left =>
    intro returned outside
    rw [← stepGoal] at outside
    cases outcome : m.step.2 with
    | error f => simp [outcome, Except.isOk, Except.toBool] at returned
    | ok redrawn => exact fetchCaught (stepRuns outcome) outside

end Machine

variable {R : Type} [Add R] [Sub R] [Mul R] [Div R] [LT R] [DecidableLT R] [LE R]
  [DecidableLE R] [Number.Scalar R]

theorem addressesInRange (schedule : Schedule R) (dialect : Dialect) (skipUnknown : Bool)
    (generator : Generator) (journal : Journal) {actions : List (Action R)}
    (indirect : ∀ call, Action.host call ∈ actions → call.indirect = true) :
    let start := Machine.powerOn dialect skipUnknown generator journal
    let turns := (Session.mk schedule start).turns actions
    ((Session.mk schedule start).after actions).machine = start.turns turns ∧
      ∀ k, Machine.Unwrapped dialect (start.moment turns k) := by
  intro start turns
  refine ⟨Session.afterTurned _ actions, ?_⟩
  intro k
  refine Machine.rangeUnwrapped (Machine.turnsAllowed (Machine.rangeKept dialect) ?_ ?_)
  · exact Machine.registersFresh (m := start) rfl
  · intro call made _
    exact indirect call (Session.hostTurn (List.mem_of_mem_take made))

open Number (Quantity)

def lenient : Machine := .powerOn {} true ⟨Vector.replicate 624 0, 624⟩ .silent

def falling : List (Action Quantity) :=
  [.host (.load [0x2F, 0xFE]), .host (.press 5 true), .tick, .run 3]

def brink : Machine :=
  lenient.moment ((Session.mk idleSession.schedule lenient).turns falling) 4

theorem brinkCaught :
    (∀ call, Action.host call ∈ falling → call.indirect = true) ∧
      Machine.Unwrapped {} brink ∧ brink.goal = 0x1000 ∧ Machine.Caught brink.step.1 := by
  have indirect : ∀ call, Action.host call ∈ falling → call.indirect = true := by
    simp [falling, HostCall.indirect]
  have unwrapped : Machine.Unwrapped {} brink :=
    (addressesInRange idleSession.schedule {} true ⟨Vector.replicate 624 0, 624⟩ .silent
      indirect).2 4
  obtain ⟨returned, goal⟩ : brink.step.2.isOk = true ∧ brink.goal = 0x1000 := by decide +kernel
  exact ⟨indirect, unwrapped, goal, unwrapped.left returned (by rw [goal]; decide)⟩

end Chip8
