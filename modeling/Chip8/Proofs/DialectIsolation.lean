import Chip8.Proofs.PowerCycle
import Chip8.Proofs.StepFault
import Chip8.Proofs.Turns

/-! Machines that differ in their dialects alone. A step that raises no question on which the two
dialects disagree keeps them alike, and so does a run of such steps. A question on which they
disagree makes a difference in at most two places of the machine, and an instruction that raises
one fails in both dialects or in none. -/
namespace Chip8

inductive Part where
  | v (x : Fin 16)
  | index
  | pc
  | screen
  deriving DecidableEq, Repr

def Switch.parts (i : Instruction) : Switch → List Part
  | .shiftInPlace => [.v i.x, .v Registers.flag]
  | .keepIndex => [.index]
  | .jumpAddsVX => [.pc]
  | .logicClearsVF => [.v Registers.flag]
  | .clip => [.screen, .v Registers.flag]
  | .indexOverflow => [.index, .v Registers.flag]

def Instruction.disputed (d e : Dialect) (i : Instruction) : Bool :=
  i.opcode.switch?.any fun s => s.get d != s.get e

namespace Machine

def blot (parts : List Part) (m : Machine) : Machine :=
  { m with
    dialect := {}
    journal := .silent
    screen := if .screen ∈ parts then .blank else m.screen
    registers :=
      { v := Vector.ofFn fun x => if .v x ∈ parts then 0 else m.v x
        index := if .index ∈ parts then 0 else m.registers.index
        pc := if .pc ∈ parts then 0 else m.registers.pc
        stack := m.registers.stack } }

def Twin (m n : Machine) : Prop := ∃ dialect journal, n = { m with dialect, journal }

section
variable {parts : List Part} (m : Machine)

theorem blotV {x : Fin 16} (hidden : .v x ∈ parts) (b : UInt8) :
    (m.setV x b).blot parts = m.blot parts := by
  have same (y : Fin 16) : (if Part.v y ∈ parts then 0 else (m.setV x b).v y) =
      if .v y ∈ parts then 0 else m.v y := by
    split
    · rfl
    · rename_i shown
      have other : x ≠ y := fun here => shown (here ▸ hidden)
      exact (m.registers.getSet x y b).trans (if_neg other)
  simp only [blot, same]
  rfl

theorem blotFlag (hidden : .v Registers.flag ∈ parts) (b : Bool) :
    (m.setFlag b).blot parts = m.blot parts := m.blotV hidden _

theorem blotIndex (hidden : .index ∈ parts) (address : UInt16) :
    (m.setIndex address).blot parts = m.blot parts := by
  simp only [blot, if_pos hidden]
  rfl

theorem blotPc (hidden : .pc ∈ parts) (address : UInt16) :
    (m.jumpTo address).blot parts = m.blot parts := by
  simp only [blot, if_pos hidden]
  rfl

theorem blotScreen (hidden : .screen ∈ parts) (screen : Screen) :
    { m with screen }.blot parts = m.blot parts := by
  simp only [blot, if_pos hidden]
  rfl

theorem blotResult {x : Fin 16} (hidden : .v x ∈ parts) (flag : .v Registers.flag ∈ parts)
    (r : UInt8 × Bool) : (m.setResult x r).blot parts = m.blot parts :=
  (blotFlag _ flag r.2).trans (m.blotV hidden r.1)

theorem blotLogic (hidden : .v Registers.flag ∈ parts) (x : Fin 16) (b : UInt8) :
    (m.logic x b).blot parts = (m.setV x b).blot parts := by
  simp only [logic]
  split
  · exact blotFlag _ hidden false
  · rfl

theorem blotAddIndex (hidden : .index ∈ parts) (flag : .v Registers.flag ∈ parts) (x : Fin 16) :
    (m.addIndex x).blot parts = m.blot parts := by
  simp only [addIndex]
  split
  · exact (blotFlag _ flag _).trans (m.blotIndex hidden _)
  · exact m.blotIndex hidden _

theorem blotPassIndex (hidden : .index ∈ parts) (x : Fin 16) :
    (m.passIndex x).blot parts = m.blot parts := by
  unfold passIndex
  split
  · rfl
  · exact m.blotIndex hidden _

theorem blotDraw (hidden : .screen ∈ parts) (flag : .v Registers.flag ∈ parts)
    (i : Instruction) : (m.draw? i).1.blot parts = m.blot parts := by
  unfold draw?
  split
  · rfl
  · exact (blotFlag _ flag _).trans (m.blotScreen hidden _)

theorem blotStoreRegisters (hidden : .index ∈ parts) (x : Fin 16) :
    (m.storeRegisters? x).1.blot parts =
      { m with
        memory := (m.memory.store m.registers.index.toNat
          (m.registers.first (x.val + 1))).1 }.blot parts := by
  simp only [storeRegisters?]
  split
  · rfl
  · exact blotPassIndex _ hidden x

theorem blotLoadRegisters (hidden : .index ∈ parts) (x : Fin 16) :
    (m.loadRegisters? x).1.blot parts =
      { m with
        registers := m.registers.setFrom 0
          (m.memory.fetch m.registers.index.toNat (x.val + 1)).1 }.blot parts := by
  simp only [loadRegisters?]
  split
  · rfl
  · exact blotPassIndex _ hidden x

end

/- Each side is compared with what the instruction does whatever the answer is. -/
theorem executeBlotted (m : Machine) (t : Timers) (d : Dialect) (j : Journal) {i : Instruction}
    {s : Switch} (asks : i.opcode.switch? = some s) (same : t = m.timers) :
    ((m.recast t d j).execute i).1.blot (s.parts i) = (m.execute i).1.blot (s.parts i) := by
  subst same
  cases named : i.opcode <;> rw [named] at asks <;> cases asks <;> simp only [execute, named]
  case shiftRight | shiftLeft =>
    refine (blotResult _ ?_ ?_ _).trans (m.blotResult ?_ ?_ _).symm <;> simp [Switch.parts]
  case or | and | xor =>
    refine (blotLogic _ ?_ _ _).trans (m.blotLogic ?_ _ _).symm <;> simp [Switch.parts]
  case jumpOffset =>
    refine (blotPc _ ?_ _).trans (m.blotPc ?_ _).symm <;> simp [Switch.parts]
  case draw =>
    refine (blotDraw _ ?_ ?_ i).trans (m.blotDraw ?_ ?_ i).symm <;> simp [Switch.parts]
  case addIndex =>
    refine (blotAddIndex _ ?_ ?_ _).trans (m.blotAddIndex ?_ ?_ _).symm <;> simp [Switch.parts]
  case storeRegisters =>
    refine (blotStoreRegisters _ ?_ _).trans (m.blotStoreRegisters ?_ _).symm <;>
      simp [Switch.parts]
  case loadRegisters =>
    refine (blotLoadRegisters _ ?_ _).trans (m.blotLoadRegisters ?_ _).symm <;>
      simp [Switch.parts]

theorem blotHalt {parts : List Part} {m n : Machine} (same : n.blot parts = m.blot parts)
    (f : Fault) : (n.halt f).1.blot parts = (m.halt f).1.blot parts :=
  congrArg (fun k : Machine => { k with haltedBy := some f, fault := some f }) same

theorem blotCount {parts : List Part} {m n : Machine} (same : n.blot parts = m.blot parts) :
    n.countStep.blot parts = m.countStep.blot parts :=
  congrArg countStep same

theorem executeFaultSame (m : Machine) (t : Timers) (d : Dialect) (j : Journal)
    (i : Instruction) : ((m.recast t d j).execute i).2 = (m.execute i).2 := by
  rw [executeFault, executeFault]
  rfl

theorem stepBlotted (m : Machine) (d : Dialect) (j : Journal) {i : Instruction} {s : Switch}
    (current : m.current? = some i) (asks : i.opcode.switch? = some s) :
    (m.recast m.timers d j).step.2 = m.step.2 ∧
      (m.recast m.timers d j).step.1.blot (s.parts i) = m.step.1.blot (s.parts i) := by
  cases halt : m.haltedBy with
  | some cause =>
    rw [stepHalted halt, stepHalted (m := m.recast m.timers d j) halt]
    exact ⟨rfl, rfl⟩
  | none =>
    obtain ⟨enter, begun⟩ := m.begunRecast i
    have outcome := (m.begun i).executeFaultSame m.timers d (enter j) i
    have blotted := (m.begun i).executeBlotted m.timers d (enter j) asks rfl
    rw [stepKnown halt current, stepKnown (m := m.recast m.timers d j) halt current, begun]
    generalize (m.begun i).execute i = own at outcome blotted
    generalize ((m.begun i).recast m.timers d (enter j)).execute i = other at outcome blotted
    obtain ⟨n, fault⟩ := own
    obtain ⟨k, _⟩ := other
    cases outcome
    cases fault with
    | none => exact ⟨rfl, blotCount blotted⟩
    | some f => exact ⟨rfl, blotHalt blotted f⟩

/- The same step on both sides, and the same machines after it but for the parts that a disputed
question reaches. -/
structure Apart (m n : Machine) : Prop where
  outcome : n.step.2 = m.step.2
  undisputed : (∀ i ∈ m.executing?, i.disputed m.dialect n.dialect = false) →
    Twin m.step.1 n.step.1
  answered : ∀ i ∈ m.executing?, ∀ s, i.opcode.switch? = some s →
    n.step.1.blot (s.parts i) = m.step.1.blot (s.parts i)

theorem undisputedAgree {d e : Dialect} {i : Instruction} (undisputed : i.disputed d e = false)
    {s : Switch} (asks : i.opcode.switch? = some s) : s.get e = s.get d := by
  simp only [Instruction.disputed, asks, Option.any_some, bne_eq_false_iff_eq] at undisputed
  exact undisputed.symm

theorem stepTwin {m n : Machine} (twin : Twin m n)
    (undisputed : ∀ i ∈ m.executing?, i.disputed m.dialect n.dialect = false) :
    n.step.2 = m.step.2 ∧ Twin m.step.1 n.step.1 := by
  obtain ⟨d, j, rfl⟩ := twin
  obtain ⟨wind, hold, write, own, clads⟩ := m.stepClad
  have unseen : Unseen m { m.guise with dialect := d, journal := j } := by
    refine ⟨fun running i current => ⟨⟨fun s asks => ?_, fun _ => rfl⟩, fun _ => rfl⟩,
      fun _ _ => rfl⟩
    exact undisputedAgree (undisputed i (executingCurrent running current)) asks
  have stepped : { m with dialect := d, journal := j }.step =
      (m.step.1.clad { m.step.1.guise with dialect := d, journal := write j }, m.step.2) := by
    rw [own]
    exact clads _ unseen
  rw [stepped]
  exact ⟨rfl, d, write j, rfl⟩

theorem stepApart {m n : Machine} (twin : Twin m n) : Apart m n := by
  have answered : ∀ i ∈ m.executing?, ∀ s, i.opcode.switch? = some s →
      n.step.2 = m.step.2 ∧ n.step.1.blot (s.parts i) = m.step.1.blot (s.parts i) := by
    obtain ⟨d, j, rfl⟩ := twin
    intro i executing s asks
    exact m.stepBlotted d j (currentExecuting executing) asks
  refine ⟨?_, fun undisputed => (stepTwin twin undisputed).2,
    fun i executing s asks => (answered i executing s asks).2⟩
  by_cases asked : ∃ i ∈ m.executing?, ∃ s, i.opcode.switch? = some s
  · obtain ⟨i, executing, s, asks⟩ := asked
    exact (answered i executing s asks).1
  · refine (stepTwin twin ?_).1
    intro i executing
    cases asks : i.opcode.switch? with
    | none => simp [Instruction.disputed, asks]
    | some s => exact absurd ⟨i, executing, s, asks⟩ asked

structure Twins (d e : Dialect) (m n : Machine) : Prop where
  own : m.dialect = d
  other : n.dialect = e
  twin : Twin m n

structure Undisputed (d e : Dialect) (m : Machine) (ts : List Turn) : Prop where
  executed : ∀ k ∈ m.stepped ts, ∀ i ∈ k.executing?, i.disputed d e = false
  drawn : ∀ x y rows, Turn.host (.draw x y rows) ∈ ts → d.clip = e.clip

theorem turnDialect (m : Machine) (t : Turn) : (m.turn t).dialect = m.dialect := by
  cases t with
  | step => exact congrArg (·.1) (stepSettings m)
  | tick => rfl
  | host call => exact (m.serveOptions call).1

theorem serveTwin {m n : Machine} (twin : Twin m n) {call : HostCall}
    (drawn : ∀ x y rows, call = .draw x y rows → m.dialect.clip = n.dialect.clip) :
    Twin (m.serve call) (n.serve call) := by
  obtain ⟨d, j, rfl⟩ := twin
  cases call <;> simp only [serve]
  case load image =>
    rw [loadChecked, loadChecked]
    split <;> exact ⟨d, _, rfl⟩
  case press key down =>
    simp only [setKeys]
    split <;> exact ⟨d, _, rfl⟩
  case setV x value => split <;> exact ⟨d, _, rfl⟩
  case push => split <;> exact ⟨d, _, rfl⟩
  case pop => split <;> exact ⟨d, _, rfl⟩
  case draw x y rows =>
    rw [← drawn x y rows rfl]
    exact ⟨d, _, rfl⟩
  all_goals exact ⟨d, _, rfl⟩

section
variable {d e : Dialect} {m n : Machine}

theorem undisputedAppend (first rest : List Turn) (h : Undisputed d e m (first ++ rest)) :
    Undisputed d e m first ∧ Undisputed d e (m.turns first) rest := by
  obtain ⟨executed, drawn⟩ := h
  rw [steppedAppend] at executed
  exact ⟨⟨fun k found => executed k (List.mem_append_left _ found),
      fun x y rows found => drawn x y rows (List.mem_append_left _ found)⟩,
    ⟨fun k found => executed k (List.mem_append_right _ found),
      fun x y rows found => drawn x y rows (List.mem_append_right _ found)⟩⟩

theorem turnTwins (twins : Twins d e m n) {t : Turn} (undisputed : Undisputed d e m [t]) :
    Twins d e (m.turn t) (n.turn t) := by
  obtain ⟨rfl, rfl, twin⟩ := twins
  refine ⟨m.turnDialect t, n.turnDialect t, ?_⟩
  cases t with
  | step => exact (stepTwin twin (undisputed.executed m List.mem_cons_self)).2
  | tick =>
    obtain ⟨dialect, journal, rfl⟩ := twin
    exact ⟨dialect, journal, rfl⟩
  | host call =>
    refine serveTwin twin ?_
    rintro x y rows rfl
    exact undisputed.drawn x y rows List.mem_cons_self

theorem turnsTwins (twins : Twins d e m n) {ts : List Turn} (undisputed : Undisputed d e m ts) :
    Twins d e (m.turns ts) (n.turns ts) := by
  induction ts generalizing m n with
  | nil => exact twins
  | cons t rest ih =>
    obtain ⟨now, later⟩ := undisputedAppend [t] rest undisputed
    exact ih (turnTwins twins now) later

theorem runTwins (twins : Twins d e m n) {limit : Nat}
    (undisputed : Undisputed d e m (m.runTurns limit)) :
    n.runTurns limit = m.runTurns limit := by
  induction limit generalizing m n with
  | zero => rfl
  | succ limit ih =>
    have outcome : n.step.2 = m.step.2 := (stepApart twins.twin).outcome
    obtain ⟨now, later⟩ := undisputedAppend [.step]
      (if m.step.2.isOk && !m.step.1.awaitingKey then m.step.1.runTurns limit else []) undisputed
    have next : Twins d e m.step.1 n.step.1 := turnTwins twins now
    have waiting : n.step.1.awaitingKey = m.step.1.awaitingKey := by
      obtain ⟨dialect, journal, same⟩ := next.twin
      rw [same]
      rfl
    rw [runTurns, runTurns, outcome, waiting]
    split
    · rename_i more
      rw [if_pos more] at later
      rw [ih next later]
    · rfl

theorem beatTwins (twins : Twins d e m n) {beats : List Beat}
    (undisputed : Undisputed d e m (m.beatTurns beats)) :
    n.beatTurns beats = m.beatTurns beats := by
  induction beats generalizing m n with
  | nil => rfl
  | cons b rest ih =>
    cases b with
    | tick =>
      obtain ⟨now, later⟩ := undisputedAppend [.tick] _ undisputed
      exact congrArg (Turn.tick :: ·) (ih (turnTwins twins now) later)
    | slot =>
      have stuck : (n.halted || n.blocked) = (m.halted || m.blocked) := by
        obtain ⟨dialect, journal, same⟩ := twins.twin
        rw [same]
        rfl
      rw [beatTurns] at undisputed
      rw [beatTurns, beatTurns, stuck]
      split
      · rename_i lost
        rw [if_pos lost] at undisputed
        exact ih twins undisputed
      · rename_i free
        rw [if_neg free] at undisputed
        obtain ⟨now, later⟩ := undisputedAppend [.step] _ undisputed
        exact congrArg (Turn.step :: ·) (ih (turnTwins twins now) later)

end
end Machine

variable {R : Type} [Add R] [Sub R] [Mul R] [Div R] [LT R] [DecidableLT R] [LE R]
  [DecidableLE R] [Number.Scalar R]

namespace Session
open Machine (Twin Twins Undisputed)
variable {d e : Dialect} {m n : Machine}

theorem turnsOfTwins (schedule : Schedule R) (twins : Twins d e m n) {a : Action R}
    (undisputed : Undisputed d e m ((Session.mk schedule m).turnsOf a)) :
    (Session.mk schedule n).turnsOf a = (Session.mk schedule m).turnsOf a := by
  cases a with
  | host | step | tick | clock => rfl
  | run limit => exact Machine.runTwins twins undisputed
  | frame elapsed | advance elapsed => exact Machine.beatTwins twins undisputed

theorem turnsTwins (schedule : Schedule R) (twins : Twins d e m n) {actions : List (Action R)}
    (undisputed : Undisputed d e m ((Session.mk schedule m).turns actions)) :
    (Session.mk schedule n).turns actions = (Session.mk schedule m).turns actions := by
  induction actions generalizing schedule m n with
  | nil => rfl
  | cons a rest ih =>
    obtain ⟨now, later⟩ := Machine.undisputedAppend _ _ undisputed
    have first := turnsOfTwins schedule twins now
    have next := Machine.turnsTwins twins now
    have other : (Session.mk schedule n).act a =
        ⟨((Session.mk schedule m).act a).schedule,
          ((Session.mk schedule n).act a).machine⟩ := by
      rw [← actSchedule schedule m n a]
    have own := (Session.mk schedule m).actTurned a
    have theirs := (Session.mk schedule n).actTurned a
    rw [turns, turns, first, other]
    rw [first] at theirs
    rw [← own, ← theirs] at next
    rw [← own] at later
    exact congrArg _ (ih _ next later)

end Session

open Machine (Twin Apart Undisputed)

theorem dialectsIsolated {m n : Machine} (twin : Twin m n) :
    Apart m n ∧
      ∀ (schedule : Schedule R) (actions : List (Action R)),
        Undisputed m.dialect n.dialect m ((Session.mk schedule m).turns actions) →
          (Session.mk schedule n).turns actions = (Session.mk schedule m).turns actions ∧
          (∀ k, Twin (m.moment ((Session.mk schedule m).turns actions) k)
            (n.moment ((Session.mk schedule n).turns actions) k)) ∧
          Twin ((Session.mk schedule m).after actions).machine
            ((Session.mk schedule n).after actions).machine := by
  refine ⟨Machine.stepApart twin, ?_⟩
  intro schedule actions undisputed
  have twins : Machine.Twins m.dialect n.dialect m n := ⟨rfl, rfl, twin⟩
  have same := Session.turnsTwins schedule twins undisputed
  refine ⟨same, fun k => ?_, ?_⟩
  · rw [same]
    have split := List.take_append_drop k ((Session.mk schedule m).turns actions)
    rw [← split] at undisputed
    exact (Machine.turnsTwins twins (Machine.undisputedAppend _ _ undisputed).1).twin
  · rw [Session.afterTurned, Session.afterTurned, same]
    exact (Machine.turnsTwins twins undisputed).twin

open Number (Quantity)

def native : Machine :=
  (idleSession.act (.host (.load [0x60, 0x05, 0x70, 0x01, 0x80, 0x16]))).machine

def foreign : Machine := { native with dialect := ⟨true, true, true, true, false, false⟩ }

def beforeShift : List (Action Quantity) := [.step, .tick, .run 1]

theorem foreignAlike :
    Twin native foreign ∧
      Undisputed native.dialect foreign.dialect native
        ((Session.mk idleSession.schedule native).turns beforeShift) ∧
      Twin ((Session.mk idleSession.schedule native).after beforeShift).machine
        ((Session.mk idleSession.schedule foreign).after beforeShift).machine := by
  have twin : Twin native foreign := ⟨_, _, rfl⟩
  have undisputed : Undisputed native.dialect foreign.dialect native
      ((Session.mk idleSession.schedule native).turns beforeShift) := by
    refine ⟨by decide +kernel, ?_⟩
    intro x y rows drawn
    exact absurd (Session.hostTurn drawn) (by simp [beforeShift])
  have alike := (dialectsIsolated twin).2 idleSession.schedule beforeShift undisputed
  exact ⟨twin, undisputed, alike.2.2⟩

end Chip8
