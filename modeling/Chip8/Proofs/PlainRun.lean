import Chip8.Proofs.KeyWait
import Chip8.Proofs.Recast
import Chip8.Proofs.Timeline

/-! A timeline against a bare run. Frames and stretches spend slots and tick in between; as long
as no instruction reads the delay timer, what they leave differs in the timers alone from what
a run of as many steps leaves. A machine that stops or blocks loses the rest of its slots. -/
namespace Chip8

namespace Machine

def retime (m : Machine) (timers : Timers) : Machine := { m with timers }

theorem stepRetimed (m : Machine) (t : Timers)
    (unread : m.haltedBy = none → ∀ i, m.current? = some i → i.opcode ≠ .readDelay) :
    ∃ later, (m.retime t).step = (m.step.1.retime later, m.step.2) := by
  obtain ⟨wind, hold, write, own, clads⟩ := m.stepClad
  have unseen : Unseen m { m.guise with timers := t } := by
    refine ⟨fun running i current => ?_, fun _ _ => rfl⟩
    exact ⟨⟨fun _ _ => rfl, fun delay => absurd delay (unread running i current)⟩, fun _ => rfl⟩
  have stepped : (m.retime t).step =
      (m.step.1.clad { m.step.1.guise with timers := wind t }, m.step.2) := by
    rw [own]
    exact clads _ unseen
  exact ⟨wind t, stepped⟩

def spendSlot (m : Machine) : Machine := if m.halted || m.blocked then m else m.step.1

def pass (m : Machine) : Beat → Machine
  | .tick => m.tick
  | .slot => m.spendSlot

theorem slotPasses (m : Machine) (r : Report) : (m.slot r).1 = m.spendSlot := by
  cases spent m r with
  | halted stopped result => rw [spendSlot, if_pos (by simp [stopped]), result]
  | blocked running unpressed result => rw [spendSlot, if_pos (by simp [unpressed]), result]
  | failed running free outcome result | done running free outcome result =>
    rw [spendSlot, if_neg (by simp [running, free]), result]

theorem playPasses (state : Machine × Report) (beats : List Beat) :
    (play state beats).1 = beats.foldl pass state.1 := by
  induction beats generalizing state with
  | nil => rfl
  | cons b rest ih =>
    have first : (beat state b).1 = state.1.pass b := by
      cases b with
      | tick => rfl
      | slot => exact slotPasses state.1 state.2
    rw [List.foldl_cons, ← first]
    exact ih (beat state b)

def executed (m : Machine) : List Beat → List Instruction
  | [] => []
  | .tick :: rest => m.tick.executed rest
  | .slot :: rest =>
    if m.halted || m.blocked then m.executed rest
    else m.current?.toList ++ m.step.1.executed rest

theorem stuckPasses {m : Machine} (stuck : (m.halted || m.blocked) = true) (beats : List Beat) :
    beats.foldl pass m = m.retime (m.timers.tickTimes (beats.count .tick)) := by
  induction beats generalizing m with
  | nil => rfl
  | cons b rest ih =>
    cases b with
    | tick =>
      rw [List.count_cons_self]
      exact ih (m := m.tick) stuck
    | slot =>
      have lost : m.spendSlot = m := if_pos stuck
      rw [List.count_cons_of_ne (by decide), List.foldl_cons, pass, lost]
      exact ih stuck

theorem stepErrorHalts {m : Machine} {f : Fault} (failed : m.step.2 = .error f) :
    m.step.1.halted = true := by
  cases stage m with
  | halted halt result => simp [result, halted, halt]
  | unfetched running past result | failed running current executed result => rw [result]; rfl
  | unknown running inside undecoded result =>
    rw [result] at failed ⊢
    unfold meetUnknown at failed ⊢
    split at failed
    · contradiction
    · rename_i strict
      rw [if_neg strict]
      rfl
  | done running current executed result => simp [result] at failed

theorem stepKeypad {m : Machine}
    (other : m.haltedBy = none → ∀ i, m.current? = some i → i.opcode ≠ .waitKey) :
    m.step.1.keypad = m.keypad :=
  stepKeeps (·.keypad) (fun _ _ _ _ _ _ => rfl)
    (fun running i current => (executeFrame (m.begun i) i).keypad (other running i current))

theorem stepBlocks {m : Machine} (idle : m.awaitingKey = false)
    (waiting : m.step.1.awaitingKey = true) : m.step.1.blocked = true := by
  by_cases wait : m.haltedBy = none ∧ ∃ i, m.current? = some i ∧ i.opcode = .waitKey
  · obtain ⟨running, i, current, wait⟩ := wait
    have unpressed : m.keypad.pending = false := by
      simp [Keypad.pending, show m.keypad.waiting = false from idle]
    obtain ⟨journal, stepped⟩ := stepUnpressed running current wait unpressed
    rw [stepped]
    rfl
  · have kept : m.step.1.keypad = m.keypad := by
      refine stepKeypad ?_
      intro running i current named
      exact wait ⟨running, i, current, named⟩
    rw [awaitingKey, kept] at waiting
    exact absurd (idle.symm.trans waiting) (by decide)

theorem slotStep {m : Machine} (idle : m.awaitingKey = false) : m.spendSlot = m.step.1 := by
  have free : m.blocked = false := by simp [blocked, show m.keypad.waiting = false from idle]
  rw [spendSlot, free, Bool.or_false]
  cases halt : m.haltedBy with
  | none => simp [halted, halt]
  | some cause => simp [halted, halt, stepHalted halt]

theorem executedSlot {m : Machine} (idle : m.awaitingKey = false) (rest : List Beat) :
    m.executed (.slot :: rest) =
      (if m.halted then [] else m.current?.toList) ++ m.step.1.executed rest := by
  have free : m.blocked = false := by simp [blocked, show m.keypad.waiting = false from idle]
  rw [executed, free, Bool.or_false]
  cases halt : m.haltedBy with
  | none => simp [halted, halt]
  | some cause => simp [halted, halt, stepHalted halt]

/- The induction is on the beats. The bare run starts from the same machine with any timers, and
ends where the timeline's machine is stuck for the rest of its beats. -/
theorem passesRun {m : Machine} (idle : m.awaitingKey = false) (beats : List Beat)
    (unread : ∀ i ∈ m.executed beats, i.opcode ≠ .readDelay) (t : Timers) :
    ∃ timers, beats.foldl pass m = ((m.retime t).run (beats.count .slot)).1.retime timers := by
  induction beats generalizing m t with
  | nil => exact ⟨m.timers, rfl⟩
  | cons b rest ih =>
    cases b with
    | tick =>
      rw [List.count_cons_of_ne (by decide)]
      exact ih (m := m.tick) idle unread t
    | slot =>
      rw [executedSlot idle, List.forall_mem_append] at unread
      obtain ⟨now, later⟩ := unread
      obtain ⟨timers, stepped⟩ :
          ∃ timers, (m.retime t).step = (m.step.1.retime timers, m.step.2) := by
        refine m.stepRetimed t ?_
        intro running i current
        exact now i (by simp [halted, running, current])
      rw [List.count_cons_self, List.foldl_cons, pass, slotStep idle]
      simp only [run, stepped]
      cases outcome : m.step.2 with
      | error f =>
        have stuck : (m.step.1.halted || m.step.1.blocked) = true := by
          simp [stepErrorHalts outcome]
        exact ⟨_, stuckPasses stuck rest⟩
      | ok redrawn =>
        cases waiting : m.step.1.awaitingKey with
        | true =>
          have stuck : (m.step.1.halted || m.step.1.blocked) = true := by
            simp [stepBlocks idle waiting]
          have armed : (m.step.1.retime timers).awaitingKey = true := waiting
          simp only [armed, if_true]
          exact ⟨_, stuckPasses stuck rest⟩
        | false =>
          have unarmed : (m.step.1.retime timers).awaitingKey = false := waiting
          simp only [unarmed, Bool.false_eq_true, if_false]
          exact ih waiting later timers

end Machine

variable {R : Type} [Add R] [Sub R] [Mul R] [Div R] [LT R] [DecidableLT R] [LE R]
  [DecidableLE R] [Number.Scalar R]

namespace Session

def beats (s : Session R) : List (Action R) → List Beat
  | [] => []
  | a :: rest => s.schedule.beatsOf a ++ (s.act a).beats rest

def executed (s : Session R) (actions : List (Action R)) : List Instruction :=
  s.machine.executed (s.beats actions)

theorem afterPasses (s : Session R) {actions : List (Action R)}
    (timed : ∀ a ∈ actions, a.timed = true) :
    (s.after actions).machine = (s.beats actions).foldl Machine.pass s.machine ∧
      (s.after actions).schedule.slots =
        s.schedule.slots + (s.beats actions).count .slot := by
  induction actions generalizing s with
  | nil => exact ⟨rfl, rfl⟩
  | cons a rest ih =>
    obtain ⟨first, later⟩ := List.forall_mem_cons.mp timed
    have passed := timedPassed s first
    have machine := passed.machine.trans (Machine.playPasses _ _)
    obtain ⟨rest, slots⟩ := ih (s.act a) later
    rw [beats, List.foldl_append, List.count_append, ← Nat.add_assoc, ← passed.slots, ← machine]
    exact ⟨rest, slots⟩

end Session

theorem plainRun {s : Session R} {actions : List (Action R)}
    (idle : s.machine.awaitingKey = false) (timed : ∀ a ∈ actions, a.timed = true)
    (unread : ∀ i ∈ s.executed actions, i.opcode ≠ .readDelay) :
    ∃ slots timers, (s.after actions).schedule.slots = s.schedule.slots + slots ∧
      (s.after actions).machine = { (s.machine.run slots).1 with timers } := by
  obtain ⟨machine, slots⟩ := s.afterPasses timed
  obtain ⟨timers, passed⟩ := Machine.passesRun idle (s.beats actions) unread s.machine.timers
  exact ⟨_, timers, slots, machine.trans passed⟩

open Number (Quantity)

def countingSession : Session Quantity :=
  idleSession.act (.host (.load [0x60, 0x05, 0x70, 0x01, 0xF0, 0x0A]))

def shortTimes : List (Action Quantity) :=
  [.advance (.real 0.002), .frame none, .advance (.real 0.005)]

theorem countingRun :
    countingSession.machine.awaitingKey = false ∧ (∀ a ∈ shortTimes, a.timed = true) ∧
      (∀ i ∈ countingSession.executed shortTimes, i.opcode ≠ .readDelay) ∧
      ∃ slots timers,
        (countingSession.after shortTimes).schedule.slots =
          countingSession.schedule.slots + slots ∧
        (countingSession.after shortTimes).machine =
          { (countingSession.machine.run slots).1 with timers } := by
  have idle : countingSession.machine.awaitingKey = false := by decide +kernel
  have timed : ∀ a ∈ shortTimes, a.timed = true := by decide
  have unread : ∀ i ∈ countingSession.executed shortTimes, i.opcode ≠ .readDelay := by
    decide +kernel
  exact ⟨idle, timed, unread, plainRun idle timed unread⟩

end Chip8
