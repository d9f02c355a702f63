import Chip8.Proofs.FailedStep
import Chip8.Proofs.FinalHalt
import Chip8.Proofs.Turns

/-! A lenient machine against a strict one. Only the decoding of a word finds that the word is no
instruction, before anything is executed; so up to the first such word the two take the same steps,
and from there on the lenient one passes over words where the strict one halts. -/
namespace Chip8

namespace Machine

structure Laxer (m n : Machine) : Prop where
  strict : m.skipUnknown = false
  lenient : n = { m with skipUnknown := true }

section
variable {m n : Machine}

theorem astrayStrict (strict : m.skipUnknown = false) (running : m.haltedBy = none)
    (astray : Astray m) : ∃ f, m.step.2 = .error f ∧ f.reason = .unknownOpcode := by
  obtain ⟨inside, undecoded⟩ := astray
  have unskipped : m.advance.skipUnknown = false := strict
  rw [stepUnknown running inside undecoded, meetUnknown, if_neg (by simp [unskipped])]
  exact ⟨_, rfl, rfl⟩

theorem astrayLenient (lenient : m.skipUnknown = true) (running : m.haltedBy = none)
    (astray : Astray m) :
    ∃ journal, m.step =
      ({ m with
          registers := { m.registers with pc := m.registers.pc + 2 }
          steps := m.steps + 1
          journal }, .ok false) := by
  obtain ⟨inside, undecoded⟩ := astray
  have skipped : m.advance.skipUnknown = true := lenient
  rw [stepUnknown running inside undecoded, meetUnknown, if_pos skipped]
  exact ⟨_, rfl⟩

theorem dueReason {i : Instruction} {f : Fault} (due : m.dueFault? i = some f) :
    f.reason ≠ .unknownOpcode := by
  have read {a n : Nat} (past : readDue? a n = some f) : f.reason ≠ .unknownOpcode := by
    obtain ⟨_, _, rfl⟩ := readDueSome.mp past
    simp [Fault.reason]
  have store {a n : Nat} (refused : storeDue? a n = some f) : f.reason ≠ .unknownOpcode := by
    unfold storeDue? at refused
    split at refused
    · cases refused
      simp [Fault.reason]
    · split at refused <;> cases refused
      simp [Fault.reason]
  unfold dueFault? at due
  split at due
  · split at due <;> cases due
    simp [Fault.reason]
  · split at due <;> cases due
    simp [Fault.reason]
  · exact read due
  · exact read due
  · exact store due
  · exact store due
  · contradiction

theorem stepReason {f : Fault} (failed : m.step.2 = .error f)
    (known : m.haltedBy = none → ¬Astray m) : f.reason ≠ .unknownOpcode := by
  cases stage m with
  | halted halt result | unfetched running past result =>
    rw [result] at failed
    cases failed
    simp [Fault.reason]
  | unknown running inside undecoded result =>
    exact absurd ⟨inside, undecoded⟩ (known running)
  | @failed i left g running current executed result =>
    have due := executeFault (m.begun i) i
    rw [executed] at due
    rw [result] at failed
    cases failed
    exact dueReason due.symm
  | done running current executed result => simp [result] at failed

theorem stepLax (laxer : Laxer m n) (known : m.haltedBy = none → ¬Astray m) :
    n.step.2 = m.step.2 ∧ Laxer m.step.1 n.step.1 := by
  obtain ⟨strict, rfl⟩ := laxer
  obtain ⟨wind, hold, write, own, clads⟩ := m.stepClad
  have unseen : Unseen m { m.guise with skipUnknown := true } := by
    refine ⟨fun _ _ _ => ⟨⟨fun _ _ => rfl, fun _ => rfl⟩, fun _ => rfl⟩, ?_⟩
    intro running astray
    exact absurd astray (known running)
  have stepped : { m with skipUnknown := true }.step =
      (m.step.1.clad { m.step.1.guise with skipUnknown := true }, m.step.2) := by
    rw [own]
    exact clads _ unseen
  rw [stepped]
  exact ⟨rfl, (congrArg (·.skipUnknown) own).trans strict, rfl⟩

theorem timesLax (laxer : Laxer m n) (k : Nat)
    (met : ∀ f, .error f ∈ (m.stepTimes k).2 → f.reason ≠ .unknownOpcode) :
    (n.stepTimes k).2 = (m.stepTimes k).2 ∧ Laxer (m.stepTimes k).1 (n.stepTimes k).1 := by
  induction k generalizing m n with
  | zero => exact ⟨rfl, laxer⟩
  | succ k ih =>
    have known : m.haltedBy = none → ¬Astray m := by
      intro running astray
      obtain ⟨f, failed, reason⟩ := astrayStrict laxer.strict running astray
      exact met f (by simp [stepTimes, failed]) reason
    obtain ⟨outcome, next⟩ := stepLax laxer known
    obtain ⟨outcomes, last⟩ := ih next (fun f later => met f (List.mem_cons_of_mem _ later))
    exact ⟨by rw [stepTimes, stepTimes, outcome, outcomes], last⟩

end

structure Spared (n : Machine) : Prop where
  lenient : n.skipUnknown = true
  unhalted : ∀ f, n.haltedBy = some f → f.reason ≠ .unknownOpcode

theorem stepSpared (n : Machine) (spared : Spared n) : Spared n.step.1 := by
  have settings : n.step.1.skipUnknown = n.skipUnknown := congrArg (·.2.1) n.stepSettings
  refine ⟨settings.trans spared.lenient, ?_⟩
  intro f halt
  by_cases astray : n.haltedBy = none ∧ Astray n
  · obtain ⟨running, astray⟩ := astray
    obtain ⟨_, passed⟩ := astrayLenient spared.lenient running astray
    rw [passed] at halt
    exact spared.unhalted f halt
  · have known : n.haltedBy = none → ¬Astray n := fun running meets => astray ⟨running, meets⟩
    cases stage n with
    | halted before result =>
      rw [result] at halt
      exact spared.unhalted f halt
    | unfetched running past result | failed running current executed result =>
      rw [result] at halt
      cases halt
      exact stepReason (congrArg Prod.snd result) known
    | unknown running inside undecoded result =>
      exact absurd ⟨inside, undecoded⟩ (known running)
    | @done i left running current executed result =>
      have kept := (executeFrame (n.begun i) i).haltedBy
      rw [executed] at kept
      rw [result] at halt
      exact spared.unhalted f (kept.symm.trans halt)

theorem serveSpared (n : Machine) (call : HostCall) (spared : Spared n) :
    Spared (n.serve call) := by
  refine ⟨(n.serveOptions call).2.trans spared.lenient, ?_⟩
  intro f halt
  by_cases powered : call = .restart
  · subst powered
    contradiction
  · rw [serveHalt n powered] at halt
    exact spared.unhalted f halt

theorem sparedKept : Kept (fun _ _ => True) Spared where
  step := stepSpared
  tick _ spared := ⟨spared.lenient, spared.unhalted⟩
  serve n call _ spared := serveSpared n call spared

/- What leniency is, wherever a lenient machine has come to. -/
structure Forgiving (n : Machine) : Prop extends Spared n where
  passes : n.haltedBy = none → Astray n → ∃ journal, n.step =
    ({ n with
        registers := { n.registers with pc := n.registers.pc + 2 }
        steps := n.steps + 1
        journal }, .ok false)
  forward : Astray n → (n.registers.pc + 2).toNat = n.registers.pc.toNat + 2
  fails : ∀ m, Laxer m n → ∀ f,
    n.step.2 = .error f ↔ m.step.2 = .error f ∧ f.reason ≠ .unknownOpcode
  halts : n.haltedBy = none → ∀ m, Laxer m n → ∀ f, n.step.2 = .error f →
    n.step.1.haltedBy = some f ∧ n.step.1.fault = some f ∧ Laxer m.step.1 n.step.1

theorem failsLax {m n : Machine} (laxer : Laxer m n) (f : Fault) :
    n.step.2 = .error f ↔ m.step.2 = .error f ∧ f.reason ≠ .unknownOpcode := by
  by_cases astray : m.haltedBy = none ∧ Astray m
  · obtain ⟨running, astray⟩ := astray
    obtain ⟨g, failed, reason⟩ := astrayStrict laxer.strict running astray
    obtain ⟨_, rfl⟩ := laxer
    obtain ⟨_, passed⟩ := astrayLenient (m := { m with skipUnknown := true }) rfl running astray
    rw [passed, failed]
    constructor
    · intro error
      contradiction
    · rintro ⟨error, other⟩
      cases error
      exact absurd reason other
  · have known : m.haltedBy = none → ¬Astray m := fun running meets => astray ⟨running, meets⟩
    rw [(stepLax laxer known).1]
    exact ⟨fun failed => ⟨failed, stepReason failed known⟩, fun both => both.1⟩

theorem haltsLax {m n : Machine} (laxer : Laxer m n) (running : n.haltedBy = none) {f : Fault}
    (failed : n.step.2 = .error f) :
    n.step.1.haltedBy = some f ∧ n.step.1.fault = some f ∧ Laxer m.step.1 n.step.1 := by
  obtain ⟨⟨journal, stopped⟩, _⟩ := stepFailed running (Prod.ext rfl failed)
  obtain ⟨strictly, reason⟩ := (failsLax laxer f).mp failed
  have known : m.haltedBy = none → ¬Astray m := by
    intro unhalted astray
    obtain ⟨g, other, unknown⟩ := astrayStrict laxer.strict unhalted astray
    cases strictly.symm.trans other
    exact reason unknown
  exact ⟨congrArg (·.haltedBy) stopped, congrArg (·.fault) stopped, (stepLax laxer known).2⟩

theorem sparedForgiving {n : Machine} (spared : Spared n) : Forgiving n where
  toSpared := spared
  passes := astrayLenient spared.lenient
  forward := fun ⟨inside, _⟩ => passedPc inside
  fails _ laxer := failsLax laxer
  halts running _ laxer _ := haltsLax laxer running

end Machine

open Machine (Laxer Forgiving)

variable {R : Type} [Add R] [Sub R] [Mul R] [Div R] [LT R] [DecidableLT R] [LE R]
  [DecidableLE R] [Number.Scalar R]

theorem leniencyRefines {m n : Machine} (laxer : Laxer m n) (running : m.haltedBy = none) :
    (∀ k, (∀ f, .error f ∈ (m.stepTimes k).2 → f.reason ≠ .unknownOpcode) →
      (n.stepTimes k).2 = (m.stepTimes k).2 ∧ Laxer (m.stepTimes k).1 (n.stepTimes k).1) ∧
    ∀ (schedule : Schedule R) (actions : List (Action R)),
      (∀ k, Forgiving (n.moment ((Session.mk schedule n).turns actions) k)) ∧
        Forgiving ((Session.mk schedule n).after actions).machine := by
  have spared : Machine.Spared n := by
    obtain ⟨_, rfl⟩ := laxer
    refine ⟨rfl, fun f halt => ?_⟩
    rw [show m.haltedBy = some f from halt] at running
    contradiction
  refine ⟨Machine.timesLax laxer, fun schedule actions => ⟨fun k => ?_, ?_⟩⟩
  · exact Machine.sparedForgiving (Machine.turnsKept Machine.sparedKept spared _)
  · rw [Session.afterTurned]
    exact Machine.sparedForgiving (Machine.turnsKept Machine.sparedKept spared _)

open Number (Quantity)

def strayProgram : Machine :=
  (idleSession.act (.host (.load [0x60, 0x05, 0xFF, 0xFF, 0x00, 0xEE]))).machine

def lenientProgram : Machine := { strayProgram with skipUnknown := true }

theorem strayPassed :
    Laxer strayProgram lenientProgram ∧ strayProgram.haltedBy = none ∧
      (∀ f, .error f ∈ (strayProgram.stepTimes 1).2 → f.reason ≠ .unknownOpcode) ∧
      (lenientProgram.stepTimes 1).2 = (strayProgram.stepTimes 1).2 ∧
      Forgiving ((Session.mk idleSession.schedule lenientProgram).after [.run 3]).machine := by
  have laxer : Laxer strayProgram lenientProgram := ⟨rfl, rfl⟩
  have met : ∀ f, .error f ∈ (strayProgram.stepTimes 1).2 → f.reason ≠ .unknownOpcode := by
    have first : (strayProgram.stepTimes 1).2 = [.ok false] := by decide +kernel
    simp [first]
  obtain ⟨refined, forgiving⟩ := leniencyRefines (R := Quantity) laxer rfl
  exact ⟨laxer, rfl, met, (refined 1 met).1, (forgiving idleSession.schedule [.run 3]).2⟩

end Chip8
