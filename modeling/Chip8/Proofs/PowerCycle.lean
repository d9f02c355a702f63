import Chip8.Proofs.WellFormed

/-! A restart against a machine that has just been switched on. Whatever happened before, a
restart leaves what loading the last accepted image leaves on a new machine with the same
settings; only the generator and the journal go on. -/
namespace Chip8

def Action.image? {R : Type} : Action R → Option (List UInt8)
  | .host (.load image) =>
    if Memory.loadFault? image.length programStart = none then some image else none
  | _ => none

def lastImage? {R : Type} (before : Option (List UInt8)) : List (Action R) → Option (List UInt8)
  | [] => before
  | a :: rest => lastImage? (a.image?.or before) rest

namespace Memory

theorem alike {a b : Memory} (same : ∀ n < memorySize, a.bytes[n]? = b.bytes[n]?) : a = b := by
  cases a
  cases b
  refine congrArg Memory.mk (Vector.ext ?_)
  intro n inside
  have byte := same n inside
  rw [Vector.getElem?_eq_getElem inside, Vector.getElem?_eq_getElem inside] at byte
  exact Option.some.inj byte

theorem clearedByte (m : Memory) {n : Nat} (program : programStart ≤ n) (inside : n < memorySize) :
    m.clearProgram.bytes[n]? = some 0 := by
  have size : programStart + (memorySize - programStart) = memorySize := rfl
  have cleared := m.putAllByte programStart
    (List.replicate (memorySize - programStart) 0) inside
  refine cleared.trans ?_
  rw [overlay, List.length_replicate, if_pos (by omega), List.getElem?_replicate,
    if_pos (by omega)]

theorem powerOnByte {n : Nat} (program : programStart ≤ n) (inside : n < memorySize) :
    powerOn.bytes[n]? = some 0 := by
  have size : fontStart + font.length < programStart := by decide
  have zero : blank.bytes[n]? = some 0 := by
    rw [blank, Vector.getElem?_replicate, if_pos inside]
  have loaded := blank.putAllByte fontStart font inside
  rw [overlayOutside _ (by omega), zero] at loaded
  rwa [powerOn, loadFont]

/- What no store can reach is as it was at power-on, and the rest is cleared. -/
theorem clearedPowerOn {m n : Machine} (old : Sound m) (new : Sound n)
    (powered : n.memory = powerOn) : m.memory.clearProgram = powerOn := by
  apply alike
  intro a inside
  by_cases below : a < programStart
  · refine (m.memory.putAllBelow _ below).trans ?_
    rw [old.reserved a below, ← new.reserved a below, powered]
  · have program := Nat.le_of_not_lt below
    rw [m.memory.clearedByte program inside, powerOnByte program inside]

end Memory

namespace Machine

def loadLast (m : Machine) : Option (List UInt8) → Machine
  | none => m
  | some image => (m.load image).1

def settings (m : Machine) : Dialect × Bool × List UInt8 := (m.dialect, m.skipUnknown, m.program)

theorem stepSettings (m : Machine) : m.step.1.settings = m.settings := by
  refine stepKeeps settings (fun _ _ _ _ _ _ => rfl) ?_
  intro _ i _
  have kept := executeFrame (m.begun i) i
  rw [settings, kept.dialect, kept.skipUnknown, kept.program]
  rfl

theorem evolvedSettings {m n : Machine} (path : Evolves m n) : n.settings = m.settings :=
  evolvesKeeps (P := fun n => n.settings = m.settings) (fun n h => (stepSettings n).trans h)
    (fun _ h => h) path rfl

theorem serveSettings (m : Machine) {call : HostCall} (unloaded : ∀ image, call ≠ .load image) :
    (m.serve call).settings = m.settings := by
  by_cases restart : call = .restart
  · rw [restart]
    rfl
  · obtain ⟨_, _, _, _, _, _, _, served⟩ := serveRest m unloaded restart
    rw [served]
    rfl

theorem loadSettings (m : Machine) (image : List UInt8) :
    (m.load image).1.settings = (m.dialect, m.skipUnknown,
      if Memory.loadFault? image.length programStart = none then image else m.program) := by
  rw [loadChecked]
  cases refused : Memory.loadFault? image.length programStart <;> rfl

theorem serveOptions (m : Machine) (call : HostCall) :
    (m.serve call).dialect = m.dialect ∧ (m.serve call).skipUnknown = m.skipUnknown := by
  have both (program : List UInt8)
      (settings : (m.serve call).settings = (m.dialect, m.skipUnknown, program)) :
      (m.serve call).dialect = m.dialect ∧ (m.serve call).skipUnknown = m.skipUnknown :=
    ⟨congrArg (·.1) settings, congrArg (·.2.1) settings⟩
  by_cases load : ∃ image, call = .load image
  · obtain ⟨image, rfl⟩ := load
    exact both _ (m.loadSettings image)
  · exact both _ (m.serveSettings (fun image same => load ⟨image, same⟩))

end Machine

variable {R : Type}

theorem imageAccepted {a : Action R} {image : List UInt8} (own : a.image? = some image) :
    Memory.loadFault? image.length programStart = none := by
  unfold Action.image? at own
  split at own
  · split at own
    · cases own
      assumption
    · contradiction
  · contradiction

theorem lastAccepted {before : Option (List UInt8)}
    (accepted : ∀ image ∈ before, Memory.loadFault? image.length programStart = none)
    (actions : List (Action R)) :
    ∀ image ∈ lastImage? before actions,
      Memory.loadFault? image.length programStart = none := by
  induction actions generalizing before with
  | nil => exact accepted
  | cons a rest ih =>
    refine ih ?_
    intro image found
    cases own : a.image? with
    | none =>
      rw [own, Option.none_or] at found
      exact accepted image found
    | some new =>
      rw [own, Option.some_or] at found
      cases found
      exact imageAccepted own

theorem restartFresh {m : Machine} (sound : Sound m) {dialect : Dialect} {skipUnknown : Bool}
    {last : Option (List UInt8)} (settings : m.settings = (dialect, skipUnknown, last.getD []))
    (accepted : ∀ image ∈ last, Memory.loadFault? image.length programStart = none)
    (generator : Generator) (journal : Journal) :
    ∃ record, m.restart =
      { (Machine.powerOn dialect skipUnknown generator journal).loadLast last with
        generator := m.generator, journal := record } := by
  obtain ⟨rfl, rfl, program⟩ : m.dialect = dialect ∧ m.skipUnknown = skipUnknown ∧
      m.program = last.getD [] := by simpa [Machine.settings] using settings
  have cleared := Memory.clearedPowerOn sound
    (Machine.powerOnSound m.dialect m.skipUnknown generator journal) rfl
  cases last with
  | none =>
    refine ⟨m.restart.journal, ?_⟩
    simp only [Machine.restart, Machine.report, program, cleared]
    rfl
  | some image =>
    have unrefused := accepted image rfl
    refine ⟨m.restart.journal, ?_⟩
    simp only [Machine.restart, Machine.report, program, cleared, Machine.loadLast, Machine.loadChecked,
      unrefused]
    rfl

variable [Add R] [Sub R] [Mul R] [Div R] [LT R] [DecidableLT R] [LE R] [DecidableLE R]
  [Number.Scalar R]

theorem actSettings (s : Session R) (a : Action R) :
    (s.act a).machine.settings = (s.machine.dialect, s.machine.skipUnknown,
      a.image?.getD s.machine.program) := by
  cases a with
  | host call =>
    by_cases load : ∃ image, call = .load image
    · obtain ⟨image, rfl⟩ := load
      refine (s.machine.loadSettings image).trans ?_
      rw [Action.image?]
      split <;> rfl
    · have other : ∀ image, call ≠ .load image := fun image same => load ⟨image, same⟩
      have none : (Action.host call : Action R).image? = none := by
        cases call <;> first | rfl | exact absurd rfl (other _)
      rw [none]
      exact s.machine.serveSettings other
  | step => exact s.machine.stepSettings
  | run limit => exact Machine.evolvedSettings (Machine.runEvolves _ _)
  | tick => rfl
  | clock cpuHz timerHz =>
    rw [Session.clockMachine]
    rfl
  | frame elapsed => exact Machine.evolvedSettings (Session.frameEvolves s elapsed)
  | advance elapsed => exact Machine.evolvedSettings (Session.advanceEvolves s elapsed)

theorem afterSettings {s : Session R} {before : Option (List UInt8)} {dialect : Dialect}
    {skipUnknown : Bool}
    (settings : s.machine.settings = (dialect, skipUnknown, before.getD []))
    (actions : List (Action R)) :
    (s.after actions).machine.settings =
      (dialect, skipUnknown, (lastImage? before actions).getD []) := by
  induction actions generalizing s before with
  | nil => exact settings
  | cons a rest ih =>
    obtain ⟨rfl, rfl, program⟩ : s.machine.dialect = dialect ∧ s.machine.skipUnknown = skipUnknown ∧
        s.machine.program = before.getD [] := by simpa [Machine.settings] using settings
    have next : (s.act a).machine.settings =
        (s.machine.dialect, s.machine.skipUnknown, (a.image?.or before).getD []) := by
      rw [actSettings, program]
      cases a.image? <;> rfl
    exact ih next

theorem restartAfter (schedule : Schedule R) (dialect : Dialect) (skipUnknown : Bool)
    (generator fresh : Generator) (journal blank : Journal) (actions : List (Action R)) :
    let m := ((Session.mk schedule
      (.powerOn dialect skipUnknown generator journal)).after actions).machine
    (∃ record, m.restart =
      { (Machine.powerOn dialect skipUnknown fresh blank).loadLast (lastImage? none actions) with
        generator := m.generator, journal := record }) ∧
      ∀ image f, (m.load image).2 = some f → (m.load image).1.restart = m.restart := by
  intro m
  have sound : Sound m := Session.afterKept (Machine.soundKept _) (Session.lawfulAll _ actions)
    (Machine.powerOnSound dialect skipUnknown generator journal)
  have start : (Machine.powerOn dialect skipUnknown generator journal).settings =
    (dialect, skipUnknown, (none : Option (List UInt8)).getD []) := rfl
  refine ⟨restartFresh sound (afterSettings start actions) (lastAccepted (by simp) actions)
    fresh blank, ?_⟩
  intro image f refused
  rw [Machine.loadRefused refused]

end Chip8
