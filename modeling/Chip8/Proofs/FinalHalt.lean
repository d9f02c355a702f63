import Chip8.Proofs.PlainRun
import Chip8.Proofs.PowerCycle
import Chip8.Proofs.TickRate

/-! A halt is final. A machine that has halted executes nothing more: it answers every step with
the fault that halted it, images and keys reach only its memory and its keypad, and time moves its
timers as it moves those of any other machine. A restart alone ends the halt. -/
namespace Chip8

def HostCall.feeds : HostCall → Bool
  | .load _ | .press _ _ => true
  | _ => false

def Memory.laden (m : Memory) (images : List (List UInt8)) : Memory :=
  images.foldl (fun memory image => memory.putAll programStart image) m

namespace Machine
variable {m : Machine} {cause : Fault}

theorem runHalted (halt : m.haltedBy = some cause) (limit : Nat) :
    m.run (limit + 1) = (m, .halted) := by
  simp only [run, stepHalted halt, Fault.reason]

theorem runStill (halt : m.haltedBy = some cause) (limit : Nat) : (m.run limit).1 = m := by
  cases limit with
  | zero => rfl
  | succ limit => rw [runHalted halt]

theorem serveHalt (m : Machine) {call : HostCall} (powered : call ≠ .restart) :
    (m.serve call).haltedBy = m.haltedBy := by
  by_cases load : ∃ image, call = .load image
  · obtain ⟨image, rfl⟩ := load
    simp only [serve, Machine.load]
    split <;> rfl
  · obtain ⟨_, _, _, _, _, _, _, served⟩ :=
      serveRest m (fun image same => load ⟨image, same⟩) powered
    rw [served]

theorem serveFed {R : Type} (m : Machine) {call : HostCall} (feeds : call.feeds = true) :
    ∃ keypad program journal, m.serve call =
      { m with
        keypad, program, journal
        memory := m.memory.laden (Action.host call : Action R).image?.toList } := by
  cases call <;> simp only [HostCall.feeds, Bool.false_eq_true] at feeds
  case load image =>
    simp only [serve, loadChecked, Action.image?]
    cases Memory.loadFault? image.length programStart <;> exact ⟨_, _, _, rfl⟩
  case press key down =>
    simp only [serve, setKeys]
    split <;> exact ⟨_, _, _, rfl⟩

end Machine

variable {R : Type} [Add R] [Sub R] [Mul R] [Div R] [LT R] [DecidableLT R] [LE R]
  [DecidableLE R] [Number.Scalar R]

def Schedule.ticksOf (s : Schedule R) : Action R → Nat
  | .tick => 1
  | a => (s.beatsOf a).count .tick

namespace Session
variable {s : Session R} {cause : Fault}

def ticked (s : Session R) : List (Action R) → Nat
  | [] => 0
  | a :: rest => s.schedule.ticksOf a + (s.act a).ticked rest

theorem actTicked (s : Session R) {a : Action R} (powered : a ≠ .host .restart) :
    (s.act a).machine.timers.ticks = s.machine.timers.ticks + s.schedule.ticksOf a := by
  have time (timed : a.timed = true) : (s.act a).machine.timers.ticks =
      s.machine.timers.ticks + (s.schedule.beatsOf a).count .tick := by
    rw [(timedPassed s timed).machine]
    exact (Machine.playTicks (s.machine, {}) _).1
  cases a with
  | host call => exact Machine.serveTicks _ (fun same => powered (congrArg Action.host same))
  | step => exact Machine.stepTicks _
  | run limit => exact Machine.runTicks _ _
  | tick => rfl
  | clock cpuHz timerHz => rw [clockMachine]; rfl
  | frame elapsed | advance elapsed => exact time rfl

theorem afterTicked (s : Session R) {actions : List (Action R)}
    (powered : Action.host .restart ∉ actions) :
    (s.after actions).machine.timers.ticks = s.machine.timers.ticks + s.ticked actions := by
  induction actions generalizing s with
  | nil => rfl
  | cons a rest ih =>
    obtain ⟨first, later⟩ := List.ne_and_not_mem_of_not_mem_cons powered
    rw [ticked, ← Nat.add_assoc, ← s.actTicked first.symm]
    exact ih (s.act a) later

theorem afterTimeline (schedule : Schedule R) (m n : Machine) (actions : List (Action R)) :
    (Session.mk schedule n).ticked actions = (Session.mk schedule m).ticked actions ∧
      ((Session.mk schedule n).after actions).schedule =
        ((Session.mk schedule m).after actions).schedule := by
  induction actions generalizing schedule m n with
  | nil => exact ⟨rfl, rfl⟩
  | cons a rest ih =>
    have other : (Session.mk schedule n).act a =
        ⟨((Session.mk schedule m).act a).schedule, ((Session.mk schedule n).act a).machine⟩ := by
      rw [← actSchedule schedule m n a]
    obtain ⟨count, ended⟩ := ih ((Session.mk schedule m).act a).schedule
      ((Session.mk schedule m).act a).machine ((Session.mk schedule n).act a).machine
    rw [← other] at count ended
    exact ⟨congrArg (schedule.ticksOf a + ·) count, ended⟩

theorem actHalted (halt : s.machine.haltedBy = some cause) {a : Action R}
    (fed : ∀ call, a = .host call → call.feeds = true) :
    ∃ keypad program journal, (s.act a).machine =
      { s.machine with
        keypad, program, journal
        timers := s.machine.timers.tickTimes (s.schedule.ticksOf a)
        memory := s.machine.memory.laden a.image?.toList } := by
  have time (timed : a.timed = true) : (s.act a).machine =
      s.machine.retime (s.machine.timers.tickTimes ((s.schedule.beatsOf a).count .tick)) := by
    have stuck : (s.machine.halted || s.machine.blocked) = true := by
      simp [Machine.halted, halt]
    rw [(timedPassed s timed).machine, Machine.playPasses]
    exact Machine.stuckPasses stuck _
  cases a with
  | host call => exact s.machine.serveFed (fed call rfl)
  | step => exact ⟨_, _, _, congrArg Prod.fst (Machine.stepHalted halt)⟩
  | run limit => exact ⟨_, _, _, Machine.runStill halt _⟩
  | tick => exact ⟨_, _, _, rfl⟩
  | clock cpuHz timerHz => exact ⟨_, _, _, clockMachine s cpuHz timerHz⟩
  | frame elapsed | advance elapsed => exact ⟨_, _, _, time rfl⟩

theorem afterHalted (halt : s.machine.haltedBy = some cause) {actions : List (Action R)}
    (fed : ∀ call, Action.host call ∈ actions → call.feeds = true) :
    ∃ keypad program journal, (s.after actions).machine =
      { s.machine with
        keypad, program, journal
        timers := s.machine.timers.tickTimes (s.ticked actions)
        memory := s.machine.memory.laden (actions.filterMap Action.image?) } := by
  induction actions generalizing s with
  | nil => exact ⟨_, _, _, rfl⟩
  | cons a rest ih =>
    obtain ⟨_, _, _, first⟩ := actHalted halt (a := a)
      (fun call same => fed call (same ▸ List.mem_cons_self))
    have still : (s.act a).machine.haltedBy = some cause := by
      rw [first]
      exact halt
    obtain ⟨keypad, program, journal, later⟩ := ih still
      (fun call made => fed call (List.mem_cons_of_mem a made))
    refine ⟨keypad, program, journal, ?_⟩
    have images : (a :: rest).filterMap Action.image? =
        a.image?.toList ++ rest.filterMap Action.image? := by
      rw [List.filterMap_cons]
      cases a.image? <;> rfl
    rw [images, Memory.laden, List.foldl_append, ticked, Timers.tickTimesAdd]
    refine later.trans ?_
    rw [first]
    rfl

theorem actEnds (halt : s.machine.haltedBy = some cause) (a : Action R) :
    (s.act a).machine.halted = false ↔ a = .host .restart := by
  constructor
  · intro running
    by_contra other
    have still : (s.act a).machine.haltedBy = some cause := by
      by_cases host : ∃ call, a = .host call
      · obtain ⟨call, rfl⟩ := host
        have powered : call ≠ .restart := fun same => other (congrArg Action.host same)
        exact (s.machine.serveHalt powered).trans halt
      · obtain ⟨_, _, _, same⟩ := actHalted halt (a := a)
          (fun call made => absurd ⟨call, made⟩ host)
        rw [same]
        exact halt
    simp [Machine.halted, still] at running
  · rintro rfl
    rfl

end Session

structure HeldHalt (s : Session R) (cause : Fault) (actions : List (Action R))
    (m : Machine) : Prop where
  halted : m.halted = true
  haltedBy : m.haltedBy = some cause
  fault : m.fault = s.machine.fault
  known : WellFormed s.machine → m.fault = some cause
  step : m.step = (m, .error (.halted cause))
  run : ∀ limit, m.run (limit + 1) = (m, .halted)
  registers : m.registers = s.machine.registers
  screen : m.screen = s.machine.screen
  generator : m.generator = s.machine.generator
  steps : m.steps = s.machine.steps
  memory : m.memory = s.machine.memory.laden (actions.filterMap Action.image?)
  timers : m.timers = s.machine.timers.tickTimes (s.ticked actions)
  /- Any other machine gets as many ticks of these actions, and the timeline is the same. -/
  shared : ∀ n : Machine,
    ((Session.mk s.schedule n).after actions).machine.timers.ticks =
        n.timers.ticks + s.ticked actions ∧
      ((Session.mk s.schedule n).after actions).schedule = (s.after actions).schedule
  ends : ∀ a : Action R, ((s.after actions).act a).machine.halted = false ↔ a = .host .restart

theorem haltFinal {s : Session R} {cause : Fault} (halt : s.machine.haltedBy = some cause)
    {actions : List (Action R)} (fed : ∀ call, Action.host call ∈ actions → call.feeds = true) :
    HeldHalt s cause actions (s.after actions).machine := by
  obtain ⟨keypad, program, journal, after⟩ := Session.afterHalted halt fed
  have still : (s.after actions).machine.haltedBy = some cause := by
    rw [after]
    exact halt
  have powered : Action.host .restart ∉ actions := fun made => absurd (fed _ made) (by decide)
  constructor
  case halted => simp [Machine.halted, still]
  case haltedBy => exact still
  case known =>
    intro wellFormed
    rw [after]
    exact wellFormed.halt.symm.trans halt
  case step => exact Machine.stepHalted still
  case run => exact Machine.runHalted still
  case shared =>
    intro n
    obtain ⟨count, schedule⟩ := Session.afterTimeline s.schedule s.machine n actions
    refine ⟨?_, schedule⟩
    rw [Session.afterTicked _ powered, count]
  case ends => exact Session.actEnds still
  all_goals rw [after]

open Number (Quantity)

def stopped : Session Quantity := idleSession.after [.host (.load [0x00, 0xEE]), .step]

def revival : List (Action Quantity) :=
  [.step, .run 5, .host (.load [0x60, 0x05]), .host (.press 5 true), .tick, .frame none,
    .advance (.real 0.05)]

theorem stoppedStays :
    stopped.machine.haltedBy = some (.stackUnderflow 0x202) ∧
      (∀ call, Action.host call ∈ revival → call.feeds = true) ∧
      HeldHalt stopped (.stackUnderflow 0x202) revival (stopped.after revival).machine := by
  have halt : stopped.machine.haltedBy = some (.stackUnderflow 0x202) := by decide +kernel
  have fed : ∀ call, Action.host call ∈ revival → call.feeds = true := by
    simp [revival, HostCall.feeds]
  exact ⟨halt, fed, haltFinal halt fed⟩

end Chip8
