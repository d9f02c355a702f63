import Chip8.Proofs.FiniteRate
import Chip8.Proofs.PlainPath
import Chip8.Proofs.PowerCycle
import Chip8.Runner

/-! How a run ends that drives its frames one after another, on a terminal that can read its title.
It is refused before the first frame, or its frames are counted, and it fails if they stop the
machine. -/
namespace Chip8
open Number (Quantity value?)
open CommandLine (Settings Request)

namespace Hosted

/- The frames of a run: all that were asked for, unless one reports a fault, which is the last. -/
structure Driven (h : Hosted Quantity) (frames : Nat) (seen : List (Hosted Quantity × Report)) :
    Prop where
  visits : h.visits (List.replicate seen.length none) = .ok seen
  most : seen.length ≤ frames
  running : ∀ visit ∈ seen.dropLast,
    visit.2.error = none ∧ visit.1.session.machine.halted = false
  ends : seen.length = frames ∨ ∃ visit, seen.getLast? = some visit ∧
    visit.2.error.isSome = true ∧ visit.1.session.machine.halted = true

theorem runDriven {rate : ℚ} {h : Hosted Quantity} (solvent : Solvent rate h.session.schedule)
    (sound : Sound h.session.machine) (running : h.session.machine.halted = false)
    (reports : Array Report) (frames : Nat) :
    ∃ seen out, h.run reports frames = (h.latest seen, .ok out) ∧ Driven h frames seen := by
  induction frames generalizing h reports with
  | zero =>
    exact ⟨[], reports, rfl, rfl, Nat.le_refl 0, List.forall_mem_nil _, .inl rfl⟩
  | succ frames ih =>
    obtain ⟨n, report, framed, left⟩ := plainFrame solvent
    have fails := framedFails sound running (frameReturned framed)
    cases failed : report.error.isSome with
    | true =>
      refine ⟨[(n, report)], reports.push report, by simp [run, framed, failed]; rfl, ?_⟩
      constructor
      case visits => simp [visits, framed, Except.map]
      case most => simp
      case running => simp
      case ends => exact .inr ⟨(n, report), rfl, failed, fails.symm.trans failed⟩
    | false =>
      have goes := fails.symm.trans failed
      obtain ⟨seen, out, ran, driven⟩ :=
        ih left (framedSound sound (frameReturned framed)) goes (reports.push report)
      refine ⟨(n, report) :: seen, out, by simp [run, framed, failed, ran]; rfl, ?_⟩
      have own : report.error = none := by simpa using failed
      constructor
      case visits => simp [visits, framed, List.replicate_succ, driven.visits, Except.map]
      case most => simpa using driven.most
      case running =>
        cases seen with
        | nil => exact List.forall_mem_nil _
        | cons visit rest => exact List.forall_mem_cons.mpr ⟨⟨own, goes⟩, driven.running⟩
      case ends =>
        obtain all | ⟨visit, last, ended⟩ := driven.ends
        · exact .inl (congrArg (· + 1) all)
        · exact .inr ⟨visit, by rw [List.getLast?_cons, last]; rfl, ended⟩

end Hosted

structure Stated (s : Settings) (frames : Int) (rate : Quantity) (dialect : Dialect)
    (keys : List (Fin 16)) : Prop where
  frames : s.frames = .value frames
  rate : s.rate = .value rate
  dialect : s.dialect = .value dialect
  press : s.press = keys.map .value
  seed : s.seed ≠ some .nothing

namespace Runner

def powered (r : Request) (dialect : Dialect) (generator : Generator) : Machine :=
  .powerOn dialect r.settings.skipUnknown generator
    (r.settings.journal.record (.dialectChosen dialect))

theorem requireValue {α : Type} (journal : Journal) (p : CommandLine.Parameter) (a : α) :
    require journal p (.value a) = .ok a := rfl

theorem requireAll {α : Type} (journal : Journal) (p : CommandLine.Parameter) (values : List α) :
    (values.map CommandLine.Given.value).mapM (require journal p) = .ok values := by
  induction values with
  | nil => rfl
  | cons a rest ih =>
    rw [List.map_cons, List.mapM_cons, ih]
    rfl

variable {r : Request} {frames : Int} {rate : Quantity} {dialect : Dialect}
  {keys : List (Fin 16)}

theorem startStated (image : List UInt8) (generator : Generator)
    (stated : Stated r.settings frames rate dialect keys) :
    start r (.ok image) generator =
      match (powered r dialect generator).load image with
      | (m, some f) => .error (.failed (m.journal.record (.rejected r.program f)))
      | (m, none) =>
        match Schedule.start rate (.whole defaultTimerHz) with
        | .error e => .error (.failed (m.journal.record (.refused (e.message Quantity.text))))
        | .ok schedule => .ok (.holding schedule m keys, frames.toNat) := by
  obtain ⟨framesGiven, rateGiven, dialectGiven, pressed, seeded⟩ := stated
  have seed (journal : Journal) : ∃ seed,
      r.settings.seed.mapM (require journal .seed) = .ok seed := by
    cases given : r.settings.seed with
    | none => exact ⟨none, rfl⟩
    | some seed =>
      cases seed with
      | nothing => exact absurd given seeded
      | value n => exact ⟨some n, rfl⟩
  obtain ⟨seed, seedGiven⟩ := seed (r.settings.journal.record (.dialectChosen dialect))
  simp only [start, prepare, imageOf, dialectGiven, framesGiven, rateGiven, pressed, insert,
    timeline, requireValue, requireAll, seedGiven, bind, Except.bind, pure, Except.pure, powered]
  generalize Machine.load _ image = loaded
  obtain ⟨m, _ | f⟩ := loaded
  · cases Schedule.start rate (.whole defaultTimerHz) <;> rfl
  · rfl

end Runner

namespace Runner

def titled (renderer : Renderer) (r : Request) : Prop :=
  ∃ draw, renderer.box 64 (Path.ofText r.program).name = .ok draw

theorem displayReads (renderer : Renderer) (r : Request) (h : Hosted Quantity) :
    (∃ lines, display renderer r h = .ok lines) ↔ titled renderer r := by
  unfold display titled
  cases renderer.box 64 (Path.ofText r.program).name <;> simp [bind, Except.bind, pure, Except.pure]

end Runner

structure Finished (renderer : Renderer) (r : Request) (start : Hosted Quantity) (frames : Nat)
    (seen : List (Hosted Quantity × Report)) (outcome : Outcome) : Prop where
  driven : start.Driven frames seen
  frames : (start.latest seen).host.frames = seen.length
  instructions : (start.latest seen).host.instructions = (start.latest seen).session.machine.steps
  soundFrames : (start.latest seen).host.soundFrames =
    seen.countP fun visit => visit.1.session.machine.timers.sound ≠ 0
  lines : Runner.display renderer r (start.latest seen) = .ok outcome.lines
  ending : outcome.ending =
    if (start.latest seen).session.machine.halted then .failed else .completed

theorem driveFinished {renderer : Renderer} {r : Request} {rate : ℚ} {h : Hosted Quantity}
    (titled : Runner.titled renderer r) (solvent : Solvent rate h.session.schedule)
    (sound : Sound h.session.machine) (running : h.session.machine.halted = false)
    (fresh : h.session.machine.steps = 0) (unused : h.host.frames = 0 ∧ h.host.instructions = 0 ∧
      h.host.soundFrames = 0) (frames : Nat) :
    ∃ seen, Finished renderer r h frames seen (Runner.driveFrames renderer r frames h) := by
  obtain ⟨seen, out, ran, driven⟩ := Hosted.runDriven solvent sound running #[] frames
  obtain ⟨lines, shown⟩ := (Runner.displayReads renderer r (h.latest seen)).mpr titled
  have noted := Hosted.visitsNoted driven.visits
  have kept {h n : Hosted Quantity} {length report} (sound : Sound h.session.machine)
      (framed : Hosted.Framed h length n report) : Sound n.session.machine :=
    Hosted.framedSound sound framed
  have last : Sound (h.latest seen).session.machine :=
    (Hosted.visitsKeep kept driven.visits sound).2
  have halt : (h.latest seen).session.machine.halted =
      (h.latest seen).session.machine.fault.isSome := congrArg Option.isSome last.halt
  have concluded : Runner.driveFrames renderer r frames h =
      Runner.conclude renderer r (h.latest seen) := by
    rw [Runner.driveFrames, ran]
  refine ⟨seen, ?_⟩
  rw [concluded]
  unfold Runner.conclude
  rw [shown]
  constructor
  case driven => exact driven
  case frames => rw [noted.frames, unused.1, Nat.zero_add]
  case instructions =>
    have counted := noted.instructions
    rwa [fresh, unused.2.1, Nat.add_zero, Nat.zero_add] at counted
  case soundFrames =>
    rw [noted.soundFrames, unused.2.2, Nat.zero_add]
    refine List.countP_congr ?_
    intro visit _
    simp [Timers.soundActive]
  case lines => cases (h.latest seen).session.machine.fault <;> exact shown
  case ending =>
    rw [halt]
    cases (h.latest seen).session.machine.fault <;> rfl

theorem loadFits {size : Nat} : Memory.loadFault? size programStart = none ↔ size ≤ 3584 := by
  have readable : Memory.readFault? programStart = none := rfl
  have writable : Memory.writeFault? programStart = none := rfl
  have room : ((memorySize : Int) - (programStart : Nat)) = 3584 := rfl
  simp only [Memory.loadFault?, readable, writable, room, ite_self]
  split
  · simp only [reduceCtorEq, false_iff]
    omega
  · simp only [true_iff]
    omega

variable {r : Request} {frames : Int} {rate : Quantity} {dialect : Dialect}
  {keys : List (Fin 16)}

theorem loadedRest (m : Machine) (image : List UInt8) : ∃ memory program journal,
    (m.load image).1 = { m with memory, program, journal } := by
  unfold Machine.load
  split <;> exact ⟨_, _, _, rfl⟩

theorem holdingFresh (r : Request) (dialect : Dialect) (generator : Generator)
    (schedule : Schedule Quantity) (image : List UInt8) (keys : List (Fin 16)) :
    Sound (Hosted.holding schedule ((Runner.powered r dialect generator).load image).1
        keys).session.machine ∧
      (Hosted.holding schedule ((Runner.powered r dialect generator).load image).1
        keys).session.machine.halted = false ∧
      (Hosted.holding schedule ((Runner.powered r dialect generator).load image).1
        keys).session.machine.steps = 0 := by
  have sound : Sound (Runner.powered r dialect generator) := Machine.powerOnSound _ _ _ _
  refine ⟨Machine.holdSound (Machine.loadSound sound image) keys, ?_, ?_⟩
  all_goals
    obtain ⟨_, _, _, loaded⟩ := loadedRest (Runner.powered r dialect generator) image
    rw [Hosted.holding, Host.holdKeypad, loaded]
    rfl

namespace Runner

theorem startRefused {image : List UInt8} (generator : Generator)
    (stated : Stated r.settings frames rate dialect keys)
    (refused : 3584 < image.length ∨ rate ≤ .whole 0) :
    ∃ journal, start r (.ok image) generator = .error (.failed journal) := by
  have started := startStated image generator stated
  have answer := (powered r dialect generator).loadAnswer image
  cases loaded : (powered r dialect generator).load image with
  | mk m fault =>
    rw [loaded] at started answer
    cases fault with
    | some f => exact ⟨_, started⟩
    | none =>
      have fits := loadFits.mp answer.symm
      have slow : rate ≤ .whole 0 := refused.resolve_left (by omega)
      have error : Schedule.start rate (.whole defaultTimerHz) = .error (.rate .cpu rate) :=
        if_pos slow
      simp only [error] at started
      exact ⟨_, started⟩

theorem startAccepted {image : List UInt8} (generator : Generator)
    (stated : Stated r.settings frames rate dialect keys)
    (fits : image.length ≤ 3584) (fast : ¬rate ≤ .whole 0) :
    ∃ schedule, Schedule.start rate (.whole defaultTimerHz) = .ok schedule ∧
      start r (.ok image) generator =
        .ok (.holding schedule ((powered r dialect generator).load image).1 keys,
          frames.toNat) := by
  have ticking : ¬Quantity.whole defaultTimerHz ≤ .whole 0 := by decide
  obtain ⟨schedule, fresh⟩ : ∃ schedule,
      Schedule.start rate (.whole defaultTimerHz) = .ok schedule :=
    ⟨_, (if_neg fast).trans (if_neg ticking)⟩
  have accepted : ((powered r dialect generator).load image).2 = none :=
    ((powered r dialect generator).loadAnswer image).trans (loadFits.mpr fits)
  refine ⟨schedule, fresh, ?_⟩
  rw [startStated image generator stated]
  generalize (powered r dialect generator).load image = loaded at accepted ⊢
  obtain ⟨m, fault⟩ := loaded
  cases accepted
  simp only [fresh]

end Runner

theorem runOutcome {C : Type} (renderer : Renderer) (image : List UInt8) (generator : Generator)
    (wall : WallClock C Quantity) (clock : C)
    (stated : Stated r.settings frames rate dialect keys)
    (unpaced : r.settings.realtime = false) (finite : rate.finite)
    (titled : Runner.titled renderer r) :
    (3584 < image.length ∨ rate ≤ .whole 0 →
      ∃ journal, Runner.start r (.ok image) generator = .error (.failed journal) ∧
        Runner.run renderer r (.ok image) generator wall clock = .failed journal) ∧
    (image.length ≤ 3584 → ¬rate ≤ .whole 0 →
      ∃ schedule seen, Schedule.start rate (.whole defaultTimerHz) = .ok schedule ∧
        Finished renderer r
          (.holding schedule ((Runner.powered r dialect generator).load image).1 keys)
          frames.toNat seen (Runner.run renderer r (.ok image) generator wall clock)) := by
  constructor
  · intro refused
    obtain ⟨journal, failed⟩ := Runner.startRefused generator stated refused
    exact ⟨journal, failed, by rw [Runner.run, failed]⟩
  · intro fits fast
    obtain ⟨schedule, fresh, started⟩ := Runner.startAccepted generator stated fits fast
    obtain ⟨v, solvent⟩ := finiteSolvent finite fresh
    obtain ⟨sound, running, steps⟩ := holdingFresh r dialect generator schedule image keys
    obtain ⟨seen, finished⟩ := driveFinished titled solvent sound running steps ⟨rfl, rfl, rfl⟩
      frames.toNat
    refine ⟨schedule, seen, fresh, ?_⟩
    rw [Runner.run, started]
    simpa [unpaced] using finished

def stillClock : WallClock Unit Quantity := ⟨fun _ => (.real 0, ()), fun _ _ => some ()⟩

def idleRequest (rate : Quantity) (keys : List (Fin 16)) : Request :=
  ⟨"idle", { frames := .value 5, rate := .value rate, press := keys.map .value }⟩

def plainRenderer : Renderer where
  box columns title :=
    let space := columns - title.length - 2
    let rule (n : Nat) := String.ofList (List.replicate n '─')
    if title = "[rgb(,,)]" then .error "invalid literal for int() with base 10: ''"
    else .ok fun rows =>
      let top := "╭─" ++ rule (space / 2) ++ " " ++ title ++ " " ++ rule (space - space / 2) ++ "─╮"
      top :: rows.map (fun row => "│ " ++ row ++ " │") ++ ["╰" ++ rule (columns + 2) ++ "╯"]
  line text := [text]

theorem idleTitled {r : Request} (idle : r.program = "idle") : Runner.titled plainRenderer r := by
  have name : (Path.ofText "idle").name = "idle" :=
    Path.plainName (by decide) (by decide) (by decide)
  rw [Runner.titled, idle, name]
  exact ⟨_, rfl⟩

theorem idleOutcome :
    (∃ journal, Runner.run plainRenderer (idleRequest (.whole 0) [5, 5]) (.ok [0x12, 0x00])
      ⟨Vector.replicate 624 0, 624⟩ stillClock () = .failed journal) ∧
    ∃ schedule seen, Schedule.start (.whole 700) (.whole defaultTimerHz) = .ok schedule ∧
      Finished plainRenderer (idleRequest (.whole 700) [5, 5]) (.holding schedule
        ((Runner.powered (idleRequest (.whole 700) [5, 5]) {} ⟨Vector.replicate 624 0, 624⟩).load
          [0x12, 0x00]).1 [5, 5]) 5 seen
        (Runner.run plainRenderer (idleRequest (.whole 700) [5, 5]) (.ok [0x12, 0x00])
          ⟨Vector.replicate 624 0, 624⟩ stillClock ()) := by
  have stated (rate : Quantity) (keys : List (Fin 16)) :
      Stated (idleRequest rate keys).settings 5 rate {} keys := ⟨rfl, rfl, rfl, rfl, nofun⟩
  constructor
  · obtain ⟨journal, -, ran⟩ := (runOutcome plainRenderer [0x12, 0x00] _ stillClock ()
      (stated (.whole 0) [5, 5]) rfl ⟨0, rfl, rfl⟩ (idleTitled rfl)).1 (.inr (by decide))
    exact ⟨journal, ran⟩
  · exact (runOutcome plainRenderer [0x12, 0x00] _ stillClock () (stated (.whole 700) [5, 5]) rfl
      ⟨700, rfl, rfl⟩ (idleTitled rfl)).2 (by decide) (by decide)

def brokenTitleRequest : Request := ⟨"[rgb(,,)]", { frames := .value 0 }⟩

theorem brokenTitleRun :
    (Runner.run plainRenderer brokenTitleRequest (.ok [0x12, 0x00])
      ⟨Vector.replicate 624 0, 624⟩ stillClock ()).ending =
        .broken (.title "invalid literal for int() with base 10: ''") ∧
    (Runner.run plainRenderer brokenTitleRequest (.ok [0x12, 0x00])
      ⟨Vector.replicate 624 0, 624⟩ stillClock ()).lines = [] := by
  have stated : Stated brokenTitleRequest.settings 0 (.whole defaultCpuHz) {} [] :=
    ⟨rfl, rfl, rfl, rfl, nofun⟩
  obtain ⟨schedule, -, started⟩ := Runner.startAccepted ⟨Vector.replicate 624 0, 624⟩ stated
    (show [0x12, 0x00].length ≤ 3584 by decide) (by decide)
  have name : (Path.ofText "[rgb(,,)]").name = "[rgb(,,)]" :=
    Path.plainName (by decide) (by decide) (by decide)
  have undisplayed (h : Hosted Quantity) : Runner.display plainRenderer brokenTitleRequest h =
      .error "invalid literal for int() with base 10: ''" := by
    rw [Runner.display, brokenTitleRequest, name]
    rfl
  have unpaced : ¬brokenTitleRequest.settings.realtime = true := Bool.false_ne_true
  have none : (0 : Int).toNat = 0 := rfl
  rw [Runner.run, started]
  simp only [if_neg unpaced, none, Runner.driveFrames, Hosted.run, Runner.conclude, undisplayed,
    Outcome.broken, and_self]

end Chip8
