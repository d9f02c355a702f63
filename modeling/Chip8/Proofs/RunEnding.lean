import Chip8.Proofs.PacedFrames
import Chip8.Proofs.RunOutcome

/-! How a run can end. What cannot be run is refused, and the run fails. But neither a rate that is
no finite double is refused nor a title that cannot be read, and each of them breaks the run. -/
namespace Chip8
open Number (Quantity Scalar value?)
open CommandLine (Settings Request)

def Ending.returned (e : Ending) : Prop := e = .completed ∨ e = .failed

namespace Runner

variable {renderer : Renderer}

theorem concludeReturns (r : Request) (h : Hosted Quantity) :
    (conclude renderer r h).ending.returned ↔ titled renderer r := by
  rw [← displayReads renderer r h, conclude]
  cases display renderer r h with
  | error e => simp [Outcome.broken, Ending.returned]
  | ok lines => cases h.session.machine.fault <;> simp [Ending.returned]

theorem concludeBreaks (r : Request) (h : Hosted Quantity) :
    (∃ error, (conclude renderer r h).ending = .broken error) ↔ ¬titled renderer r := by
  rw [← displayReads renderer r h, conclude]
  cases display renderer r h with
  | error e => simp [Outcome.broken]
  | ok lines => cases h.session.machine.fault <;> simp

/- A rate that is no finite double is not refused, and no frame gets past it. Nor is a title refused
that cannot be read. -/
def Escapes (renderer : Renderer) (r : Request) (image : List UInt8) (frames : Int)
    (rate : Quantity) : Prop :=
  image.length ≤ 3584 ∧ ¬rate ≤ .whole 0 ∧ (0 < frames ∧ ¬rate.finite ∨ ¬titled renderer r)

end Runner

theorem startPeriod {rate : Quantity} {s : Schedule Quantity}
    (fresh : Schedule.start rate (.whole defaultTimerHz) = .ok s) :
    s.cpuHz = rate ∧ s.budget = .real 0 ∧ s.period = .real sixtieth := by
  rw [startFields fresh]
  exact ⟨rfl, rfl, rfl⟩

namespace Runner
variable {renderer : Renderer} {r : Request} {frames : Int} {rate : Quantity} {dialect : Dialect}
  {keys : List (Fin 16)} {schedule : Schedule Quantity}

theorem framesBreak (r : Request) (h : Hosted Quantity)
    (fresh : Schedule.start rate (.whole defaultTimerHz) = .ok h.session.schedule)
    (some : 0 < frames) (unfit : ¬rate.finite) :
    ∃ error, (driveFrames renderer r frames.toNat h).ending = .broken error := by
  obtain ⟨rateKept, budget, period⟩ := startPeriod fresh
  obtain ⟨n, error, framed⟩ := Session.frameFails none (rateKept ▸ unfit) budget period
  obtain ⟨k, counted⟩ : ∃ k, frames.toNat = k + 1 := ⟨frames.toNat - 1, by omega⟩
  rw [counted]
  simp only [driveFrames, Hosted.run, Hosted.frame, framed]
  exact ⟨_, rfl⟩

theorem pacedBreak {C : Type} {wall : WallClock C Quantity} {i : ℕ} (bounded : wall.Bounded i)
    (r : Request) (clock : C) (h : Hosted Quantity)
    (fresh : Schedule.start rate (.whole defaultTimerHz) = .ok h.session.schedule)
    (some : 0 < frames) (unfit : ¬rate.finite) :
    ∃ error, (driveRealtime renderer r wall clock frames.toNat h).ending = .broken error := by
  obtain ⟨rateKept, budget, period⟩ := startPeriod fresh
  obtain ⟨k, counted⟩ : ∃ k, frames.toNat = k + 1 := ⟨frames.toNat - 1, by omega⟩
  obtain ⟨q, error, ran⟩ := Paced.runUnfit Host.afterFrame bounded
    (p := ⟨h.session, clock, h.host⟩) (rateKept ▸ unfit) budget period k
  rw [counted]
  simp only [driveRealtime, ran]
  exact ⟨_, rfl⟩

theorem unfitNone (unfit : ¬rate.finite) (fit : ¬(0 < frames ∧ ¬rate.finite)) :
    frames.toNat = 0 := by
  have none : ¬0 < frames := fun some => fit ⟨some, unfit⟩
  omega

theorem framesConclude (r : Request) (h : Hosted Quantity)
    (fresh : Schedule.start rate (.whole defaultTimerHz) = .ok h.session.schedule)
    (sound : Sound h.session.machine) (running : h.session.machine.halted = false)
    (fit : ¬(0 < frames ∧ ¬rate.finite)) :
    ∃ n, driveFrames renderer r frames.toNat h = conclude renderer r n := by
  by_cases finite : rate.finite
  · obtain ⟨v, solvent⟩ := finiteSolvent finite fresh
    obtain ⟨seen, out, ran, -⟩ := Hosted.runDriven solvent sound running #[] frames.toNat
    exact ⟨h.latest seen, by rw [driveFrames, ran]⟩
  · exact ⟨h, by rw [unfitNone finite fit]; rfl⟩

theorem pacedConclude {C : Type} {wall : WallClock C Quantity} {i j : ℕ} (bounded : wall.Bounded i)
    (most : i + j ≤ 1015) (r : Request) (clock : C) (h : Hosted Quantity)
    (fresh : Schedule.start rate (.whole defaultTimerHz) = .ok h.session.schedule)
    (slow : rate.within j) (fit : ¬(0 < frames ∧ ¬rate.finite)) :
    (∃ n, driveRealtime renderer r wall clock frames.toNat h = conclude renderer r n) ∨
      (driveRealtime renderer r wall clock frames.toNat h).ending = .interrupted := by
  by_cases finite : rate.finite
  · obtain ⟨v, solvent⟩ := finiteSolvent finite fresh
    obtain ⟨x, double, known⟩ := solvent.cpuHz
    rw [(startPeriod fresh).1] at double
    have steady := Paced.runSteady Host.afterFrame bounded (slow x v double known) most
      (p := ⟨h.session, clock, h.host⟩) solvent frames.toNat
    cases ran : Paced.run wall Host.afterFrame ⟨h.session, clock, h.host⟩ frames.toNat with
    | mk q answer =>
      rw [driveRealtime, ran]
      cases answer with
      | ok report => exact .inl ⟨_, rfl⟩
      | error e =>
        cases e with
        | interrupted => exact .inr rfl
        | schedule e => exact absurd (congrArg Prod.snd ran) (steady e)
  · obtain ⟨q, report, ran⟩ := Paced.runNone Host.afterFrame bounded
      (p := ⟨h.session, clock, h.host⟩) (startPeriod fresh).2.2
    rw [unfitNone finite fit, driveRealtime, ran]
    exact .inl ⟨_, rfl⟩

theorem startRunning {image : List UInt8} (generator : Generator)
    (stated : Stated r.settings frames rate dialect keys) (fits : image.length ≤ 3584)
    (fast : ¬rate ≤ .whole 0) :
    ∃ h, start r (.ok image) generator = .ok (h, frames.toNat) ∧
      Schedule.start rate (.whole defaultTimerHz) = .ok h.session.schedule ∧
      Sound h.session.machine ∧ h.session.machine.halted = false := by
  obtain ⟨schedule, fresh, started⟩ := startAccepted generator stated fits fast
  obtain ⟨sound, running, -⟩ := holdingFresh r dialect generator schedule image keys
  exact ⟨_, started, fresh, sound, running⟩

theorem escapesAccepted {image : List UInt8} (fits : image.length ≤ 3584)
    (fast : ¬rate ≤ .whole 0) : Escapes renderer r image frames rate ↔
      0 < frames ∧ ¬rate.finite ∨ ¬titled renderer r :=
  ⟨fun escapes => escapes.2.2, fun cause => ⟨fits, fast, cause⟩⟩

theorem framesEnding (r : Request) (h : Hosted Quantity)
    (fresh : Schedule.start rate (.whole defaultTimerHz) = .ok h.session.schedule)
    (sound : Sound h.session.machine) (running : h.session.machine.halted = false) :
    ((∃ error, (driveFrames renderer r frames.toNat h).ending = .broken error) ↔
      0 < frames ∧ ¬rate.finite ∨ ¬titled renderer r) ∧
    ((driveFrames renderer r frames.toNat h).ending.returned ↔
      ¬(0 < frames ∧ ¬rate.finite ∨ ¬titled renderer r)) := by
  by_cases unfit : 0 < frames ∧ ¬rate.finite
  · obtain ⟨error, broken⟩ := framesBreak r h fresh unfit.1 unfit.2
    rw [broken]
    simp [unfit, Ending.returned]
  · obtain ⟨n, concluded⟩ := framesConclude r h fresh sound running unfit
    rw [concluded, concludeBreaks, concludeReturns]
    simp [unfit]

theorem pacedEnding {C : Type} {wall : WallClock C Quantity} {i j : ℕ} (bounded : wall.Bounded i)
    (most : i + j ≤ 1015) (r : Request) (clock : C) (h : Hosted Quantity)
    (fresh : Schedule.start rate (.whole defaultTimerHz) = .ok h.session.schedule)
    (slow : rate.within j)
    (kept : ¬(0 < frames ∧ ¬rate.finite ∨ ¬titled renderer r)) :
    (driveRealtime renderer r wall clock frames.toNat h).ending.returned ∨
      (driveRealtime renderer r wall clock frames.toNat h).ending = .interrupted := by
  obtain ⟨fit, reads⟩ := not_or.mp kept
  obtain ⟨n, concluded⟩ | interrupted := pacedConclude bounded most r clock h fresh slow fit
  · rw [concluded]
    exact .inl ((concludeReturns r n).mpr (not_not.mp reads))
  · exact .inr interrupted

end Runner

theorem runEnding {C : Type} (renderer : Renderer) (image : List UInt8) (generator : Generator)
    (wall : WallClock C Quantity) (clock : C) {r : Request} {frames : Int} {rate : Quantity}
    {dialect : Dialect} {keys : List (Fin 16)}
    (stated : Stated r.settings frames rate dialect keys) :
    (r.settings.realtime = false →
      ((∃ error, (Runner.run renderer r (.ok image) generator wall clock).ending = .broken error) ↔
        Runner.Escapes renderer r image frames rate) ∧
      ((Runner.run renderer r (.ok image) generator wall clock).ending.returned ↔
        ¬Runner.Escapes renderer r image frames rate)) ∧
    (r.settings.realtime = true → ∀ {i j : ℕ}, i + j ≤ 1015 → wall.Bounded i → rate.within j →
      (image.length ≤ 3584 → ¬rate ≤ .whole 0 → 0 < frames → ¬rate.finite →
        ∃ error, (Runner.run renderer r (.ok image) generator wall clock).ending = .broken error) ∧
      (¬Runner.Escapes renderer r image frames rate →
        (Runner.run renderer r (.ok image) generator wall clock).ending.returned ∨
          (Runner.run renderer r (.ok image) generator wall clock).ending = .interrupted)) := by
  by_cases refused : 3584 < image.length ∨ rate ≤ .whole 0
  · obtain ⟨journal, failed⟩ := Runner.startRefused generator stated refused
    have ran : Runner.run renderer r (.ok image) generator wall clock = .failed journal := by
      rw [Runner.run, failed]
    have kept : ¬Runner.Escapes renderer r image frames rate := by
      rintro ⟨fits, fast, -⟩
      exact refused.elim (not_lt.mpr fits) fast
    have unbroken : ¬∃ error, (Outcome.failed journal).ending = .broken error := by
      rintro ⟨error, ⟨⟩⟩
    rw [ran]
    refine ⟨fun _ => ⟨iff_of_false unbroken kept, iff_of_true (.inr rfl) kept⟩, ?_⟩
    intro _ i j _ _ _
    refine ⟨fun fits fast => ?_, fun _ => .inl (.inr rfl)⟩
    exact absurd refused (not_or.mpr ⟨not_lt.mpr fits, fast⟩)
  · obtain ⟨fits, fast⟩ := not_or.mp refused
    rw [not_lt] at fits
    obtain ⟨h, started, fresh, sound, running⟩ := Runner.startRunning generator stated fits fast
    rw [Runner.run, started, Runner.escapesAccepted fits fast]
    constructor
    · intro unpaced
      simp only [unpaced]
      exact Runner.framesEnding r h fresh sound running
    · intro paced i j most bounded slow
      simp only [paced, if_true]
      exact ⟨fun _ _ => Runner.pacedBreak bounded r clock h fresh,
        Runner.pacedEnding bounded most r clock h fresh slow⟩

def notANumber : Float := Float.ofBits 0x7FF8000000000000

def briefRequest (rate : Quantity) (realtime : Bool) : Request :=
  ⟨"idle", { frames := .value 3, rate := .value rate, realtime }⟩

theorem briefStated (rate : Quantity) (realtime : Bool) :
    Stated (briefRequest rate realtime).settings 3 rate {} [] := ⟨rfl, rfl, rfl, rfl, nofun⟩

theorem stillBounded : stillClock.Bounded 0 := by
  refine fun c => ⟨0, 0, (), rfl, zeroValue, ?_⟩
  rw [abs_zero]
  positivity

theorem nanUnfit : ¬(Quantity.real notANumber).finite := by
  rintro ⟨x, double, finite⟩
  cases double
  exact Bool.false_ne_true finite

theorem briefWithin : (Quantity.whole 700).within 10 := by
  intro x v double known
  have own : (Quantity.whole 700).toDouble? = some 700 := rfl
  have value := Number.knownValue (x := 700) (b := ⟨false, 6157265115545600, -43, false⟩) rfl
  obtain rfl : 700 = x := Option.some.inj (own.symm.trans double)
  obtain rfl : _ = v := Option.some.inj (value.symm.trans known)
  rw [Number.Binary.value]
  norm_num

theorem briefEndings :
    (Runner.run plainRenderer (briefRequest (.whole 700) false) (.ok [0x12, 0x00])
      ⟨Vector.replicate 624 0, 624⟩ stillClock ()).ending.returned ∧
    ((Runner.run plainRenderer (briefRequest (.whole 700) true) (.ok [0x12, 0x00])
        ⟨Vector.replicate 624 0, 624⟩ stillClock ()).ending.returned ∨
      (Runner.run plainRenderer (briefRequest (.whole 700) true) (.ok [0x12, 0x00])
        ⟨Vector.replicate 624 0, 624⟩ stillClock ()).ending = .interrupted) ∧
    ∃ error, (Runner.run plainRenderer (briefRequest (.real notANumber) true) (.ok [0x12, 0x00])
      ⟨Vector.replicate 624 0, 624⟩ stillClock ()).ending = .broken error := by
  have stays (realtime : Bool) :
      ¬Runner.Escapes plainRenderer (briefRequest (.whole 700) realtime) [0x12, 0x00] 3
        (.whole 700) := by
    rintro ⟨-, -, unfit | untitled⟩
    · exact unfit.2 ⟨700, rfl, rfl⟩
    · exact untitled (idleTitled rfl)
  have boundless : (Quantity.real notANumber).within 10 := by
    intro x v double known
    cases double
    have none := Number.valueFinite notANumber
    rw [known] at none
    exact absurd none.symm Bool.false_ne_true
  have ends (rate : Quantity) (realtime : Bool) := runEnding plainRenderer [0x12, 0x00]
    ⟨Vector.replicate 624 0, 624⟩ stillClock () (briefStated rate realtime)
  refine ⟨((ends (.whole 700) false).1 rfl).2.mpr (stays false), ?_, ?_⟩
  · exact ((ends (.whole 700) true).2 rfl (by decide) stillBounded briefWithin).2 (stays true)
  · exact ((ends (.real notANumber) true).2 rfl (by decide) stillBounded boundless).1 (by decide)
      (by decide) (by decide) nanUnfit

theorem nanRateBreaks :
    ∃ r, Request.ofArguments ["idle", "--rate", "nan", "--frames", "3"] = .ok r ∧
      ∃ error, (Runner.run plainRenderer r (.ok [0x12, 0x00])
        ⟨Vector.replicate 624 0, 624⟩ stillClock ()).ending = .broken error := by
  have words : CommandLine.readWords ["idle", "--rate", "nan", "--frames", "3"] =
      .ok [.plain "idle", .flag ⟨"--rate", .parameter .rate, true⟩ none, .plain "nan",
        .flag ⟨"--frames", .parameter .frames, true⟩ none, .plain "3"] := by cbv
  have rate : Number.readDouble? "nan" = some notANumber := rfl
  have frames : Text.readInteger 10 "3" = .ok 3 := by decide +kernel
  have accepted : Request.ofArguments ["idle", "--rate", "nan", "--frames", "3"] =
      .ok (briefRequest (.real notANumber) false) := by
    rw [Request.ofArguments, words]
    simp only [CommandLine.Draft.take, CommandLine.Draft.assign, Settings.assign, rate, frames]
    rfl
  obtain ⟨h, started, fresh, -, -⟩ := Runner.startRunning ⟨Vector.replicate 624 0, 624⟩
    (briefStated (.real notANumber) false) (show [0x12, 0x00].length ≤ 3584 by decide) (by decide)
  obtain ⟨error, broken⟩ := Runner.framesBreak (briefRequest (.real notANumber) false) h fresh
    (show 0 < 3 by decide) nanUnfit
  refine ⟨_, accepted, error, ?_⟩
  rw [Runner.run, started]
  exact broken

end Chip8
