import Chip8.Breakdown
import Chip8.CommandLine.Request
import Chip8.Display.Picture
import Chip8.Host
import Chip8.Log
import Chip8.Renderer
import Chip8.Schedule.Realtime
import Chip8.Text.Hex

/-! One run of a program without a keyboard or a window: it is loaded, driven for a number of
frames, and its last picture is shown in a box above a line of figures. -/
namespace Chip8

open CommandLine (Settings Request Parameter Given)
open Number (Quantity)

namespace CommandLine.Settings

def consoleLevel (s : Settings) : Level :=
  match s.verbosity with
  | 0 => Level.warning
  | 1 => Level.info
  | _ => Level.debug

def logFile? (s : Settings) : Option String :=
  match s.logFile with
  | some (.value text) => some text
  | _ => none

def logSetup (s : Settings) : LogSetup where
  level := if s.logFile?.any (· ≠ "") then Level.debug else s.consoleLevel
  consoleLevel := s.consoleLevel
  file := s.logFile?

def journal (s : Settings) : Journal :=
  let empty := Journal.from? (some s.logSetup.level)
  match s.logSetup.path? with
  | none => empty
  | some path => empty.record (.logOpened path.text)

def deliveries (s : Settings) (j : Journal) : List Delivery :=
  let registry := s.logSetup.openFile (s.logSetup.openConsole .fresh)
  j.events.toList.flatMap fun e => registry.deliver e.toRecord

end CommandLine.Settings

inductive Ending where
  | completed
  | failed
  | interrupted
  | broken (error : Breakdown)

def Ending.status : Ending → Nat
  | .completed => 0
  | .failed => 1
  | .interrupted => 130
  | .broken _ => 1

structure Outcome where
  ending : Ending
  lines : List String
  journal : Journal

namespace Outcome

def failed (journal : Journal) : Outcome := ⟨.failed, [], journal⟩

def broken (journal : Journal) (error : Breakdown) : Outcome := ⟨.broken error, [], journal⟩

end Outcome

namespace Runner

def require {α : Type} (journal : Journal) (p : Parameter) : Given α → Except Outcome α
  | .value a => .ok a
  | .nothing => .error (.broken journal (.vacant p))

def logPath? (s : Settings) : Except Outcome (Option Path) :=
  match s.logFile with
  | none => .ok none
  | some given => (require .silent .logFile given).map fun text => some (Path.ofText text)

def imageOf (r : Request) (program : Except AccessError (List UInt8)) (journal : Journal) :
    Except Outcome (List UInt8) :=
  match program with
  | .ok image => .ok image
  | .error (.refused e) => .error (.failed (journal.record (.unreadable r.program e)))
  | .error .notPath => .error (.broken journal (.access .notPath))

def insert (r : Request) (image : List UInt8) (m : Machine) : Except Outcome Machine :=
  match m.load image with
  | (m, none) => .ok m
  | (m, some f) => .error (.failed (m.journal.record (.rejected r.program f)))

def timeline (journal : Journal) (rate : Quantity) : Except Outcome (Schedule Quantity) :=
  match Schedule.start rate (.whole defaultTimerHz) with
  | .ok schedule => .ok schedule
  | .error e => .error (.failed (journal.record (.refused (e.message Quantity.text))))

def prepare (r : Request) (program : Except AccessError (List UInt8)) (generator : Generator)
    (journal : Journal) : Except Outcome (Hosted Quantity) := do
  let image ← imageOf r program journal
  let dialect ← require journal .preset r.settings.dialect
  let journal := journal.record (.dialectChosen dialect)
  let _ ← r.settings.seed.mapM (require journal .seed)
  let machine ← insert r image (.powerOn dialect r.settings.skipUnknown generator journal)
  let rate ← require machine.journal .rate r.settings.rate
  let schedule ← timeline machine.journal rate
  let keys ← r.settings.press.mapM (require machine.journal .press)
  let (machine, host) := Host.hold machine keys
  return ⟨⟨schedule, machine⟩, host⟩

def statusLine (h : Hosted Quantity) : String :=
  let machine := h.session.machine
  let pc := Text.hex 3 machine.registers.pc.toNat
  s!"frames={h.host.frames} instructions={h.host.instructions} " ++
    s!"sound_frames={h.host.soundFrames} PC=${pc}" ++
    (if machine.awaitingKey then " (waiting for key)" else "")

def display (renderer : Renderer) (r : Request) (h : Hosted Quantity) :
    Except String (List String) := do
  let draw ← renderer.box 64 (Path.ofText r.program).name
  let picture := h.session.machine.screen.rows.map (Display.pictureLine "#" " ")
  return draw picture ++ renderer.line (statusLine h)

def conclude (renderer : Renderer) (r : Request) (h : Hosted Quantity) : Outcome :=
  let journal := h.session.machine.journal
  match display renderer r h, h.session.machine.fault with
  | .error message, _ => .broken journal (.title message)
  | .ok lines, none => ⟨.completed, lines, journal⟩
  | .ok lines, some f => ⟨.failed, lines, journal.record (.stopped f)⟩

def driveFrames (renderer : Renderer) (r : Request) (frames : Nat) (h : Hosted Quantity) :
    Outcome :=
  match h.run #[] frames with
  | (h, .ok _) => conclude renderer r h
  | (h, .error e) => .broken h.session.machine.journal (.timeline e)

def driveRealtime {C : Type} (renderer : Renderer) (r : Request) (wall : WallClock C Quantity)
    (clock : C) (frames : Nat) (h : Hosted Quantity) : Outcome :=
  match Paced.run wall Host.afterFrame ⟨h.session, clock, h.host⟩ frames with
  | (p, .ok _) => conclude renderer r ⟨p.session, p.watcher⟩
  | (p, .error .interrupted) =>
    ⟨.interrupted, [], p.session.machine.journal.record .interrupted⟩
  | (p, .error (.schedule e)) => .broken p.session.machine.journal (.timeline e)

def start (r : Request) (program : Except AccessError (List UInt8)) (generator : Generator) :
    Except Outcome (Hosted Quantity × Nat) := do
  let h ← prepare r program generator r.settings.journal
  let frames ← require h.session.machine.journal .frames r.settings.frames
  return (h, frames.toNat)

def run {C : Type} (renderer : Renderer) (r : Request)
    (program : Except AccessError (List UInt8)) (generator : Generator)
    (wall : WallClock C Quantity) (clock : C) : Outcome :=
  match start r program generator with
  | .error outcome => outcome
  | .ok (h, frames) =>
    if r.settings.realtime then driveRealtime renderer r wall clock frames h
    else driveFrames renderer r frames h

def openLog (tree : FileTree) (s : Settings) (heading : Path → List UInt8) :
    FileTree × Option Outcome :=
  match logPath? s, s.logSetup.openIn tree with
  | .error outcome, _ => (tree, some outcome)
  | .ok _, (tree, some e) => (tree, some (.broken .silent (.access e)))
  | .ok path, (tree, none) => (path.elim tree fun path => tree.append path (heading path), none)

def runIn {C : Type} (renderer : Renderer) (tree : FileTree) (r : Request)
    (heading : Path → List UInt8) (generator : Generator) (wall : WallClock C Quantity)
    (clock : C) : Outcome × FileTree :=
  match openLog tree r.settings heading with
  | (tree, some outcome) => (outcome, tree)
  | (tree, none) =>
    (run renderer r (tree.read (Path.ofText r.program)) generator wall clock, tree)

end Runner
end Chip8
