import Chip8.CommandLine.Reply
import Chip8.Runner
import Chip8.Terminal.Panel

/-! The program itself: files, the clock and the terminal. -/
namespace Chip8.Main

open CommandLine (Given Request Settings Stop)
open Number (Quantity)

def fileError (path : String) : IO.Error → FileError
  | .noFileOrDirectory .. => .notFound path
  | .permissionDenied .. => .notPermitted path
  | .alreadyExists .. => .alreadyThere path
  | .inappropriateType _ code _ => if code = 21 then .isDirectory path else .notDirectory path
  | .invalidArgument .. => .nameTooLong path
  | e => ⟨0, toString e, path⟩

def readProgram (p : Path) : IO (Except AccessError (List UInt8)) := do
  if !p.valid then return .error .notPath
  try
    let bytes ← IO.FS.readBinFile p.text
    return .ok bytes.toList
  catch e => return .error (.refused (fileError p.text e))

def newGenerator (seed : Option (Given Int)) : IO Generator := do
  match seed with
  | some (.value n) => return .ofSeed n
  | _ =>
    let bytes ← IO.getRandomBytes 16
    return .ofSeed (bytes.toList.foldl (fun n b => n * 256 + b.toNat) 0 : Nat)

def now : IO Quantity := do
  return .real ((← IO.monoNanosNow).toFloat / 1000000000)

def sleep (delay : Quantity) : IO Unit :=
  IO.sleep ((delay.toDouble?.getD 0) * 1000).toUInt32

def pace (p : Pace Quantity) (h : Hosted Quantity) :
    Nat → IO (Hosted Quantity × Option (ScheduleError Quantity))
  | 0 => return (h, none)
  | frames + 1 => do
    let reading ← now
    match h.frame (some (p.elapsed reading)) with
    | (h, .error e) => return (h, some e)
    | (h, .ok report) =>
      if report.error.isSome then return (h, none)
      match p.pause (← now) with
      | .error kind => return (h, some (.unconvertible kind))
      | .ok none => pure ()
      | .ok (some delay) => sleep delay
      pace (p.next reading h.session.schedule.period) h frames

def driveRealtime (r : Request) (frames : Nat) (h : Hosted Quantity) : IO Outcome := do
  let p := Pace.start h.session.schedule.period (← now)
  match ← pace p h frames with
  | (h, none) => return Runner.conclude Terminal.renderer r h
  | (h, some e) => return .broken h.session.machine.journal (.timeline e)

def carryOut (r : Request) : IO Outcome := do
  let program ← readProgram (Path.ofText r.program)
  let generator ← newGenerator r.settings.seed
  match Runner.start r program generator with
  | .error outcome => return outcome
  | .ok (h, frames) =>
    if r.settings.realtime then driveRealtime r frames h
    else return Runner.driveFrames Terminal.renderer r frames h

def attempt {α : Type} (path : String) (act : IO α) : IO (Except Outcome α) := do
  try return .ok (← act)
  catch e => return .error (.broken .silent (.access (.refused (fileError path e))))

def openLog (s : Settings) : IO (Except Outcome (Option IO.FS.Handle)) := do
  match Runner.logPath? s with
  | .error outcome => return .error outcome
  | .ok none => return .ok none
  | .ok (some path) =>
    if !path.valid then return .error (.broken .silent (.access .notPath))
    let folder := path.parent.text
    match ← attempt folder (IO.FS.createDirAll folder) with
    | .error outcome => return .error outcome
    | .ok () => attempt path.text (some <$> IO.FS.Handle.mk path.text .append)

def write (file : Option IO.FS.Handle) (deliveries : List Delivery) : IO Unit := do
  let (toFile, toConsole) := deliveries.partition fun d => d.sink.isFile
  for d in toConsole do IO.eprintln d.line
  if let some file := file then
    for d in toFile do file.putStrLn d.line
    file.flush

def carryOutLogged (file : Option IO.FS.Handle) (r : Request) : IO Outcome := do
  let first := r.settings.deliveries r.settings.journal
  write file first
  let outcome ← carryOut r
  for line in outcome.lines do IO.println line
  write file ((r.settings.deliveries outcome.journal).drop first.length)
  return outcome

def answer (r : Request) : IO UInt32 := do
  let outcome ← match ← openLog r.settings with
    | .error outcome => pure outcome
    | .ok file => carryOutLogged file r
  if let .broken e := outcome.ending then IO.eprintln e.message
  return outcome.ending.status.toUInt32

end Chip8.Main

def main (arguments : List String) : IO UInt32 := do
  match Chip8.CommandLine.Request.ofArguments arguments with
  | .ok r => Chip8.Main.answer r
  | .error stop =>
    for line in stop.lines do IO.println line
    if let some complaint := stop.complaint then IO.eprintln complaint
    return stop.status.toUInt32
