import Chip8.CommandLine.Word
import Chip8.Number.Literal
import Chip8.Number.Quantity
import Chip8.Schedule

/-! What a command line asks for. Its words are taken from left to right; the first that is
wrong, or that asks for something else than a run, ends the reading. -/
namespace Chip8.CommandLine

open Number (Quantity readDouble?)
open Text (readInteger)

structure Settings where
  frames : Given Int := .value 600
  rate : Given Quantity := .value (.whole defaultCpuHz)
  preset : Given (String × Dialect) := .value ("default", {})
  switches : List (Switch × Bool) := []
  press : List (Given (Fin 16)) := []
  seed : Option (Given Int) := none
  skipUnknown : Bool := false
  realtime : Bool := false
  verbosity : Nat := 0
  logFile : Option (Given String) := none
  deriving Repr

namespace Settings

def dialect (s : Settings) : Given Dialect :=
  s.preset.map fun preset => s.switches.foldl (fun d (switch, on) => switch.set on d) preset.2

def switch? (s : Settings) (switch : Switch) : Option Bool :=
  (s.switches.reverse.find? (·.1 = switch)).map Prod.snd

def assign (s : Settings) (p : Parameter) (text : String) : Except Misuse Settings :=
  match p with
  | .frames =>
    match readInteger 10 text with
    | .ok n => .ok { s with frames := .value n }
    | .error _ => .error (.notNumber p "int" text)
  | .rate =>
    match readDouble? text with
    | some x => .ok { s with rate := .value (.real x) }
    | none => .error (.notNumber p "float" text)
  | .preset =>
    match Dialect.presets.find? (·.1 = text) with
    | some preset => .ok { s with preset := .value preset }
    | none => .error (.notPreset text)
  | .press =>
    match readKey text with
    | .ok k => .ok { s with press := s.press ++ [.value k] }
    | .error e => .error (.notKey e)
  | .seed =>
    match readNumber text with
    | .ok n => .ok { s with seed := some (.value n) }
    | .error _ => .error (.notNumber p "parse_int_arg" text)
  | .logFile => .ok { s with logFile := some (.value text) }

/-- A parameter given the bare separator has no value from then on. -/
def vacate (s : Settings) (p : Parameter) : Settings :=
  match p with
  | .frames => { s with frames := .nothing }
  | .rate => { s with rate := .nothing }
  | .preset => { s with preset := .nothing }
  | .press => { s with press := s.press ++ [.nothing] }
  | .seed => { s with seed := some .nothing }
  | .logFile => { s with logFile := some .nothing }

end Settings

structure Request where
  program : String
  settings : Settings
  deriving Repr

inductive Stop where
  | help
  | version
  | misuse (error : Misuse)
  deriving DecidableEq, Repr

structure Draft where
  program : Option String := none
  settings : Settings := {}
  extras : List String := []

namespace Draft

def extra (d : Draft) (text : String) : Draft := { d with extras := d.extras ++ [text] }

def assign (d : Draft) (p : Parameter) (text : String) : Except Stop Draft :=
  match d.settings.assign p text with
  | .ok settings => .ok { d with settings }
  | .error e => .error (.misuse e)

def mark (d : Draft) (m : Mark) (on : Bool) : Except Stop Draft :=
  match m with
  | .help => .error .help
  | .version => .error .version
  | .switch s =>
    .ok { d with settings := { d.settings with switches := d.settings.switches ++ [(s, on)] } }
  | .skipUnknown => .ok { d with settings := { d.settings with skipUnknown := true } }
  | .realtime => .ok { d with settings := { d.settings with realtime := true } }
  | .verbose =>
    .ok { d with settings := { d.settings with verbosity := d.settings.verbosity + 1 } }

def assignAttached (d : Draft) (p : Parameter) (value : List Char) : Except Stop Draft :=
  if value = ['-', '-'] then .ok { d with settings := d.settings.vacate p }
  else d.assign p (String.ofList value)

def short? (c : Char) : Option (Spelling × Mark) :=
  spellings.findSome? fun x => match x.flag with
    | .mark m => if x.text.toList = ['-', c] then some (x, m) else none
    | .parameter _ => none

def unpack (x : Spelling) (m : Mark) : List Char → Except Misuse (List (Mark × Bool))
  | [] => .error (.valueUnwanted x.flag "")
  | c :: rest =>
    match (if x.text.length = 2 then short? c else none), rest with
    | none, rest => .error (.valueUnwanted x.flag (String.ofList (c :: rest)))
    | some (y, n), [] => .ok [(m, x.on), (n, y.on)]
    | some (y, n), next :: more => (unpack y n (next :: more)).map ((m, x.on) :: ·)

def markAll (d : Draft) : List (Mark × Bool) → Except Stop Draft
  | [] => .ok d
  | (m, on) :: rest => do (← d.mark m on).markAll rest

def markAttached (d : Draft) (x : Spelling) (m : Mark) (value : List Char) :
    Except Stop Draft :=
  match unpack x m value with
  | .error e => .error (.misuse e)
  | .ok marks => d.markAll marks

def take (d : Draft) : List Word → Except Stop Draft
  | [] => .ok d
  | .unknown text :: rest => (d.extra text).take rest
  | .plain text :: rest =>
    match d.program with
    | some _ => (d.extra text).take rest
    | none =>
      match rest with
      | .separator :: rest => { d with program := some text }.take rest
      | rest => { d with program := some text }.take rest
  | .separator :: rest =>
    match d.program, rest with
    | none, .plain text :: rest => { d with program := some text }.take rest
    | _, rest => (d.extra "--").take rest
  | .flag x attached :: rest =>
    match x.flag, attached with
    | .parameter p, some value => do (← d.assignAttached p value).take rest
    | .parameter p, none =>
      match rest with
      | .plain value :: rest => do (← d.assign p value).take rest
      | _ => .error (.misuse (.valueMissing p))
    | .mark m, none => do (← d.mark m x.on).take rest
    | .mark m, some value => do (← d.markAttached x m value).take rest

def finish (d : Draft) : Except Stop Request :=
  match d.program, d.extras with
  | none, _ => .error (.misuse .programMissing)
  | some program, [] => .ok ⟨program, d.settings⟩
  | some _, extras => .error (.misuse (.unrecognized extras))

end Draft

def Request.ofArguments (arguments : List String) : Except Stop Request :=
  match readWords arguments with
  | .error e => .error (.misuse e)
  | .ok words => do (← ({} : Draft).take words).finish

end Chip8.CommandLine
