import Chip8.Dialect
import Chip8.FileError
import Chip8.Instruction
import Chip8.Registers

/-! What the machine and its runner report while they work. Each event has a level, a source
and a message; a journal keeps the events that reach its floor, and without a floor none. -/
namespace Chip8

abbrev Level := Int

namespace Level

def debug : Level := 10

def info : Level := 20

def warning : Level := 30

def error : Level := 40

def critical : Level := 50

def name (l : Level) : String :=
  if l = debug then "DEBUG"
  else if l = info then "INFO"
  else if l = warning then "WARNING"
  else if l = error then "ERROR"
  else if l = critical then "CRITICAL"
  else s!"Level {l}"

end Level

inductive Source where
  | package
  | machine
  | keypad
  | runner
  deriving DecidableEq, Repr

def Source.name : Source → String
  | .package => "chip8_emu"
  | .machine => "chip8_emu.emu"
  | .keypad => "chip8_emu.periph.keypad"
  | .runner => "chip8_emu.cli"

inductive Event where
  | logOpened (path : String)
  | unreadable (path : String) (error : FileError)
  | dialectChosen (dialect : Dialect)
  | rejected (path : String) (fault : Fault)
  | refused (reason : String)
  | stopped (fault : Fault)
  | interrupted
  | created (dialect : Dialect)
  | loaded (size : Nat)
  | restarted
  | executing (pc : UInt16) (instruction : Instruction) (registers : Registers)
  | skipped (fault : Fault)
  | halted (fault : Fault)
  | waitArmed
  | waitSatisfied (key : Fin 16)
  deriving DecidableEq

namespace Event

def level : Event → Level
  | logOpened _ => Level.info
  | unreadable .. => Level.error
  | dialectChosen _ => Level.info
  | rejected .. => Level.error
  | refused _ => Level.error
  | stopped _ => Level.error
  | interrupted => Level.warning
  | created _ => Level.debug
  | loaded _ => Level.info
  | restarted => Level.debug
  | executing .. => Level.debug
  | skipped _ => Level.warning
  | halted _ => Level.error
  | waitArmed => Level.debug
  | waitSatisfied _ => Level.debug

def source : Event → Source
  | logOpened _ => .package
  | unreadable .. | dialectChosen _ | rejected .. | refused _ | stopped _ | interrupted => .runner
  | created _ | loaded _ | restarted | executing .. | skipped _ | halted _ => .machine
  | waitArmed | waitSatisfied _ => .keypad

def message : Event → String
  | logOpened path => "Log file: " ++ path
  | unreadable path error => "Cannot read ROM " ++ path ++ ": " ++ error.message
  | dialectChosen dialect => "Quirks: " ++ dialect.describe
  | rejected path fault => path ++ ": " ++ fault.message
  | refused reason => reason
  | stopped fault => "Stopped: " ++ fault.message
  | interrupted => "Interrupted by user"
  | created dialect => "Emulator created: " ++ dialect.describe
  | loaded size => s!"Loaded {size} byte program at $" ++ Text.hex 3 programStart
  | restarted => "Emulator reset"
  | executing pc instruction registers =>
    "$" ++ Text.hex 3 pc.toNat ++ ": " ++ Text.padRight 12 instruction.text ++ " " ++
      registers.display
  | skipped fault => "Skipping " ++ fault.message
  | halted fault => "Emulator halted: " ++ fault.message
  | waitArmed => "Key wait armed"
  | waitSatisfied key => "Key wait satisfied by key " ++ Text.hex 1 key.val

end Event

structure Journal where
  floor : Option Level
  events : Array Event

namespace Journal

def silent : Journal := ⟨none, #[]⟩

def from? (floor : Option Level) : Journal := ⟨floor, #[]⟩

def keeps (j : Journal) (l : Level) : Bool := j.floor.any (· ≤ l)

def record (j : Journal) (e : Event) : Journal :=
  if j.keeps e.level then { j with events := j.events.push e } else j

end Journal
end Chip8
