import Chip8.CommandLine.Request

/-! What the command line answers when there is nothing to run. -/
namespace Chip8.CommandLine

def programName : String := "chip8"

def version : String := "0.4.0"

def Parameter.summary : Parameter → String
  | .frames => "number of 60 Hz frames to run"
  | .rate => "instructions per second"
  | .preset => "dialect to start from"
  | .press => "hold a key (0-F) down; may be repeated"
  | .seed => "seed for random numbers"
  | .logFile => "write a debugging log to this file"

def Mark.summary : Mark → String
  | .help => "show this help message and exit"
  | .switch s => s.help
  | .skipUnknown => "step over unknown opcodes instead of halting"
  | .realtime => "pace frames against the wall clock"
  | .verbose => "show more messages; twice for all of them"
  | .version => "show the version number and exit"

def Flag.summary : Flag → String
  | .parameter p => p.summary
  | .mark m => m.summary

def flags : List Flag := (spellings.map Spelling.flag).eraseDups

def helpLines : List String :=
  ("usage: " ++ programName ++ " [flags] rom") ::
    flags.map fun f => "  " ++ Text.padRight 48 f.title ++ f.summary

namespace Stop

def status : Stop → Nat
  | help => 0
  | version => 0
  | misuse _ => 2

def lines : Stop → List String
  | help => helpLines
  | version => [programName ++ " " ++ CommandLine.version]
  | misuse _ => []

def complaint : Stop → Option String
  | misuse error => some (programName ++ ": error: " ++ error.message)
  | _ => none

end Stop
end Chip8.CommandLine
