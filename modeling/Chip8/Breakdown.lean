import Chip8.CommandLine.Flag
import Chip8.FileError
import Chip8.Number.Quantity
import Chip8.Schedule

/-! What ends a run there and then, because nothing in the program expects it. -/
namespace Chip8

open CommandLine (Parameter)
open Number (Quantity)

inductive Breakdown where
  | timeline (error : ScheduleError Quantity)
  | vacant (p : Parameter)
  | access (error : AccessError)
  | title (message : String)
  deriving Repr

def vacancyText : Parameter → String
  | .frames => "'list' object cannot be interpreted as an integer"
  | .rate => "'<=' not supported between instances of 'list' and 'int'"
  | .preset => "'list' object has no attribute 'lower'"
  | .press => "'<=' not supported between instances of 'int' and 'list'"
  | .seed =>
    "The only supported seed types are: None,\nint, float, str, bytes, and bytearray."
  | .logFile => "expected str, bytes or os.PathLike object, not list"

def Breakdown.message : Breakdown → String
  | .timeline error => error.message Quantity.text
  | .vacant p => vacancyText p
  | .access error => error.message
  | .title message => message

end Chip8
