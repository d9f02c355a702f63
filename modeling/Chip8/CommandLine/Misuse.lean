import Chip8.CommandLine.Flag
import Chip8.CommandLine.Value

/-! What can be wrong with a command line. -/
namespace Chip8.CommandLine

open Text (quoted)

inductive Misuse where
  | ambiguous (word : String) (candidates : List String)
  | valueMissing (p : Parameter)
  | valueUnwanted (f : Flag) (text : String)
  | notNumber (p : Parameter) (kind text : String)
  | notPreset (text : String)
  | notKey (error : KeyTextError)
  | programMissing
  | unrecognized (words : List String)
  deriving DecidableEq, Repr

namespace Misuse

def about (f : Flag) (text : String) : String := "argument " ++ f.title ++ ": " ++ text

def message : Misuse → String
  | ambiguous word candidates =>
    "ambiguous option: " ++ word ++ " could match " ++ ", ".intercalate candidates
  | valueMissing p => about (.parameter p) "expected one argument"
  | valueUnwanted f text => about f ("ignored explicit argument " ++ quoted text)
  | notNumber p kind text =>
    about (.parameter p) ("invalid " ++ kind ++ " value: " ++ quoted text)
  | notPreset text =>
    about (.parameter .preset) ("invalid choice: " ++ quoted text ++ " (choose from " ++
      ", ".intercalate (Dialect.presetNames.map quoted) ++ ")")
  | notKey error => about (.parameter .press) error.message
  | programMissing => "the following arguments are required: rom"
  | unrecognized words => "unrecognized arguments: " ++ " ".intercalate words

end Misuse
end Chip8.CommandLine
