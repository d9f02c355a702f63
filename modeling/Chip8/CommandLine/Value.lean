import Chip8.Keypad
import Chip8.Text.Integer

/-! Numbers and keys as they are written on a command line. -/
namespace Chip8.CommandLine

open Text (IntegerError readInteger strip quoted)

inductive Given (α : Type) where
  | value (a : α)
  | nothing
  deriving DecidableEq, Repr

def Given.map {α β : Type} (f : α → β) : Given α → Given β
  | .value a => .value (f a)
  | .nothing => .nothing

def readNumber (text : String) : Except IntegerError Int :=
  match strip text.toList with
  | '$' :: digits => readInteger 16 (String.ofList digits)
  | '0' :: 'x' :: digits => readInteger 16 (String.ofList ('0' :: 'x' :: digits))
  | '0' :: 'X' :: digits => readInteger 16 (String.ofList ('0' :: 'X' :: digits))
  | digits => readInteger 10 (String.ofList digits)

inductive KeyTextError where
  | notKey (text : String)
  | outOfRange (text : String)
  deriving DecidableEq, Repr

def KeyTextError.message : KeyTextError → String
  | .notKey text => "not a key: " ++ quoted text
  | .outOfRange text => "key out of range 0-F: " ++ quoted text

def readKeyNumber (text : String) : Except IntegerError Int :=
  if (strip text.toList).length = 1 then readInteger 16 text else readNumber text

def readKey (text : String) : Except KeyTextError (Fin 16) :=
  match readKeyNumber text with
  | .error _ => .error (.notKey text)
  | .ok n =>
    match key? n with
    | .ok k => .ok k
    | .error _ => .error (.outOfRange text)

end Chip8.CommandLine
