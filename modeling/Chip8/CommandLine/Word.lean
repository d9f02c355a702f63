import Chip8.CommandLine.Misuse

/-! The words of a command line, each told apart before any is acted upon. -/
namespace Chip8.CommandLine

open Text (decimalDigit?)

inductive Word where
  | plain (text : String)
  | flag (spelling : Spelling) (attached : Option (List Char))
  | unknown (text : String)
  | separator
  deriving DecidableEq, Repr

def splitAtEquals (s : List Char) : List Char × Option (List Char) :=
  (s.takeWhile (· ≠ '='), match s.dropWhile (· ≠ '=') with
    | [] => none
    | _ :: value => some value)

def candidates (s : List Char) : List (Spelling × Option (List Char)) :=
  match s with
  | '-' :: '-' :: _ =>
    let (start, value) := splitAtEquals s
    (spellings.filter fun x => start.isPrefixOf x.text.toList).map fun x => (x, value)
  | '-' :: c :: rest =>
    (spellings.filter fun x => x.text.toList = ['-', c]).map fun x => (x, some rest)
  | _ => []

def isDigit (c : Char) : Bool := (decimalDigit? c).isSome

def isNegativeNumber : List Char → Bool
  | '-' :: s =>
    let s := if s.getLast? = some '\n' then s.dropLast else s
    let last := match s.dropWhile isDigit with
      | '.' :: fraction => fraction
      | [] => s
      | _ => []
    last ≠ [] && last.all isDigit
  | _ => false

def otherWord (text : String) : Word :=
  if isNegativeNumber text.toList || text.toList.contains ' ' then .plain text else .unknown text

def readDashed (text : String) : Except Misuse Word :=
  match splitAtEquals text.toList with
  | (start, some value) =>
    match spelled? (String.ofList start) with
    | some x => .ok (.flag x (some value))
    | none => readCandidates
  | (_, none) =>
    match spelled? text with
    | some x => .ok (.flag x none)
    | none => readCandidates
where
  readCandidates : Except Misuse Word :=
    match candidates text.toList with
    | [] => .ok (otherWord text)
    | [(x, attached)] => .ok (.flag x attached)
    | several => .error (.ambiguous text (several.map (·.1.text)))

def readWord (text : String) : Except Misuse Word :=
  match text.toList with
  | '-' :: _ :: _ => readDashed text
  | _ => .ok (.plain text)

def readWords : List String → Except Misuse (List Word)
  | [] => .ok []
  | text :: rest =>
    if text = "--" then .ok (.separator :: rest.map .plain)
    else do
      let word ← readWord text
      let words ← readWords rest
      return word :: words

end Chip8.CommandLine
