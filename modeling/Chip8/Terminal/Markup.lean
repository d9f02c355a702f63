import Chip8.Terminal.Columns
import Chip8.Terminal.Emoji
import Chip8.Terminal.Style

/-! Text with tags in square brackets and with emoji by their short names between colons. The
tags are left out, a run of letters begins where each of them was, and the emoji are shown. -/
namespace Chip8.Terminal
open Text (IntegerError isBlank)

def opensTag (c : Char) : Bool :=
  ('a' ≤ c && c ≤ 'z') || c = '#' || c = '/' || c = '@'

def splitTag? : List Char → Option (List Char × List Char)
  | '[' :: c :: s =>
    let inside := s.takeWhile fun x => x ≠ '[' && x ≠ ']'
    match opensTag c, s.dropWhile fun x => x ≠ '[' && x ≠ ']' with
    | true, ']' :: rest => some ('[' :: c :: inside ++ [']'], rest)
    | _, _ => none
  | _ => none

theorem splitTagShorter {s tag rest : List Char} (h : splitTag? s = some (tag, rest)) :
    rest.length < s.length := by
  unfold splitTag? at h
  split at h <;> try contradiction
  rename_i c s
  split at h <;> try contradiction
  rename_i tail _ same
  cases h
  have shorter : (s.dropWhile fun x => x ≠ '[' && x ≠ ']').length ≤ s.length :=
    (List.dropWhile_suffix _).length_le
  rw [same] at shorter
  simp only [List.length_cons] at *
  omega

def plainBrackets : List Char → List Char
  | '\\' :: '[' :: s => '[' :: plainBrackets s
  | c :: s => c :: plainBrackets s
  | [] => []

inductive Piece where
  | plain (text : List Char)
  | tag (inside : List Char)
  deriving DecidableEq, Repr

def inside (tag : List Char) : List Char := tag.tail.dropLast

/-- The texts between tags, and the tags. Of the backslashes before a tag each pair is one, and
an odd one makes the tag a text. -/
def pieces (before : List Char) (s : List Char) : List Piece :=
  let slashes := (s.takeWhile (· = '\\')).length
  match h : splitTag? (s.dropWhile (· = '\\')) with
  | some (tag, rest) =>
    have : rest.length < s.length :=
      Nat.lt_of_lt_of_le (splitTagShorter h) (List.dropWhile_suffix _).length_le
    .plain (plainBrackets before) :: .plain (List.replicate (slashes / 2) '\\') ::
      (if slashes % 2 = 1 then .plain tag else .tag (inside tag)) :: pieces [] rest
  | none =>
    match s with
    | [] => [.plain (plainBrackets before)]
    | c :: rest => pieces (before ++ [c]) rest
termination_by s.length

def splitPresentation (name : List Char) : List Char × List Char :=
  if "-emoji".toList.isSuffixOf name then (name.take (name.length - 6), ['\uFE0F'])
  else if "-text".toList.isSuffixOf name then (name.take (name.length - 5), ['\uFE0E'])
  else (name, [])

def emojiNamed? (name : List Char) : Option (List Char) :=
  let (name, presentation) := splitPresentation name
  (emoji? (String.ofList (name.map lowerLetter))).map (·.toList ++ presentation)

def splitName? : List Char → Option (List Char × List Char)
  | ':' :: s =>
    match s.dropWhile fun c => c ≠ ':' && !isBlank c with
    | ':' :: rest => some (s.takeWhile (fun c => c ≠ ':' && !isBlank c), rest)
    | _ => none
  | _ => none

theorem splitNameShorter {s name rest : List Char} (h : splitName? s = some (name, rest)) :
    rest.length < s.length := by
  unfold splitName? at h
  split at h <;> try contradiction
  rename_i s
  split at h <;> try contradiction
  rename_i tail same
  cases h
  have shorter : (s.dropWhile fun c => c ≠ ':' && !isBlank c).length ≤ s.length :=
    (List.dropWhile_suffix _).length_le
  rw [same] at shorter
  simp only [List.length_cons] at *
  omega

def showEmoji (s : List Char) : List Char :=
  match h : splitName? s with
  | some (name, rest) =>
    have := splitNameShorter h
    (emojiNamed? name).getD (':' :: name ++ [':']) ++ showEmoji rest
  | none =>
    match s with
    | [] => []
    | c :: rest => c :: showEmoji rest
termination_by s.length

def isDropped (c : Char) : Bool := ['\x07', '\x08', '\x0B', '\x0C', '\x0D'].contains c

structure Marked where
  letters : List Letter
  endsInTag : Bool
  endFault : Option IntegerError
  deriving DecidableEq, Repr

def lettersOf (opens : Bool) (fault : Option IntegerError) : List Piece → Marked
  | [] => ⟨[], opens, fault⟩
  | .tag inside :: rest => lettersOf true (fault <|> tagFault? inside) rest
  | .plain text :: rest =>
    match (showEmoji text).filter (!isDropped ·) with
    | [] => lettersOf opens fault rest
    | c :: more =>
      let later := lettersOf false none rest
      { later with letters := ⟨c, opens, fault⟩ :: Letter.plain more ++ later.letters }

def readMarkup (s : List Char) : Marked := lettersOf false none (pieces [] s)

end Chip8.Terminal
