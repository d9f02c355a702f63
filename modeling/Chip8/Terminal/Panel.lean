import Chip8.Renderer
import Chip8.Terminal.Markup

/-! A terminal of eighty columns. Pictures stand in a box with rounded corners and a marked-up
title in its upper edge, words are put into lines, as many into each as there is room for. -/
namespace Chip8.Terminal
open Text (IntegerError)

def width : Nat := 80

def rule (n : Nat) : List Char := List.replicate n '─'

def centred (width : Nat) (text : List Letter) : List Letter :=
  let space := width - columns text
  Letter.plain (rule (space / 2)) ++ text ++ Letter.plain (rule (space - space / 2))

def titleLine (m : Marked) : Marked :=
  let line := m.letters.map fun l => if l.char = '\n' then { l with char := ' ' } else l
  if line.any (·.char = '\t') then ⟨expandTabs line, false, none⟩ else { m with letters := line }

def titleLetters (title : String) : List Letter :=
  if title = "" then []
  else
    let line := titleLine (readMarkup title.toList)
    { char := ' ' } :: line.letters ++
      [⟨' ', line.endsInTag || line.letters.any Letter.opens, line.endFault⟩]

def panelWidth (title : List Letter) (picture : Nat) : Nat :=
  min (width - 2) (max (picture + 2) (columns title + 2))

def panelTop (title : List Letter) (room : Nat) : List Char :=
  let runs := Letter.runs (centred room title)
  Letter.chars (cropLine width
    (Letter.plain ['╭', '─'] :: runs ++ [Letter.plain ['─', '╮']]))

def panelLine (width : Nat) (line : List Char) : List Char :=
  ['│', ' '] ++ line ++ List.replicate (width - 2 - line.length) ' ' ++ [' ', '│']

def panelBottom (width : Nat) : List Char := '╰' :: rule width ++ ['╯']

/-- A style is read if a part of the title in it fits, and there is no box if one cannot be. -/
def panel (picture : Nat) (title : String) : Except IntegerError (List String → List String) :=
  let letters := titleLetters title
  let width := panelWidth letters picture
  let title := fit (width - 2) letters
  match title.findSome? Letter.fault with
  | some e => .error e
  | none => .ok fun body =>
    (panelTop title (width - 2) :: body.map (panelLine width ·.toList) ++ [panelBottom width]).map
      String.ofList

def fillFrom (width : Nat) (line : String) : List String → List String
  | [] => [line]
  | word :: rest =>
    if line.length + 1 + word.length ≤ width then fillFrom width (line ++ " " ++ word) rest
    else (if line.length < width then line ++ " " else line) :: fillFrom width word rest

def fill (width : Nat) : List String → List String
  | [] => []
  | word :: rest => fillFrom width word rest

example : fill 8 ["one", "two", "three"] = ["one two ", "three"] := by decide +kernel

def renderer : Renderer where
  box picture title := (panel picture title).mapError IntegerError.message
  line text := fill width (text.splitOn " ")

end Chip8.Terminal
