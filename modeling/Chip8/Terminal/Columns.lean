import Chip8.Terminal.CharWidth
import Chip8.Text.Integer

/-! Text in a terminal's columns. Characters without a column of their own belong to the cluster
before them, a joiner also draws in the character after it, and an emoji selector widens a
narrow emoji. -/
namespace Chip8.Terminal
open Text (IntegerError)

structure Letter where
  char : Char
  opens : Bool := false
  fault : Option IntegerError := none
  deriving DecidableEq, Repr

namespace Letter

def plain (s : List Char) : List Letter := s.map fun c => { char := c }

def chars (s : List Letter) : List Char := s.map Letter.char

def runs : List Letter → List (List Letter)
  | [] => []
  | l :: s =>
    match runs s with
    | [] => [[l]]
    | run :: rest =>
      if run.head?.any Letter.opens then [l] :: run :: rest else (l :: run) :: rest

end Letter

def joiner : Char := '\u200D'

def emojiSelector : Char := '\uFE0F'

def columnsFrom (base : Option Char) : List Char → Nat
  | [] => 0
  | c :: s =>
    if c = joiner then
      match s with
      | [] => 0
      | _ :: s => columnsFrom base s
    else if c = emojiSelector then (if base.any widensAsEmoji then 1 else 0) + columnsFrom none s
    else
      match charWidth c with
      | 0 => columnsFrom base s
      | width => width + columnsFrom (some c) s

def columns (s : List Letter) : Nat := columnsFrom none (Letter.chars s)

structure Cluster where
  letters : List Letter
  width : Nat
  deriving DecidableEq, Repr

def attach (letters : List Letter) (width : Nat) : List Cluster → List Cluster
  | [] => [⟨letters, width⟩]
  | last :: before => ⟨last.letters ++ letters, last.width + width⟩ :: before

def gather (clusters : List Cluster) (base : Option Char) : List Letter → List Cluster
  | [] => clusters
  | l :: s =>
    if l.char = joiner then
      if clusters.isEmpty then gather [⟨[l], 0⟩] base s
      else
        match s with
        | [] => attach [l] 0 clusters
        | d :: s => gather (attach [l, d] 0 clusters) base s
    else if l.char = emojiSelector then
      if base.any widensAsEmoji then gather (attach [l] 1 clusters) none s
      else gather (attach [l] 0 clusters) base s
    else
      match charWidth l.char with
      | 0 => gather (attach [l] 0 clusters) base s
      | width => gather (⟨[l], width⟩ :: clusters) (some l.char) s

def clusters (s : List Letter) : List Cluster := (gather [] none s).reverse

def fitting : Nat → List Cluster → List Letter
  | _, [] => []
  | room, c :: rest =>
    if c.width ≤ room then c.letters ++ fitting (room - c.width) rest
    else (c.letters.take (min room 1)).map fun l => { l with char := ' ' }

def fit (room : Nat) (s : List Letter) : List Letter :=
  if columns s ≤ room then s else fitting room (clusters s)

/-- Runs are measured one by one, so that nothing joins the end of one and the start of the
next. The first that reaches the end of the room is the last. -/
def crop (room : Nat) : List (List Letter) → List Letter
  | [] => []
  | run :: rest =>
    if columns run < room then run ++ crop (room - columns run) rest else fit room run

def cropLine (room : Nat) (line : List (List Letter)) : List Letter :=
  if line.foldl (fun n run => n + columns run) 0 ≤ room then line.flatten else crop room line

def tabWidth : Nat := 8

def gap (column : Nat) : List Char := List.replicate ((tabWidth - column % tabWidth) % tabWidth) ' '

/-- A tab is one blank and the gap after it; `part` is the text since the tab before. Behind a
tab in a style (`styled`) a new run opens. -/
def expandTabsFrom (column : Nat) (styled : Bool) (part : List Letter) :
    List Letter → List Letter
  | [] => part
  | l :: s =>
    let opens := l.opens || (styled && part.isEmpty)
    if l.char = '\t' then
      let part := part ++ [{ l with char := ' ', opens }]
      let column := column + columns part
      part ++ Letter.plain (gap column) ++
        expandTabsFrom (column + (gap column).length) (styled || part.any Letter.opens) [] s
    else expandTabsFrom column styled (part ++ [{ l with opens }]) s

def expandTabs (s : List Letter) : List Letter := expandTabsFrom 0 false [] s

example : columns (Letter.plain ['a', '日', '\u0301']) = 3 ∧
    columns (Letter.plain ['❤', '\uFE0F']) = 2 ∧
    Letter.chars (fit 2 (Letter.plain ['a', '日', 'b'])) = ['a', ' '] := by decide +kernel

end Chip8.Terminal
