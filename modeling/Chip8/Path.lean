/-! Paths in plain form: parts between slashes, with empty parts and dots for the same place
left out. -/
namespace Chip8

structure Path where
  root : String
  parts : List String
  deriving DecidableEq, Repr

namespace Path

/-- Exactly two leading slashes stay two; any other number counts as one. -/
def rootOf : List Char → String
  | '/' :: '/' :: '/' :: _ => "/"
  | '/' :: '/' :: _ => "//"
  | '/' :: _ => "/"
  | _ => ""

def ofText (text : String) : Path :=
  ⟨rootOf text.toList, (text.splitOn "/").filter fun part => part ≠ "" && part ≠ "."⟩

def text (p : Path) : String :=
  if p.root = "" ∧ p.parts = [] then "." else p.root ++ "/".intercalate p.parts

def parent (p : Path) : Path := { p with parts := p.parts.dropLast }

def valid (p : Path) : Bool := p.parts.all fun part => !part.toList.contains '\x00'

def name (p : Path) : String := p.parts.getLast?.getD ""

end Path
end Chip8
