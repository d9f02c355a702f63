import Chip8.FileError
import Chip8.Path

/-! Files and folders below one place and below the root. A path is followed part by part, and
where it leads nowhere the error is the one that an operating system gives. -/
namespace Chip8

inductive Node where
  | folder
  | file (content : List UInt8)
  | void
  deriving DecidableEq

structure FileTree where
  nodes : List (List String × Node)

namespace FileTree

def partLimit : Nat := 255

def pathLimit : Nat := 4096

def isTop (place : List String) : Bool := place = ["/"] || place.all (· = "..")

def node? (t : FileTree) (place : List String) : Option Node :=
  if isTop place then some .folder
  else
    match t.nodes.find? (·.1 = place) with
    | some (_, node) => some node
    | none => if t.nodes.any (place.isPrefixOf ·.1) then some .folder else none

def step (place : List String) (part : String) : List String :=
  if part ≠ ".." then place ++ [part]
  else if place = ["/"] then place
  else if place.all (· = "..") then place ++ [part]
  else place.dropLast

/-- Where a path leads and what is there; only its last part may be missing. -/
def followFrom (t : FileTree) (path : String) (place : List String) :
    List String → Except FileError (List String × Option Node)
  | [] => .ok (place, t.node? place)
  | part :: rest =>
    match t.node? place with
    | none => .error (.notFound path)
    | some (.file _) | some .void => .error (.notDirectory path)
    | some .folder =>
      if partLimit < part.utf8ByteSize then .error (.nameTooLong path)
      else t.followFrom path (step place part) rest

def follow (t : FileTree) (p : Path) : Except FileError (List String × Option Node) :=
  if pathLimit ≤ p.text.utf8ByteSize then .error (.nameTooLong p.text)
  else t.followFrom p.text (if p.root = "" then [] else ["/"]) p.parts

def place? (t : FileTree) (p : Path) : Option (List String) :=
  (t.follow p).toOption.map Prod.fst

def add (t : FileTree) (place : List String) (node : Node) : FileTree :=
  ⟨(place, node) :: t.nodes⟩

def contentOf (t : FileTree) (p : Path) : Except FileError (List UInt8) :=
  match t.follow p with
  | .error e => .error e
  | .ok (_, none) => .error (.notFound p.text)
  | .ok (_, some .folder) => .error (.isDirectory p.text)
  | .ok (_, some (.file content)) => .ok content
  | .ok (_, some .void) => .ok []

def read (t : FileTree) (p : Path) : Except AccessError (List UInt8) :=
  if p.valid then (t.contentOf p).mapError .refused else .error .notPath

def isFolder (t : FileTree) (p : Path) : Bool :=
  match t.follow p with
  | .ok (_, some .folder) => true
  | _ => false

def makeFolder (t : FileTree) (p : Path) : FileTree × Option FileError :=
  match t.follow p with
  | .error e => (t, some e)
  | .ok (_, some _) => (t, some (.alreadyThere p.text))
  | .ok (place, none) => (t.add place .folder, none)

def haveFolder (t : FileTree) (p : Path) : FileTree × Option FileError :=
  let (t, e) := t.makeFolder p
  (t, if t.isFolder p then none else e)

/-- Makes whatever is missing above the folder too; what was made before an error stays. -/
def makeFolders (t : FileTree) (p : Path) : FileTree × Option FileError :=
  match t.makeFolder p with
  | (t, none) => (t, none)
  | (t, some e) =>
    if e = .notFound p.text then
      if _h : p.parts = [] then (t, some e)
      else
        match t.makeFolders p.parent with
        | (t, some e) => (t, some e)
        | (t, none) => t.haveFolder p
    else (t, if t.isFolder p then none else some e)
termination_by p.parts.length
decreasing_by
  simp only [Path.parent, List.length_dropLast]
  have := List.length_pos_iff.mpr _h
  omega

def append (t : FileTree) (p : Path) (bytes : List UInt8) : FileTree :=
  match t.follow p with
  | .ok (place, some (.file content)) => t.add place (.file (content ++ bytes))
  | _ => t

def haveFile (t : FileTree) (p : Path) : FileTree × Option AccessError :=
  if !p.valid then (t, some .notPath)
  else
    match t.follow p with
    | .error e => (t, some (.refused e))
    | .ok (_, some .folder) => (t, some (.refused (.isDirectory p.text)))
    | .ok (_, some _) => (t, none)
    | .ok (place, none) => (t.add place (.file []), none)

def prepareFile (t : FileTree) (p : Path) : FileTree × Option AccessError :=
  if !p.parent.valid then (t, some .notPath)
  else
    match t.makeFolders p.parent with
    | (t, some e) => (t, some (.refused e))
    | (t, none) => t.haveFile p

end FileTree
end Chip8
