import Chip8.FileTree
import Chip8.Logger

/-! Where the records of the program go: to a console, and to a file if one is named. A set-up
replaces whatever was there before, so that no record is written twice. The file takes whatever is
at least for debugging. -/
namespace Chip8

structure LogSetup where
  name : String := Source.package.name
  level : Level := Level.debug
  consoleLevel : Level := Level.warning
  style : ConsoleStyle := .decorated
  file : Option String := none
  deriving DecidableEq, Repr

namespace LogSetup

def target (s : LogSetup) : LoggerName := .ofText s.name

def path? (s : LogSetup) : Option Path := s.file.map .ofText

def openConsole (s : LogSetup) (r : Registry) : Registry :=
  let r := (r.ask s.target).detachAll s.target
  (r.setLevel s.target s.level).attach s.target (.console s.style) s.consoleLevel

def openFile (s : LogSetup) (r : Registry) : Registry :=
  match s.path? with
  | none => r
  | some path => r.attach s.target (.file path.text) Level.debug

def headings (s : LogSetup) : List Record :=
  s.path?.toList.map fun path =>
    { (Event.logOpened path.text).toRecord with source := s.target.text }

def openIn (s : LogSetup) (tree : FileTree) : FileTree × Option AccessError :=
  match s.path? with
  | none => (tree, none)
  | some path => tree.prepareFile path

/-- Where the file cannot be had, the console has been replaced all the same. -/
def apply (s : LogSetup) (r : Registry) (tree : FileTree) :
    Registry × FileTree × Except AccessError (List Delivery) :=
  let r := s.openConsole r
  match s.openIn tree with
  | (tree, some e) => (r, tree, .error e)
  | (tree, none) =>
    let r := s.openFile r
    (r, tree, .ok (s.headings.flatMap r.deliver))

def applyTimes (s : LogSetup) (r : Registry) (tree : FileTree) :
    Nat → Registry × FileTree × Except AccessError (List Delivery)
  | 0 => (r, tree, .ok [])
  | n + 1 =>
    match s.apply r tree with
    | (r, tree, .error e) => (r, tree, .error e)
    | (r, tree, .ok first) =>
      let (r, tree, others) := s.applyTimes r tree n
      (r, tree, others.map (first ++ ·))

end LogSetup
end Chip8
