import Chip8.Arithmetic
import Chip8.Display
import Chip8.Journal
import Chip8.Keypad
import Chip8.Random
import Chip8.Timers

/-! The whole machine, what its host can do to it, and power. -/
namespace Chip8

structure Machine where
  dialect : Dialect
  skipUnknown : Bool
  registers : Registers
  memory : Memory
  timers : Timers
  screen : Screen
  keypad : Keypad
  generator : Generator
  program : List UInt8
  haltedBy : Option Fault
  fault : Option Fault
  steps : Nat
  journal : Journal

namespace Machine

def report (m : Machine) (e : Event) : Machine := { m with journal := m.journal.record e }

def powerOn (dialect : Dialect) (skipUnknown : Bool) (generator : Generator)
    (journal : Journal) : Machine :=
  { dialect, skipUnknown, generator
    registers := .powerOn
    memory := .powerOn
    timers := .zero
    screen := .blank
    keypad := .released
    program := []
    haltedBy := none
    fault := none
    steps := 0
    journal := journal.record (.created dialect) }

/-- A rejected image is not what a restart would load. -/
def load (m : Machine) (image : List UInt8) : Machine × Option Fault :=
  match m.memory.load programStart image with
  | (memory, some f) => ({ m with memory }, some f)
  | (memory, none) =>
    ({ m with memory, program := image }.report (.loaded image.length), none)

/-- Everything starts anew except the generator and the journal. -/
def restart (m : Machine) : Machine :=
  { m with
    registers := .powerOn
    memory := m.memory.clearProgram.putAll programStart m.program
    timers := .zero
    screen := .blank
    keypad := .released
    haltedBy := none
    fault := none
    steps := 0 }.report .restarted

def halted (m : Machine) : Bool := m.haltedBy.isSome

def awaitingKey (m : Machine) : Bool := m.keypad.waiting

def blocked (m : Machine) : Bool := m.keypad.waiting && !m.keypad.pending

def setKey (m : Machine) (k : Fin 16) (down : Bool) : Machine :=
  { m with keypad := m.keypad.set k down }

def setKeys (m : Machine) (down : Bool) : List Int → Machine × Option KeyError
  | [] => (m, none)
  | k :: rest =>
    match key? k with
    | .error e => (m, some e)
    | .ok k => (m.setKey k down).setKeys down rest

def armWait (m : Machine) : Machine := { m with keypad := m.keypad.arm }.report .waitArmed

def tick (m : Machine) : Machine := { m with timers := m.timers.tick }

end Machine
end Chip8
