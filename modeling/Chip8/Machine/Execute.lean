import Chip8.Machine

/-! What each instruction does. A result is written before its flag, so VF ends up with the
flag where the two meet. An instruction that fails keeps what it had done by then. -/
namespace Chip8.Machine

open Arithmetic
open Registers (flag)

def v (m : Machine) (x : Fin 16) : UInt8 := m.registers.get x

def setV (m : Machine) (x : Fin 16) (b : UInt8) : Machine :=
  { m with registers := m.registers.set x b }

def setFlag (m : Machine) (b : Bool) : Machine := m.setV flag (flagOf b)

def setResult (m : Machine) (x : Fin 16) (r : UInt8 × Bool) : Machine :=
  (m.setV x r.1).setFlag r.2

def setIndex (m : Machine) (i : UInt16) : Machine :=
  { m with registers := { m.registers with index := i } }

def jumpTo (m : Machine) (address : UInt16) : Machine :=
  { m with registers := { m.registers with pc := address } }

def advance (m : Machine) : Machine := m.jumpTo (m.registers.pc + 2)

def skipIf (m : Machine) (condition : Bool) : Machine := if condition then m.advance else m

def shifted (m : Machine) (i : Instruction) : UInt8 :=
  if m.dialect.shiftInPlace then m.v i.x else m.v i.y

def logic (m : Machine) (x : Fin 16) (b : UInt8) : Machine :=
  let m := m.setV x b
  if m.dialect.logicClearsVF then m.setFlag false else m

def addIndex (m : Machine) (x : Fin 16) : Machine :=
  let sum := m.registers.index.toNat + (m.v x).toNat
  if m.dialect.indexOverflow then
    (m.setIndex (wordOf (sum % 4096 : Nat))).setFlag (4095 < sum)
  else m.setIndex (wordOf sum)

def passIndex (m : Machine) (x : Fin 16) : Machine :=
  if m.dialect.keepIndex then m else m.setIndex (m.registers.index + wordOf (x.val + 1))

def ret? (m : Machine) : Machine × Option Fault :=
  match m.registers.pop with
  | .error f => (m, some f)
  | .ok (address, r) => ({ m with registers := { r with pc := address } }, none)

def call? (m : Machine) (address : UInt16) : Machine × Option Fault :=
  match m.registers.push m.registers.pc with
  | .error f => (m, some f)
  | .ok r => ({ m with registers := { r with pc := address } }, none)

def random (m : Machine) (x : Fin 16) (mask : UInt8) : Machine :=
  let (b, generator) := m.generator.byte
  { m with generator }.setV x (b &&& mask)

/-- All rows are read before the first is drawn. -/
def draw? (m : Machine) (i : Instruction) : Machine × Option Fault :=
  match m.memory.fetch m.registers.index.toNat i.n with
  | (_, some f) => (m, some f)
  | (rows, none) =>
    let (screen, hit) := m.screen.draw m.dialect.clip (m.v i.x).toNat (m.v i.y).toNat
      (rows.map fun b => (b.toNat : Int))
    ({ m with screen }.setFlag hit, none)

/-- Until a key is there, the program counter goes back onto the instruction. -/
def waitKey (m : Machine) (x : Fin 16) : Machine :=
  let m := if m.keypad.waiting then m else m.armWait
  match m.keypad.take with
  | (none, _) => m.jumpTo (m.registers.pc - 2)
  | (some k, keypad) =>
    ({ m with keypad }.report (.waitSatisfied k)).setV x (UInt8.ofNat k.val)

def storeDigits? (m : Machine) (x : Fin 16) : Machine × Option Fault :=
  let (hundreds, tens, ones) := digits (m.v x)
  let (memory, fault) := m.memory.store m.registers.index.toNat [hundreds, tens, ones]
  ({ m with memory }, fault)

def storeRegisters? (m : Machine) (x : Fin 16) : Machine × Option Fault :=
  let (memory, fault) :=
    m.memory.store m.registers.index.toNat (m.registers.first (x.val + 1))
  let m := { m with memory }
  (if fault.isSome then m else m.passIndex x, fault)

def loadRegisters? (m : Machine) (x : Fin 16) : Machine × Option Fault :=
  let (bytes, fault) := m.memory.fetch m.registers.index.toNat (x.val + 1)
  let m := { m with registers := m.registers.setFrom 0 bytes }
  (if fault.isSome then m else m.passIndex x, fault)

def execute (m : Machine) (i : Instruction) : Machine × Option Fault :=
  match i.opcode with
  | .clear => ({ m with screen := .blank }, none)
  | .ret => m.ret?
  | .jump => (m.jumpTo i.nnn, none)
  | .call => m.call? i.nnn
  | .skipEqualByte => (m.skipIf (m.v i.x == i.nn), none)
  | .skipUnequalByte => (m.skipIf (m.v i.x != i.nn), none)
  | .skipEqual => (m.skipIf (m.v i.x == m.v i.y), none)
  | .skipUnequal => (m.skipIf (m.v i.x != m.v i.y), none)
  | .loadByte => (m.setV i.x i.nn, none)
  | .addByte => (m.setV i.x (m.v i.x + i.nn), none)
  | .copy => (m.setV i.x (m.v i.y), none)
  | .or => (m.logic i.x (m.v i.x ||| m.v i.y), none)
  | .and => (m.logic i.x (m.v i.x &&& m.v i.y), none)
  | .xor => (m.logic i.x (m.v i.x ^^^ m.v i.y), none)
  | .add => (m.setResult i.x (add (m.v i.x).toNat (m.v i.y).toNat), none)
  | .sub => (m.setResult i.x (sub (m.v i.x).toNat (m.v i.y).toNat), none)
  | .shiftRight => (m.setResult i.x (shiftRight (m.shifted i)), none)
  | .subFrom => (m.setResult i.x (sub (m.v i.y).toNat (m.v i.x).toNat), none)
  | .shiftLeft => (m.setResult i.x (shiftLeft (m.shifted i)), none)
  | .setIndex => (m.setIndex i.nnn, none)
  | .jumpOffset =>
    let register := if m.dialect.jumpAddsVX then i.x else Registers.zeroth
    (m.jumpTo (i.nnn + (m.v register).toUInt16), none)
  | .random => (m.random i.x i.nn, none)
  | .draw => m.draw? i
  | .skipPressed => (m.skipIf (m.keypad.isPressed (keyOf (m.v i.x))), none)
  | .skipReleased => (m.skipIf (!m.keypad.isPressed (keyOf (m.v i.x))), none)
  | .readDelay => (m.setV i.x m.timers.delay, none)
  | .waitKey => (m.waitKey i.x, none)
  | .setDelay => ({ m with timers := m.timers.setDelay (m.v i.x) }, none)
  | .setSound => ({ m with timers := m.timers.setSound (m.v i.x) }, none)
  | .addIndex => (m.addIndex i.x, none)
  | .digitSprite => (m.setIndex (wordOf (Memory.fontAddress (m.v i.x).toNat)), none)
  | .storeDigits => m.storeDigits? i.x
  | .storeRegisters => m.storeRegisters? i.x
  | .loadRegisters => m.loadRegisters? i.x

end Chip8.Machine
