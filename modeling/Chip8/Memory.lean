import Chip8.Fault
import Chip8.Word

/-! Four kibibytes of memory. Every address can be read; below $200, where the hexadecimal
digit font lies, no program can write. An access that fails leaves the bytes before it done. -/
namespace Chip8

def memorySize : Nat := 4096

def programStart : Nat := 512

def fontStart : Nat := 80

def fontHeight : Nat := 5

def font : List UInt8 :=
  [0xF0, 0x90, 0x90, 0x90, 0xF0, 0x20, 0x60, 0x20, 0x20, 0x70,
    0xF0, 0x10, 0xF0, 0x80, 0xF0, 0xF0, 0x10, 0xF0, 0x10, 0xF0,
    0x90, 0x90, 0xF0, 0x10, 0x10, 0xF0, 0x80, 0xF0, 0x10, 0xF0,
    0xF0, 0x80, 0xF0, 0x90, 0xF0, 0xF0, 0x10, 0x20, 0x40, 0x40,
    0xF0, 0x90, 0xF0, 0x90, 0xF0, 0xF0, 0x90, 0xF0, 0x10, 0xF0,
    0xF0, 0x90, 0xF0, 0x90, 0x90, 0xE0, 0x90, 0xE0, 0x90, 0xE0,
    0xF0, 0x80, 0x80, 0x80, 0xF0, 0xE0, 0x90, 0x90, 0x90, 0xE0,
    0xF0, 0x80, 0xF0, 0x80, 0xF0, 0xF0, 0x80, 0xF0, 0x80, 0x80]

structure Region where
  name : String
  start : Nat
  last : Nat
  writable : Bool
  deriving DecidableEq, Repr

namespace Region

def size (r : Region) : Nat := r.last - r.start + 1

def interpreter : Region := ⟨"INTERP", 0, programStart - 1, false⟩

def program : Region := ⟨"PROGRAM", programStart, memorySize - 1, true⟩

end Region

structure Memory where
  bytes : Vector UInt8 memorySize
  deriving DecidableEq

namespace Memory

def place? : Int → Option (Fin memorySize)
  | .ofNat a => if h : a < memorySize then some ⟨a, h⟩ else none
  | .negSucc _ => none

def readFault? (a : Int) : Option Fault :=
  match place? a with
  | some _ => none
  | none => some (.outOfBounds a .outside)

def regionOf (a : Int) : Except Fault Region :=
  match place? a with
  | some i => .ok (if i.val < programStart then .interpreter else .program)
  | none => .error (.outOfBounds a .outside)

def writeFault? (a : Int) : Option Fault :=
  match regionOf a with
  | .error f => some f
  | .ok r => if r.writable then none else some (.outOfBounds a .reserved)

def read (m : Memory) (a : Int) : Except Fault UInt8 :=
  match place? a with
  | some i => .ok (m.bytes.get i)
  | none => .error (.outOfBounds a .outside)

def readWord (m : Memory) (a : Int) : Except Fault UInt16 :=
  match m.read a with
  | .error f => .error f
  | .ok high =>
    match m.read (a + 1) with
    | .error f => .error f
    | .ok low => .ok (high.toUInt16 <<< 8 ||| low.toUInt16)

def put (m : Memory) (a : Nat) (b : UInt8) : Memory := ⟨m.bytes.setIfInBounds a b⟩

def putAll (m : Memory) (a : Nat) : List UInt8 → Memory
  | [] => m
  | b :: rest => (m.put a b).putAll (a + 1) rest

def store (m : Memory) (a : Int) : List UInt8 → Memory × Option Fault
  | [] => (m, none)
  | b :: rest =>
    match writeFault? a with
    | some f => (m, some f)
    | none => (m.put a.toNat b).store (a + 1) rest

def fetch (m : Memory) (a : Int) : Nat → List UInt8 × Option Fault
  | 0 => ([], none)
  | n + 1 =>
    match m.read a with
    | .error f => ([], some f)
    | .ok b =>
      let (rest, fault) := m.fetch (a + 1) n
      (b :: rest, fault)

def loadFont (m : Memory) : Memory := m.putAll fontStart font

def blank : Memory := ⟨Vector.replicate memorySize 0⟩

def powerOn : Memory := blank.loadFont

def loadFault? (size : Nat) (a : Int) : Option Fault :=
  match readFault? a with
  | some f => some f
  | none =>
    let limit := memorySize - a
    if limit < size then some (.programTooLarge size limit)
    else if size = 0 then none
    else writeFault? a

def load (m : Memory) (a : Int) (image : List UInt8) : Memory × Option Fault :=
  match readFault? a with
  | some f => (m, some f)
  | none =>
    let limit := memorySize - a
    if limit < image.length then (m, some (.programTooLarge image.length limit))
    else m.store a image

def clearProgram (m : Memory) : Memory :=
  m.putAll programStart (List.replicate (memorySize - programStart) 0)

def dump (m : Memory) (first last : Int) : Except Fault (List UInt8) :=
  match readFault? first, readFault? last with
  | some f, _ => .error f
  | none, some f => .error f
  | none, none => .ok ((m.bytes.toList.drop first.toNat).take (last + 1 - first).toNat)

def fontAddress (digit : Int) : Nat := fontStart + fontHeight * (digit % 16).toNat

theorem getElemPut (m : Memory) (a : Nat) (b : UInt8) (i : Nat) (h : i < memorySize) :
    (m.put a b).bytes[i] = if a = i then b else m.bytes[i] := by
  simp [put, Vector.getElem_setIfInBounds]

end Memory
end Chip8
