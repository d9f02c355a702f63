import Chip8.Fault
import Chip8.Word

/-! Instruction words. The opcode is found by the first pattern that fits; the operand fields
are digits of the word and are read from it whatever the opcode. -/
namespace Chip8

inductive Opcode where
  | clear
  | ret
  | jump
  | call
  | skipEqualByte
  | skipUnequalByte
  | skipEqual
  | skipUnequal
  | loadByte
  | addByte
  | copy
  | or
  | and
  | xor
  | add
  | sub
  | shiftRight
  | subFrom
  | shiftLeft
  | setIndex
  | jumpOffset
  | random
  | draw
  | skipPressed
  | skipReleased
  | readDelay
  | waitKey
  | setDelay
  | setSound
  | addIndex
  | digitSprite
  | storeDigits
  | storeRegisters
  | loadRegisters
  deriving DecidableEq, Repr

namespace Opcode

def mnemonic : Opcode → String
  | clear => "CLS"
  | ret => "RET"
  | jump => "JP"
  | call => "CALL"
  | skipEqualByte => "SE_IMM"
  | skipUnequalByte => "SNE_IMM"
  | skipEqual => "SE_REG"
  | skipUnequal => "SNE_REG"
  | loadByte => "LD_IMM"
  | addByte => "ADD_IMM"
  | copy => "LD_REG"
  | or => "OR"
  | and => "AND"
  | xor => "XOR"
  | add => "ADD_REG"
  | sub => "SUB"
  | shiftRight => "SHR"
  | subFrom => "SUBN"
  | shiftLeft => "SHL"
  | setIndex => "LD_I"
  | jumpOffset => "JP_OFF"
  | random => "RND"
  | draw => "DRW"
  | skipPressed => "SKP"
  | skipReleased => "SKNP"
  | readDelay => "LD_VX_DT"
  | waitKey => "LD_VX_K"
  | setDelay => "LD_DT"
  | setSound => "LD_ST"
  | addIndex => "ADD_I"
  | digitSprite => "LD_F"
  | storeDigits => "LD_B"
  | storeRegisters => "LD_MEM"
  | loadRegisters => "LD_REGS"

def redraws : Opcode → Bool
  | clear => true
  | draw => true
  | _ => false

end Opcode

structure Pattern where
  mask : UInt16
  value : UInt16
  opcode : Opcode
  deriving DecidableEq, Repr

namespace Pattern

def fits (p : Pattern) (word : UInt16) : Bool := word &&& p.mask == p.value

def all : List Pattern :=
  [⟨0xFFFF, 0x00E0, .clear⟩, ⟨0xFFFF, 0x00EE, .ret⟩,
    ⟨0xF000, 0x1000, .jump⟩, ⟨0xF000, 0x2000, .call⟩,
    ⟨0xF000, 0x3000, .skipEqualByte⟩, ⟨0xF000, 0x4000, .skipUnequalByte⟩,
    ⟨0xF00F, 0x5000, .skipEqual⟩, ⟨0xF00F, 0x9000, .skipUnequal⟩,
    ⟨0xF000, 0x6000, .loadByte⟩, ⟨0xF000, 0x7000, .addByte⟩,
    ⟨0xF00F, 0x8000, .copy⟩, ⟨0xF00F, 0x8001, .or⟩, ⟨0xF00F, 0x8002, .and⟩,
    ⟨0xF00F, 0x8003, .xor⟩, ⟨0xF00F, 0x8004, .add⟩, ⟨0xF00F, 0x8005, .sub⟩,
    ⟨0xF00F, 0x8006, .shiftRight⟩, ⟨0xF00F, 0x8007, .subFrom⟩, ⟨0xF00F, 0x800E, .shiftLeft⟩,
    ⟨0xF000, 0xA000, .setIndex⟩, ⟨0xF000, 0xB000, .jumpOffset⟩,
    ⟨0xF000, 0xC000, .random⟩, ⟨0xF000, 0xD000, .draw⟩,
    ⟨0xF0FF, 0xE09E, .skipPressed⟩, ⟨0xF0FF, 0xE0A1, .skipReleased⟩,
    ⟨0xF0FF, 0xF007, .readDelay⟩, ⟨0xF0FF, 0xF00A, .waitKey⟩,
    ⟨0xF0FF, 0xF015, .setDelay⟩, ⟨0xF0FF, 0xF018, .setSound⟩,
    ⟨0xF0FF, 0xF01E, .addIndex⟩, ⟨0xF0FF, 0xF029, .digitSprite⟩,
    ⟨0xF0FF, 0xF033, .storeDigits⟩, ⟨0xF0FF, 0xF055, .storeRegisters⟩,
    ⟨0xF0FF, 0xF065, .loadRegisters⟩]

end Pattern

structure Instruction where
  opcode : Opcode
  word : UInt16
  deriving DecidableEq, Repr

namespace Instruction

def decode? (word : UInt16) : Option Instruction :=
  (Pattern.all.find? (·.fits word)).map fun p => ⟨p.opcode, word⟩

def decode (word : Int) (pc : Option Int) : Except Fault Instruction :=
  match decode? (wordOf word) with
  | some i => .ok i
  | none => .error (.unknownOpcode (wordOf word).toNat pc)

def x (i : Instruction) : Fin 16 := ⟨i.word.toNat / 256 % 16, by omega⟩

def y (i : Instruction) : Fin 16 := ⟨i.word.toNat / 16 % 16, by omega⟩

def n (i : Instruction) : Nat := i.word.toNat % 16

def nn (i : Instruction) : UInt8 := i.word.toUInt8

def nnn (i : Instruction) : UInt16 := i.word &&& 0xFFF

def text (i : Instruction) : String := Text.hex 4 i.word.toNat ++ " " ++ i.opcode.mnemonic

theorem decodeWord (word : UInt16) (pc : Option Int) :
    decode word.toNat pc = match decode? word with
      | some i => .ok i
      | none => .error (.unknownOpcode word.toNat pc) := by
  rw [decode, wordOfNat]

end Instruction
end Chip8
