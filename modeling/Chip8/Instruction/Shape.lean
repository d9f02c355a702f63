import Chip8.Instruction

/-! The written form of each opcode: four signs, where a hexadecimal digit stands for itself
and X, Y and N for any digit. -/
namespace Chip8

def Opcode.shape : Opcode → List Char
  | .clear => ['0', '0', 'E', '0']
  | .ret => ['0', '0', 'E', 'E']
  | .jump => ['1', 'N', 'N', 'N']
  | .call => ['2', 'N', 'N', 'N']
  | .skipEqualByte => ['3', 'X', 'N', 'N']
  | .skipUnequalByte => ['4', 'X', 'N', 'N']
  | .skipEqual => ['5', 'X', 'Y', '0']
  | .skipUnequal => ['9', 'X', 'Y', '0']
  | .loadByte => ['6', 'X', 'N', 'N']
  | .addByte => ['7', 'X', 'N', 'N']
  | .copy => ['8', 'X', 'Y', '0']
  | .or => ['8', 'X', 'Y', '1']
  | .and => ['8', 'X', 'Y', '2']
  | .xor => ['8', 'X', 'Y', '3']
  | .add => ['8', 'X', 'Y', '4']
  | .sub => ['8', 'X', 'Y', '5']
  | .shiftRight => ['8', 'X', 'Y', '6']
  | .subFrom => ['8', 'X', 'Y', '7']
  | .shiftLeft => ['8', 'X', 'Y', 'E']
  | .setIndex => ['A', 'N', 'N', 'N']
  | .jumpOffset => ['B', 'N', 'N', 'N']
  | .random => ['C', 'X', 'N', 'N']
  | .draw => ['D', 'X', 'Y', 'N']
  | .skipPressed => ['E', 'X', '9', 'E']
  | .skipReleased => ['E', 'X', 'A', '1']
  | .readDelay => ['F', 'X', '0', '7']
  | .waitKey => ['F', 'X', '0', 'A']
  | .setDelay => ['F', 'X', '1', '5']
  | .setSound => ['F', 'X', '1', '8']
  | .addIndex => ['F', 'X', '1', 'E']
  | .digitSprite => ['F', 'X', '2', '9']
  | .storeDigits => ['F', 'X', '3', '3']
  | .storeRegisters => ['F', 'X', '5', '5']
  | .loadRegisters => ['F', 'X', '6', '5']

def wordDigits (word : UInt16) : List Char := Text.hexChars 4 word.toNat

def signFits (sign digit : Char) : Bool :=
  sign = 'X' || sign = 'Y' || sign = 'N' || sign = digit

def Opcode.covers (o : Opcode) (word : UInt16) : Bool :=
  (o.shape.zip (wordDigits word)).all fun (sign, digit) => signFits sign digit

example : Opcode.shiftLeft.covers 0x8ABE ∧ ¬ Opcode.shiftLeft.covers 0x8AB0 := by decide

end Chip8
