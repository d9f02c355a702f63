import Chip8.Word

/-! Byte arithmetic with the flag that goes to VF. -/
namespace Chip8.Arithmetic

def flagOf (b : Bool) : UInt8 := if b then 1 else 0

def add (a b : Int) : UInt8 × Bool := (byteOf (a + b), 255 < a + b)

def sub (a b : Int) : UInt8 × Bool := (byteOf (a - b), b ≤ a)

def shiftRight (a : UInt8) : UInt8 × Bool := (a >>> 1, a &&& 1 == 1)

def shiftLeft (a : UInt8) : UInt8 × Bool := (a <<< 1, a >>> 7 == 1)

def digits (a : UInt8) : UInt8 × UInt8 × UInt8 := (a / 100, a / 10 % 10, a % 10)

end Chip8.Arithmetic
