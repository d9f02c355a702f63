import Chip8.Text.Hex

/-! Why a machine stops. A fault is final for the machine that it befalls; a stop reason also
names the two ways in which a bounded run ends without a fault. -/
namespace Chip8

inductive StopReason where
  | outOfBounds
  | stackOverflow
  | stackUnderflow
  | unknownOpcode
  | programTooLarge
  | halted
  | stepLimit
  | keyWait
  deriving DecidableEq, Repr

def StopReason.all : List StopReason :=
  [.outOfBounds, .stackOverflow, .stackUnderflow, .unknownOpcode, .programTooLarge, .halted,
    .stepLimit, .keyWait]

def StopReason.name : StopReason → String
  | .outOfBounds => "OUT_OF_BOUNDS"
  | .stackOverflow => "STACK_OVERFLOW"
  | .stackUnderflow => "STACK_UNDERFLOW"
  | .unknownOpcode => "UNKNOWN_OPCODE"
  | .programTooLarge => "ROM_TOO_LARGE"
  | .halted => "HALTED"
  | .stepLimit => "STEP_LIMIT"
  | .keyWait => "KEY_WAIT"

inductive Violation where
  | outside
  | reserved
  | described (text : String)
  deriving DecidableEq, Repr

def Violation.text : Violation → String
  | .outside => "outside $000-$FFF"
  | .reserved => "inside the reserved interpreter area"
  | .described text => text

inductive Fault where
  | outOfBounds (address : Int) (violation : Violation)
  | stackOverflow (pc depth : Int)
  | stackUnderflow (pc : Int)
  | unknownOpcode (word : Int) (pc : Option Int)
  | programTooLarge (size limit : Int)
  | halted (cause : Fault)
  deriving DecidableEq, Repr

namespace Fault

def reason : Fault → StopReason
  | outOfBounds .. => .outOfBounds
  | stackOverflow .. => .stackOverflow
  | stackUnderflow .. => .stackUnderflow
  | unknownOpcode .. => .unknownOpcode
  | programTooLarge .. => .programTooLarge
  | halted .. => .halted

def message : Fault → String
  | outOfBounds address violation =>
    s!"Memory access at ${Text.hex 4 address} {violation.text}"
  | stackOverflow pc depth => s!"Stack full ({depth} frames) on CALL, PC=${Text.hex 3 pc}"
  | stackUnderflow pc => s!"RET with an empty stack, PC=${Text.hex 3 pc}"
  | unknownOpcode word none => s!"Unknown opcode ${Text.hex 4 word}"
  | unknownOpcode word (some pc) =>
    s!"Unknown opcode ${Text.hex 4 word} at ${Text.hex 3 pc}"
  | programTooLarge size limit =>
    s!"Program size is {size} bytes but cannot exceed {limit} bytes"
  | halted cause => "Emulator halted: " ++ cause.message

end Fault
end Chip8
