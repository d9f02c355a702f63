import Chip8.Machine.Execute

/-! One instruction after another. A step says whether the screen was drawn anew; a fault
stops the machine, and a stopped machine answers every step with its fault. -/
namespace Chip8.Machine

def halt (m : Machine) (f : Fault) : Machine × Except Fault Bool :=
  ({ m with haltedBy := some f, fault := some f }.report (.halted f), .error f)

def countStep (m : Machine) : Machine := { m with steps := m.steps + 1 }

/-- The program counter moves on before an instruction is executed. -/
def perform (m : Machine) (pc : UInt16) (i : Instruction) : Machine × Except Fault Bool :=
  match (m.report (.executing pc i m.registers)).execute i with
  | (m, some f) => m.halt f
  | (m, none) => (m.countStep, .ok i.opcode.redraws)

def meetUnknown (m : Machine) (f : Fault) : Machine × Except Fault Bool :=
  if m.skipUnknown then ((m.report (.skipped f)).countStep, .ok false) else m.halt f

def step (m : Machine) : Machine × Except Fault Bool :=
  match m.haltedBy with
  | some cause => (m, .error (.halted cause))
  | none =>
    let pc := m.registers.pc
    match m.memory.readWord pc.toNat with
    | .error f => m.halt f
    | .ok word =>
      match Instruction.decode word.toNat (some pc.toNat) with
      | .error f => m.advance.meetUnknown f
      | .ok i => m.advance.perform pc i

def run (m : Machine) : Nat → Machine × StopReason
  | 0 => (m, .stepLimit)
  | n + 1 =>
    match m.step with
    | (m, .error f) => (m, f.reason)
    | (m, .ok _) => if m.awaitingKey then (m, .keyWait) else m.run n

def defaultStepLimit : Nat := 1000000

end Chip8.Machine
