import Chip8.Proofs.WriteSet

/-! Arithmetic on two registers, whichever they are. The operands are read before anything is
written, and the flag is written last, so VF holds the flag even where it is the target or an
operand. -/
namespace Chip8

/- The number that is worked out of two bytes, before it is cut to a byte, and the flag: a carry,
no borrow, or the bit that a shift drops. -/
def Opcode.total? (a b shifted : Nat) : Opcode → Option (Int × Bool)
  | .add => some (a + b, 256 ≤ a + b)
  | .sub => some (a - b, b ≤ a)
  | .subFrom => some (b - a, a ≤ b)
  | .shiftRight => some ((shifted / 2 : Nat), shifted.testBit 0)
  | .shiftLeft => some (2 * shifted, shifted.testBit 7)
  | _ => none

def Opcode.gate? : Opcode → Option (Bool → Bool → Bool)
  | .or => some (· || ·)
  | .and => some (· && ·)
  | .xor => some (· ^^ ·)
  | _ => none

theorem byteOfValue (v : Int) : ((byteOf v).toNat : Int) = v % 256 := by
  simp only [byteOf, UInt8.toNat_ofNat']
  omega

namespace Arithmetic

theorem flagValue (b : Bool) : (flagOf b).toNat = if b then 1 else 0 := by cases b <;> rfl

theorem shiftRightValue (a : UInt8) :
    ((shiftRight a).1.toNat : Int) = ((a.toNat / 2 : Nat) : Int) % 256 ∧
      (shiftRight a).2 = a.toNat.testBit 0 := by
  have bound := a.toNat_lt
  constructor
  · have halved : (shiftRight a).1.toNat = a.toNat / 2 := by
      simp [shiftRight, UInt8.toNat_shiftRight, Nat.shiftRight_eq_div_pow]
    omega
  · have low : (a &&& 1).toNat = a.toNat % 2 := by
      rw [UInt8.toNat_and]
      exact Nat.and_one_is_mod _
    rw [Bool.eq_iff_iff]
    simp [shiftRight, ← UInt8.toNat_inj, low, Nat.testBit_zero]

theorem shiftLeftValue (a : UInt8) :
    ((shiftLeft a).1.toNat : Int) = (2 * a.toNat : Int) % 256 ∧
      (shiftLeft a).2 = a.toNat.testBit 7 := by
  have bound := a.toNat_lt
  constructor
  · have doubled : (shiftLeft a).1.toNat = 2 * a.toNat % 256 := by
      simp [shiftLeft, UInt8.toNat_shiftLeft, Nat.shiftLeft_eq]
      omega
    omega
  · have high : (a >>> 7).toNat = a.toNat / 128 := by
      simp [UInt8.toNat_shiftRight, Nat.shiftRight_eq_div_pow]
    rw [Bool.eq_iff_iff]
    simp [shiftLeft, ← UInt8.toNat_inj, high, Nat.testBit_eq_decide_div_mod_eq]
    omega

end Arithmetic

namespace Machine
open Arithmetic
open Registers (flag)

section
variable (m : Machine) {x : Fin 16} (r : UInt8 × Bool)

theorem setSelf (x : Fin 16) (b : UInt8) : (m.setV x b).v x = b :=
  (m.registers.getSet x x b).trans (if_pos rfl)

theorem resultFlag : (m.setResult x r).v flag = flagOf r.2 := (m.setV x r.1).setSelf flag _

theorem resultValue (apart : x ≠ flag) : (m.setResult x r).v x = r.1 :=
  (flagOther (m.setV x r.1) r.2 apart).trans (m.setSelf x r.1)

theorem logicCases (x : Fin 16) (b : UInt8) :
    m.logic x b = if m.dialect.logicClearsVF then (m.setV x b).setFlag false else m.setV x b :=
  rfl

theorem logicValue (b : UInt8) (apart : x ≠ flag ∨ m.dialect.logicClearsVF = false) :
    (m.logic x b).v x = b := by
  rw [logicCases]
  split
  · rename_i clears
    have other : x ≠ flag := apart.resolve_right (by simp [clears])
    rw [flagOther _ false other, setSelf]
  · exact m.setSelf x b

theorem logicCleared (b : UInt8) (clears : m.dialect.logicClearsVF = true) :
    (m.logic x b).v flag = 0 := by
  rw [logicCases, if_pos clears]
  exact setSelf _ flag _

end

theorem executeTotal {m : Machine} {i : Instruction} {total : Int} {carry : Bool}
    (sums : i.opcode.total? (m.v i.x).toNat (m.v i.y).toNat (m.shifted i).toNat =
      some (total, carry)) :
    ∃ r, m.execute i = (m.setResult i.x r, none) ∧ (r.1.toNat : Int) = total % 256 ∧
      r.2 = carry := by
  cases named : i.opcode <;> simp only [Opcode.total?, named, reduceCtorEq] at sums <;>
    cases sums <;> simp only [execute, named]
  case add =>
    refine ⟨_, rfl, byteOfValue _, ?_⟩
    exact decide_eq_decide.mpr (by omega)
  case sub | subFrom =>
    refine ⟨_, rfl, byteOfValue _, ?_⟩
    exact decide_eq_decide.mpr (by omega)
  case shiftRight => exact ⟨_, rfl, shiftRightValue _⟩
  case shiftLeft => exact ⟨_, rfl, shiftLeftValue _⟩

theorem executeGate {m : Machine} {i : Instruction} {gate : Bool → Bool → Bool}
    (combines : i.opcode.gate? = some gate) :
    ∃ b, m.execute i = (m.logic i.x b, none) ∧ ∀ k, b.toNat.testBit k =
      gate ((m.v i.x).toNat.testBit k) ((m.v i.y).toNat.testBit k) := by
  cases named : i.opcode <;> simp only [Opcode.gate?, named, reduceCtorEq] at combines <;>
    cases combines <;> simp only [execute, named]
  case or =>
    refine ⟨_, rfl, fun k => ?_⟩
    rw [UInt8.toNat_or, Nat.testBit_or]
  case and =>
    refine ⟨_, rfl, fun k => ?_⟩
    rw [UInt8.toNat_and, Nat.testBit_and]
  case xor =>
    refine ⟨_, rfl, fun k => ?_⟩
    rw [UInt8.toNat_xor, Nat.testBit_xor]

theorem totalRedraws {o : Opcode} {a b shifted : Nat} {outcome : Int × Bool}
    (sums : o.total? a b shifted = some outcome) : o.redraws = false := by
  cases o <;> first | rfl | contradiction

theorem gateRedraws {o : Opcode} {gate : Bool → Bool → Bool} (combines : o.gate? = some gate) :
    o.redraws = false := by
  cases o <;> first | rfl | contradiction

end Machine

open Registers (flag)

structure Spared (m n : Machine) (x : Fin 16) : Prop where
  v : ∀ y, y ≠ x → y ≠ flag → n.v y = m.v y
  index : n.registers.index = m.registers.index
  stack : n.registers.stack = m.registers.stack

structure Totalled (m n : Machine) (x : Fin 16) (total : Int) (carry : Bool) : Prop where
  vf : (n.v flag).toNat = if carry then 1 else 0
  vx : x ≠ flag → ((n.v x).toNat : Int) = total % 256
  rest : Spared m n x

structure Gated (m n : Machine) (x y : Fin 16) (gate : Bool → Bool → Bool) : Prop where
  vx : x ≠ flag ∨ m.dialect.logicClearsVF = false → ∀ k, (n.v x).toNat.testBit k =
    gate ((m.v x).toNat.testBit k) ((m.v y).toNat.testBit k)
  cleared : m.dialect.logicClearsVF = true → n.v flag = 0
  kept : m.dialect.logicClearsVF = false → x ≠ flag → n.v flag = m.v flag
  rest : Spared m n x

theorem byteArithmetic {m : Machine} {i : Instruction} (running : m.halted = false)
    (current : m.current? = some i) :
    (∀ total carry, i.opcode.total? (m.v i.x).toNat (m.v i.y).toNat
        (if m.dialect.shiftInPlace then m.v i.x else m.v i.y).toNat = some (total, carry) →
      ∃ n, m.step = (n, .ok false) ∧ Totalled m n i.x total carry) ∧
    ∀ gate, i.opcode.gate? = some gate →
      ∃ n, m.step = (n, .ok false) ∧ Gated m n i.x i.y gate := by
  have unhalted : m.haltedBy = none := by simpa [Machine.halted] using running
  have known := Machine.stepKnown unhalted current
  constructor
  · intro total carry sums
    obtain ⟨r, executed, value, flagged⟩ := Machine.executeTotal (m := m.begun i) sums
    rw [executed, Machine.totalRedraws sums] at known
    refine ⟨_, known, ?_⟩
    constructor
    case vf =>
      refine (congrArg UInt8.toNat ((m.begun i).resultFlag r)).trans ?_
      rw [Arithmetic.flagValue, flagged]
    case vx =>
      intro apart
      exact (congrArg (fun b => (b.toNat : Int)) ((m.begun i).resultValue r apart)).trans value
    case rest =>
      constructor
      case v =>
        intro y other apart
        exact (m.begun i).resultOther r (by simp [other, apart])
      case index | stack => rfl
  · intro gate combines
    obtain ⟨b, executed, bits⟩ := Machine.executeGate (m := m.begun i) combines
    obtain ⟨v, rest⟩ := (m.begun i).logicRest i.x b
    rw [executed, Machine.gateRedraws combines] at known
    refine ⟨_, known, ?_⟩
    constructor
    case vx =>
      intro apart k
      refine (congrArg (·.toNat.testBit k) ((m.begun i).logicValue b apart)).trans ?_
      exact bits k
    case cleared => exact (m.begun i).logicCleared b
    case kept =>
      intro keeps other
      have untouched : flag ∉ if m.dialect.logicClearsVF then [i.x, flag] else [i.x] := by
        simp [keeps, other.symm]
      exact (m.begun i).logicOther b untouched
    case rest =>
      constructor
      case v =>
        intro y other apart
        exact (m.begun i).logicOther b (by split <;> simp [other, apart])
      case index | stack => rw [rest]; rfl

def aliased (last : UInt8) : Machine :=
  (idleSession.after
    [.host (.load [0x8F, last]), .host (.setV 1 100), .host (.setV 15 200)]).machine

theorem aliasedFlags :
    (aliased 0x14).halted = false ∧ (aliased 0x14).current? = some ⟨.add, 0x8F14⟩ ∧
      (∃ n, (aliased 0x14).step = (n, .ok false) ∧ Totalled (aliased 0x14) n 15 300 true) ∧
      (aliased 0x12).halted = false ∧ (aliased 0x12).current? = some ⟨.and, 0x8F12⟩ ∧
      ∃ n, (aliased 0x12).step = (n, .ok false) ∧ Gated (aliased 0x12) n 15 1 (· && ·) := by
  obtain ⟨adds, combines⟩ : (aliased 0x14).current? = some ⟨.add, 0x8F14⟩ ∧
      (aliased 0x12).current? = some ⟨.and, 0x8F12⟩ := by decide +kernel
  exact ⟨rfl, adds, (byteArithmetic rfl adds).1 300 true rfl, rfl, combines,
    (byteArithmetic rfl combines).2 _ rfl⟩

end Chip8
