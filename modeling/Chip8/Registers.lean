import Chip8.Memory

/-! The register file: sixteen bytes V0 to VF, the index I, the program counter, and the
stack of return addresses, which lies outside memory and has the latest in front. -/
namespace Chip8

def stackDepth : Nat := 16

structure Registers where
  v : Vector UInt8 16
  index : UInt16
  pc : UInt16
  stack : List UInt16
  deriving DecidableEq

namespace Registers

def powerOn : Registers := ⟨Vector.replicate 16 0, 0, UInt16.ofNat programStart, []⟩

def get (r : Registers) (x : Fin 16) : UInt8 := r.v.get x

theorem placeLt (x : Fin 16) : x.val < 16 := x.isLt

def set (r : Registers) (x : Fin 16) (b : UInt8) : Registers :=
  { r with v := r.v.set x.val b (placeLt x) }

def setFrom (r : Registers) (x : Nat) : List UInt8 → Registers
  | [] => r
  | b :: rest => { r with v := r.v.setIfInBounds x b }.setFrom (x + 1) rest

def first (r : Registers) (n : Nat) : List UInt8 := r.v.toList.take n

def flag : Fin 16 := 15

def zeroth : Fin 16 := ⟨0, Nat.succ_pos 15⟩

def vf (r : Registers) : UInt8 := r.get flag

def push (r : Registers) (address : UInt16) : Except Fault Registers :=
  if stackDepth ≤ r.stack.length then
    .error (.stackOverflow r.pc.toNat r.stack.length)
  else .ok { r with stack := address :: r.stack }

def pop (r : Registers) : Except Fault (UInt16 × Registers) :=
  match r.stack with
  | [] => .error (.stackUnderflow r.pc.toNat)
  | address :: rest => .ok (address, { r with stack := rest })

def display (r : Registers) : String :=
  let named (i : Nat) (b : UInt8) := "V" ++ Text.hex 1 i ++ "=" ++ Text.hex 2 b.toNat
  let values := r.v.toList.zipIdx.map fun (b, i) => named i b
  "PC=" ++ Text.hex 3 r.pc.toNat ++ " I=" ++ Text.hex 3 r.index.toNat ++
    " SP=" ++ Text.hex 1 r.stack.length ++ " " ++ " ".intercalate values

theorem getSet (r : Registers) (x y : Fin 16) (b : UInt8) :
    (r.set x b).get y = if x = y then b else r.get y := by
  change (r.v.set x.val b (placeLt x))[y.val] = if x = y then b else r.v[y.val]
  simp only [Vector.getElem_set, Fin.ext_iff]

theorem pushLength {r s : Registers} {a : UInt16} (h : r.push a = .ok s)
    : s.stack = a :: r.stack ∧ r.stack.length < stackDepth := by
  unfold push at h
  split at h
  · contradiction
  · cases h
    exact ⟨rfl, by omega⟩

end Registers
end Chip8
