/-! Bytes, 16-bit words and positions cut out of whole numbers of any size and sign. -/
namespace Chip8

def byteOf (v : Int) : UInt8 := UInt8.ofNat (v % 256).toNat

def wordOf (v : Int) : UInt16 := UInt16.ofNat (v % 65536).toNat

inductive PositionError where
  | reading
  | writing
  deriving DecidableEq, Repr

def PositionError.message : PositionError → String
  | .reading => "list index out of range"
  | .writing => "list assignment index out of range"

def position? (size : Nat) (i : Int) : Option (Fin size) :=
  let j := if i < 0 then i + size else i
  if h : 0 ≤ j ∧ j < size then some ⟨j.toNat, by omega⟩ else none

theorem wordOfNat (w : UInt16) : wordOf w.toNat = w := by
  have := w.toNat_lt
  apply UInt16.toNat_inj.mp
  simp only [wordOf, UInt16.toNat_ofNat']
  omega

end Chip8
