/-! Sixteen keys. A wait that is armed collects the keys that go down; a key that was down
before has to be released and pressed again to count. -/
namespace Chip8

structure KeyError where
  key : Int
  deriving DecidableEq, Repr

def KeyError.message (e : KeyError) : String := s!"Key {e.key} outside 0x0-0xF"

def key? (k : Int) : Except KeyError (Fin 16) :=
  if h : 0 ≤ k ∧ k < 16 then .ok ⟨k.toNat, by omega⟩ else .error ⟨k⟩

theorem modSixteenLt (n : Nat) : n % 16 < 16 := Nat.mod_lt n (Nat.succ_pos 15)

def keyOf (b : UInt8) : Fin 16 := ⟨b.toNat % 16, modSixteenLt b.toNat⟩

structure Keypad where
  pressed : Vector Bool 16
  waiting : Bool
  presses : List (Fin 16)
  deriving DecidableEq

namespace Keypad

def released : Keypad := ⟨Vector.replicate 16 false, false, []⟩

def isPressed (p : Keypad) (k : Fin 16) : Bool := p.pressed[k]

def set (p : Keypad) (k : Fin 16) (down : Bool) : Keypad :=
  let edge := p.waiting && down && !p.isPressed k
  { p with
    pressed := p.pressed.set k down
    presses := if edge then p.presses ++ [k] else p.presses }

def setAll (p : Keypad) (down : Bool) (keys : List (Fin 16)) : Keypad :=
  keys.foldl (fun p k => p.set k down) p

def pressedKeys (p : Keypad) : List (Fin 16) := (List.finRange 16).filter p.isPressed

def pending (p : Keypad) : Bool := p.waiting && !p.presses.isEmpty

def arm (p : Keypad) : Keypad := { p with waiting := true, presses := [] }

def take (p : Keypad) : Option (Fin 16) × Keypad :=
  match p.presses with
  | [] => (none, p)
  | k :: _ => (some k, { p with waiting := false, presses := [] })

theorem isPressedSet (p : Keypad) (k j : Fin 16) (down : Bool) :
    (p.set k down).isPressed j = if k = j then down else p.isPressed j := by
  simp [isPressed, set, Vector.getElem_set, Fin.ext_iff]

end Keypad
end Chip8
