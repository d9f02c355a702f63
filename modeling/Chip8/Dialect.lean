import Chip8.Text.Quoted

/-! Historical interpreters disagree on a handful of instructions. A dialect says, for each
disagreement, which side is taken. -/
namespace Chip8

structure Dialect where
  /-- 8XY6 and 8XYE shift VX in place instead of shifting VY into VX. -/
  shiftInPlace : Bool := false
  keepIndex : Bool := false
  /-- BNNN adds VX, where X is the high digit of NNN, instead of V0. -/
  jumpAddsVX : Bool := false
  logicClearsVF : Bool := false
  clip : Bool := true
  /-- FX1E sets VF when I passes $FFF and keeps I to twelve bits. -/
  indexOverflow : Bool := true
  deriving DecidableEq, Repr

inductive Switch where
  | shiftInPlace
  | keepIndex
  | jumpAddsVX
  | logicClearsVF
  | clip
  | indexOverflow
  deriving DecidableEq, Repr

namespace Switch

def all : List Switch :=
  [shiftInPlace, keepIndex, jumpAddsVX, logicClearsVF, clip, indexOverflow]

def name : Switch → String
  | shiftInPlace => "shift_quirk"
  | keepIndex => "load_store_quirk"
  | jumpAddsVX => "jump_quirk"
  | logicClearsVF => "vf_reset_quirk"
  | clip => "clip_quirk"
  | indexOverflow => "index_overflow_flag"

def help : Switch → String
  | shiftInPlace => "8XY6/8XYE shift VX in place instead of VY"
  | keepIndex => "FX55/FX65 leave I unchanged"
  | jumpAddsVX => "BNNN adds VX (X = high nibble of NNN) instead of V0"
  | logicClearsVF => "8XY1/8XY2/8XY3 reset VF to 0"
  | clip => "clip sprites at the screen edge instead of wrapping"
  | indexOverflow => "FX1E sets VF when I passes $FFF"

def named? (name : String) : Option Switch := all.find? (·.name = name)

def get : Switch → Dialect → Bool
  | shiftInPlace, d => d.shiftInPlace
  | keepIndex, d => d.keepIndex
  | jumpAddsVX, d => d.jumpAddsVX
  | logicClearsVF, d => d.logicClearsVF
  | clip, d => d.clip
  | indexOverflow, d => d.indexOverflow

def set : Switch → Bool → Dialect → Dialect
  | shiftInPlace, b, d => { d with shiftInPlace := b }
  | keepIndex, b, d => { d with keepIndex := b }
  | jumpAddsVX, b, d => { d with jumpAddsVX := b }
  | logicClearsVF, b, d => { d with logicClearsVF := b }
  | clip, b, d => { d with clip := b }
  | indexOverflow, b, d => { d with indexOverflow := b }

theorem getSet (s t : Switch) (b : Bool) (d : Dialect) :
    t.get (s.set b d) = if s = t then b else t.get d := by
  cases s <;> cases t <;> rfl

end Switch

namespace Dialect

def cosmacVip : Dialect :=
  { logicClearsVF := true, indexOverflow := false }

def chip48 : Dialect :=
  { shiftInPlace := true, jumpAddsVX := true, indexOverflow := false }

def superChip : Dialect :=
  { shiftInPlace := true, keepIndex := true, jumpAddsVX := true, indexOverflow := false }

def presets : List (String × Dialect) :=
  [("chip48", chip48), ("chip8", cosmacVip), ("default", {}), ("schip", superChip)]

def presetNames : List String := presets.map Prod.fst

inductive Error where
  | unknownPreset (name : String)
  | unknownSwitch (name : String)
  | reservedName
  deriving DecidableEq, Repr

def ownName : String := "self"

def Error.message : Error → String
  | .unknownPreset name =>
    let known := ", ".intercalate presetNames
    s!"Unknown quirk preset {Text.quoted name} (choose from {known})"
  | .unknownSwitch name =>
    s!"Quirks.__init__() got an unexpected keyword argument '{name}'"
  | .reservedName => s!"Quirks.with_overrides() got multiple values for argument '{ownName}'"

def preset (name : String) : Except Error Dialect :=
  match presets.lookup name.toLower with
  | some d => .ok d
  | none => .error (.unknownPreset name)

def change (d : Dialect) : List (String × Option Bool) → Except Error Dialect
  | [] => .ok d
  | (_, none) :: rest => d.change rest
  | (name, some value) :: rest =>
    match Switch.named? name with
    | some s => (s.set value d).change rest
    | none => .error (.unknownSwitch name)

def override (d : Dialect) (changes : List (String × Option Bool)) : Except Error Dialect :=
  if changes.any (·.1 = ownName) then .error .reservedName else d.change changes

def describe (d : Dialect) : String :=
  " ".intercalate (Switch.all.map fun s => s.name ++ (if s.get d then "=on" else "=off"))

end Dialect
end Chip8
