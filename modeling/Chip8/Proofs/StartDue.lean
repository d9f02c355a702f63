import Chip8.Number.Quantity
import Chip8.Schedule

/-! Where counting starts. Nothing is due at the start of a timeline, unless its rate is no
finite number, and then nothing is ever due. -/
namespace Chip8

namespace Number
open Float.Model (UnpackedFloat pack)
open Float.Model.Format (binary64)

def floorUnpacked (x : UnpackedFloat) : Except Unconvertible Int :=
  floor (.ofModel (pack x) + 1e-9)

theorem nanFloor : floorUnpacked .notANumber = .error .nan := rfl

theorem infiniteFloor (sign : UnpackedFloat.Sign) :
    floorUnpacked (.infinity sign) = .error .infinite := by
  cases sign <;> rfl

theorem zeroFloor (sign : UnpackedFloat.Sign) : floorUnpacked (.zero sign) = .ok 0 := by
  cases sign <;> rfl

theorem floorProduct (x y : Float) : floor (x * y + 1e-9) =
    floorUnpacked (.mul binary64 x.toModel.unpack y.toModel.unpack) := rfl

theorem zeroModel : (0 : Float).toModel.unpack = .zero .positive := rfl

theorem finiteRate {x rate : UnpackedFloat} {n : Int}
    (due : floorUnpacked (.mul binary64 x rate) = .ok n) :
    ∃ sign, UnpackedFloat.mul binary64 (.zero .positive) rate = .zero sign := by
  cases rate with
  | zero sign => exact ⟨_, rfl⟩
  | finite sign mantissa exponent positive => exact ⟨_, rfl⟩
  | notANumber =>
    have nan : UnpackedFloat.mul binary64 x .notANumber = .notANumber := by cases x <;> rfl
    rw [nan, nanFloor] at due
    contradiction
  | infinity sign =>
    have endless : UnpackedFloat.mul binary64 x (.infinity sign) = .notANumber ∨
        ∃ s, UnpackedFloat.mul binary64 x (.infinity sign) = .infinity s := by
      cases x with
      | notANumber | zero => exact .inl rfl
      | infinity | finite => exact .inr ⟨_, rfl⟩
    obtain nan | ⟨s, infinite⟩ := endless
    · rw [nan, nanFloor] at due
      contradiction
    · rw [infinite, infiniteFloor] at due
      contradiction

end Number

open Number (Quantity Scalar)

theorem combineReal (whole : Int → Int → Quantity) (real : Float → Float → Float) (x : Float)
    (b : Quantity) : Quantity.combine whole real (.real x) b =
      match b.toDouble? with
      | some y => .real (real x y)
      | none => .beyond := by
  have own : (Quantity.real x).toDouble? = some x := rfl
  simp only [Quantity.combine, own]
  cases b.toDouble? <;> rfl

theorem realDue (x : Float) (rate : Quantity) :
    Schedule.due (.real x) rate = match rate.toDouble? with
      | some y => Number.floor (x * y + 1e-9)
      | none => .error .tooLarge := by
  have product : Quantity.real x * rate = _ := combineReal _ _ x rate
  rw [Schedule.due, product]
  cases rate.toDouble? <;> rfl

theorem beyondDue (rate : Quantity) : Schedule.due .beyond rate = .error .tooLarge := by
  cases rate <;> rfl

theorem fromStart (e : Quantity) :
    Scalar.zero + e = .beyond ∨ ∃ x, Scalar.zero + e = .real x := by
  have sum : Scalar.zero + e = _ := combineReal _ _ 0 e
  rw [sum]
  cases e.toDouble? with
  | none => exact .inl rfl
  | some y => exact .inr ⟨_, rfl⟩

theorem startDue {e timerHz : Quantity} {n : Int}
    (due : Schedule.due (Scalar.zero + e) timerHz = .ok n) :
    Schedule.due Scalar.zero timerHz = .ok 0 := by
  obtain beyond | ⟨x, real⟩ := fromStart e
  · rw [beyond, beyondDue] at due
    contradiction
  · rw [real, realDue] at due
    refine (realDue 0 timerHz).trans ?_
    cases rate : timerHz.toDouble? with
    | none => simp [rate] at due
    | some y =>
      simp only [rate, Number.floorProduct, Number.zeroModel] at due ⊢
      obtain ⟨sign, zero⟩ := Number.finiteRate due
      rw [zero, Number.zeroFloor]

end Chip8
