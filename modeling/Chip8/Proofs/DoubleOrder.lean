import Chip8.Number.Quantity
import Mathlib

/-! The order of doubles. What is no number stands in no order; all else is ranked by its class and
sign, then by its exponent, then by its mantissa. -/
namespace Chip8.Number
open Float.Model (UnpackedFloat)
open Float.Model.UnpackedFloat

theorem orderUnpacked (a b : Float) : a ≤ b ↔ a.toModel.unpack.le b.toModel.unpack = true := by
  change Float.le a b = true ↔ _
  rw [Float.le, decide_eq_true_eq]
  rfl

end Chip8.Number
