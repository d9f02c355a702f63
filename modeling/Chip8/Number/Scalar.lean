import Chip8.Number.Double

/-! The arithmetic that a timeline is kept in. Sums, products, quotients and comparisons come
from the usual classes, so the same definitions run on doubles and on exact fractions. -/
namespace Chip8.Number

class Scalar (R : Type) where
  ofInt : Int → R
  zero : R
  one : R
  /-- Added before rounding down, so that many small steps still reach a whole number. -/
  slack : R
  check : R → Except Unconvertible Unit
  checkQuotient : R → R → Except Unconvertible Unit
  floor : R → Except Unconvertible Int
  truncate : R → Except Unconvertible Int

end Chip8.Number
