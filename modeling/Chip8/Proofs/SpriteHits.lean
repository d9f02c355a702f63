import Chip8.Display.Canvas
import Mathlib.Algebra.BigOperators.Fin
import Mathlib.Algebra.Ring.Parity
import Mathlib.Data.Int.Bitwise
import Mathlib.Data.Nat.Count

/-! A sprite on a grid, cell by cell. A cell is flipped once for every pixel of the sprite that
falls on it, so the light of a cell depends on whether its hits are odd in number; and the sprite
turns a lit cell off where it hits one that was lit, or hits one twice. -/
namespace Chip8

abbrev Pixel (rows : List Int) : Type := Fin rows.length × Fin 8

def Pixel.falls (clip : Bool) (width height x y : Int) {rows : List Int} (p : Pixel rows)
    (column row : Nat) : Prop :=
  rows[p.1].testBit (7 - p.2) = true ∧
    if clip then x % width + p.2 = column ∧ y % height + p.1 = row
    else (x + p.2) % width = column ∧ (y + p.1) % height = row

instance (clip : Bool) (width height x y : Int) {rows : List Int} (p : Pixel rows)
    (column row : Nat) : Decidable (p.falls clip width height x y column row) := by
  unfold Pixel.falls
  infer_instance

def hits (clip : Bool) (width height x y : Int) (rows : List Int) (column row : Nat) : Nat :=
  (Finset.univ.filter fun p : Pixel rows => p.falls clip width height x y column row).card

namespace Display
variable {width height : Nat}

theorem spriteBitTest (row : Int) (column : Nat) :
    spriteBit row column = row.testBit (7 - column) := by
  cases row with
  | ofNat n =>
    have bit : ((Int.ofNat n >>> (7 - column)) % 2 : Int) = (n >>> (7 - column) % 2 : Nat) := rfl
    rw [spriteBit, bit, Int.testBit, Nat.testBit_eq_decide_div_mod_eq, Nat.shiftRight_eq_div_pow]
    exact decide_eq_decide.mpr (by omega)
  | negSucc n =>
    have bit : (Int.negSucc n >>> (7 - column) : Int) = Int.negSucc (n >>> (7 - column)) := rfl
    rw [spriteBit, bit, Int.testBit, Nat.testBit_eq_decide_div_mod_eq, Nat.shiftRight_eq_div_pow,
      ← decide_not]
    exact decide_eq_decide.mpr (by omega)

theorem atCell {x y : Nat} {c : Cell width height} :
    Cell.at? x y = some c ↔ x = c.x ∧ y = c.y := by
  unfold Cell.at?
  constructor
  · intro found
    split at found
    · cases found
      exact ⟨rfl, rfl⟩
    · contradiction
  · rintro ⟨rfl, rfl⟩
    rw [dif_pos ⟨c.x.isLt, c.y.isLt⟩]

theorem touchLit (cells : List (Cell width height)) (state : Display width height × Bool)
    (e : Cell width height) :
    (cells.foldl touch state).1.lit e = (state.1.lit e ^^ decide (Odd (cells.count e))) := by
  induction cells generalizing state with
  | nil => simp
  | cons c rest ih =>
    rw [List.foldl_cons, ih, touch, litFlip, List.count_cons]
    by_cases same : c = e
    · subst same
      have turned : decide (Odd (rest.count c + 1)) = !decide (Odd (rest.count c)) :=
        (decide_eq_decide.mpr Nat.odd_add_one).trans decide_not
      rw [if_pos rfl, if_pos (beq_self_eq_true c), turned, Bool.not_xor, Bool.xor_not]
    · simp [same]

/- The flag is up once a cell was lit when it was touched. The induction is on the cells: the first
one is lit already, or it is lit by the touch for the cells to come. -/
theorem touchFlag (cells : List (Cell width height)) (state : Display width height × Bool) :
    (cells.foldl touch state).2 = true ↔ state.2 = true ∨
      ∃ e, state.1.lit e = true ∧ 1 ≤ cells.count e ∨ 2 ≤ cells.count e := by
  induction cells generalizing state with
  | nil => simp
  | cons c rest ih =>
    have other {e} (apart : c ≠ e) : (c :: rest).count e = rest.count e :=
      List.count_cons_of_ne apart
    rw [List.foldl_cons, ih]
    simp only [touch, litFlip, Bool.or_eq_true]
    constructor
    · rintro ((up | lit) | ⟨e, struck⟩)
      · exact .inl up
      · exact .inr ⟨c, .inl ⟨lit, by simp⟩⟩
      · refine .inr ⟨e, ?_⟩
        by_cases same : c = e
        · subst same
          rw [List.count_cons_self]
          right
          omega
        · simpa [same, other same] using struck
    · rintro (up | ⟨e, struck⟩)
      · exact .inl (.inl up)
      · by_cases same : c = e
        · subst same
          rw [List.count_cons_self] at struck
          cases lit : state.1.lit c with
          | true => exact .inl (.inr rfl)
          | false =>
            refine .inr ⟨c, ?_⟩
            simp only [lit, Bool.false_eq_true, false_and, false_or] at struck
            simp only [if_true, Bool.not_false, true_and]
            omega
        · rw [other same] at struck
          exact .inr ⟨e, by simpa [same] using struck⟩

/- Wrapping once at the origin and once at the pixel is wrapping once. -/
theorem placeIff (clip : Bool) {size : Nat} (origin : Int) (offset i : Nat) (pos : 0 < size) :
    place clip size ((origin % size).toNat + offset) = i ↔
      if clip then origin % size + offset = i else (origin + offset) % size = i := by
  have nonnegative : 0 ≤ origin % size := Int.emod_nonneg _ (by omega)
  cases clip with
  | true =>
    simp only [place, if_true]
    omega
  | false =>
    simp only [place, Bool.false_eq_true, if_false]
    rw [← Int.emod_add_emod, ← Int.natCast_inj]
    push_cast [Int.toNat_of_nonneg nonnegative]
    rfl

theorem rangeCount (n : Nat) (p : Nat → Prop) [DecidablePred p] :
    (List.range n).countP p = (Finset.univ.filter fun i : Fin n => p i).card := by
  have counted : (List.range n).countP p = Nat.count p n := rfl
  rw [counted, Nat.count_eq_card_filter_range, Finset.card_filter, Finset.card_filter,
    Finset.sum_range]

theorem footprintRowCount (clip : Bool) (x y : Nat) (row : Int) (c : Cell width height) :
    (footprintRow clip x y row).count c =
      (Finset.univ.filter fun column : Fin 8 => row.testBit (7 - column) = true ∧
        place clip width (x + column) = c.x ∧ place clip height y = c.y).card := by
  rw [footprintRow, List.count_filterMap, ← rangeCount 8 fun column =>
    row.testBit (7 - column) = true ∧ place clip width (x + column) = c.x ∧
      place clip height y = c.y]
  refine List.countP_congr ?_
  intro column _
  rw [spriteBitTest, decide_eq_true_iff]
  split
  · rename_i set
    simp only [beq_iff_eq, atCell, set, true_and]
  · rename_i unset
    simp [unset]

theorem footprintCount (clip : Bool) (x y : Int) (rows : List Int) (c : Cell width height) :
    (footprint clip x y rows).count c = hits clip width height x y rows c.x c.y := by
  have across : 0 < width := Nat.lt_of_le_of_lt (Nat.zero_le _) c.x.isLt
  have down : 0 < height := Nat.lt_of_le_of_lt (Nat.zero_le _) c.y.isLt
  have listed : rows.zipIdx = List.ofFn fun i : Fin rows.length => (rows[i], i.val) :=
    List.ext_getElem (by simp) (by simp)
  rw [footprint, List.count_flatMap, listed, List.map_ofFn, List.sum_ofFn, hits,
    Finset.card_filter, Fintype.sum_prod_type]
  refine Finset.sum_congr rfl ?_
  intro i _
  simp only [Function.comp_apply]
  rw [footprintRowCount, Finset.card_filter]
  refine Finset.sum_congr rfl ?_
  intro column _
  simp only [Pixel.falls, placeIff clip _ _ _ across, placeIff clip _ _ _ down]
  congr 1
  cases clip <;> rfl

end Display

structure Drawn {width height : Nat} (before after : Display width height) (hit : Bool)
    (count : Nat → Nat → Nat) : Prop where
  flipped : ∀ c, after.lit c ≠ before.lit c ↔ Odd (count c.x c.y)
  collided : hit = true ↔
    ∃ c, before.lit c = true ∧ 1 ≤ count c.x c.y ∨ 2 ≤ count c.x c.y

theorem Display.drawn {width height : Nat} (d : Display width height) (clip : Bool) (x y : Int)
    (rows : List Int) :
    Drawn d (d.draw clip x y rows).1 (d.draw clip x y rows).2
      (hits clip width height x y rows) := by
  constructor
  case flipped =>
    intro c
    rw [draw, touchLit, footprintCount]
    cases d.lit c <;> simp
  case collided =>
    rw [draw, touchFlag]
    simp only [Bool.false_eq_true, false_or, footprintCount]

theorem spriteFlips (c : Canvas) (wide : 1 ≤ c.width) (tall : 1 ≤ c.height) (clip : Bool)
    (x y : Int) (rows : List Int) :
    ∃ display hit, c.draw clip x y rows = .ok ({ c with display }, hit) ∧
      Drawn c.display display hit (hits clip c.width c.height x y rows) := by
  have placed : ¬(c.width = 0 ∨ c.height = 0) := by omega
  have inside : c.misses rows = false := by
    have across : ¬c.width < 0 := by omega
    have down : ¬c.height < 0 := by omega
    simp [Canvas.misses, across, down]
  have drawn := c.display.drawn clip x y rows
  rw [Int.toNat_of_nonneg (by omega), Int.toNat_of_nonneg (by omega)] at drawn
  refine ⟨_, _, ?_, drawn⟩
  simp [Canvas.draw, placed, inside]

def strip : Canvas := .blank 3 2

theorem stripFlips :
    1 ≤ strip.width ∧ 1 ≤ strip.height ∧
      ∃ display hit, strip.draw false (-1) 7 [0xFF, 0x81, -2] = .ok ({ strip with display }, hit) ∧
        Drawn strip.display display hit
          (hits false strip.width strip.height (-1) 7 [0xFF, 0x81, -2]) := by
  have wide : 1 ≤ strip.width := by decide
  have tall : 1 ≤ strip.height := by decide
  exact ⟨wide, tall, spriteFlips strip wide tall false (-1) 7 [0xFF, 0x81, -2]⟩

end Chip8
