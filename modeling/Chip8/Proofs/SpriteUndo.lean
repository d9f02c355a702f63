import Chip8.Proofs.SpriteHits
import Mathlib.Data.Int.ModEq

/-! Sprites drawn one after another. A sprite flips its cells whatever was drawn before it, so one
that is drawn twice is gone, and two of them leave the same grid in either order. The flag says that
something went dark only as long as no cell is hit twice. -/
namespace Chip8

def SelfApart (clip : Bool) (width height : Int) (rows : List Int) : Prop :=
  clip = true ∨ 8 ≤ width ∧ rows.length ≤ height

theorem offsetSame {size origin : Int} {i j : Nat} (left : i < size) (right : j < size)
    (same : (origin + i) % size = (origin + j) % size) : i = j := by
  have congruent : (i : Int) % size = j % size := Int.ModEq.add_left_cancel' origin same
  rw [Int.emod_eq_of_lt (by omega) left, Int.emod_eq_of_lt (by omega) right] at congruent
  omega

theorem fallsOnce {clip : Bool} {width height x y : Int} {rows : List Int} {p q : Pixel rows}
    {column row : Nat} (apart : SelfApart clip width height rows)
    (one : p.falls clip width height x y column row)
    (other : q.falls clip width height x y column row) : p = q := by
  obtain ⟨-, here⟩ := one
  obtain ⟨-, there⟩ := other
  cases clip with
  | true =>
    simp only [if_true] at here there
    exact Prod.ext (Fin.ext (by omega)) (Fin.ext (by omega))
  | false =>
    obtain ⟨wide, tall⟩ : 8 ≤ width ∧ (rows.length : Int) ≤ height := by
      simpa [SelfApart] using apart
    simp only [Bool.false_eq_true, if_false] at here there
    have across : p.2.val = q.2 :=
      offsetSame (by omega) (by omega) (here.1.trans there.1.symm)
    have down : p.1.val = q.1 :=
      offsetSame (by omega) (by omega) (here.2.trans there.2.symm)
    exact Prod.ext (Fin.ext down) (Fin.ext across)

theorem hitsOnce {clip : Bool} {width height : Int} (x y : Int) {rows : List Int}
    (apart : SelfApart clip width height rows) (column row : Nat) :
    hits clip width height x y rows column row ≤ 1 := by
  rw [hits, Finset.card_le_one]
  intro p found q another
  exact fallsOnce apart (Finset.mem_filter.mp found).2 (Finset.mem_filter.mp another).2

namespace Display
variable {width height : Nat}

theorem litExt {d e : Display width height} (same : ∀ c, d.lit c = e.lit c) : d = e := by
  obtain ⟨pixels⟩ := d
  obtain ⟨others⟩ := e
  congr 1
  refine Vector.ext ?_
  intro i bound
  have across : 0 < width := Nat.pos_of_ne_zero (by rintro rfl; simp at bound)
  have row : i / width < height := Nat.div_lt_of_lt_mul (Nat.mul_comm height width ▸ bound)
  have place := same ⟨⟨i % width, Nat.mod_lt i across⟩, ⟨i / width, row⟩⟩
  simpa only [lit, Cell.index, Fin.getElem_fin, Nat.div_add_mod'] using place

theorem drawLit (d : Display width height) (clip : Bool) (x y : Int) (rows : List Int)
    (e : Cell width height) : (d.draw clip x y rows).1.lit e =
      (d.lit e ^^ decide (Odd (hits clip width height x y rows e.x e.y))) := by
  rw [draw, touchLit, footprintCount]

theorem drawTwice (d : Display width height) (clip : Bool) (x y : Int) (rows : List Int) :
    ((d.draw clip x y rows).1.draw clip x y rows).1 = d := by
  refine litExt ?_
  intro e
  rw [drawLit, drawLit, Bool.xor_assoc, Bool.xor_self, Bool.xor_false]

theorem drawSwap (d : Display width height) (clip : Bool) (x y x' y' : Int)
    (rows rows' : List Int) :
    ((d.draw clip x y rows).1.draw clip x' y' rows').1 =
      ((d.draw clip x' y' rows').1.draw clip x y rows).1 := by
  refine litExt ?_
  intro e
  rw [drawLit, drawLit, drawLit, drawLit, Bool.xor_right_comm]

end Display

theorem drawnDark {width height : Nat} {before after : Display width height} {hit : Bool}
    {count : Nat → Nat → Nat} (drawn : Drawn before after hit count)
    (once : ∀ column row, count column row ≤ 1) :
    hit = true ↔ ∃ e, before.lit e = true ∧ after.lit e = false := by
  rw [drawn.collided]
  refine exists_congr ?_
  intro e
  have most := once e.x e.y
  have flipped := drawn.flipped e
  rw [Nat.odd_iff] at flipped
  cases lit : before.lit e with
  | false =>
    simp only [Bool.false_eq_true, false_and, false_or, iff_false]
    omega
  | true =>
    rw [lit, ne_eq, Bool.not_eq_true] at flipped
    simp only [true_and, flipped]
    omega

section
variable {width height : Int} (d : Display width.toNat height.toNat) (clip : Bool) (x y : Int)
  (rows : List Int)

theorem canvasDraw (wide : 1 ≤ width) (tall : 1 ≤ height) :
    Canvas.draw ⟨width, height, d⟩ clip x y rows =
      .ok (⟨width, height, (d.draw clip x y rows).1⟩, (d.draw clip x y rows).2) := by
  have placed : ¬(width = 0 ∨ height = 0) := by omega
  have across : ¬width < 0 := by omega
  have down : ¬height < 0 := by omega
  simp [Canvas.draw, Canvas.misses, placed, across, down]

theorem canvasDrawn (wide : 1 ≤ width) (tall : 1 ≤ height) :
    Drawn d (d.draw clip x y rows).1 (d.draw clip x y rows).2
      (hits clip width height x y rows) := by
  have drawn := d.drawn clip x y rows
  rwa [Int.toNat_of_nonneg (by omega), Int.toNat_of_nonneg (by omega)] at drawn

end

structure Undone (c : Canvas) (clip : Bool) (x y : Int) (rows : List Int)
    (drawn : Display c.width.toNat c.height.toNat) (hit again : Bool) : Prop where
  first : c.draw clip x y rows = .ok ({ c with display := drawn }, hit)
  second : Canvas.draw { c with display := drawn } clip x y rows = .ok (c, again)
  darkened : SelfApart clip c.width c.height rows →
    (hit = true ↔ ∃ e, c.display.lit e = true ∧ drawn.lit e = false)
  lightened : SelfApart clip c.width c.height rows →
    (again = true ↔ ∃ e, c.display.lit e = false ∧ drawn.lit e = true)

theorem canvasUndone {c : Canvas} (wide : 1 ≤ c.width) (tall : 1 ≤ c.height) (clip : Bool)
    (x y : Int) (rows : List Int) : ∃ drawn hit again, Undone c clip x y rows drawn hit again := by
  have first := canvasDrawn c.display clip x y rows wide tall
  have second := canvasDrawn (c.display.draw clip x y rows).1 clip x y rows wide tall
  have returns := canvasDraw (c.display.draw clip x y rows).1 clip x y rows wide tall
  rw [Display.drawTwice] at second returns
  refine ⟨_, _, _, canvasDraw c.display clip x y rows wide tall, returns, ?_, ?_⟩
  · intro apart
    exact drawnDark first (hitsOnce x y apart)
  · intro apart
    simpa only [and_comm] using drawnDark second (hitsOnce x y apart)

theorem spritesUndo (c : Canvas) (wide : 1 ≤ c.width) (tall : 1 ≤ c.height) (clip : Bool)
    (x y : Int) (rows : List Int) :
    (∃ drawn hit again, Undone c clip x y rows drawn hit again) ∧
      ∀ x' y' rows', ∃ one other both hit₁ hit₂ hit₃ hit₄,
        c.draw clip x y rows = .ok (one, hit₁) ∧ one.draw clip x' y' rows' = .ok (both, hit₂) ∧
        c.draw clip x' y' rows' = .ok (other, hit₃) ∧ other.draw clip x y rows = .ok (both, hit₄) := by
  refine ⟨canvasUndone wide tall clip x y rows, ?_⟩
  intro x' y' rows'
  have first := canvasDraw (c.display.draw clip x y rows).1 clip x' y' rows' wide tall
  have second := canvasDraw (c.display.draw clip x' y' rows').1 clip x y rows wide tall
  rw [Display.drawSwap] at second
  exact ⟨_, _, _, _, _, _, _, canvasDraw c.display clip x y rows wide tall, first,
    canvasDraw c.display clip x' y' rows' wide tall, second⟩

/- A row that falls twice on one cell of a strip leaves it dark, and the flag is up all the same. -/
example : (strip.draw false 0 0 [0x90]).toOption.map (fun left => (left.1.display.rows, left.2)) =
    some (strip.display.rows, true) := by decide +kernel

def tray : Canvas := ⟨9, 3, (Display.blank.draw false 4 1 [0x3C]).1⟩

theorem trayUndone :
    1 ≤ tray.width ∧ 1 ≤ tray.height ∧ SelfApart false tray.width tray.height [0xFF, 0x81] ∧
      (∃ drawn hit again, Undone tray false (-1) 7 [0xFF, 0x81] drawn hit again) ∧
      ∃ one other both hit₁ hit₂ hit₃ hit₄,
        tray.draw false (-1) 7 [0xFF, 0x81] = .ok (one, hit₁) ∧
        one.draw false 6 2 [0xAA] = .ok (both, hit₂) ∧
        tray.draw false 6 2 [0xAA] = .ok (other, hit₃) ∧
        other.draw false (-1) 7 [0xFF, 0x81] = .ok (both, hit₄) := by
  have wide : 1 ≤ tray.width := by decide
  have tall : 1 ≤ tray.height := by decide
  have apart : SelfApart false tray.width tray.height [0xFF, 0x81] := .inr (by decide)
  obtain ⟨undone, swapped⟩ := spritesUndo tray wide tall false (-1) 7 [0xFF, 0x81]
  exact ⟨wide, tall, apart, undone, swapped 6 2 [0xAA]⟩

end Chip8
