import Chip8.Logger
import Mathlib.Data.List.Chain

/-! Who hears a record. Where nothing was ever done to the loggers between the one that a record is
put to and one above it, the level and the handlers of the upper one decide. -/
namespace Chip8

theorem findZero {levels : List Level} (zero : ∀ l ∈ levels, l = 0) (rest : List Level) :
    (levels ++ rest).find? (· ≠ 0) = rest.find? (· ≠ 0) := by
  have none : levels.find? (· ≠ 0) = none := by simpa using zero
  rw [List.find?_append, none, Option.none_or]

namespace Registry

variable {r : Registry} {name other top : LoggerName} {higher : List LoggerName} {record : Record}

/- Only shorter names can stand above one, so it does not matter whether it was asked for. -/
theorem aboveAsk {text : String} {letters : List Char} (short : letters.length ≤ text.length)
    (missed : Bool) : (r.ask (.named text)).above letters missed = r.above letters missed := by
  induction letters generalizing missed with
  | nil => rfl
  | cons letter rest ih =>
    have shorter : rest.length < text.length := Nat.lt_of_succ_le short
    have apart : LoggerName.named (String.ofList rest.reverse) ≠ .named text := by
      simp only [ne_eq, LoggerName.named.injEq]
      rintro rfl
      simp at shorter
    have same : (r.ask (.named text)).named (String.ofList rest.reverse) =
        r.named (String.ofList rest.reverse) := findAsk apart
    simp only [above, same, ih (Nat.le_of_lt shorter)]

theorem lineAsk (r : Registry) (name : LoggerName) : (r.ask name).line name = r.line name := by
  cases name with
  | root => rfl
  | named text =>
    have short : text.toList.reverse.length ≤ text.length := by simp [String.length]
    rw [line, line, aboveAsk short]

theorem emitDelivers (r : Registry) (record : Record) : (r.emit record).2 = r.deliver record := by
  have floor (name : LoggerName) : (r.ask name).floor name = r.floor name := by
    simp only [Registry.floor, lineAsk, loggerAsk]
  have hearers (name : LoggerName) : (r.ask name).hearers name = r.hearers name := by
    simp only [Registry.hearers, handlers, lineAsk, loggerAsk]
  simp only [emit, deliver, floor, hearers]

theorem emitAllKeeps (r : Registry) (records : List Record) (name : LoggerName) :
    (r.emitAll records).1.logger name = r.logger name := by
  induction records generalizing r with
  | nil => rfl
  | cons record rest ih =>
    have now : (r.emit record).1.logger name = r.logger name := loggerAsk r _ name
    exact (ih (r.emit record).1).trans now

def Clear (r : Registry) (name top : LoggerName) (higher : List LoggerName) : Prop :=
  ∃ between, r.line name = between ++ top :: higher ∧ ∀ n ∈ between, r.logger n = .bare

def taken (r : Registry) (names : List LoggerName) (record : Record) : List Delivery :=
  ((r.handlers names).filter (·.takes record.level)).map (⟨·, record⟩)

theorem clearFloor (clear : r.Clear name top higher) (own : (r.logger top).level ≠ 0) :
    r.floor name = (r.logger top).level := by
  obtain ⟨between, line, bare⟩ := clear
  have zero : ∀ l ∈ between.map fun n => (r.logger n).level, l = 0 := by
    intro l inside
    obtain ⟨n, among, rfl⟩ := List.mem_map.mp inside
    rw [bare n among]
    rfl
  rw [floor, line, List.map_append, findZero zero, List.map_cons, List.find?_cons_of_pos (by simpa)]
  rfl

theorem clearHandlers (clear : r.Clear name top higher) :
    r.handlers (r.line name) = (r.logger top).handlers ++ r.handlers higher := by
  obtain ⟨between, line, bare⟩ := clear
  have none : r.handlers between = [] := by
    refine List.flatMap_eq_nil_iff.mpr fun n among => ?_
    rw [bare n among]
    rfl
  rw [line, handlers, List.flatMap_append, List.flatMap_cons]
  exact congrArg (· ++ _) none

theorem clearDelivers (clear : r.Clear (.ofText record.source) top higher)
    (own : 0 < (r.logger top).level) (heard : (r.logger top).handlers ≠ []) :
    r.deliver record =
      if (r.logger top).level ≤ record.level then
        (((r.logger top).handlers.filter (·.takes record.level)).map (⟨·, record⟩)) ++
          r.taken higher record
      else [] := by
  have hearers : r.hearers (.ofText record.source) =
      (r.logger top).handlers ++ r.handlers higher := by
    rw [hearers, clearHandlers clear]
    split
    · rename_i none
      simp [heard] at none
    · rfl
  have passes : (0 < record.level ∧ (r.logger top).level ≤ record.level) ↔
      (r.logger top).level ≤ record.level :=
    ⟨fun both => both.2, fun loud => ⟨Int.lt_of_lt_of_le own loud, loud⟩⟩
  simp only [deliver, clearFloor clear (Int.ne_of_gt own), hearers, passes, List.filter_append,
    List.map_append, taken]

def Parted (rest : String) : Prop := ('.' :: rest.toList).IsChain fun a b => ¬(a = '.' ∧ b = '.')

theorem aboveThrough {stem : String} (there : (r.named stem).isSome = true) {letters : List Char}
    {missed : Bool} (apart : (letters ++ ['.']).IsChain fun a b => ¬(a = '.' ∧ b = '.'))
    (unmissed : missed = true → (letters ++ ['.']).head? ≠ some '.') :
    .named stem ∈ r.above (letters ++ '.' :: stem.toList.reverse) missed := by
  induction letters generalizing missed with
  | nil =>
    have fresh : missed = false := by simpa using unmissed
    simp [above, fresh, there]
  | cons letter rest ih =>
    rw [List.cons_append, List.isChain_cons] at apart
    obtain ⟨next, apart⟩ := apart
    simp only [List.cons_append, above]
    split
    · rename_i point
      split
      · exact List.mem_cons_of_mem _ (ih apart (by simp))
      · refine ih apart fun _ again => ?_
        exact next '.' again ⟨point.1, rfl⟩
    · exact ih apart (by simp)

theorem rootAbove (r : Registry) (letters : List Char) (missed : Bool) :
    .root ∈ r.above letters missed := by
  induction letters generalizing missed with
  | nil => simp [above]
  | cons letter rest ih =>
    simp only [above]
    split
    · split
      · exact List.mem_cons_of_mem _ (ih false)
      · exact ih true
    · exact ih false

theorem rootLine (r : Registry) (name : LoggerName) : .root ∈ r.line name := by
  cases name with
  | root => exact List.mem_singleton_self _
  | named text => exact List.mem_cons_of_mem _ (r.rootAbove _ false)

theorem pointedName (text rest : String) :
    LoggerName.ofText (text ++ "." ++ rest) = .named (text ++ "." ++ rest) := by
  have pointed : '.' ∈ (text ++ "." ++ rest).toList := by simp
  refine if_neg ?_
  rintro (same | same) <;> simp [same] at pointed

theorem lineThrough {text rest : String} (parted : Parted rest)
    (there : (r.find? (.ofText text)).isSome = true) :
    .ofText text ∈ r.line (.ofText (text ++ "." ++ rest)) := by
  by_cases highest : text = "" ∨ text = "root"
  · have root : LoggerName.ofText text = .root := if_pos highest
    rw [root]
    exact r.rootLine _
  · have named : LoggerName.ofText text = .named text := if_neg highest
    have apart : (rest.toList.reverse ++ ['.']).IsChain fun a b => ¬(a = '.' ∧ b = '.') := by
      rw [← List.reverse_cons, List.isChain_reverse]
      simpa only [Parted, and_comm] using parted
    have letters : (text ++ "." ++ rest).toList.reverse =
        rest.toList.reverse ++ '.' :: text.toList.reverse := by simp
    rw [named] at there ⊢
    rw [pointedName, line, letters]
    exact List.mem_cons_of_mem _ (aboveThrough there apart (by simp))

/- Two points together may lead past it. -/
example : (fresh.ask (.named "a")).line (.named "a..b") = [.named "a..b", .root] := by decide

end Registry
end Chip8
