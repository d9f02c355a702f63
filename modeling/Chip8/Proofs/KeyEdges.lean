import Chip8.Keypad
import Mathlib.Data.List.Induction

/-! The keypad as its callers see it: which keys are down and which key a wait answers with are
told from the calls made so far, without the flag and the queue that the keypad keeps. -/
namespace Chip8

inductive KeypadCall where
  | set (key : Int) (down : Bool)
  | arm
  | wait
  | reset
  deriving DecidableEq, Repr

theorem keyKnown (k : Fin 16) : key? k.val = .ok k := by
  have bounds : 0 ≤ (k.val : Int) ∧ (k.val : Int) < 16 := by omega
  simp [key?, bounds]

theorem keyRefused {key : Int} (outside : key < 0 ∨ 16 ≤ key) : key? key = .error ⟨key⟩ := by
  have bounds : ¬(0 ≤ key ∧ key < 16) := by omega
  simp [key?, bounds]

theorem keyCases (key : Int) : (∃ k : Fin 16, key = k.val) ∨ key < 0 ∨ 16 ≤ key := by
  by_cases inside : 0 ≤ key ∧ key < 16
  · exact .inl ⟨⟨key.toNat, by omega⟩, (Int.toNat_of_nonneg inside.1).symm⟩
  · exact .inr (by omega)

namespace Keypad

def call (p : Keypad) : KeypadCall → Keypad × Except KeyError (Option (Fin 16))
  | .set key down =>
    match key? key with
    | .ok k => (p.set k down, .ok none)
    | .error e => (p, .error e)
  | .arm => (p.arm, .ok none)
  | .wait => (p.take.2, .ok p.take.1)
  | .reset => (.released, .ok none)

def asked (p : Keypad) (key : Int) : Except KeyError Bool := (key? key).map p.isPressed

def after (calls : List KeypadCall) : Keypad :=
  calls.foldl (fun p c => (p.call c).1) released

def answer (calls : List KeypadCall) (next : KeypadCall) : Except KeyError (Option (Fin 16)) :=
  ((after calls).call next).2

def LastSet (calls : List KeypadCall) (k : Fin 16) (down : Bool) : Prop :=
  ∃ earlier later, calls = earlier ++ .set k.val down :: later ∧
    .reset ∉ later ∧ ∀ other, .set k.val other ∉ later

def Edge (before : List KeypadCall) (c : KeypadCall) (k : Fin 16) : Prop :=
  c = .set k.val true ∧ ¬LastSet before k true

def FirstEdge (before since : List KeypadCall) (k : Fin 16) : Prop :=
  ∃ earlier c later, since = earlier ++ c :: later ∧ Edge (before ++ earlier) c k ∧
    ∀ start d rest j, earlier = start ++ d :: rest → ¬Edge (before ++ start) d j

def Answered (before since : List KeypadCall) : Prop :=
  ∃ earlier later k, since = earlier ++ .wait :: later ∧
    answer (before ++ earlier) .wait = .ok (some k)

def Due (calls : List KeypadCall) (k : Fin 16) : Prop :=
  ∃ before since, calls = before ++ .arm :: since ∧ .arm ∉ since ∧ .reset ∉ since ∧
    ¬Answered (before ++ [.arm]) since ∧ FirstEdge (before ++ [.arm]) since k

structure EdgeLaw (calls : List KeypadCall) : Prop where
  pressed : ∀ k down, LastSet calls k down → (after calls).asked k.val = .ok down
  unset : ∀ k, (∀ down, ¬LastSet calls k down) → (after calls).asked k.val = .ok false
  due : ∀ k, answer calls .wait = .ok (some k) ↔ Due calls k
  undue : (∀ k, ¬Due calls k) → answer calls .wait = .ok none
  pending : (after calls).pending = true ↔ ∃ k, answer calls .wait = .ok (some k)
  disarmed : ∀ k, answer calls .wait = .ok (some k) → (after (calls ++ [.wait])).waiting = false
  forgotten : ∀ k later, answer calls .wait = .ok (some k) → .arm ∉ later →
    answer (calls ++ .wait :: later) .wait = .ok none
  held : ∀ before since k, calls = before ++ .arm :: since → .arm ∉ since →
    LastSet before k true → answer calls .wait = .ok (some k) →
    ∃ earlier up later, since = earlier ++ .set k.val false :: up ++ .set k.val true :: later
  refused : ∀ key : Int, key < 0 ∨ 16 ≤ key → (after calls).asked key = .error ⟨key⟩ ∧
    ∀ down, answer calls (.set key down) = .error ⟨key⟩ ∧
      after (calls ++ [.set key down]) = after calls

theorem afterNext (calls : List KeypadCall) (c : KeypadCall) :
    after (calls ++ [c]) = ((after calls).call c).1 := by
  simp [after]

theorem afterCons (before rest : List KeypadCall) (c : KeypadCall) :
    after (before ++ c :: rest) = after (before ++ [c] ++ rest) := by
  simp

theorem callSet (p : Keypad) (k : Fin 16) (down : Bool) :
    p.call (.set k.val down) = (p.set k down, .ok none) := by
  simp only [call, keyKnown]

theorem callRefused (p : Keypad) {key : Int} (outside : key < 0 ∨ 16 ≤ key) (down : Bool) :
    p.call (.set key down) = (p, .error ⟨key⟩) := by
  simp only [call, keyRefused outside]

theorem askedKnown (p : Keypad) (k : Fin 16) : p.asked k.val = .ok (p.isPressed k) := by
  simp only [asked, keyKnown]
  rfl

theorem takeHead (p : Keypad) : p.take.1 = p.presses.head? := by
  cases presses : p.presses <;> simp [take, presses]

theorem answerWait (calls : List KeypadCall) :
    answer calls .wait = .ok (after calls).presses.head? := by
  simp only [answer, call, takeHead]

theorem callPressed {p : Keypad} {c : KeypadCall} {k : Fin 16} (kept : c ≠ .reset)
    (others : ∀ down, c ≠ .set k.val down) : (p.call c).1.isPressed k = p.isPressed k := by
  cases c with
  | set key down =>
    rcases keyCases key with ⟨j, rfl⟩ | outside
    · have other : j ≠ k := fun same => others down (by rw [same])
      rw [callSet, isPressedSet, if_neg other]
    · rw [callRefused p outside]
  | arm => rfl
  | wait =>
    simp only [call, take]
    split <;> rfl
  | reset => exact absurd rfl kept

theorem lastSetNext {calls : List KeypadCall} {c : KeypadCall} {k : Fin 16} {down : Bool}
    (last : LastSet calls k down) (kept : c ≠ .reset) (others : ∀ other, c ≠ .set k.val other) :
    LastSet (calls ++ [c]) k down := by
  obtain ⟨earlier, later, rfl, unreset, alone⟩ := last
  refine ⟨earlier, later ++ [c], by simp, ?_, fun other => ?_⟩
  · simpa [unreset] using kept.symm
  · simpa [alone other] using (others other).symm

/- By induction on the calls, the latest one last: it decides, or the key stays as it was. -/
theorem pressedLast {calls : List KeypadCall} {k : Fin 16}
    (pressed : (after calls).isPressed k = true) : LastSet calls k true := by
  induction calls using List.reverseRecOn with
  | nil => simp [after, released, isPressed] at pressed
  | append_singleton calls c ih =>
    rw [afterNext] at pressed
    by_cases set : ∃ down, c = .set k.val down
    · obtain ⟨down, rfl⟩ := set
      rw [callSet, isPressedSet, if_pos rfl] at pressed
      exact ⟨calls, [], by rw [pressed], by simp, by simp⟩
    · have others : ∀ other, c ≠ .set k.val other := fun other same => set ⟨other, same⟩
      have kept : c ≠ .reset := by
        rintro rfl
        simp [call, released, isPressed] at pressed
      rw [callPressed kept others] at pressed
      exact lastSetNext (ih pressed) kept others

theorem lastPressed {calls : List KeypadCall} {k : Fin 16} {down : Bool}
    (last : LastSet calls k down) : (after calls).isPressed k = down := by
  obtain ⟨earlier, later, rfl, unreset, alone⟩ := last
  induction later using List.reverseRecOn with
  | nil => rw [afterNext, callSet, isPressedSet, if_pos rfl]
  | append_singleton later c ih =>
    have kept : c ≠ .reset := fun same => unreset (by simp [same])
    have others : ∀ other, c ≠ .set k.val other := fun other same => alone other (by simp [same])
    rw [← List.cons_append, ← List.append_assoc, afterNext, callPressed kept others]
    exact ih (fun inside => unreset (by simp [inside]))
      (fun other inside => alone other (by simp [inside]))

theorem pressedIff (calls : List KeypadCall) (k : Fin 16) :
    (after calls).isPressed k = true ↔ LastSet calls k true :=
  ⟨pressedLast, lastPressed⟩

theorem unsetReleased {calls : List KeypadCall} {k : Fin 16}
    (unset : ∀ down, ¬LastSet calls k down) : (after calls).isPressed k = false := by
  cases pressed : (after calls).isPressed k with
  | false => rfl
  | true => exact absurd (pressedLast pressed) (unset true)

theorem staysDown {before since : List KeypadCall} {k : Fin 16} (down : LastSet before k true)
    (unreset : .reset ∉ since) (unreleased : .set k.val false ∉ since) :
    LastSet (before ++ since) k true := by
  induction since using List.reverseRecOn with
  | nil => simpa using down
  | append_singleton since c ih =>
    have last := ih (fun inside => unreset (by simp [inside]))
      (fun inside => unreleased (by simp [inside]))
    have kept : c ≠ .reset := fun same => unreset (by simp [same])
    rw [← List.append_assoc]
    by_cases set : ∃ other, c = .set k.val other
    · obtain ⟨other, rfl⟩ := set
      cases other with
      | false => exact absurd (by simp) unreleased
      | true => exact ⟨before ++ since, [], rfl, by simp, by simp⟩
    · exact lastSetNext last kept fun other same => set ⟨other, same⟩

def Idle (p : Keypad) : Prop := p.waiting = false ∧ p.presses = []

theorem releasedIdle : Idle released := ⟨rfl, rfl⟩

theorem resetIdle (calls : List KeypadCall) : Idle (after (calls ++ [.reset])) := by
  rw [afterNext]
  exact releasedIdle

theorem takenIdle {calls : List KeypadCall} {k : Fin 16}
    (head : (after calls).presses.head? = some k) : Idle (after (calls ++ [.wait])) := by
  obtain ⟨rest, presses⟩ := List.head?_eq_some_iff.mp head
  rw [afterNext]
  simp [Idle, call, take, presses]

theorem waitUnanswered {calls : List KeypadCall} (fresh : (after calls).presses = []) :
    after (calls ++ [.wait]) = after calls := by
  rw [afterNext]
  simp [call, take, fresh]

theorem setWaiting (calls : List KeypadCall) (key : Int) (down : Bool) :
    (after (calls ++ [.set key down])).waiting = (after calls).waiting := by
  rw [afterNext]
  rcases keyCases key with ⟨k, rfl⟩ | outside
  · rw [callSet]
    rfl
  · rw [callRefused _ outside]

theorem edgeCollected {calls : List KeypadCall} {c : KeypadCall} {k : Fin 16}
    (edge : Edge calls c k) (waiting : (after calls).waiting = true) :
    (after (calls ++ [c])).presses = (after calls).presses ++ [k] := by
  obtain ⟨rfl, released⟩ := edge
  have up : (after calls).isPressed k = false := by
    simpa using mt (pressedIff calls k).mp released
  rw [afterNext, callSet]
  simp [set, waiting, up]

theorem flatKept {calls : List KeypadCall} {key : Int} {down : Bool}
    (flat : (after calls).waiting = false ∨ ∀ k, ¬Edge calls (.set key down) k) :
    (after (calls ++ [.set key down])).presses = (after calls).presses := by
  rw [afterNext]
  rcases keyCases key with ⟨k, rfl⟩ | outside
  · rw [callSet]
    refine if_neg ?_
    simp only [Bool.and_eq_true, Bool.not_eq_true']
    rintro ⟨⟨waiting, rfl⟩, up⟩
    refine flat.elim (by simp [waiting]) fun smooth => smooth k ⟨rfl, ?_⟩
    exact mt (pressedIff calls k).mpr (by simp [up])
  · rw [callRefused _ outside]

theorem nextIdle {calls : List KeypadCall} {c : KeypadCall} (idle : Idle (after calls))
    (unarmed : c ≠ .arm) : Idle (after (calls ++ [c])) := by
  cases c with
  | set key down =>
    exact ⟨(setWaiting calls key down).trans idle.1, (flatKept (.inl idle.1)).trans idle.2⟩
  | arm => exact absurd rfl unarmed
  | wait => rwa [waitUnanswered idle.2]
  | reset => exact resetIdle calls

theorem afterIdle {before since : List KeypadCall} (idle : Idle (after before))
    (unarmed : .arm ∉ since) : Idle (after (before ++ since)) := by
  induction since using List.reverseRecOn with
  | nil => simpa using idle
  | append_singleton since c ih =>
    have other : c ≠ .arm := fun same => unarmed (by simp [same])
    rw [← List.append_assoc]
    exact nextIdle (ih fun inside => unarmed (by simp [inside])) other

theorem idleSince {before since : List KeypadCall} (idle : Idle (after before))
    (unarmed : .arm ∉ since) : (after (before ++ since)).presses.head? = none := by
  rw [(afterIdle idle unarmed).2]
  rfl

theorem answeredCons (before rest : List KeypadCall) (c : KeypadCall) :
    Answered before (c :: rest) ↔
      (c = .wait ∧ ∃ k, answer before .wait = .ok (some k)) ∨ Answered (before ++ [c]) rest := by
  constructor
  · rintro ⟨earlier, later, k, split, answered⟩
    rcases List.cons_eq_append_iff.mp split with ⟨rfl, first⟩ | ⟨earlier, rfl, rfl⟩
    · injection first with first _
      exact .inl ⟨first.symm, k, by simpa using answered⟩
    · exact .inr ⟨earlier, later, k, rfl, by simpa using answered⟩
  · rintro (⟨rfl, k, answered⟩ | ⟨earlier, later, k, rfl, answered⟩)
    · exact ⟨[], rest, k, rfl, by simpa using answered⟩
    · exact ⟨c :: earlier, later, k, rfl, by simpa using answered⟩

theorem edgeFirst {before : List KeypadCall} {c : KeypadCall} {j : Fin 16} (edge : Edge before c j)
    (rest : List KeypadCall) (k : Fin 16) : FirstEdge before (c :: rest) k ↔ j = k := by
  constructor
  · rintro ⟨earlier, d, later, split, other, flat⟩
    rcases List.cons_eq_append_iff.mp split with ⟨rfl, first⟩ | ⟨earlier, rfl, rfl⟩
    · injection first with first _
      obtain ⟨rfl, _⟩ := edge
      rw [first] at other
      injection other.1 with same _
      exact Fin.ext (by exact_mod_cast same)
    · exact absurd (by simpa using edge) (flat [] c earlier j rfl)
  · rintro rfl
    exact ⟨[], c, rest, rfl, by simpa using edge, by simp⟩

theorem edgeLater {before : List KeypadCall} {c : KeypadCall} (smooth : ∀ j, ¬Edge before c j)
    (rest : List KeypadCall) (k : Fin 16) :
    FirstEdge before (c :: rest) k ↔ FirstEdge (before ++ [c]) rest k := by
  constructor
  · rintro ⟨earlier, d, later, split, edge, flat⟩
    rcases List.cons_eq_append_iff.mp split with ⟨rfl, first⟩ | ⟨earlier, rfl, rfl⟩
    · injection first with first _
      exact absurd (by simpa [first] using edge) (smooth k)
    · refine ⟨earlier, d, later, rfl, by simpa using edge, fun start e more j split => ?_⟩
      simpa using flat (c :: start) e more j (by rw [split]; rfl)
  · rintro ⟨earlier, d, later, rfl, edge, flat⟩
    refine ⟨c :: earlier, d, later, rfl, by simpa using edge, fun start e more j split => ?_⟩
    rcases List.cons_eq_append_iff.mp split with ⟨rfl, first⟩ | ⟨start, rfl, rfl⟩
    · injection first with first _
      simpa [first] using smooth j
    · simpa using flat start e more j rfl

theorem collectedSince {before since : List KeypadCall} {j : Fin 16}
    (waiting : (after before).waiting = true)
    (collected : (after before).presses.head? = some j) (unarmed : .arm ∉ since) (k : Fin 16) :
    (after (before ++ since)).presses.head? = some k ↔
      .reset ∉ since ∧ ¬Answered before since ∧ j = k := by
  induction since generalizing before with
  | nil => simp [collected, Answered]
  | cons c rest ih =>
    have later : .arm ∉ rest := fun inside => unarmed (by simp [inside])
    rw [afterCons, answeredCons]
    cases c with
    | set key down =>
      have wait : (after (before ++ [.set key down])).waiting = true := by
        rw [setWaiting, waiting]
      have kept : (after (before ++ [.set key down])).presses.head? = some j := by
        by_cases edge : ∃ i, Edge before (.set key down) i
        · obtain ⟨i, edge⟩ := edge
          simp [edgeCollected edge waiting, collected]
        · rw [flatKept (.inr fun i some => edge ⟨i, some⟩), collected]
      rw [ih wait kept later]
      simp
    | arm => simp at unarmed
    | wait =>
      -- Taken: whatever goes down from here on, nothing is kept without a new arm.
      have answered : answer before .wait = .ok (some j) := by rw [answerWait, collected]
      rw [idleSince (takenIdle collected) later]
      simp [answered]
    | reset =>
      rw [idleSince (resetIdle before) later]
      simp

theorem freshSince {before since : List KeypadCall} (waiting : (after before).waiting = true)
    (fresh : (after before).presses = []) (unarmed : .arm ∉ since) (k : Fin 16) :
    (after (before ++ since)).presses.head? = some k ↔
      .reset ∉ since ∧ ¬Answered before since ∧ FirstEdge before since k := by
  induction since generalizing before with
  | nil => simp [fresh, FirstEdge]
  | cons c rest ih =>
    have later : .arm ∉ rest := fun inside => unarmed (by simp [inside])
    rw [afterCons, answeredCons]
    cases c with
    | set key down =>
      have wait : (after (before ++ [.set key down])).waiting = true := by
        rw [setWaiting, waiting]
      -- An edge here is the first one, and all that matters behind it is who takes it.
      by_cases edge : ∃ j, Edge before (.set key down) j
      · obtain ⟨j, edge⟩ := edge
        have collected : (after (before ++ [.set key down])).presses.head? = some j := by
          simp [edgeCollected edge waiting, fresh]
        rw [collectedSince wait collected later, edgeFirst edge]
        simp
      · have flat : ∀ j, ¬Edge before (.set key down) j := fun j some => edge ⟨j, some⟩
        rw [ih wait ((flatKept (.inr flat)).trans fresh) later, edgeLater flat]
        simp
    | arm => simp at unarmed
    | wait =>
      have same := waitUnanswered fresh
      have unanswered : ∀ j, answer before .wait ≠ .ok (some j) := by
        simp [answerWait, fresh]
      have flat : ∀ j, ¬Edge before .wait j := by simp [Edge]
      rw [ih (by rw [same, waiting]) (by rw [same, fresh]) later, edgeLater flat]
      simp [unanswered]
    | reset =>
      rw [idleSince (resetIdle before) later]
      simp

theorem armedSince {before since : List KeypadCall} (unarmed : .arm ∉ since) (k : Fin 16) :
    (after (before ++ .arm :: since)).presses.head? = some k ↔
      .reset ∉ since ∧ ¬Answered (before ++ [.arm]) since ∧
        FirstEdge (before ++ [.arm]) since k := by
  rw [afterCons]
  refine freshSince ?_ ?_ unarmed k <;> rw [afterNext] <;> rfl

theorem headDue (calls : List KeypadCall) (k : Fin 16) :
    (after calls).presses.head? = some k ↔ Due calls k := by
  constructor
  · intro head
    by_cases armed : .arm ∈ calls
    · obtain ⟨since, before, split, unarmed⟩ :=
        List.eq_append_cons_of_mem (List.mem_reverse.mpr armed)
      have split : calls = before.reverse ++ .arm :: since.reverse := by
        simpa using congrArg List.reverse split
      have unarmed : .arm ∉ since.reverse := by simpa using unarmed
      rw [split, armedSince unarmed] at head
      exact ⟨_, _, split, unarmed, head⟩
    · have none : (after ([] ++ calls)).presses.head? = none := idleSince releasedIdle armed
      rw [List.nil_append, head] at none
      contradiction
  · rintro ⟨before, since, rfl, unarmed, due⟩
    exact (armedSince unarmed k).mpr due

theorem idleKeeps {calls : List KeypadCall} (ended : (after calls).waiting = false) :
    (after calls).presses = [] := by
  induction calls using List.reverseRecOn with
  | nil => rfl
  | append_singleton calls c ih =>
    cases c with
    | set key down =>
      rw [setWaiting] at ended
      exact (nextIdle ⟨ended, ih ended⟩ (by simp)).2
    | arm =>
      rw [afterNext]
      rfl
    | wait =>
      cases head : (after calls).presses.head? with
      | none =>
        have fresh := List.head?_eq_none_iff.mp head
        rw [waitUnanswered fresh, fresh]
      | some k => exact (takenIdle head).2
    | reset => exact (resetIdle calls).2

theorem pendingHead (calls : List KeypadCall) :
    (after calls).pending = true ↔ ∃ k, (after calls).presses.head? = some k := by
  cases waiting : (after calls).waiting with
  | false => simp [Keypad.pending, waiting, idleKeeps waiting]
  | true => cases presses : (after calls).presses <;> simp [Keypad.pending, waiting, presses]

theorem heldReleased {before since : List KeypadCall} {k : Fin 16} (down : LastSet before k true)
    (unarmed : .arm ∉ since) (head : (after (before ++ .arm :: since)).presses.head? = some k) :
    ∃ earlier up later,
      since = earlier ++ .set k.val false :: up ++ .set k.val true :: later := by
  obtain ⟨unreset, _, earlier, c, later, rfl, ⟨rfl, released⟩, _⟩ := (armedSince unarmed k).mp head
  have release : .set k.val false ∈ earlier := by
    by_contra unreleased
    have armed : LastSet (before ++ [.arm]) k true := lastSetNext down (by simp) (by simp)
    exact released (staysDown armed (fun inside => unreset (by simp [inside])) unreleased)
  obtain ⟨earlier, up, rfl⟩ := List.append_of_mem release
  exact ⟨earlier, up, later, rfl⟩

theorem keypadEdges (calls : List KeypadCall) : EdgeLaw calls where
  pressed k down last := by rw [askedKnown, lastPressed last]
  unset k unset := by rw [askedKnown, unsetReleased unset]
  due k := by rw [answerWait, Except.ok.injEq, headDue]
  undue undue := by
    cases head : (after calls).presses.head? with
    | none => rw [answerWait, head]
    | some k => exact absurd ((headDue calls k).mp head) (undue k)
  pending := by simp only [answerWait, Except.ok.injEq, pendingHead]
  disarmed k answered := by
    rw [answerWait, Except.ok.injEq] at answered
    exact (takenIdle answered).1
  forgotten k later answered unarmed := by
    rw [answerWait, Except.ok.injEq] at answered
    rw [answerWait, afterCons, idleSince (takenIdle answered) unarmed]
  held before since k split unarmed down answered := by
    rw [answerWait, Except.ok.injEq, split] at answered
    exact heldReleased down unarmed answered
  refused key outside := by
    refine ⟨by simp only [asked, keyRefused outside]; rfl, fun down => ?_⟩
    simp only [answer, afterNext, callRefused _ outside, and_self]

def pressedAgain : List KeypadCall :=
  [.set 5 true, .arm, .set 16 true, .set 5 true, .set 5 false, .set 5 true, .set 9 true]

theorem pressedAgainAnswers : answer pressedAgain .wait = .ok (some 5) ∧
    answer (pressedAgain ++ [.wait]) .wait = .ok none ∧
    ∃ earlier up later, pressedAgain.drop 2 =
      earlier ++ .set 5 false :: up ++ .set 5 true :: later := by
  have law := keypadEdges pressedAgain
  have answered : answer pressedAgain .wait = .ok (some 5) := rfl
  have down : LastSet [.set 5 true] 5 true := ⟨[], [], rfl, by simp, by simp⟩
  exact ⟨answered, law.forgotten 5 [] answered (by simp),
    law.held [.set 5 true] (pressedAgain.drop 2) 5 rfl (by decide) down answered⟩

end Keypad
end Chip8
