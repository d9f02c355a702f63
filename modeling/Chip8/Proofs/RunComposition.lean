import Chip8.Proofs.ReportCounts

/-! How runs end and how they follow one another. A run takes steps until its number of them have
returned, one fails, or one leaves the machine waiting for a key. A run that comes to its limit
can be taken up by another, as if there had been one; any other run is as far as a longer one
comes. -/
namespace Chip8

theorem reasonOwn (f : Fault) : f.reason ≠ .stepLimit ∧ f.reason ≠ .keyWait := by
  cases f <;> simp [Fault.reason]

namespace Machine

def behind (m : Machine) (k : Nat) : Machine := (m.stepTimes k).1

structure GoesOn (m : Machine) : Prop where
  returns : ∃ redrawn, m.step.2 = .ok redrawn
  awake : m.step.1.awaitingKey = false

inductive RunEnd (m : Machine) (n : Nat) : Machine × StopReason → Prop where
  | limit (all : ∀ k < n, (m.behind k).GoesOn) : RunEnd m n (m.behind n, .stepLimit)
  | failed {k : Nat} {f : Fault} (within : k < n) (before : ∀ j < k, (m.behind j).GoesOn)
      (raised : (m.behind k).step.2 = .error f) : RunEnd m n (m.behind (k + 1), f.reason)
  | waiting {k : Nat} {redrawn : Bool} (within : k < n) (before : ∀ j < k, (m.behind j).GoesOn)
      (returned : (m.behind k).step.2 = .ok redrawn)
      (waits : (m.behind (k + 1)).awaitingKey = true) : RunEnd m n (m.behind (k + 1), .keyWait)

theorem behindStep (m : Machine) (k : Nat) : m.behind (k + 1) = (m.behind k).step.1 := by
  induction k generalizing m with
  | zero => rfl
  | succ k ih => exact ih m.step.1

section first
variable {m : Machine} (n : Nat)

theorem runFails {f : Fault} (raised : m.step.2 = .error f) :
    m.run (n + 1) = (m.behind 1, f.reason) := by
  rw [run, ← Prod.eta m.step, raised]
  rfl

theorem runWaits {redrawn : Bool} (returned : m.step.2 = .ok redrawn)
    (waits : m.step.1.awaitingKey = true) : m.run (n + 1) = (m.behind 1, .keyWait) := by
  rw [run, ← Prod.eta m.step, returned]
  exact if_pos waits

theorem runGoes (goes : m.GoesOn) : m.run (n + 1) = m.step.1.run n := by
  obtain ⟨⟨redrawn, returned⟩, awake⟩ := goes
  rw [run, ← Prod.eta m.step, returned]
  exact if_neg (by simp [awake])

end first

theorem goesOnFirst {m : Machine} {n : Nat} (goes : m.GoesOn)
    (later : ∀ k < n, (m.step.1.behind k).GoesOn) : ∀ k < n + 1, (m.behind k).GoesOn := by
  intro k within
  cases k with
  | zero => exact goes
  | succ k => exact later k (by omega)

theorem runEndFirst {m : Machine} {n : Nat} {result : Machine × StopReason} (goes : m.GoesOn)
    (ends : RunEnd m.step.1 n result) : RunEnd m (n + 1) result := by
  cases ends with
  | limit all => exact .limit (goesOnFirst goes all)
  | failed within before raised =>
    exact .failed (Nat.succ_lt_succ within) (goesOnFirst goes before) raised
  | waiting within before returned waits =>
    exact .waiting (Nat.succ_lt_succ within) (goesOnFirst goes before) returned waits

theorem runEnds (m : Machine) (n : Nat) : RunEnd m n (m.run n) := by
  induction n generalizing m with
  | zero => exact .limit (by simp)
  | succ n ih =>
    have none : ∀ j < 0, (m.behind j).GoesOn := by simp
    cases outcome : m.step.2 with
    | error f =>
      rw [runFails n outcome]
      exact .failed (Nat.succ_pos n) none outcome
    | ok redrawn =>
      cases waits : m.step.1.awaitingKey with
      | true =>
        rw [runWaits n outcome waits]
        exact .waiting (Nat.succ_pos n) none outcome waits
      | false =>
        have goes : m.GoesOn := ⟨⟨redrawn, outcome⟩, waits⟩
        rw [runGoes n goes]
        exact runEndFirst goes (ih m.step.1)

theorem runLimit (m : Machine) (n : Nat) :
    (m.run n).2 = .stepLimit ↔ ∀ k < n, (m.behind k).GoesOn := by
  have ends := runEnds m n
  generalize m.run n = result at ends
  cases ends with
  | limit all => exact iff_of_true rfl all
  | @failed k f within before raised =>
    refine iff_of_false (reasonOwn f).1 fun all => ?_
    obtain ⟨redrawn, returned⟩ := (all k within).returns
    rw [raised] at returned
    contradiction
  | @waiting k redrawn within before returned waits =>
    refine iff_of_false (by simp) fun all => ?_
    have awake := (all k within).awake
    rw [← behindStep, waits] at awake
    contradiction

theorem runReached {m : Machine} {n : Nat} (limit : (m.run n).2 = .stepLimit) :
    (m.run n).1 = m.behind n := by
  have ends := runEnds m n
  generalize m.run n = result at ends limit
  cases ends with
  | limit all => rfl
  | failed within before raised => exact absurd limit (reasonOwn _).1
  | waiting within before returned waits => contradiction

theorem behindCounts {m : Machine} {n : Nat} (all : ∀ k < n, (m.behind k).GoesOn) :
    (m.behind n).steps = m.steps + n := by
  induction n with
  | zero => rfl
  | succ n ih =>
    obtain ⟨redrawn, returned⟩ := (all n (Nat.lt_succ_self n)).returns
    have before := ih fun k within => all k (by omega)
    rw [behindStep, stepCounts, before, returned]
    rfl

/- Where the first run came to its limit, the second takes it up; where not, there is nothing to
take up. -/
theorem runAdd (m : Machine) (a b : Nat) : m.run (a + b) =
    if (m.run a).2 = .stepLimit then (m.run a).1.run b else m.run a := by
  induction a generalizing m with
  | zero => rw [Nat.zero_add]; rfl
  | succ a ih =>
    rw [Nat.succ_add_eq_add_succ, Nat.add_succ]
    cases outcome : m.step.2 with
    | error f => rw [runFails _ outcome, runFails _ outcome, if_neg (reasonOwn f).1]
    | ok redrawn =>
      cases waits : m.step.1.awaitingKey with
      | true => rw [runWaits _ outcome waits, runWaits _ outcome waits, if_neg (by simp)]
      | false =>
        have goes : m.GoesOn := ⟨⟨redrawn, outcome⟩, waits⟩
        rw [runGoes _ goes, runGoes _ goes, ih]

end Machine

structure BoundedRuns (m : Machine) : Prop where
  ends : ∀ n : Int, Machine.RunEnd m n.toNat (m.run n.toNat)
  limit : ∀ n : Int, (m.run n.toNat).2 = .stepLimit ↔ ∀ k < n.toNat, (m.behind k).GoesOn
  counts : ∀ n : Int, (m.run n.toNat).2 = .stepLimit →
    ((m.run n.toNat).1.steps : Int) = m.steps + max n 0
  resumed : ∀ a b, (m.run a).2 = .stepLimit → (m.run a).1.run b = m.run (a + b)
  finished : ∀ a b, (m.run a).2 ≠ .stepLimit → m.run (a + b) = m.run a

theorem runsCompose (m : Machine) : BoundedRuns m where
  ends n := m.runEnds n.toNat
  limit n := m.runLimit n.toNat
  counts n limit := by
    rw [Machine.runReached limit, Machine.behindCounts ((m.runLimit n.toNat).mp limit)]
    omega
  resumed a b limit := by rw [m.runAdd, if_pos limit]
  finished a b early := by rw [m.runAdd, if_neg early]

end Chip8
