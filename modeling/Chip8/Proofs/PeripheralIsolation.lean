import Chip8.Proofs.Turns

/-! Two runs of one machine, with ticks and keys in between that have nothing to do with each
other. Four instructions look at a timer or at the keypad; as long as the first run executes none
of them, the second takes the same steps, for what ticks and keys move no other step reads. -/
namespace Chip8

def Opcode.senses (o : Opcode) : Bool := o.keyed || o == .readDelay

def Turn.outer : Turn → Bool
  | .tick | .host (.press _ _) => true
  | _ => false

namespace Machine

def Alike (m n : Machine) : Prop :=
  ∃ timers keypad journal, n = { m with timers, keypad, journal }

def Insensible (m : Machine) : Prop := ∀ i ∈ m.executing?, i.opcode.senses = false

section
variable {m n k : Machine}

theorem alikeSelf (m : Machine) : Alike m m := ⟨_, _, _, rfl⟩

theorem alikeSymm (alike : Alike m n) : Alike n m := by
  obtain ⟨_, _, _, rfl⟩ := alike
  exact ⟨_, _, _, rfl⟩

theorem alikeTrans (first : Alike m n) (second : Alike n k) : Alike m k := by
  obtain ⟨_, _, _, rfl⟩ := first
  obtain ⟨timers, keypad, journal, rfl⟩ := second
  exact ⟨timers, keypad, journal, rfl⟩

theorem turnAlike (m : Machine) {t : Turn} (outer : t.outer = true) : Alike m (m.turn t) := by
  cases t with
  | step => contradiction
  | tick => exact ⟨_, _, _, rfl⟩
  | host call =>
    cases call <;> simp only [Turn.outer, Bool.false_eq_true] at outer
    simp only [turn, serve, setKeys]
    split <;> exact ⟨_, _, _, rfl⟩

theorem steppedOuter (m : Machine) {t : Turn} (outer : t.outer = true) (rest : List Turn) :
    m.stepped (t :: rest) = (m.turn t).stepped rest := by
  cases t with
  | step => contradiction
  | tick | host => rfl

theorem unseenElsewhere (insensible : m.Insensible) (timers : Timers) (keypad : Keypad)
    (journal : Journal) : Unseen m { m.guise with timers, keypad, journal } where
  known running i current := by
    have blind := insensible i (executingCurrent running current)
    obtain ⟨unkeyed, undelayed⟩ : i.opcode.keyed = false ∧ i.opcode ≠ .readDelay := by
      simpa [Opcode.senses] using blind
    refine ⟨⟨fun _ _ => rfl, fun delay => absurd delay undelayed⟩, fun keyed => ?_⟩
    rw [unkeyed] at keyed
    contradiction
  unknown _ _ := rfl

theorem stepAlike (alike : Alike m n) (insensible : m.Insensible) :
    n.step.2 = m.step.2 ∧ Alike m.step.1 n.step.1 := by
  obtain ⟨timers, keypad, journal, rfl⟩ := alike
  obtain ⟨wind, hold, write, own, clads⟩ := m.stepClad
  have stepped : { m with timers, keypad, journal }.step =
      (m.step.1.clad
        { m.step.1.guise with
          timers := wind timers, keypad := hold keypad, journal := write journal },
        m.step.2) := by
    rw [own]
    exact clads _ (unseenElsewhere insensible timers keypad journal)
  rw [stepped]
  exact ⟨rfl, _, _, _, rfl⟩

end

structure Lockstep (m n : Machine) : Prop where
  executing : n.executing? = m.executing?
  outcome : n.step.2 = m.step.2
  registers : n.step.1.registers = m.step.1.registers
  memory : n.step.1.memory = m.step.1.memory
  screen : n.step.1.screen = m.step.1.screen
  generator : n.step.1.generator = m.step.1.generator
  steps : n.step.1.steps = m.step.1.steps
  haltedBy : n.step.1.haltedBy = m.step.1.haltedBy
  fault : n.step.1.fault = m.step.1.fault

theorem alikeLockstep {m n : Machine} (alike : Alike m n) (insensible : m.Insensible) :
    Lockstep m n := by
  obtain ⟨outcome, _, _, _, after⟩ := stepAlike alike insensible
  obtain ⟨_, _, _, same⟩ := alike
  constructor
  case executing => rw [same]; rfl
  case outcome => exact outcome
  all_goals rw [after]

/- Turns that are no steps may come on either side, so the induction is on the turns of both. -/
theorem steppedAlike {m n : Machine} (alike : Alike m n) {ts us : List Turn}
    (own : ∀ t ∈ ts, t = .step ∨ t.outer = true) (other : ∀ u ∈ us, u = .step ∨ u.outer = true)
    (insensible : ∀ k ∈ m.stepped ts, k.Insensible) {i : Nat} {k l : Machine}
    (first : (m.stepped ts)[i]? = some k) (second : (n.stepped us)[i]? = some l) :
    Alike k l := by
  induction ts generalizing m n us i with
  | nil => simp [stepped] at first
  | cons t rest ih =>
    obtain ⟨now, later⟩ := List.forall_mem_cons.mp own
    obtain rfl | outer := now
    · obtain ⟨here, onward⟩ := List.forall_mem_cons.mp insensible
      induction us generalizing n with
      | nil => simp [stepped] at second
      | cons u others again =>
        obtain ⟨next, left⟩ := List.forall_mem_cons.mp other
        obtain rfl | outer := next
        · cases i with
          | zero =>
            cases first
            cases second
            exact alike
          | succ i => exact ih (stepAlike alike here).2 later left onward first second
        · rw [steppedOuter n outer] at second
          exact again (alikeTrans alike (turnAlike n outer)) left second
    · rw [steppedOuter m outer] at first insensible
      have back := alikeSymm (turnAlike m outer)
      exact ih (alikeTrans back alike) later other insensible first second

end Machine

open Machine (Lockstep Insensible)

theorem peripheralsIsolated {m : Machine} {ts us : List Turn}
    (own : ∀ t ∈ ts, t = .step ∨ t.outer = true) (other : ∀ u ∈ us, u = .step ∨ u.outer = true)
    (insensible : ∀ k ∈ m.stepped ts, ∀ i ∈ k.executing?, i.opcode.senses = false) {i : Nat}
    {k l : Machine} (first : (m.stepped ts)[i]? = some k)
    (second : (m.stepped us)[i]? = some l) : Lockstep k l := by
  have alike := Machine.steppedAlike (Machine.alikeSelf m) own other insensible first second
  exact Machine.alikeLockstep alike (insensible k (List.mem_of_getElem? first))

def quietTurns : List Turn := [.step, .tick, .step]

def busyTurns : List Turn :=
  [.host (.press 5 true), .step, .host (.press 7 true), .tick, .tick, .step, .host (.press 5 false)]

theorem countingLockstep :
    (∀ t ∈ quietTurns, t = .step ∨ t.outer = true) ∧
      (∀ u ∈ busyTurns, u = .step ∨ u.outer = true) ∧
      (∀ k ∈ countingSession.machine.stepped quietTurns,
        ∀ i ∈ k.executing?, i.opcode.senses = false) ∧
      ∃ k l, (countingSession.machine.stepped quietTurns)[1]? = some k ∧
        (countingSession.machine.stepped busyTurns)[1]? = some l ∧ Lockstep k l := by
  have own : ∀ t ∈ quietTurns, t = .step ∨ t.outer = true := by decide
  have other : ∀ u ∈ busyTurns, u = .step ∨ u.outer = true := by decide
  have insensible : ∀ k ∈ countingSession.machine.stepped quietTurns,
      ∀ i ∈ k.executing?, i.opcode.senses = false := by decide +kernel
  exact ⟨own, other, insensible, _, _, rfl, rfl,
    peripheralsIsolated (i := 1) own other insensible rfl rfl⟩

end Chip8
