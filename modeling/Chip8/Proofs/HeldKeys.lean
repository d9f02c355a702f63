import Chip8.Proofs.HostedFrames

/-! Keys that a host holds down. A held key gives no press by itself, so the host lets go of its
keys and presses them again for a wait that has none: a wait that is on at the end of a frame has
the first held key queued, and the next slot there is answers it. -/
namespace Chip8

namespace Keypad

theorem againPressed (p : Keypad) (k j : Fin 16) :
    (p.again k).isPressed j = true ↔ k = j ∨ p.isPressed j = true := by
  rw [again, isPressedSet, isPressedSet]
  by_cases same : k = j <;> simp [same]

theorem againPresses (p : Keypad) (k : Fin 16) :
    (p.again k).presses = if p.waiting then p.presses ++ [k] else p.presses := by
  have up : (p.set k false).isPressed k = false := by rw [isPressedSet, if_pos rfl]
  cases waiting : p.waiting <;> simp [again, set, isPressed, waiting]

theorem allAgain (p : Keypad) (keys : List (Fin 16)) :
    (keys.foldl again p).waiting = p.waiting ∧
      (keys.foldl again p).presses = (if p.waiting then p.presses ++ keys else p.presses) ∧
      ∀ j, (keys.foldl again p).isPressed j = true ↔ j ∈ keys ∨ p.isPressed j = true := by
  induction keys generalizing p with
  | nil => simp
  | cons k rest ih =>
    obtain ⟨waiting, presses, pressed⟩ := ih (p.again k)
    have same : (p.again k).waiting = p.waiting := rfl
    refine ⟨waiting, ?_, fun j => ?_⟩
    · rw [List.foldl_cons, presses, againPresses, same]
      split <;> simp
    · rw [List.foldl_cons, pressed, againPressed, List.mem_cons, @eq_comm _ j k]
      exact or_left_comm.trans or_assoc.symm

theorem allSet (p : Keypad) (keys : List (Fin 16)) (idle : p.waiting = false) :
    (p.setAll true keys).waiting = false ∧ (p.setAll true keys).presses = p.presses ∧
      ∀ j, (p.setAll true keys).isPressed j = true ↔ j ∈ keys ∨ p.isPressed j = true := by
  induction keys generalizing p with
  | nil => simp [setAll, idle]
  | cons k rest ih =>
    obtain ⟨waiting, presses, pressed⟩ := ih (p.set k true) idle
    refine ⟨waiting, presses.trans (by simp [set, idle]), fun j => ?_⟩
    refine (pressed j).trans ?_
    rw [isPressedSet, List.mem_cons, @eq_comm _ j k]
    by_cases same : k = j <;> simp [same]

end Keypad

namespace Machine

structure Attended (keys : List (Fin 16)) (m : Machine) : Prop where
  onWait : m.OnWait
  pressed : ∀ k, m.keypad.isPressed k = true ↔ k ∈ keys
  queued : ∀ k rest, m.keypad.presses = k :: rest → keys.head? = some k

variable {keys : List (Fin 16)} {m : Machine}

theorem attendedSame {n : Machine} (attended : Attended keys m) (onWait : n.OnWait)
    (pressed : n.keypad.pressed = m.keypad.pressed)
    (presses : n.keypad.presses = [] ∨ n.keypad.presses = m.keypad.presses) :
    Attended keys n := by
  constructor
  case onWait => exact onWait
  case pressed =>
    intro k
    rw [Keypad.isPressed, pressed]
    exact attended.pressed k
  case queued =>
    intro k rest queue
    cases presses with
    | inl none =>
      rw [none] at queue
      contradiction
    | inr same => exact attended.queued k rest (same.symm.trans queue)

/- Of the steps, only key waits reach the keypad: they empty the queue. -/
theorem attendedStep (attended : Attended keys m) : Attended keys m.step.1 := by
  have onWait := stepOnWait m attended.onWait
  by_cases wait : m.haltedBy = none ∧ ∃ i, m.current? = some i ∧ i.opcode = .waitKey
  · obtain ⟨running, i, current, wait⟩ := wait
    cases pending : m.keypad.pending with
    | false =>
      obtain ⟨journal, stepped⟩ := stepUnpressed running current wait pending
      refine attendedSame attended onWait ?_ (.inl ?_) <;> rw [stepped] <;> rfl
    | true =>
      obtain ⟨waiting, key, rest, presses⟩ := pendingPress pending
      obtain ⟨journal, stepped⟩ := stepPressed running current wait waiting presses
      refine attendedSame attended onWait ?_ (.inl ?_) <;> rw [stepped]
  · have kept : m.step.1.keypad = m.keypad := by
      refine stepKeypad ?_
      intro running i current named
      exact wait ⟨running, i, current, named⟩
    refine attendedSame attended onWait ?_ (.inr ?_) <;> rw [kept]

theorem attendedTick (attended : Attended keys m) : Attended keys m.tick :=
  attendedSame attended (onWaitSame attended.onWait rfl rfl rfl rfl) rfl (.inr rfl)

theorem attendedSteps (attended : Attended keys m) (beats : List Beat) :
    ∀ k ∈ m.stepped (m.beatTurns beats), Attended keys k := by
  induction beats generalizing m with
  | nil => exact List.forall_mem_nil _
  | cons b rest ih =>
    cases b with
    | tick => exact ih (attendedTick attended)
    | slot =>
      rw [beatTurns]
      split
      · exact ih attended
      · exact List.forall_mem_cons.mpr ⟨attended, ih (attendedStep attended)⟩

theorem attendedHold (idle : m.awaitingKey = false) (released : m.keypad = .released) :
    Attended keys (Host.hold m keys).1 := by
  obtain ⟨waiting, presses, pressed⟩ := m.keypad.allSet keys idle
  rw [released] at presses pressed
  rw [Host.holdKeypad, released]
  constructor
  case onWait => exact onWaitIdle (released ▸ waiting)
  case pressed =>
    intro k
    refine (pressed k).trans ?_
    simp [Keypad.isPressed, Keypad.released]
  case queued =>
    intro k rest queue
    exact absurd (presses.symm.trans queue) (by simp [Keypad.released])

theorem attendedRemind {h : Host} (some : h.held ≠ []) (attended : Attended h.held m) :
    Attended h.held (h.remind m) ∧ (h.remind m).blocked = false := by
  rw [Host.remindKeypad]
  cases blocked : m.blocked with
  | false => exact ⟨attended, blocked⟩
  | true =>
    obtain ⟨waiting, presses⟩ : m.keypad.waiting = true ∧ m.keypad.presses = [] := by
      simp only [Machine.blocked, Keypad.pending, Bool.and_eq_true, Bool.not_eq_true',
        Bool.and_eq_false_iff, Bool.not_eq_false', List.isEmpty_iff] at blocked
      obtain ⟨waiting, idle | empty⟩ := blocked
      · rw [waiting] at idle
        contradiction
      · exact ⟨waiting, empty⟩
    obtain ⟨stays, queue, pressed⟩ := m.keypad.allAgain h.held
    rw [waiting] at stays
    rw [if_pos waiting, presses, List.nil_append] at queue
    constructor
    · constructor
      case onWait => exact onWaitSame attended.onWait rfl rfl rfl (stays.trans waiting.symm)
      case pressed =>
        intro k
        exact (pressed k).trans (or_iff_left_of_imp (attended.pressed k).mp)
      case queued =>
        intro k rest same
        have held : h.held = k :: rest := queue.symm.trans same
        rw [held]
        rfl
    · simp [Machine.blocked, Keypad.pending, stays, queue, some]

theorem attendedStores {first : Fin 16} {others : List (Fin 16)} {i : Instruction}
    (attended : Attended (first :: others) m) (performs : m.Performs i)
    (wait : i.opcode = .waitKey) (answered : m.step.1.awaitingKey = false) :
    m.step.1.v i.x = UInt8.ofNat first.val := by
  have running : m.haltedBy = none := by
    obtain ⟨n, executed, result⟩ := performed performs
    cases halt : m.haltedBy with
    | none => rfl
    | some cause => simp [stepHalted halt] at result
  cases pending : m.keypad.pending with
  | false =>
    obtain ⟨journal, stepped⟩ := stepUnpressed running performs.current wait pending
    rw [stepped] at answered
    contradiction
  | true =>
    obtain ⟨waiting, key, rest, presses⟩ := pendingPress pending
    obtain ⟨journal, stepped⟩ := stepPressed running performs.current wait waiting presses
    cases attended.queued key rest presses
    rw [stepped]
    exact (m.registers.getSet i.x i.x _).trans (if_pos rfl)

end Machine

variable {R : Type} [Add R] [Sub R] [Mul R] [Div R] [LT R] [DecidableLT R] [LE R]
  [DecidableLE R] [Number.Scalar R]

theorem Schedule.frameBeats {s : Schedule R} {length : Option R}
    (slots : 0 < (s.beatsOf (.frame length)).count .slot) :
    ∃ rest, s.beatsOf (.frame length) = .tick :: .slot :: rest := by
  simp only [beatsOf] at slots ⊢
  split at slots
  · simp at slots
  · split at slots
    · simp at slots
    · rename_i count _
      cases counted : count.toNat with
      | zero => simp [counted] at slots
      | succ k => exact ⟨List.replicate k .slot, by rw [List.replicate_succ]⟩

namespace Hosted

structure Attentive (keys : List (Fin 16)) (h : Hosted R) : Prop where
  held : h.host.held = keys
  attended : h.session.machine.Attended keys
  free : h.session.machine.blocked = false

variable {keys : List (Fin 16)} {h n : Hosted R} {length : Option R} {report : Report}

theorem attentiveFrame (some : keys ≠ []) (attentive : Attentive keys h)
    (framed : Framed h length n report) : Attentive keys n := by
  obtain ⟨rfl, attended, -⟩ := attentive
  have acted : (h.session.act (.frame length)).machine.Attended h.host.held :=
    evolvesKeeps (P := Machine.Attended h.host.held) (fun _ => Machine.attendedStep)
      (fun _ => Machine.attendedTick) (Session.frameEvolves h.session length) attended
  obtain ⟨reminded, free⟩ := Machine.attendedRemind some acted
  rw [← framed.machine] at reminded free
  exact ⟨by rw [framed.host], reminded, free⟩

theorem waitLasts (free : h.session.machine.blocked = false) {lengths : List (Option R)}
    {gap : List (Hosted R × Report)} (returned : h.visits lengths = .ok gap)
    (slotless : (h.latest gap).session.schedule.slots = h.session.schedule.slots) :
    ∃ timers, (h.latest gap).session.machine = h.session.machine.retime timers := by
  induction lengths generalizing h gap with
  | nil =>
    cases returned
    exact ⟨h.session.machine.timers, rfl⟩
  | cons length rest ih =>
    obtain ⟨n, report, later, first, remaining, rfl⟩ := visitsCons returned
    have framed := frameReturned first
    have spent := framedSlots framed
    have most := latestSlots remaining
    have last : h.latest ((n, report) :: later) = n.latest later := rfl
    rw [last] at slotless ⊢
    have none : (h.session.schedule.beatsOf (.frame length)).count .slot = 0 := by omega
    obtain ⟨timers, passed⟩ := h.session.machine.slotlessPasses none
    have same : n.session.machine = h.session.machine.retime timers := by
      have acted := (Session.framePassed h.session length).machine
      rw [Machine.playPasses, passed] at acted
      rw [framed.machine, acted, Host.remind]
      exact if_neg (Bool.eq_false_iff.mp free)
    obtain ⟨later, lasts⟩ := ih (h := n) (by rw [same]; exact free) remaining (by omega)
    exact ⟨later, by rw [lasts, same]; rfl⟩

end Hosted

def Answers (waiting : Machine) (s : Session R) (length : Option R) (key : Fin 16) : Prop :=
  ∃ i rest timers journal, waiting.current? = some i ∧ i.opcode = .waitKey ∧
    s.turnsOf (.frame length) = .tick :: .step :: rest ∧
    s.machine.turns [.tick, .step] = { waiting with
      keypad := { waiting.keypad with waiting := false, presses := [] }
      registers :=
        { waiting.registers.set i.x (UInt8.ofNat key.val) with pc := waiting.registers.pc + 2 }
      steps := waiting.steps + 1
      timers, journal }

structure HeldDown (first : Fin 16) (keys : List (Fin 16)) (h : Hosted R) : Prop where
  pressed : ∀ k, h.session.machine.keypad.isPressed k = true ↔ k ∈ keys
  queued : h.session.machine.awaitingKey = true →
    h.session.machine.keypad.presses.head? = some first
  stored : ∀ length, ∀ k ∈ h.session.machine.stepped (h.session.turnsOf (.frame length)),
    ∀ i, k.Performs i → i.opcode = .waitKey → k.step.1.awaitingKey = false →
      k.step.1.v i.x = UInt8.ofNat first.val
  answered : h.session.machine.awaitingKey = true → ∀ lengths gap, h.visits lengths = .ok gap →
    (h.latest gap).session.schedule.slots = h.session.schedule.slots → ∀ length,
      (h.latest gap).session.schedule.slots <
        ((h.latest gap).session.act (.frame length)).schedule.slots →
      Answers h.session.machine (h.latest gap).session length first

theorem attentiveHolds {first : Fin 16} {others : List (Fin 16)} {h : Hosted R}
    (attentive : h.Attentive (first :: others)) : HeldDown first (first :: others) h := by
  obtain ⟨-, attended, free⟩ := attentive
  have press (waiting : h.session.machine.awaitingKey = true) :
      ∃ rest, h.session.machine.keypad.presses = first :: rest := by
    have pending : h.session.machine.keypad.pending = true := by
      simpa [Machine.blocked, show h.session.machine.keypad.waiting = true from waiting] using free
    obtain ⟨-, key, rest, presses⟩ := Machine.pendingPress pending
    cases attended.queued key rest presses
    exact ⟨rest, presses⟩
  constructor
  case pressed => exact attended.pressed
  case queued =>
    intro waiting
    obtain ⟨rest, presses⟩ := press waiting
    rw [presses]
    rfl
  case stored =>
    intro length k stepped i performs wait answered
    exact Machine.attendedStores (Machine.attendedSteps attended _ k stepped) performs wait answered
  case answered =>
    intro waiting lengths gap returned slotless length slot
    obtain ⟨rest, presses⟩ := press waiting
    obtain ⟨timers, lasts⟩ := Hosted.waitLasts free returned slotless
    obtain ⟨running, i, current, wait⟩ := attended.onWait waiting
    obtain ⟨beats, begins⟩ : ∃ beats,
        (h.latest gap).session.schedule.beatsOf (.frame length) = .tick :: .slot :: beats := by
      refine Schedule.frameBeats ?_
      rwa [(Session.framePassed _ length).slots, Nat.lt_add_right_iff_pos] at slot
    -- Nothing but ticks lies between the wait as it is now and the slot that answers it.
    have ticked : (h.latest gap).session.machine.tick =
        h.session.machine.retime timers.tick := by
      rw [lasts]
      rfl
    obtain ⟨journal, stepped⟩ := Machine.stepPressed (m := h.session.machine.retime timers.tick)
      running current wait waiting presses
    have goes : ((h.session.machine.retime timers.tick).halted ||
        (h.session.machine.retime timers.tick).blocked) = false := by
      have unhalted : h.session.machine.halted = false := by simp [Machine.halted, running]
      exact Bool.or_eq_false_iff.mpr ⟨unhalted, free⟩
    have turns := Session.timedTurns (h.latest gap).session (a := .frame length) rfl
    rw [begins, Machine.beatTurns, ticked, Machine.beatTurns, goes] at turns
    have both : (h.latest gap).session.machine.turns [.tick, .step] =
        (h.latest gap).session.machine.tick.step.1 := rfl
    rw [ticked, stepped] at both
    exact ⟨i, _, timers.tick, journal, current, wait, turns, both⟩

theorem heldKeysAnswer (schedule : Schedule R) (dialect : Dialect) (skipUnknown : Bool)
    (generator : Generator) (journal : Journal) (image : List UInt8) (first : Fin 16)
    (others : List (Fin 16)) {lengths : List (Option R)} {seen : List (Hosted R × Report)}
    (returned : (Hosted.holding schedule
      ((Machine.powerOn dialect skipUnknown generator journal).load image).1
      (first :: others)).visits lengths = .ok seen) :
    ∀ h ∈ Hosted.holding schedule
      ((Machine.powerOn dialect skipUnknown generator journal).load image).1
      (first :: others) :: seen.map Prod.fst, HeldDown first (first :: others) h := by
  have released : ((Machine.powerOn dialect skipUnknown generator journal).load image).1.keypad =
      .released := by
    unfold Machine.load
    split <;> rfl
  have idle : ((Machine.powerOn dialect skipUnknown generator journal).load image).1.awaitingKey =
      false := by
    rw [Machine.awaitingKey, released]
    rfl
  have attended : Machine.Attended (first :: others) (Host.hold _ (first :: others)).1 :=
    Machine.attendedHold idle released
  have free : (Hosted.holding schedule
      ((Machine.powerOn dialect skipUnknown generator journal).load image).1
      (first :: others)).session.machine.blocked = false := by
    have waiting := (Keypad.allSet _ (first :: others) idle).1
    simp [Hosted.holding, Host.holdKeypad, Machine.blocked, waiting]
  have start : Hosted.Attentive (first :: others) (Hosted.holding schedule
      ((Machine.powerOn dialect skipUnknown generator journal).load image).1
      (first :: others)) := ⟨rfl, attended, free⟩
  have kept {h n : Hosted R} {length report} (attentive : h.Attentive (first :: others))
      (framed : Hosted.Framed h length n report) : n.Attentive (first :: others) :=
    Hosted.attentiveFrame (List.cons_ne_nil _ _) attentive framed
  have all := (Hosted.visitsKeep kept returned start).1
  refine List.forall_mem_cons.mpr ⟨attentiveHolds start, ?_⟩
  refine List.forall_mem_map.mpr ?_
  intro visit found
  exact attentiveHolds (all visit found)

open Number (Quantity)

def askingHost (keys : List (Fin 16)) : Hosted Quantity :=
  .holding idleSession.schedule
    ((Machine.powerOn {} false ⟨Vector.replicate 624 0, 624⟩ .silent).load
      [0xF3, 0x0A, 0x12, 0x00]).1 keys

def askingFrames : List (Option Quantity) := [none, some (.whole 0), none]

theorem askingAnswered :
    ∃ seen, (askingHost [5, 5, 3]).visits askingFrames = .ok seen ∧
      (∀ visit ∈ seen, visit.1.session.machine.awaitingKey = true) ∧
      ∀ h ∈ askingHost [5, 5, 3] :: seen.map Prod.fst, HeldDown 5 [5, 5, 3] h := by
  have ran : ∃ seen, (askingHost [5, 5, 3]).visits askingFrames = .ok seen ∧
      ∀ visit ∈ seen, visit.1.session.machine.awaitingKey = true := by
    have asked : (((askingHost [5, 5, 3]).visits askingFrames).toOption.any fun seen =>
        seen.all fun visit => visit.1.session.machine.awaitingKey) = true := by
      decide +kernel
    cases outcome : (askingHost [5, 5, 3]).visits askingFrames with
    | error e => simp [outcome, Except.toOption] at asked
    | ok seen => exact ⟨seen, rfl, by simpa [outcome, Except.toOption] using asked⟩
  obtain ⟨seen, returned, waiting⟩ := ran
  exact ⟨seen, returned, waiting, heldKeysAnswer _ _ _ _ _ _ _ _ returned⟩

end Chip8
