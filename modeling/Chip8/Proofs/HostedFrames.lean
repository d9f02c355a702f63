import Chip8.Host
import Chip8.Proofs.ReportStop

/-! A host beside a timeline, frame by frame. A frame of the host is a frame of its session, after
which the host notes the report and moves its keys. -/
namespace Chip8

def Keypad.again (p : Keypad) (k : Fin 16) : Keypad := (p.set k false).set k true

namespace Host

theorem holdKeypad (m : Machine) (keys : List (Fin 16)) :
    (hold m keys).1 = { m with keypad := m.keypad.setAll true keys } := by
  rw [hold]
  induction keys generalizing m with
  | nil => rfl
  | cons k rest ih => exact ih (m.setKey k true)

theorem remindKeypad (h : Host) (m : Machine) :
    h.remind m = { m with
      keypad := if m.blocked then h.held.foldl Keypad.again m.keypad else m.keypad } := by
  have every (keys : List (Fin 16)) :
      keys.foldl pressAgain m = { m with keypad := keys.foldl Keypad.again m.keypad } := by
    induction keys generalizing m with
    | nil => rfl
    | cons k rest ih => exact ih (pressAgain m k)
  rw [remind, every]
  split <;> rfl

end Host

namespace Machine

theorem slotlessPasses (m : Machine) {beats : List Beat} (slotless : beats.count .slot = 0) :
    ∃ timers, beats.foldl pass m = m.retime timers := by
  induction beats generalizing m with
  | nil => exact ⟨m.timers, rfl⟩
  | cons b rest ih =>
    cases b with
    | tick => exact ih m.tick (by rwa [List.count_cons_of_ne (by decide)] at slotless)
    | slot =>
      rw [List.count_cons_self] at slotless
      contradiction

theorem setKeySound {m : Machine} (sound : Sound m) (k : Fin 16) (down : Bool) :
    Sound (m.setKey k down) :=
  soundAlike sound sound.stack (fun _ _ => rfl) (setKeyQueue k down sound.queue) rfl rfl

theorem holdSound {m : Machine} (sound : Sound m) (keys : List (Fin 16)) :
    Sound (Host.hold m keys).1 :=
  List.foldlRecOn keys _ sound fun _ sound k _ => setKeySound sound k true

theorem remindSound {m : Machine} (sound : Sound m) (h : Host) : Sound (h.remind m) := by
  unfold Host.remind
  split
  · exact List.foldlRecOn h.held _ sound fun _ sound k _ =>
      setKeySound (setKeySound sound k false) k true
  · exact sound

end Machine

variable {R : Type} [Add R] [Sub R] [Mul R] [Div R] [LT R] [DecidableLT R] [LE R]
  [DecidableLE R] [Number.Scalar R]

namespace Hosted

def holding (schedule : Schedule R) (m : Machine) (keys : List (Fin 16)) : Hosted R :=
  ⟨⟨schedule, (Host.hold m keys).1⟩, (Host.hold m keys).2⟩

def visits (h : Hosted R) :
    List (Option R) → Except (ScheduleError R) (List (Hosted R × Report))
  | [] => .ok []
  | length :: rest =>
    match h.frame length with
    | (_, .error e) => .error e
    | (next, .ok report) => (next.visits rest).map ((next, report) :: ·)

def latest (h : Hosted R) (seen : List (Hosted R × Report)) : Hosted R :=
  seen.foldl (fun _ visit => visit.1) h

structure Framed (h : Hosted R) (length : Option R) (n : Hosted R) (report : Report) : Prop where
  reported : h.session.report? (.frame length) = some report
  schedule : n.session.schedule = (h.session.act (.frame length)).schedule
  machine : n.session.machine = h.host.remind (h.session.act (.frame length)).machine
  host : n.host =
    { h.host with
      frames := h.host.frames + 1
      instructions := h.host.instructions + report.instructions
      soundFrames := h.host.soundFrames + if report.soundActive then 1 else 0 }

variable {h n : Hosted R} {length : Option R} {rest : List (Option R)} {report : Report}
  {seen : List (Hosted R × Report)}

theorem frameReturned (returned : h.frame length = (n, .ok report)) : Framed h length n report := by
  unfold frame at returned
  cases framed : h.session.frame length with
  | mk session answer =>
    rw [framed] at returned
    cases answer with
    | error e => cases returned
    | ok own =>
      cases returned
      constructor
      case reported => simp [Session.report?, Session.answer?, framed, Except.toOption]
      case schedule | machine => simp only [Session.act, framed]
      case host => rfl

omit [LT R] [DecidableLT R] [LE R] [DecidableLE R] in
theorem visitsCons (returned : h.visits (length :: rest) = .ok seen) :
    ∃ n report later, h.frame length = (n, .ok report) ∧ n.visits rest = .ok later ∧
      seen = (n, report) :: later := by
  unfold visits at returned
  cases framed : h.frame length with
  | mk n answer =>
    rw [framed] at returned
    cases answer with
    | error e => contradiction
    | ok report =>
      cases tail : n.visits rest with
      | error e => simp [tail, Except.map] at returned
      | ok later =>
        simp only [tail, Except.map] at returned
        cases returned
        exact ⟨n, report, later, rfl, tail, rfl⟩

theorem visitsKeep {P : Hosted R → Prop}
    (kept : ∀ {h n length report}, P h → Framed h length n report → P n) {lengths : List (Option R)}
    (returned : h.visits lengths = .ok seen) (initial : P h) :
    (∀ visit ∈ seen, P visit.1) ∧ P (h.latest seen) := by
  induction lengths generalizing h seen with
  | nil =>
    cases returned
    exact ⟨List.forall_mem_nil _, initial⟩
  | cons length rest ih =>
    obtain ⟨n, report, later, framed, remaining, rfl⟩ := visitsCons returned
    have first := kept initial (frameReturned framed)
    obtain ⟨all, last⟩ := ih remaining first
    exact ⟨List.forall_mem_cons.mpr ⟨first, all⟩, last⟩

theorem framedSlots (framed : Framed h length n report) :
    n.session.schedule.slots = h.session.schedule.slots +
      (h.session.schedule.beatsOf (.frame length)).count .slot := by
  rw [framed.schedule]
  exact (Session.framePassed h.session length).slots

theorem latestSlots {lengths : List (Option R)} (returned : h.visits lengths = .ok seen) :
    h.session.schedule.slots ≤ (h.latest seen).session.schedule.slots := by
  refine (visitsKeep (P := fun n => h.session.schedule.slots ≤ n.session.schedule.slots) ?_
    returned (Nat.le_refl _)).2
  intro _ _ _ _ most framed
  rw [framedSlots framed]
  exact Nat.le_add_right_of_le most

theorem framedSound (sound : Sound h.session.machine) (framed : Framed h length n report) :
    Sound n.session.machine := by
  rw [framed.machine]
  refine Machine.remindSound ?_ h.host
  exact evolvesKeeps Machine.stepSound (Machine.soundKept fun _ _ => True).tick
    (Session.frameEvolves h.session length) sound

theorem framedFails (sound : Sound h.session.machine) (running : h.session.machine.halted = false)
    (framed : Framed h length n report) :
    report.error.isSome = n.session.machine.halted := by
  have verdict := reportStop (soundWellFormed sound) framed.reported
  have passed := Session.framePassed h.session length
  have same : n.session.machine.halted = (h.session.act (.frame length)).machine.halted := by
    rw [framed.machine, Host.remindKeypad]
    rfl
  rw [same, Bool.eq_iff_iff, verdict.error]
  refine and_iff_right_of_imp ?_
  intro halted
  by_contra none
  rw [passed.slots, Nat.lt_add_right_iff_pos, Nat.pos_iff_ne_zero, not_not] at none
  obtain ⟨timers, idle⟩ := h.session.machine.slotlessPasses none
  rw [passed.machine, Machine.playPasses, idle] at halted
  exact Bool.false_ne_true (running.symm.trans halted)

structure Noted (h : Hosted R) (seen : List (Hosted R × Report)) : Prop where
  frames : (h.latest seen).host.frames = h.host.frames + seen.length
  instructions : (h.latest seen).host.instructions + h.session.machine.steps =
    h.host.instructions + (h.latest seen).session.machine.steps
  soundFrames : (h.latest seen).host.soundFrames =
    h.host.soundFrames + seen.countP fun visit => visit.1.session.machine.timers.soundActive

theorem framedNoted (framed : Framed h length n report) : Noted h [(n, report)] := by
  have tally := reportCounts framed.reported
  have passed := Session.framePassed h.session length
  have machine := framed.machine.trans (Host.remindKeypad h.host _)
  have steps : n.session.machine.steps = h.session.machine.steps + report.instructions := by
    rw [machine]
    exact tally.instructions
  have sounds : n.session.machine.timers.soundActive = report.soundActive := by
    rw [machine, passed.report report (Session.reportAnswer framed.reported)]
    rfl
  have last : h.latest [(n, report)] = n := rfl
  constructor <;> simp only [last, framed.host]
  case frames => rfl
  case instructions => omega
  case soundFrames => simp [sounds]

theorem visitsNoted {lengths : List (Option R)} (returned : h.visits lengths = .ok seen) :
    Noted h seen := by
  induction lengths generalizing h seen with
  | nil =>
    cases returned
    exact ⟨rfl, Nat.add_comm _ _ ▸ rfl, rfl⟩
  | cons length rest ih =>
    obtain ⟨n, report, later, first, remaining, rfl⟩ := visitsCons returned
    obtain ⟨frames, instructions, soundFrames⟩ := framedNoted (frameReturned first)
    obtain ⟨laterFrames, laterInstructions, laterSound⟩ := ih remaining
    have last : h.latest ((n, report) :: later) = n.latest later := rfl
    have one : h.latest [(n, report)] = n := rfl
    rw [one] at frames instructions soundFrames
    constructor <;> rw [last]
    case frames =>
      rw [laterFrames, frames, Nat.add_assoc, Nat.add_comm _ later.length]
      rfl
    case instructions => omega
    case soundFrames =>
      rw [laterSound, soundFrames, Nat.add_assoc, ← List.countP_append]
      rfl

end Hosted
end Chip8
