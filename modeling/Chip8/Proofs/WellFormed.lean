import Chip8.Proofs.HostCalls
import Chip8.Proofs.ImageLoading

/-! What holds of a machine at any time, whatever its host and its program do. The ranges of
bytes and words hold by their types; a sound machine is one in which the rest holds too. -/
namespace Chip8

def reservedImage : List UInt8 :=
  List.replicate fontStart 0 ++ font ++
    List.replicate (programStart - fontStart - font.length) 0

structure Sound (m : Machine) : Prop where
  stack : m.registers.stack.length ≤ stackDepth
  reserved : ∀ n < programStart, m.memory.bytes[n]? = reservedImage[n]?
  queue : m.keypad.waiting = false → m.keypad.presses = []
  halt : m.haltedBy = m.fault

theorem soundAlike {m n : Machine} (sound : Sound m)
    (stack : n.registers.stack.length ≤ stackDepth)
    (memory : ∀ k < programStart, n.memory.bytes[k]? = m.memory.bytes[k]?)
    (queue : n.keypad.waiting = false → n.keypad.presses = [])
    (haltedBy : n.haltedBy = m.haltedBy) (fault : n.fault = m.fault) : Sound n := by
  refine ⟨stack, ?_, queue, ?_⟩
  · intro k below
    rw [memory k below, sound.reserved k below]
  · rw [haltedBy, fault, sound.halt]

theorem soundSame {m n : Machine} (sound : Sound m)
    (stack : n.registers.stack = m.registers.stack) (memory : n.memory = m.memory)
    (keypad : n.keypad = m.keypad) (haltedBy : n.haltedBy = m.haltedBy)
    (fault : n.fault = m.fault) : Sound n :=
  soundAlike sound (stack ▸ sound.stack) (fun _ _ => by rw [memory])
    (by rw [keypad]; exact sound.queue) haltedBy fault

namespace Machine

theorem popStack {r s : Registers} {a : UInt16} (popped : r.pop = .ok (a, s)) :
    r.stack = a :: s.stack := by
  unfold Registers.pop at popped
  split at popped
  · contradiction
  · rename_i stacked
    cases popped
    exact stacked

theorem executeStack (m : Machine) (i : Instruction)
    (bounded : m.registers.stack.length ≤ stackDepth) :
    (m.execute i).1.registers.stack.length ≤ stackDepth := by
  by_cases ret : i.opcode = .ret
  · simp only [execute, ret, ret?]
    cases popped : m.registers.pop with
    | error f => exact bounded
    | ok top =>
      have stacked := popStack popped
      rw [stacked, List.length_cons] at bounded
      exact Nat.le_of_succ_le bounded
  · by_cases call : i.opcode = .call
    · simp only [execute, call, call?]
      cases pushed : m.registers.push m.registers.pc with
      | error f => exact bounded
      | ok r =>
        obtain ⟨stacked, room⟩ := Registers.pushLength pushed
        simp only [stacked, List.length_cons]
        exact room
    · rwa [(executeFrame m i).stack ret call]

theorem passIndexMemory (m : Machine) (x) : (m.passIndex x).memory = m.memory := by
  obtain ⟨_, _, _, passed⟩ := passIndexRewrites m x
  rw [passed]

theorem executeReserved (m : Machine) (i : Instruction) {n : Nat} (below : n < programStart) :
    (m.execute i).1.memory.bytes[n]? = m.memory.bytes[n]? := by
  by_cases digits : i.opcode = .storeDigits
  · simp only [execute, digits, storeDigits?]
    exact m.memory.storeBelow _ _ below
  · by_cases registers : i.opcode = .storeRegisters
    · simp only [execute, registers, storeRegisters?]
      split
      · exact m.memory.storeBelow _ _ below
      · rw [passIndexMemory]
        exact m.memory.storeBelow _ _ below
    · rw [(executeFrame m i).memory digits registers]

theorem executeQueue (m : Machine) (i : Instruction)
    (queue : m.keypad.waiting = false → m.keypad.presses = []) :
    (m.execute i).1.keypad.waiting = false → (m.execute i).1.keypad.presses = [] := by
  by_cases wait : i.opcode = .waitKey
  · simp only [execute, wait]
    cases pending : m.keypad.pending with
    | false =>
      obtain ⟨_, blocked⟩ := waitKeyBlocked i.x pending
      rw [blocked]
      exact fun _ => rfl
    | true =>
      obtain ⟨waiting, k, rest, presses⟩ := pendingPress pending
      obtain ⟨_, answered⟩ := waitKeyAnswered i.x waiting presses
      rw [answered]
      exact fun _ => rfl
  · rwa [(executeFrame m i).keypad wait]

theorem executeSound {m : Machine} (sound : Sound m) (i : Instruction) :
    Sound (m.execute i).1 :=
  soundAlike sound (executeStack m i sound.stack) (fun _ below => executeReserved m i below)
    (executeQueue m i sound.queue) (executeFrame m i).haltedBy (executeFrame m i).fault

theorem haltSound {m : Machine} (sound : Sound m) (f : Fault) : Sound (m.halt f).1 :=
  ⟨sound.stack, sound.reserved, sound.queue, rfl⟩

theorem stepSound (m : Machine) (sound : Sound m) : Sound m.step.1 := by
  have begunSound (i) : Sound (m.begun i) :=
    soundSame sound rfl rfl rfl rfl rfl
  cases stage m with
  | halted halt result => rwa [result]
  | unfetched running past result =>
    rw [result]
    exact haltSound sound _
  | unknown running inside undecoded result =>
    have advanced : Sound m.advance :=
      soundSame sound rfl rfl rfl rfl rfl
    rw [result]
    unfold meetUnknown
    split
    · exact soundSame advanced rfl rfl rfl rfl rfl
    · exact haltSound advanced _
  | @failed i n f running current executed result =>
    have executedSound := executeSound (begunSound i) i
    rw [executed] at executedSound
    rw [result]
    exact haltSound executedSound f
  | @done i n running current executed result =>
    have executedSound := executeSound (begunSound i) i
    rw [executed] at executedSound
    rw [result]
    exact soundSame executedSound rfl rfl rfl rfl rfl

theorem loadSound {m : Machine} (sound : Sound m) (image : List UInt8) :
    Sound (m.load image).1 := by
  rw [loadChecked]
  split
  · exact sound
  · exact soundAlike sound sound.stack (fun _ below => m.memory.putAllBelow image below)
      sound.queue rfl rfl

theorem restartSound {m : Machine} (sound : Sound m) : Sound m.restart := by
  refine ⟨Nat.zero_le _, ?_, fun _ => rfl, rfl⟩
  intro n below
  have loaded := (m.memory.clearProgram).putAllBelow m.program below
  have cleared := m.memory.putAllBelow (List.replicate (memorySize - programStart) 0) below
  exact loaded.trans (cleared.trans (sound.reserved n below))

theorem setKeyQueue {p : Keypad} (k : Fin 16) (down : Bool)
    (queue : p.waiting = false → p.presses = []) :
    (p.set k down).waiting = false → (p.set k down).presses = [] := by
  intro idle
  have waiting : p.waiting = false := idle
  simp only [Keypad.set, waiting, queue waiting]
  rfl

theorem pressSound {m : Machine} (sound : Sound m) (key : Int) (down : Bool) :
    Sound (m.setKeys down [key]).1 := by
  simp only [setKeys]
  cases key? key with
  | error e => exact sound
  | ok k =>
    exact soundAlike sound sound.stack (fun _ _ => rfl) (setKeyQueue k down sound.queue) rfl rfl

theorem pushSound {m : Machine} (sound : Sound m) {address : UInt16} {registers : Registers}
    (pushed : m.registers.push address = .ok registers) : Sound { m with registers } := by
  obtain ⟨stacked, room⟩ := Registers.pushLength pushed
  refine soundAlike sound ?_ (fun _ _ => rfl) sound.queue rfl rfl
  rw [stacked, List.length_cons]
  exact room

theorem popSound {m : Machine} (sound : Sound m) {address : UInt16} {registers : Registers}
    (popped : m.registers.pop = .ok (address, registers)) : Sound { m with registers } := by
  have bounded := sound.stack
  rw [popStack popped, List.length_cons] at bounded
  exact soundAlike sound (Nat.le_of_succ_le bounded) (fun _ _ => rfl) sound.queue rfl rfl

theorem serveSound (m : Machine) (call : HostCall) (sound : Sound m) : Sound (m.serve call) := by
  cases call <;> simp only [serve]
  case load image => exact loadSound sound image
  case restart => exact restartSound sound
  case press key down => exact pressSound sound key down
  case armWait =>
    exact soundAlike sound sound.stack (fun _ _ => rfl) (fun _ => rfl) rfl rfl
  case poke address value =>
    exact soundAlike sound sound.stack (fun _ below => m.memory.storeBelow _ _ below)
      sound.queue rfl rfl
  case setV x value => split <;> exact soundSame sound rfl rfl rfl rfl rfl
  case push address =>
    split
    · exact pushSound sound (by assumption)
    · exact sound
  case pop =>
    split
    · exact popSound sound (by assumption)
    · exact sound
  all_goals exact soundSame sound rfl rfl rfl rfl rfl

theorem soundKept (rule : Machine → HostCall → Prop) : Kept rule Sound where
  step := stepSound
  tick _ sound := soundSame sound rfl rfl rfl rfl rfl
  serve m call _ := serveSound m call

theorem reservedByte {n : Nat} (below : n < programStart) :
    reservedImage[n]? = overlay (fun _ => some 0) fontStart font n := by
  have size : font.length = 80 := rfl
  have start : programStart = 512 := rfl
  have fontPlace : fontStart = 80 := rfl
  simp only [reservedImage, overlay, List.getElem?_append, List.length_append,
    List.length_replicate, List.getElem?_replicate]
  split <;> split <;> split <;> first | rfl | omega

theorem powerOnSound (dialect : Dialect) (skipUnknown : Bool) (generator : Generator)
    (journal : Journal) : Sound (powerOn dialect skipUnknown generator journal) := by
  refine ⟨Nat.zero_le _, ?_, fun _ => rfl, rfl⟩
  intro n below
  have inside : n < memorySize := Nat.lt_trans below (by decide)
  have loaded := Memory.blank.putAllByte fontStart font inside
  have zero : Memory.blank.bytes[n]? = some 0 := by
    rw [Memory.blank, Vector.getElem?_replicate, if_pos inside]
  rw [reservedByte below]
  refine loaded.trans ?_
  simp only [overlay, zero]

end Machine

structure WellFormed (m : Machine) : Prop where
  registers : m.registers.v.toList.length = 16 ∧ ∀ b ∈ m.registers.v.toList, b.toNat ≤ 255
  index : m.registers.index.toNat ≤ 65535
  pc : m.registers.pc.toNat ≤ 65535
  stack : m.registers.stack.length ≤ 16 ∧ ∀ a ∈ m.registers.stack, a.toNat ≤ 65535
  memory : m.memory.bytes.toList.length = 4096 ∧ ∀ b ∈ m.memory.bytes.toList, b.toNat ≤ 255
  reserved : m.memory.bytes.toList.take 512 = reservedImage
  timers : m.timers.delay.toNat ≤ 255 ∧ m.timers.sound.toNat ≤ 255
  screen : m.screen.rows.length = 32 ∧ ∀ row ∈ m.screen.rows, row.length = 64
  keys : m.keypad.pressed.toList.length = 16
  presses : ∀ k ∈ m.keypad.presses, k.val ≤ 15
  queue : m.keypad.waiting = false → m.keypad.presses = []
  halt : m.haltedBy = m.fault

theorem reservedTaken {m : Machine} (sound : Sound m) :
    m.memory.bytes.toList.take 512 = reservedImage := by
  have size : reservedImage.length = 512 := by
    simp only [reservedImage, List.length_append, List.length_replicate]
    rfl
  apply List.ext_getElem?
  intro n
  rw [List.getElem?_take]
  split
  · rename_i below
    have same := sound.reserved n below
    rwa [← Vector.getElem?_toList] at same
  · rw [List.getElem?_eq_none (by omega)]

theorem soundWellFormed {m : Machine} (sound : Sound m) : WellFormed m where
  registers := ⟨m.registers.v.length_toList, fun b _ => Nat.le_of_lt_succ b.toNat_lt⟩
  index := Nat.le_of_lt_succ m.registers.index.toNat_lt
  pc := Nat.le_of_lt_succ m.registers.pc.toNat_lt
  stack := ⟨sound.stack, fun a _ => Nat.le_of_lt_succ a.toNat_lt⟩
  memory := ⟨m.memory.bytes.length_toList, fun b _ => Nat.le_of_lt_succ b.toNat_lt⟩
  reserved := reservedTaken sound
  timers := ⟨Nat.le_of_lt_succ m.timers.delay.toNat_lt, Nat.le_of_lt_succ m.timers.sound.toNat_lt⟩
  screen := by
    refine ⟨List.length_ofFn, ?_⟩
    intro row member
    obtain ⟨y, rfl⟩ := List.mem_ofFn.mp member
    exact List.length_ofFn
  keys := m.keypad.pressed.length_toList
  presses k _ := Nat.le_of_lt_succ k.isLt
  queue := sound.queue
  halt := sound.halt

variable {R : Type} [Add R] [Sub R] [Mul R] [Div R] [LT R] [DecidableLT R] [LE R]
  [DecidableLE R] [Number.Scalar R]

theorem wellFormedAfter (schedule : Schedule R) (dialect : Dialect) (skipUnknown : Bool)
    (generator : Generator) (journal : Journal) (actions : List (Action R)) :
    WellFormed ((Session.mk schedule
      (.powerOn dialect skipUnknown generator journal)).after actions).machine :=
  soundWellFormed (Session.afterKept (Machine.soundKept _) (Session.lawfulAll _ actions)
    (Machine.powerOnSound dialect skipUnknown generator journal))

end Chip8
