import Chip8.Proofs.FileOpening
import Chip8.Proofs.LogDelivery
import Chip8.Proofs.PlainPath

/-! The log set up again and again. A set-up takes off whatever its logger had, so however many came
before, there is one console in the end and one file if one is named, and each takes a record once. -/
namespace Chip8
namespace Registry

variable {r : Registry} {name : LoggerName}

structure Emptied (before after : Registry) (name : LoggerName) : Prop where
  logger : after.logger name = { before.logger name with handlers := [] }
  others : ∀ other, other ≠ name → after.find? other = before.find? other
  closed : after.closed = (before.logger name).handlers.reverse ++ before.closed

theorem detachHead {h : Handler} {rest : List Handler}
    (held : (r.logger name).handlers = h :: rest) :
    (detach name r h).logger name = { r.logger name with handlers := rest } := by
  rw [logger, findDetach, if_pos rfl, Option.getD_some, Logger.remove, held, List.erase_cons_head]

theorem detachEach {all : List Handler} (held : (r.logger name).handlers = all) :
    Emptied r (all.foldl (detach name) r) name := by
  induction all generalizing r with
  | nil =>
    refine ⟨?_, fun _ _ => rfl, by simp [held]⟩
    rw [List.foldl_nil, ← held]
  | cons h rest ih =>
    have head := detachHead held
    have next : ((detach name r h).logger name).handlers = rest := by rw [head]
    have later := ih next
    refine ⟨?_, fun other apart => ?_, ?_⟩
    · rw [List.foldl_cons, later.logger, head]
    · rw [List.foldl_cons, later.others other apart, findDetach, if_neg apart]
    · rw [List.foldl_cons, later.closed, head, held]
      simp [detach]

theorem detachAllEmpties (r : Registry) (name : LoggerName) : Emptied r (r.detachAll name) name :=
  detachEach rfl

theorem findAttached (fresh : ∀ h ∈ (r.logger name).handlers, h.number < r.next) (sink : Sink)
    (threshold : Level) :
    (r.attach name sink threshold).find? name =
      some ⟨(r.logger name).level, (r.logger name).handlers ++ [⟨r.next, sink, threshold⟩]⟩ := by
  have new : ⟨r.next, sink, threshold⟩ ∉ (r.logger name).handlers := fun inside =>
    Nat.lt_irrefl _ (fresh _ inside)
  rw [findAttach, if_pos rfl, Logger.add, if_neg new]

end Registry

open Registry

structure SetUp (s : LogSetup) (before after : Registry) (console : Handler)
    (file : Option Handler) : Prop where
  shows : console.sink = .console s.style ∧ console.threshold = s.consoleLevel
  writes : file.map (fun h => (h.sink, h.threshold)) =
    s.path?.map fun path => (.file path.text, Level.debug)
  logger : after.find? s.target = some ⟨s.level, console :: file.toList⟩
  others : ∀ name, name ≠ s.target → after.find? name = before.find? name
  closed : ∀ h ∈ (before.logger s.target).handlers ++ before.closed, h ∈ after.closed

/- What comes of a record put to the logger of a set-up or to one below it, if nothing was done to
the loggers on the way: the console and the file each take it once if they take it at all, and then
the loggers above that of the set-up have their turn. -/
structure HeardOnce (s : LogSetup) (r : Registry) (console : Handler) (file : Option Handler) :
    Prop where
  below : ∀ rest, Parted rest → s.target ∈ r.line (.ofText (s.name ++ "." ++ rest))
  written : ∀ record higher, r.Clear (.ofText record.source) s.target higher →
    (r.emit record).2 =
      (if s.level ≤ record.level ∧ s.consoleLevel ≤ record.level then [⟨console, record⟩] else []) ++
      (if s.level ≤ record.level ∧ Level.debug ≤ record.level
        then file.toList.map (⟨·, record⟩) else []) ++
      (if s.level ≤ record.level then r.taken higher record else [])
  kept : ∀ records, (r.emitAll records).1.logger s.target = r.logger s.target

namespace SetUp

variable {s : LogSetup} {before middle after : Registry} {console : Handler}
  {file : Option Handler}

theorem found (done : SetUp s before after console file) :
    after.logger s.target = ⟨s.level, console :: file.toList⟩ := by
  rw [Registry.logger, done.logger, Option.getD_some]

theorem fileTakes (done : SetUp s before after console file) :
    ∀ h ∈ file, h.threshold = Level.debug := by
  rintro h ⟨rfl⟩
  obtain ⟨path, named, same⟩ := Option.map_eq_some_iff.mp done.writes.symm
  exact (congrArg Prod.snd same).symm

theorem again {old : Handler} {oldFile : Option Handler} (first : SetUp s before middle old oldFile)
    (last : SetUp s middle after console file) : SetUp s before after console file where
  shows := last.shows
  writes := last.writes
  logger := last.logger
  others name apart := (last.others name apart).trans (first.others name apart)
  closed h taken := last.closed h (List.mem_append_right _ (first.closed h taken))

end SetUp

namespace LogSetup

variable {s : LogSetup} {r before after : Registry} {console : Handler} {file : Option Handler}
  {tree tree' : FileTree}

theorem consoleReady (s : LogSetup) (r : Registry) :
    ∃ ready : Registry,
      s.openConsole r = ready.attach s.target (.console s.style) s.consoleLevel ∧
      ready.logger s.target = ⟨s.level, []⟩ ∧
      (∀ name, name ≠ s.target → ready.find? name = r.find? name) ∧
      ready.closed = (r.logger s.target).handlers.reverse ++ r.closed := by
  have emptied := (r.ask s.target).detachAllEmpties s.target
  refine ⟨_, rfl, ?_, fun name apart => ?_, ?_⟩
  · rw [setLevel, loggerPut, if_pos rfl, emptied.logger]
  · rw [setLevel, findPut, if_neg apart, emptied.others name apart, findAsk apart]
  · rw [setLevel, closedPut, emptied.closed, loggerAsk, closedAsk]

theorem consoleOpened (s : LogSetup) (r : Registry) :
    ∃ console, SetUp { s with file := none } r (s.openConsole r) console none ∧
      console.number < (s.openConsole r).next := by
  obtain ⟨ready, opened, free, others, closed⟩ := s.consoleReady r
  have fresh : ∀ h ∈ (ready.logger s.target).handlers, h.number < ready.next := by simp [free]
  have attached := findAttached fresh (.console s.style) s.consoleLevel
  rw [free] at attached
  rw [opened]
  refine ⟨_, ⟨⟨rfl, rfl⟩, rfl, attached, fun name apart => ?_, fun h taken => ?_⟩,
    Nat.lt_succ_self _⟩
  · have apart : name ≠ s.target := apart
    rw [findAttach, if_neg apart, others name apart]
  · have taken : h ∈ (r.logger s.target).handlers ++ r.closed := taken
    rw [closedAttach, closed]
    simpa using taken

theorem setUp (s : LogSetup) (r : Registry) :
    ∃ console file, SetUp s r (s.openFile (s.openConsole r)) console file := by
  obtain ⟨console, shown, numbered⟩ := s.consoleOpened r
  unfold openFile
  cases path : s.path? with
  | none =>
    exact ⟨console, none, shown.shows, by simp [path], shown.logger, shown.others, shown.closed⟩
  | some p =>
    have found : (s.openConsole r).logger s.target = ⟨s.level, [console]⟩ := shown.found
    have fresh : ∀ h ∈ ((s.openConsole r).logger s.target).handlers,
        h.number < (s.openConsole r).next := by simpa [found] using numbered
    have attached := findAttached fresh (.file p.text) Level.debug
    rw [found] at attached
    refine ⟨console, some _, shown.shows, ?_, attached, fun name apart => ?_, fun h taken => ?_⟩
    · simp [path]
    · rw [findAttach, if_neg apart]
      exact shown.others name apart
    · rw [closedAttach]
      exact shown.closed h taken

theorem applyTimesNext {opened : List Delivery} (first : s.apply before tree = (r, tree', .ok opened))
    (n : Nat) : s.applyTimes before tree (n + 1) = ((s.applyTimes r tree' n).1,
      (s.applyTimes r tree' n).2.1, (s.applyTimes r tree' n).2.2.map (opened ++ ·)) := by
  rw [applyTimes, first]

theorem setUpReturns (writable : s.openIn tree = (tree', none)) (r : Registry) :
    ∃ after opened console file, s.apply r tree = (after, tree', .ok opened) ∧
      SetUp s r after console file := by
  obtain ⟨console, file, done⟩ := s.setUp r
  exact ⟨_, _, console, file, by rw [apply, writable], done⟩

/- By induction on the set-ups, the first one first: what it opened is there for those behind it. -/
theorem setUpTimes (writable : s.openIn tree = (tree', none)) (r : Registry) (n : Nat) :
    ∃ after opened console file, s.applyTimes r tree (n + 1) = (after, tree', .ok opened) ∧
      SetUp s r after console file := by
  induction n generalizing tree r with
  | zero =>
    obtain ⟨after, opened, console, file, once, done⟩ := setUpReturns writable r
    exact ⟨after, opened ++ [], console, file, applyTimesNext once 0, done⟩
  | succ n ih =>
    obtain ⟨middle, first, _, _, once, done⟩ := setUpReturns writable r
    obtain ⟨after, others, console, file, returned, last⟩ := ih (openAgain writable) middle
    refine ⟨after, first ++ others, console, file, ?_, done.again last⟩
    rw [applyTimesNext once, returned]
    rfl

theorem heardOnce (loud : 1 ≤ s.level) (done : SetUp s before after console file)
    (same : r.logger s.target = after.logger s.target) : HeardOnce s r console file := by
  rw [done.found] at same
  have there : (r.find? s.target).isSome = true := by
    by_contra absent
    have bare : r.logger s.target = .bare := by
      rw [logger, Option.not_isSome_iff_eq_none.mp absent, Option.getD_none]
    have quiet : s.level = 0 := congrArg Logger.level (same.symm.trans bare)
    rw [quiet] at loud
    contradiction
  refine ⟨fun rest parted => lineThrough parted there, fun record higher clear => ?_, fun records =>
    emitAllKeeps r records s.target⟩
  have own : 0 < (r.logger s.target).level := by
    rw [same]
    exact loud
  have heard : (r.logger s.target).handlers ≠ [] := by simp [same]
  rw [emitDelivers, clearDelivers clear own heard, same]
  by_cases passes : s.level ≤ record.level
  · have console := done.shows.2
    cases file with
    | none => by_cases takes : s.consoleLevel ≤ record.level <;> simp [Handler.takes, *]
    | some f =>
      have file := done.fileTakes f rfl
      by_cases takes : s.consoleLevel ≤ record.level <;>
        by_cases keeps : Level.debug ≤ record.level <;> simp [Handler.takes, *]
  · simp [passes]

end LogSetup

theorem setUpsHeardOnce (s : LogSetup) (r : Registry) (tree : FileTree) (n : Nat)
    (loud : 1 ≤ s.level) (writable : (s.openIn tree).2 = none) :
    ∃ after opened console file,
      s.applyTimes r tree (n + 1) = (after, (s.openIn tree).1, .ok opened) ∧
      SetUp s r after console file ∧
      ∀ later : Registry, later.logger s.target = after.logger s.target →
        HeardOnce s later console file := by
  obtain ⟨after, opened, console, file, returned, done⟩ :=
    LogSetup.setUpTimes (Prod.ext rfl writable : s.openIn tree = ((s.openIn tree).1, none)) r n
  exact ⟨after, opened, console, file, returned, done, fun later same =>
    LogSetup.heardOnce loud done same⟩

def relogged : LogSetup := { file := some "run.log" }

def crowded : Registry :=
  let handlers := [⟨1, .console .plain, 10⟩, ⟨2, .file "run.log", 30⟩, ⟨3, .foreign "relay", 0⟩]
  { Registry.fresh.put relogged.target ⟨50, handlers⟩ with next := 4 }

theorem reloggedOpens : (relogged.openIn ⟨[]⟩).2 = none := by
  have path : relogged.path? = some ⟨"", ["run.log"]⟩ :=
    congrArg some (Path.plainPath (by decide) (by decide) (by decide))
  have folder : FileTree.isFolder ⟨[]⟩ ⟨"", []⟩ = true := by decide
  have parent : (Path.mk "" ["run.log"]).parent = ⟨"", []⟩ := rfl
  rw [LogSetup.openIn, path]
  simp only [FileTree.prepareFile, parent, FileTree.makeFoldersAgain folder]
  decide +kernel

theorem machineBelow {r : Registry} (there : (r.named "chip8_emu").isSome = true)
    (absent : r.named "chip8_emu.emu" = none) :
    r.Clear (.ofText "chip8_emu.emu") (.named "chip8_emu") [.root] := by
  have name : LoggerName.ofText "chip8_emu.emu" = .named "chip8_emu.emu" := by decide
  have letters : "chip8_emu.emu".toList.reverse = "ume".toList ++ '.' :: "ume_8pihc".toList := by
    decide
  refine ⟨[.named "chip8_emu.emu"], ?_, ?_⟩
  · rw [name, line, letters]
    simp [above, there]
  · simp [logger, find?, absent]

theorem reloggedHeard : 1 ≤ relogged.level ∧ (relogged.openIn ⟨[]⟩).2 = none ∧
    ∃ after opened console file,
      relogged.applyTimes crowded ⟨[]⟩ 3 = (after, (relogged.openIn ⟨[]⟩).1, .ok opened) ∧
      after.logger (.named "chip8_emu") = ⟨Level.debug, [console, file]⟩ ∧
      (∀ fault, (after.emit (Event.halted fault).toRecord).2 =
        [⟨console, (Event.halted fault).toRecord⟩, ⟨file, (Event.halted fault).toRecord⟩]) ∧
      (after.emit Event.restarted.toRecord).2 = [⟨file, Event.restarted.toRecord⟩] := by
  have loud : 1 ≤ relogged.level := by decide
  obtain ⟨after, opened, console, file, returned, done, heard⟩ :=
    setUpsHeardOnce relogged crowded ⟨[]⟩ 2 loud reloggedOpens
  obtain ⟨f, rfl, _⟩ := Option.map_eq_some_iff.mp done.writes
  have there : (after.named "chip8_emu").isSome = true := by
    have found : after.named "chip8_emu" = _ := done.logger
    rw [found, Option.isSome_some]
  have absent : after.named "chip8_emu.emu" = none :=
    done.others (.named "chip8_emu.emu") (by decide)
  have clear := machineBelow there absent
  have alone (record : Record) : after.taken [.root] record = [] := by
    have root : after.root = ⟨Level.warning, []⟩ := Option.some.inj (done.others .root (by decide))
    simp [taken, handlers, logger, find?, root]
  have written := (heard after rfl).written
  refine ⟨loud, reloggedOpens, after, opened, console, f, returned, done.found, fun fault => ?_, ?_⟩
  · rw [written (Event.halted fault).toRecord [.root] clear, alone]
    rfl
  · rw [written Event.restarted.toRecord [.root] clear, alone]
    rfl

end Chip8
