import Chip8.Journal

/-! Loggers and the handlers on them. A record goes to the handlers of its own logger and of all
loggers above that one. Level 0 stands for none, and a logger without a level goes by the nearest
one above that has one. Handlers that are otherwise alike differ in their numbers. -/
namespace Chip8

structure Record where
  source : String
  level : Level
  message : String
  deriving DecidableEq, Repr

def Event.toRecord (e : Event) : Record := ⟨e.source.name, e.level, e.message⟩

inductive LoggerName where
  | root
  | named (text : String)
  deriving DecidableEq, Repr

namespace LoggerName

def ofText (text : String) : LoggerName :=
  if text = "" ∨ text = "root" then .root else .named text

def text : LoggerName → String
  | root => "root"
  | named text => text

end LoggerName

inductive ConsoleStyle where
  | plain
  | decorated
  deriving DecidableEq, Repr

inductive Sink where
  | console (style : ConsoleStyle)
  | file (path : String)
  | lastResort
  | foreign (name : String)
  deriving DecidableEq, Repr

namespace Sink

def isFile : Sink → Bool
  | file _ => true
  | _ => false

def line (s : Sink) (r : Record) : String :=
  let level := Text.padRight 7 (Level.name r.level)
  match s with
  | console _ => level ++ " | " ++ r.message
  | file _ => level ++ " | " ++ (LoggerName.ofText r.source).text ++ " | " ++ r.message
  | lastResort | foreign _ => r.message

end Sink

structure Handler where
  number : Nat
  sink : Sink
  threshold : Level
  deriving DecidableEq, Repr

namespace Handler

def takes (h : Handler) (l : Level) : Bool := h.threshold ≤ l

def lastResort : Handler := ⟨0, .lastResort, Level.warning⟩

end Handler

structure Delivery where
  handler : Handler
  record : Record
  deriving DecidableEq, Repr

namespace Delivery

def sink (d : Delivery) : Sink := d.handler.sink

def line (d : Delivery) : String := d.sink.line d.record

end Delivery

structure Logger where
  level : Level
  handlers : List Handler
  deriving DecidableEq, Repr

namespace Logger

def bare : Logger := ⟨0, []⟩

def add (l : Logger) (h : Handler) : Logger :=
  if h ∈ l.handlers then l else { l with handlers := l.handlers ++ [h] }

def remove (l : Logger) (h : Handler) : Logger := { l with handlers := l.handlers.erase h }

end Logger

structure Registry where
  root : Logger
  named : String → Option Logger
  closed : List Handler
  next : Nat

namespace Registry

def fresh : Registry := ⟨⟨Level.warning, []⟩, fun _ => none, [], Handler.lastResort.number + 1⟩

def find? (r : Registry) : LoggerName → Option Logger
  | .root => some r.root
  | .named text => r.named text

def logger (r : Registry) (name : LoggerName) : Logger := (r.find? name).getD .bare

def put (r : Registry) (name : LoggerName) (l : Logger) : Registry :=
  match name with
  | .root => { r with root := l }
  | .named text => { r with named := fun other => if other = text then some l else r.named other }

theorem findPut (r : Registry) (name other : LoggerName) (l : Logger) :
    (r.put name l).find? other = if other = name then some l else r.find? other := by
  cases name <;> cases other <;> simp [put, find?]

theorem loggerPut (r : Registry) (name other : LoggerName) (l : Logger) :
    (r.put name l).logger other = if other = name then l else r.logger other := by
  unfold logger
  rw [findPut]
  split <;> rfl

theorem closedPut (r : Registry) (name : LoggerName) (l : Logger) :
    (r.put name l).closed = r.closed := by
  cases name <;> rfl

def ask (r : Registry) (name : LoggerName) : Registry :=
  match r.find? name with
  | some _ => r
  | none => r.put name .bare

theorem findAsk {r : Registry} {name other : LoggerName} (apart : other ≠ name) :
    (r.ask name).find? other = r.find? other := by
  unfold ask
  split
  · rfl
  · rw [findPut, if_neg apart]

theorem loggerAsk (r : Registry) (name other : LoggerName) :
    (r.ask name).logger other = r.logger other := by
  unfold ask
  split
  · rfl
  · rename_i absent
    rw [loggerPut]
    split
    · rename_i same
      rw [same, logger, absent, Option.getD_none]
    · rfl

theorem closedAsk (r : Registry) (name : LoggerName) : (r.ask name).closed = r.closed := by
  unfold ask
  split
  · rfl
  · exact closedPut r name _

def setLevel (r : Registry) (name : LoggerName) (level : Level) : Registry :=
  r.put name { r.logger name with level }

def attach (r : Registry) (name : LoggerName) (sink : Sink) (threshold : Level) : Registry :=
  { r.put name ((r.logger name).add ⟨r.next, sink, threshold⟩) with next := r.next + 1 }

theorem findAttach (r : Registry) (name other : LoggerName) (sink : Sink) (threshold : Level) :
    (r.attach name sink threshold).find? other =
      if other = name then some ((r.logger name).add ⟨r.next, sink, threshold⟩)
      else r.find? other :=
  findPut r name other _

theorem closedAttach (r : Registry) (name : LoggerName) (sink : Sink) (threshold : Level) :
    (r.attach name sink threshold).closed = r.closed :=
  closedPut r name _

def detach (name : LoggerName) (r : Registry) (h : Handler) : Registry :=
  { r.put name ((r.logger name).remove h) with closed := h :: r.closed }

theorem findDetach (r : Registry) (name other : LoggerName) (h : Handler) :
    (detach name r h).find? other =
      if other = name then some ((r.logger name).remove h) else r.find? other :=
  findPut r name other _

/-- Goes by the handlers that there were before the first one left. -/
def detachAll (r : Registry) (name : LoggerName) : Registry :=
  (r.logger name).handlers.foldl (detach name) r

/-- The loggers above a name, nearest first. Its letters are read from the last one on, and what
stands before a point may be a logger; where it is none, a point next to that one is passed over. -/
def above (r : Registry) : List Char → Bool → List LoggerName
  | [], _ => [.root]
  | letter :: rest, missed =>
    if letter = '.' ∧ !missed then
      let stem := String.ofList rest.reverse
      if (r.named stem).isSome then .named stem :: r.above rest false else r.above rest true
    else r.above rest false

def line (r : Registry) : LoggerName → List LoggerName
  | .root => [.root]
  | .named text => .named text :: r.above text.toList.reverse false

def floor (r : Registry) (name : LoggerName) : Level :=
  (((r.line name).map fun n => (r.logger n).level).find? (· ≠ 0)).getD 0

def handlers (r : Registry) (names : List LoggerName) : List Handler :=
  names.flatMap fun n => (r.logger n).handlers

def hearers (r : Registry) (name : LoggerName) : List Handler :=
  match r.handlers (r.line name) with
  | [] => [.lastResort]
  | present => present

def deliver (r : Registry) (record : Record) : List Delivery :=
  let name := LoggerName.ofText record.source
  if 0 < record.level ∧ r.floor name ≤ record.level then
    ((r.hearers name).filter (·.takes record.level)).map (⟨·, record⟩)
  else []

def emit (r : Registry) (record : Record) : Registry × List Delivery :=
  let r := r.ask (.ofText record.source)
  (r, r.deliver record)

def emitAll (r : Registry) : List Record → Registry × List Delivery
  | [] => (r, [])
  | record :: rest =>
    let (r, first) := r.emit record
    let (r, others) := r.emitAll rest
    (r, first ++ others)

end Registry
end Chip8
