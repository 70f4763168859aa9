/-!
# Log lines

Every line has a level, the part of the program it comes from, and a message. A process writes the
lines up to one level, which is settled when logging is set up for the first time and never changes
afterwards. It is read from an environment variable; anything but the name of a level, also the word
that turns logging off, means warnings and errors only. This models herald's process logger.

* `Log.Entry.line` is a line after its time.
* `Log.Facility` is the state of logging in a process.
-/

namespace EventBatching.Log

/-! ## Levels -/

/-- How important a line is. -/
inductive Level where
  /-- Something was lost. -/
  | error
  /-- Something is not as it should be. -/
  | warn
  /-- A milestone. -/
  | info
  /-- A step of the work. -/
  | debug
  /-- A detail. -/
  | trace
  deriving Repr, DecidableEq, Inhabited

namespace Level

/-- All levels, the most important first. -/
def all : List Level := [.error, .warn, .info, .debug, .trace]

/-- The place of a level, the most important first. -/
def rank : Level → Nat
  | .error => 1
  | .warn => 2
  | .info => 3
  | .debug => 4
  | .trace => 5

/-- The name of a level. -/
def name : Level → String
  | .error => "ERROR"
  | .warn => "WARN"
  | .info => "INFO"
  | .debug => "DEBUG"
  | .trace => "TRACE"

/-- The name, filled up to five characters. -/
def padded (l : Level) : String := l.name ++ String.ofList (List.replicate (5 - l.name.length) ' ')

/-- The level with a name, in letters of either case. -/
def ofName? (s : String) : Option Level :=
  all.find? fun l => l.name.toList == s.toList.map Char.toUpper

/-- Whether a process that writes up to level `limit` writes a line of level `l`. -/
def enabledAt (limit l : Level) : Bool := l.rank ≤ limit.rank

/-- The level that a setting asks for. -/
def ofSetting (setting : Option String) : Level := (setting.bind ofName?).getD .warn

end Level

/-! ## Lines -/

/-- The part of the program that a line comes from. -/
inductive Origin where
  /-- The start and the end of the daemon. -/
  | daemon
  /-- The connections of the daemon. -/
  | server
  /-- The start and the end of collecting. -/
  | pipeline
  /-- The collection of records into batches. -/
  | collector
  /-- The queue of records. -/
  | inbox
  /-- The pool of senders. -/
  | pool
  /-- The client that submits events. -/
  | send
  /-- The client that asks for counters, or whether the daemon is there. -/
  | status
  deriving Repr, DecidableEq

/-- The name of a part as lines show it. -/
def Origin.target : Origin → String
  | .daemon => "herald_daemon"
  | .server => "herald_daemon::rpc"
  | .pipeline => "herald_engine::processor"
  | .collector => "herald_engine::dispatcher"
  | .inbox => "herald_engine::intake"
  | .pool => "herald_engine::executor"
  | .send => "herald::commands::send"
  | .status => "herald::commands::status"

/-- The name that the lines of a thread without a name show. -/
def unnamedThread : String := "unnamed"

/-- A line after its time. -/
def line (level : Level) (thread : Option String) (target message : String) : String :=
  s!"{level.padded} ({thread.getD unnamedThread}) [{target}] {message}"

/-- One event that is worth a line. -/
structure Entry where
  /-- How important it is. -/
  level : Level
  /-- Where it happened. -/
  origin : Origin
  /-- The name of the thread that it happened on, if that has one. -/
  thread : Option String
  /-- What happened. -/
  message : String
  deriving Repr, DecidableEq

namespace Entry

/-- The line after its time. -/
def line (e : Entry) : String := Log.line e.level e.thread e.origin.target e.message

/-- The level and the message alone. -/
def summary (e : Entry) : String := s!"{e.level.name} {e.message}"

end Entry

/-! ## Logging in a process -/

/-- The state of logging in a process: nothing is written before it is set up. -/
structure Facility where
  /-- The level up to which lines are written. -/
  limit : Option Level := none
  deriving Repr, DecidableEq

namespace Facility

/-- Sets logging up with a level, unless that has happened before. -/
def install (f : Facility) (level : Level) : Facility := ⟨some (f.limit.getD level)⟩

/-- Whether a line of a level is written. -/
def writes (f : Facility) (level : Level) : Bool :=
  match f.limit with
  | none => false
  | some limit => limit.enabledAt level

/-- The name of the level up to which lines are written. -/
def limitName (f : Facility) : String :=
  match f.limit with
  | none => "OFF"
  | some limit => limit.name

end Facility

end EventBatching.Log
