import EventBatching.CommandLine.Parse
import EventBatching.Duration
import EventBatching.Locations

/-!
# Options of the daemon

Where the daemon listens, where it writes the journal, and the settings of its pipeline. The numbers
must be positive; the first that is not is reported, in the order in which they are looked at. This
models herald's `DaemonConfig`, which `from_args` makes from the command line.

* `Daemon.command` is what the daemon takes.
* `Daemon.readOptions` reads a command line.
-/

namespace EventBatching.Daemon

open CommandLine

/-! ## What the daemon takes -/

/-- Where the daemon listens. -/
def socketOption : OptionSpec :=
  ⟨"socket-path", .path, "Path to Unix domain socket (optional override)", none⟩

/-- Where the daemon writes the journal. -/
def journalOption : OptionSpec :=
  ⟨"journal", .path, "Append published batches to this file instead of stdout", none⟩

/-- The longest time a batch collects, in milliseconds. -/
def timeoutOption : OptionSpec :=
  ⟨"batch-timeout-ms", .number, "Longest time a batch collects events before it is published",
    some 1000⟩

/-- The size at which a batch leaves at once. -/
def sizeOption : OptionSpec :=
  ⟨"batch-size", .number, "Number of events that makes a batch publish immediately", some 100⟩

/-- The regular number of senders. -/
def workersOption : OptionSpec :=
  ⟨"workers", .number, "Base number of sender threads (bursts up to twice this)", some 1⟩

/-- How long further senders stay without work, in milliseconds. -/
def keepAliveOption : OptionSpec :=
  ⟨"worker-keep-alive-ms", .number, "Idle time after which burst sender threads exit", some 10000⟩

/-- How many batches may wait. -/
def sendQueueOption : OptionSpec :=
  ⟨"batch-queue", .number, "Batches waiting for a sender thread before new ones are dropped",
    some 100⟩

/-- How many records may wait. -/
def recordQueueOption : OptionSpec :=
  ⟨"events-queue-size", .number, "Events waiting for the dispatcher before new ones are dropped",
    some 10000⟩

/-- How long the daemon waits for its senders at the end, in milliseconds. -/
def graceOption : OptionSpec :=
  ⟨"shutdown-grace-ms", .number, "Time to wait for in-flight sends when shutting down", some 5000⟩

/-- What the daemon takes. -/
def command : CommandSpec :=
  { call := "herald-daemon"
    about := "Herald event batching daemon"
    options := [socketOption, journalOption, timeoutOption, sizeOption, workersOption,
      keepAliveOption, sendQueueOption, recordQueueOption, graceOption] }

/-- The options that must be positive, in the order in which they are looked at. -/
def positiveOptions : List OptionSpec :=
  [timeoutOption, sizeOption, workersOption, sendQueueOption, recordQueueOption, keepAliveOption,
    graceOption]

/-! ## What the daemon was given -/

/-- What the daemon does. -/
structure Options where
  /-- Where it listens. -/
  socket : String
  /-- Where it writes the journal; to its output if there is none. -/
  journal : Option String
  /-- The settings of the pipeline. -/
  settings : Settings
  /-- How long it waits for its senders at the end, in microseconds. -/
  grace : Nat
  deriving Repr, DecidableEq

/-- Why the daemon does not start. -/
inductive OptionsFault where
  /-- The command line asks for something else, or is refused. -/
  | stopped (stop : Stop)
  /-- A number is not positive. -/
  | notPositive (name : String)
  deriving Repr, DecidableEq

/-- Why the daemon does not start, in words. -/
def OptionsFault.message : OptionsFault → String
  | .stopped stop => stop.printed
  | .notPositive name => s!"--{name} must be positive"

/-- The number that an option was given, or its standard. -/
def numberOf (g : Given) (o : OptionSpec) : Nat := (g.number? o.name).getD (o.standard.getD 0)

/-- What the daemon does, from what it was given. -/
def Options.ofGiven (g : Given) (e : Environment) : Except OptionsFault Options :=
  match positiveOptions.find? fun o => numberOf g o == 0 with
  | some o => .error (.notPositive o.name)
  | none =>
    .ok
      { socket := (g.path? socketOption.name).getD (Locations.socket e)
        journal := g.path? journalOption.name
        settings :=
          { collectionTimeout := numberOf g timeoutOption * Duration.perMilli
            maxBatchSize := numberOf g sizeOption
            workers := numberOf g workersOption
            keepAlive := numberOf g keepAliveOption * Duration.perMilli
            sendQueue := numberOf g sendQueueOption
            recordQueue := numberOf g recordQueueOption }
        grace := numberOf g graceOption * Duration.perMilli }

/-- Reads a command line. -/
def readOptions (words : List String) (e : Environment) : Except OptionsFault Options :=
  match command.read words with
  | .error stop => .error (.stopped stop)
  | .ok g => Options.ofGiven g e

end EventBatching.Daemon
