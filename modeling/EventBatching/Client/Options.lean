import EventBatching.CommandLine.Parse
import EventBatching.Locations

/-!
# Options of the client

The client submits events, asks for the counters of the daemon, or asks whether the daemon is there.
This is the command line of herald's client.

* `Client.program` is what the client takes.
* `Client.readOptions` reads a command line.
-/

namespace EventBatching.Client

open CommandLine

/-! ## What the client takes -/

/-- Where the daemon listens. -/
def socketOption : OptionSpec :=
  ⟨"socket-path", .path, "Path to the daemon's Unix socket (optional override)", none⟩

/-- Whether counters are printed as JSON. -/
def jsonOption : OptionSpec := ⟨"json", .flag, "Print the counters as a JSON object", none⟩

/-- The category of the events. -/
def categoryArgument : ArgumentSpec :=
  ⟨"category", true, "Category the events are batched under"⟩

/-- The payload of a single event. -/
def payloadArgument : ArgumentSpec :=
  ⟨"payload", false,
    "JSON payload of a single event; NDJSON is read from stdin when omitted"⟩

/-- How events are submitted, at length. -/
def sendDetails : String :=
  "Submit events under a category.\n\nExample: herald send kpi.login '\x7b\"user\":\"42\"\x7d' " ++
    "tail -f events.ndjson | herald send kpi.access"

/-- Submits events. -/
def sendCommand : CommandSpec :=
  { call := "herald send"
    about := "Submit events under a category"
    details := some sendDetails
    arguments := [categoryArgument, payloadArgument]
    options := [socketOption] }

/-- Asks for the counters. -/
def statusCommand : CommandSpec :=
  { call := "herald status"
    about := "Show the daemon's counters"
    options := [jsonOption, socketOption] }

/-- Asks whether the daemon is there. -/
def pingCommand : CommandSpec :=
  { call := "herald ping"
    about := "Check that the daemon is reachable"
    options := [socketOption] }

/-- What the client takes. -/
def program : ProgramSpec :=
  { call := "herald"
    version := "0.0.1"
    about := "Send events to the herald batching daemon"
    commands := [("send", sendCommand), ("status", statusCommand), ("ping", pingCommand)] }

/-! ## What the client was given -/

/-- What the client does. -/
inductive Action where
  /-- Submits one event, or those on its input. -/
  | send (category : String) (payload : Option String)
  /-- Shows the counters, as JSON on request. -/
  | status (json : Bool)
  /-- Shows that the daemon is there. -/
  | ping
  deriving Repr, DecidableEq

/-- What the client does, and where. -/
structure Options where
  /-- What it does. -/
  action : Action
  /-- Where the daemon listens. -/
  socket : String
  deriving Repr, DecidableEq

/-- What the command with a name does with what it was given. -/
def Action.ofGiven (name : String) (g : Given) : Action :=
  match name, g.arguments with
  | "send", category :: rest => .send category rest.head?
  | "status", _ => .status (g.flag jsonOption.name)
  | _, _ => .ping

/-- Reads a command line. -/
def readOptions (words : List String) (e : Environment) : Except Stop Options :=
  (program.read words).map fun (name, g) =>
    ⟨Action.ofGiven name g, (g.path? socketOption.name).getD (Locations.socket e)⟩

end EventBatching.Client
