import EventBatching.Client.Options
import EventBatching.Log
import EventBatching.Text.Blank
import EventBatching.Text.Quoted
import EventBatching.Wire.Frame

/-!
# The client

The client connects to the daemon, makes its requests one after the other, and reports. Without an
event on its command line it submits every line of its input that is not blank. An event that the
daemon refuses is noted and costs nothing else; anything unexpected ends the client. This models the
commands of herald's client: `send`, `ping` and `status`.

How requests reach the daemon is left open: a transport takes a request and gives the response, or
says why there is none.

* `Client.run` is what the client does.
-/

namespace EventBatching

/-! ## Responses in messages -/

/-- The counters in a message. -/
def Status.described (s : Status) : String :=
  "ProcessorStatus \x7b accepted: " ++ toString s.accepted ++ ", intake_dropped: " ++
    toString s.dropped ++ ", batches_flushed: " ++ toString s.batchesFlushed ++
    ", batches_sent: " ++ toString s.batchesSent ++ ", send_rejected: " ++
    toString s.sendRejected ++ ", send_failed: " ++ toString s.sendFailed ++ " \x7d"

/-- A response in a message. -/
def Response.described : Response → String
  | .accepted => "Accepted"
  | .pong => "Pong"
  | .status s => s!"Status({s.described})"
  | .error message => s!"Error({Quoted.quote message})"

namespace Client

/-! ## Requests -/

/-- Why a request has no response. -/
inductive RequestFault where
  /-- The request could not be written. -/
  | unwritten (fault : Wire.WriteFault)
  /-- The daemon does not read any more. -/
  | unsent (cause : OsError)
  /-- The response could not be read. -/
  | unread (fault : Wire.ReadFault)
  deriving Repr, DecidableEq

/-- Why a request has no response, in words. -/
def RequestFault.message : RequestFault → String
  | .unwritten fault => s!"Failed to send request to daemon: {fault.message}"
  | .unsent cause => s!"Failed to send request to daemon: {cause.message}"
  | .unread fault => s!"Failed to read daemon response: {fault.message}"

/-- A way to make requests. -/
abbrev Transport (τ : Type) := Request → τ → Except RequestFault Response × τ

/-- Why the client gives up. -/
inductive Fault where
  /-- It could not connect. -/
  | unreachable (path : String) (cause : OsError)
  /-- Its input is no text. -/
  | inputNotText
  /-- A request has no response. -/
  | unanswered (fault : RequestFault)
  /-- A response does not fit the request. -/
  | unexpectedResponse (response : Response)
  /-- The daemon refused to report. -/
  | refused (message : String)
  deriving Repr, DecidableEq

/-- Why the client gives up, in words. -/
def Fault.message : Fault → String
  | .unreachable path cause =>
    s!"Failed to connect to herald daemon at {path} (is it running?): {cause.message}"
  | .inputNotText => "stream did not contain valid UTF-8"
  | .unanswered fault => fault.message
  | .unexpectedResponse response => s!"unexpected response from daemon: {response.described}"
  | .refused message => s!"daemon error: {message}"

/-- What the client says that cannot even give up after a fault; none if it can. -/
def Fault.panic? : Fault → Option String
  | .unanswered (.unread fault) => fault.panic?
  | _ => none

/-! ## Reports -/

/-- Something that is said while the client runs. -/
inductive Remark where
  /-- A line for the user. -/
  | note (line : String)
  /-- An event that is worth a log line. -/
  | logged (entry : Log.Entry)
  deriving Repr, DecidableEq

/-- What a run of the client leaves. -/
structure Report where
  /-- The exit code. -/
  exitCode : Nat
  /-- What was printed. -/
  output : String
  /-- What was said on the side, the latest last. -/
  remarks : List Remark
  /-- What the client said when it panicked, if it did. -/
  panic : Option String := none
  deriving Repr, DecidableEq

namespace Report

/-- The lines for the user. -/
def errors (r : Report) : String :=
  String.join (r.remarks.filterMap fun
    | .note line => some (line ++ "\n")
    | .logged _ => none)

/-- The events that are worth a log line. -/
def logs (r : Report) : List Log.Entry :=
  r.remarks.filterMap fun
    | .note _ => none
    | .logged entry => some entry

end Report

namespace Action

/-- The name of an action in notes. -/
def name : Action → String
  | .send _ _ => "send"
  | .status _ => "status"
  | .ping => "ping"

/-- Where the log lines of an action come from. -/
def origin : Action → Log.Origin
  | .send _ _ => .send
  | _ => .status

/-- A line for the user. -/
def note (a : Action) (text : String) : Remark := .note s!"[{a.name}] {text}"

/-- What is said when an action gives up. -/
def giveUp (a : Action) (fault : Fault) : List Remark :=
  [.logged ⟨.error, a.origin, some "main", s!"[error] {fault.message}"⟩, a.note fault.message]

/-- The report of an action that gave up, or panicked instead. -/
def failed (a : Action) (remarks : List Remark) (fault : Fault) : Report :=
  match fault.panic? with
  | some message => ⟨101, "", remarks ++ [.note message], some message⟩
  | none => ⟨2, "", remarks ++ a.giveUp fault, none⟩

end Action

/-! ## Submitting events -/

/-- How submitting went so far. -/
structure Progress where
  /-- The number of events that the daemon took. -/
  accepted : Nat := 0
  /-- The number of events that it refused. -/
  refused : Nat := 0
  /-- What was said. -/
  remarks : List Remark := []
  deriving Repr, DecidableEq

/-- The events on an input: the lines that are not blank, with their numbers. -/
def payloadLines (input : String) : List (Nat × String) :=
  ((Blank.lines input).zipIdx 1).filterMap fun (line, number) =>
    let payload := Blank.trim line
    if payload.isEmpty then none else some (number, payload)

/-- What the response to an event means. -/
def Progress.take (p : Progress) (a : Action) (number : Nat) : Response → Except Fault Progress
  | .accepted => .ok { p with accepted := p.accepted + 1 }
  | .error message =>
    .ok { p with
      refused := p.refused + 1
      remarks := p.remarks ++ [a.note s!"line {number}: {message}"] }
  | other => .error (.unexpectedResponse other)

/-- Submits events under a category, and stops at the first fault. -/
def submitAll {τ : Type} (ask : Transport τ) (a : Action) (category : String) :
    List (Nat × String) → Progress → τ → Option Fault × Progress × τ
  | [], p, s => (none, p, s)
  | (number, payload) :: rest, p, s =>
    match ask (.submit ⟨category, payload⟩) s with
    | (.error fault, s) => (some (.unanswered fault), p, s)
    | (.ok response, s) =>
      match p.take a number response with
      | .error fault => (some fault, p, s)
      | .ok p => submitAll ask a category rest p s

/-- The report of a submission. -/
def sendReport (a : Action) (category : String) (fault : Option Fault) (p : Progress) : Report :=
  match fault with
  | some fault => a.failed p.remarks fault
  | none =>
    ⟨if p.refused = 0 then 0 else 1, "",
      p.remarks ++ [a.note s!"{p.accepted} events queued for {category}"], none⟩

/-- Submits one event, or those on the input. -/
def send {τ : Type} (ask : Transport τ) (category : String) (payload : Option String)
    (input : ByteArray) (s : τ) : Report × τ :=
  let action := Action.send category payload
  let events := match payload with
    | some payload => some [(1, payload)]
    | none => (String.fromUTF8? input).map payloadLines
  match events with
  | none => (action.failed [] .inputNotText, s)
  | some events =>
    let (fault, progress, s) := submitAll ask action category events {} s
    (sendReport action category fault progress, s)

/-! ## Asking -/

/-- The width of the names in a table of counters. -/
def labelWidth : Nat := 16

/-- A line of a table of counters. -/
def statusRow (label : String) (count : UInt64) : String :=
  CommandLine.padTo labelWidth (label ++ ":") ++ " " ++ toString count ++ "\n"

/-- The counters as a table. -/
def statusTable (s : Status) : String :=
  String.join [statusRow "accepted" s.accepted, statusRow "intake dropped" s.dropped,
    statusRow "batches flushed" s.batchesFlushed, statusRow "batches sent" s.batchesSent,
    statusRow "send rejected" s.sendRejected, statusRow "send failed" s.sendFailed]

/-- The counters as a JSON object, in the order of the table. -/
def statusObject (s : Status) : String :=
  "\x7b\"accepted\":" ++ toString s.accepted ++ ",\"intake_dropped\":" ++
    toString s.dropped ++ ",\"batches_flushed\":" ++ toString s.batchesFlushed ++
    ",\"batches_sent\":" ++ toString s.batchesSent ++ ",\"send_rejected\":" ++
    toString s.sendRejected ++ ",\"send_failed\":" ++ toString s.sendFailed ++ "\x7d"

/-- What is printed for the response to a question about the counters. -/
def showStatus (json : Bool) : Response → Except Fault String
  | .status s => .ok (if json then statusObject s ++ "\n" else statusTable s)
  | .error message => .error (.refused message)
  | other => .error (.unexpectedResponse other)

/-- What is printed for the response to a question whether the daemon is there. -/
def showPong : Response → Except Fault String
  | .pong => .ok "pong\n"
  | other => .error (.unexpectedResponse other)

/-- Makes one request and prints what the response means. -/
def inquire {τ : Type} (ask : Transport τ) (a : Action) (request : Request)
    (answer : Response → Except Fault String) (s : τ) : Report × τ :=
  match ask request s with
  | (.error fault, s) => (a.failed [] (.unanswered fault), s)
  | (.ok response, s) =>
    match answer response with
    | .error fault => (a.failed [] fault, s)
    | .ok text => (⟨0, text, [], none⟩, s)

/-! ## Running -/

/-- Performs an action on a connection. -/
def perform {τ : Type} (ask : Transport τ) (input : ByteArray) (s : τ) : Action → Report × τ
  | .send category payload => send ask category payload input s
  | .status json => inquire ask (.status json) .status (showStatus json) s
  | .ping => inquire ask .ping .ping showPong s

/-- Connects and performs the action. Nothing is read or asked if there is no connection. -/
def run {τ : Type} (ask : Transport τ) (o : Options) (connected : Except OsError Unit)
    (input : ByteArray) (s : τ) : Report × τ :=
  match connected with
  | .error cause => (o.action.failed [] (.unreachable o.socket cause), s)
  | .ok () => perform ask input s o.action

end Client

end EventBatching
