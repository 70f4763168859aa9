import EventBatching.Pipeline
import EventBatching.Wire.Frame

/-!
# Connections

A connection carries requests one way and responses the other. The daemon reads one request, answers
it and goes on with the next, until the client stops writing or something goes wrong. A payload that
is no JSON is answered with an error and costs nothing else. A connection on which a request cannot
be read or a response cannot be written is given up; a request that announces a text longer than any
memory stops whoever serves the connection. This models herald's `DaemonState` and `handle_client`.

* `Daemon.respond` answers one request.
* `Connection.serve` reads and answers what a client has written so far.
* `Connection.answerStream` reads and answers everything that a client writes.
-/

namespace EventBatching

/-! ## Answering -/

namespace Daemon

variable {π ρ : Type}

/-- The answer to a payload that is no JSON. -/
def payloadError (category : String) (e : Json.ParseError) : String :=
  s!"invalid JSON payload for {category}: {e.message}"

/-- Takes an event, unless its payload is no JSON. -/
def submit (d : Downstream π ρ) (s : Submission) (p : Pipeline π ρ) :
    Response × Pipeline π ρ :=
  match Json.parse s.payload with
  | .ok payload => (.accepted, p.submit d ⟨s.category, payload⟩)
  | .error e => (.error (payloadError s.category e), p)

/-- Answers a request. By the time it comes the collector has read what was queued before. -/
def respond (d : Downstream π ρ) (p : Pipeline π ρ) (r : Request) : Response × Pipeline π ρ :=
  let p := p.settle d
  match r with
  | .ping => (.pong, p)
  | .status => (.status p.counters.status, p)
  | .submit s => submit d s p

end Daemon

/-! ## Connections -/

/-- Why a connection was given up. -/
inductive ConnectionFault where
  /-- A request could not be read. -/
  | unreadable (fault : Wire.ReadFault)
  /-- A response could not be written. -/
  | unwritable (fault : Wire.WriteFault)
  deriving Repr, DecidableEq

/-- Why a connection was given up, in words. -/
def ConnectionFault.message : ConnectionFault → String
  | .unreadable fault => s!"Failed to read DaemonRequest: {fault.message}"
  | .unwritable fault => s!"Failed to write DaemonResponse: {fault.message}"

/-- How a connection ended. -/
inductive Ending where
  /-- The client stopped writing. -/
  | closed
  /-- It was given up. -/
  | givenUp (fault : ConnectionFault)
  /-- Serving it panicked. -/
  | panicked (message : String)
  deriving Repr, DecidableEq

/-- How a connection ends on which no request can be read. -/
def Ending.ofReadFault (fault : Wire.ReadFault) : Ending :=
  match fault.panic? with
  | some message => .panicked message
  | none => .givenUp (.unreadable fault)

/-- A connection as the daemon sees it. -/
structure Connection where
  /-- What the client wrote, and how much of it was read. -/
  source : Source := ⟨ByteArray.empty, 0, none⟩
  /-- Whether the client stopped writing. -/
  closed : Bool := false
  /-- How the connection ended, if it did. -/
  ended : Option Ending := none
  /-- The responses that the client has not read yet. -/
  responses : Arrivals Response := .empty

namespace Connection

variable {π ρ : Type}

/-- The client writes bytes. -/
def write (c : Connection) (bytes : ByteArray) : Connection :=
  if c.ended.isSome then c
  else { c with source := { c.source with bytes := c.source.bytes ++ bytes } }

/-- The client stops writing. -/
def close (c : Connection) : Connection := { c with closed := true }

/-- The client reads a response, if there is one. -/
def read (c : Connection) : Option Response × Connection :=
  match c.responses.takeFirst? with
  | none => (none, c)
  | some (r, rest) => (some r, { c with responses := rest })

/-- The connection is over. -/
def finish (c : Connection) (ending : Ending) : Connection := { c with ended := some ending }

/-- Whether a fault may go away when the client writes more. -/
def isWaiting (c : Connection) : Wire.ReadFault → Bool
  | .bodyCut => !c.closed
  | _ => false

/-- Reads and answers requests, at most `steps` of them, until one is not complete yet or the
connection ends. -/
def serveIn (d : Downstream π ρ) :
    (steps : Nat) → Connection → Pipeline π ρ → Connection × Pipeline π ρ
  | 0, c, p => (c, p)
  | steps + 1, c, p =>
    match (Wire.readMessage? c.source : Except Wire.ReadFault (Option Request) × Source) with
    | (.ok none, _) => (if c.closed then c.finish .closed else c, p)
    | (.error fault, _) =>
      (if c.isWaiting fault then c else c.finish (.ofReadFault fault), p)
    | (.ok (some request), source) =>
      let (response, p) := Daemon.respond d p request
      match Wire.encodeFrame response with
      | .error fault => ({ c with source := source }.finish (.givenUp (.unwritable fault)), p)
      | .ok _ =>
        serveIn d steps { c with source := source, responses := c.responses.push response } p

/-- Reads and answers what the client has written so far. -/
def serve (d : Downstream π ρ) (c : Connection) (p : Pipeline π ρ) :
    Connection × Pipeline π ρ :=
  if c.ended.isSome then (c, p)
  else serveIn d ((c.source.bytes.size - c.source.position) / 4 + 1) c p

/-- The client sends a request and reads the next response, if there is one. A request that is too
long, or comes when the connection is over, cannot be sent, and then nothing is read. -/
def exchange (d : Downstream π ρ) (r : Request) (c : Connection) (p : Pipeline π ρ) :
    Option Response × Connection × Pipeline π ρ :=
  if c.ended.isSome then (none, c, p)
  else
    match Wire.encodeFrame r with
    | .error _ => (none, c, p)
    | .ok bytes =>
      let (c, p) := (c.write bytes).serve d p
      let (response, c) := c.read
      (response, c, p)

/-- Reads and answers everything on a connection whose client writes `bytes` and then stops writing.
-/
def answerStream (d : Downstream π ρ) (bytes : ByteArray) (p : Pipeline π ρ) :
    Connection × Pipeline π ρ :=
  serve d (({} : Connection).write bytes).close p

end Connection

end EventBatching
