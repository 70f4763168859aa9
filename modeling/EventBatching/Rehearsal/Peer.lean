import EventBatching.Client.Run

/-!
# A peer by script

A stand-in for the daemon that a client talks to. It reads one request for each entry of its script
and does what the entry says, whatever the request was. When the script is done it reads one more
request and hangs up.

* `Peer.ask` is the transport to such a peer.
-/

namespace EventBatching.Rehearsal

/-- What a peer does when it has read a request. -/
inductive Reply where
  /-- It answers, and hangs up if that was the last time. -/
  | respond (response : Response) (last : Bool)
  /-- It writes bytes as they are, and hangs up if that was the last time. -/
  | write (bytes : ByteArray) (last : Bool)
  /-- It hangs up. -/
  | hangUp

/-- A peer and what the client can still read from it. -/
structure Peer where
  /-- What it will do. -/
  script : List Reply
  /-- What it wrote, and how much of that the client has read. -/
  source : Source := { bytes := ByteArray.empty }
  /-- Whether it has hung up. -/
  gone : Bool := false
  /-- The requests that it read, the latest last. -/
  requests : List Request := []

namespace Peer

/-- The peer writes bytes. -/
def write (p : Peer) (bytes : ByteArray) (last : Bool) : Peer :=
  { p with source := { p.source with bytes := p.source.bytes ++ bytes }, gone := last }

/-- The peer reads a request and does what its script says. -/
def hear (p : Peer) (r : Request) : Peer :=
  let heard := { p with script := p.script.tail, requests := p.requests ++ [r] }
  match p.script with
  | [] => { heard with gone := true }
  | .respond response last :: _ =>
    heard.write ((Wire.encodeFrame response).toOption.getD ByteArray.empty) last
  | .write bytes last :: _ => heard.write bytes last
  | .hangUp :: _ => { heard with gone := true }

/-- Makes a request. -/
def ask : Client.Transport Peer := fun r p =>
  match Wire.encodeFrame r with
  | .error fault => (.error (.unwritten fault), p)
  | .ok _ =>
    if p.gone then (.error (.unsent .brokenPipe), p)
    else
      let p := p.hear r
      let (response, source) := Wire.readMessage p.source
      (response.mapError .unread, { p with source := source })

end Peer

end EventBatching.Rehearsal
