import EventBatching.Local
import EventBatching.Proofs.Client.Sending
import EventBatching.Proofs.Connection.Refusals

/-!
# A client and its daemon in step

A client reads the answer to a request before it makes the next one. So between its requests nothing
is under way on its connection, and every request gets its own answer, which leaves nothing under
way. A daemon of its own therefore takes or refuses every event of the client, as long as it can
write what is wrong with the refused ones.

* `Connection.Quiet` is a connection on which nothing is under way, and `Connection.exchange_quiet`
  is what a request does on it.
* `Local.obliging` says that a daemon of its own is obliging.
-/

namespace EventBatching

namespace Connection

open Daemon (Answerable answer records)

variable {π ρ : Type} {c : Connection} {r : Request}

/-- Nothing is under way on a connection, and nobody has left it. -/
structure Quiet (c : Connection) : Prop where
  /-- The client has not stopped writing. -/
  unclosed : c.closed = false
  /-- The connection is not over. -/
  going : c.ended = none
  /-- What the client writes can be read. -/
  sound : c.source.failure = none
  /-- The daemon has read everything that the client wrote. -/
  read : c.source.position = c.source.bytes.size
  /-- The client has read every response. -/
  answered : c.responses.toList = []

/-- The connection behind a request that was answered, and whose answer is not read yet. -/
def answeredWith (c : Connection) (bytes : ByteArray) (response : Response) : Connection :=
  { c with
    source := { c.source with
      bytes := c.source.bytes ++ bytes
      position := (c.source.bytes ++ bytes).size }
    responses := c.responses.push response }

/-- Where the daemon has read everything, it waits for the client. -/
theorem serveIn_waits {d : Downstream π ρ} {p : Pipeline π ρ} (unclosed : c.closed = false)
    (sound : c.source.failure = none) (read : c.source.position = c.source.bytes.size)
    (steps : Nat) : c.serveIn d (steps + 1) p = (c, p) := by
  have hshort : c.source.bytes.size < c.source.position + 4 := by
    rw [read]
    exact Nat.lt_add_of_pos_right (by decide)
  have hnone := Wire.readMessage?_of_short (α := Request) sound hshort
  simp [serveIn, hnone, unclosed]

/-- A request that is written on a quiet connection is all that the daemon finds there. -/
theorem serve_quiet (quiet : Quiet c) (d : Downstream π ρ)
    (fits : (Wire.Message.encode r).size ≤ Wire.frameLimit) (answerable : Answerable r)
    (p : Pipeline π ρ) :
    (c.write (Wire.frame (Wire.Message.encode r))).serve d p =
      (c.answeredWith (Wire.frame (Wire.Message.encode r)) (answer (p.settle d).counters r),
        (p.settle d).submitAll d (records r)) := by
  let written : Source :=
    { c.source with bytes := c.source.bytes ++ Wire.frame (Wire.Message.encode r) }
  have hread := Wire.readMessage?_of_written quiet.sound quiet.read fits
  -- a step for the request, and one more to see that there is no other
  have hsteps : (written.bytes.size - written.position) / 4 + 1 =
      (Wire.Message.encode r).size / 4 + 1 + 1 := by
    simp only [written]
    rw [ByteArray.size_append, quiet.read, Nat.add_sub_cancel_left, Wire.size_frame]
    omega
  have hwrite : c.write (Wire.frame (Wire.Message.encode r)) = { c with source := written } := by
    simp only [write, quiet.going]
    rfl
  have hserve : ({ c with source := written } : Connection).serve d p =
      ({ c with source := written } : Connection).serveIn d
        ((Wire.Message.encode r).size / 4 + 1 + 1) p := by
    rw [← hsteps, serve, quiet.going]
    rfl
  rw [hwrite, hserve, serveIn_of_answerable rfl hread answerable]
  have hwaits := serveIn_waits (d := d) (p := (p.settle d).submitAll d (records r))
    (c := c.answeredWith (Wire.frame (Wire.Message.encode r)) (answer (p.settle d).counters r))
    quiet.unclosed quiet.sound rfl ((Wire.Message.encode r).size / 4)
  exact hwaits

/-- What the connection is like when the answer is read, too. -/
theorem Quiet.read_answeredWith (quiet : Quiet c) (bytes : ByteArray) (response : Response) :
    ∃ c', (c.answeredWith bytes response).read = (some response, c') ∧ Quiet c' := by
  have hone : (c.responses.push response).toList = [response] := by
    rw [Arrivals.toList_push, quiet.answered, List.nil_append]
  cases htaken : (c.responses.push response).takeFirst? with
  | none =>
    rw [Arrivals.takeFirst?_eq_none_iff.1 htaken] at hone
    exact absurd hone (by simp)
  | some taken =>
    obtain ⟨first, rest⟩ := taken
    rw [Arrivals.toList_of_takeFirst? htaken] at hone
    obtain ⟨rfl, hrest⟩ := List.cons.inj hone
    refine ⟨{ c.answeredWith bytes first with responses := rest }, ?_, ?_⟩
    · simp only [Connection.read, answeredWith, htaken]
    · exact ⟨quiet.unclosed, quiet.going, quiet.sound, rfl, hrest⟩

/-- **A request on a quiet connection gets its own answer,** and leaves the connection quiet. -/
theorem exchange_quiet (quiet : Quiet c) (d : Downstream π ρ)
    (fits : (Wire.Message.encode r).size ≤ Wire.frameLimit) (answerable : Answerable r)
    (p : Pipeline π ρ) :
    ∃ c', c.exchange d r p = (some (answer (p.settle d).counters r), c',
      (p.settle d).submitAll d (records r)) ∧ Quiet c' := by
  obtain ⟨c', hread, hquiet⟩ := quiet.read_answeredWith (Wire.frame (Wire.Message.encode r))
    (answer (p.settle d).counters r)
  refine ⟨c', ?_, hquiet⟩
  have hserved := serve_quiet quiet d fits answerable p
  simp only [exchange, quiet.going, Wire.encodeFrame_of_fits fits, hserved, hread]
  rfl

end Connection

namespace Local

open Connection (Quiet)
open Daemon (Tellable answer)

/-- A daemon answers an event by taking or refusing it. -/
theorem exists_verdict (counters : Counters) (x : Submission) :
    ∃ verdict : Client.Verdict, answer counters (.submit x) = verdict.response := by
  simp only [answer]
  cases Json.parse x.payload with
  | ok payload => exact ⟨.taken, rfl⟩
  | error e => exact ⟨.refused (Daemon.payloadError x.category e), rfl⟩

/-- A connection that goes on is not worth a line. -/
theorem logEnd_of_going {π ρ : Type} {before after : Connection} (going : after.ended = none)
    (p : Pipeline π ρ) : Server.logEnd before after p = p := by
  rw [Server.logEnd, going]
  cases before.ended <;> rfl

/-- **A daemon of its own takes or refuses every event of a client,** if it can say what is wrong
with those that it refuses. -/
theorem obliging {submissions : List Submission} {link : Link} (quiet : Quiet link.connection)
    (tellable : ∀ x ∈ submissions, Tellable (.submit x)) :
    Client.Obliging transport submissions link := by
  induction submissions generalizing link with
  | nil => trivial
  | cons x rest ih =>
    intro hfits
    obtain ⟨hfirst, hrest⟩ := List.forall_mem_cons.1 tellable
    have hanswerable := Daemon.answerable_iff_tellable.2 hfirst
    obtain ⟨c', hexchange, hquiet⟩ := Connection.exchange_quiet quiet link.daemon.downstream hfits
      hanswerable link.daemon.pipeline
    obtain ⟨verdict, hverdict⟩ :=
      exists_verdict (link.daemon.pipeline.settle link.daemon.downstream).counters x
    have hask : ∃ daemon, transport (.submit x) link = (.ok verdict.response, ⟨c', daemon⟩) := by
      simp only [transport, Wire.encodeFrame_of_fits hfits, Server.exchange, hexchange,
        logEnd_of_going hquiet.going, hverdict]
      exact ⟨_, rfl⟩
    obtain ⟨daemon, hask⟩ := hask
    exact ⟨verdict, ⟨c', daemon⟩, hask, ih hquiet hrest⟩

/-- So does the daemon that a client has just connected to. -/
theorem obliging_connect {submissions : List Submission} (daemon : Daemon.Running)
    (tellable : ∀ x ∈ submissions, Tellable (.submit x)) :
    Client.Obliging transport submissions { daemon := daemon } :=
  obliging ⟨rfl, rfl, rfl, rfl, rfl⟩ tellable

end Local

end EventBatching
