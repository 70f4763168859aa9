import EventBatching.Client.Run
import EventBatching.Daemon.Process

/-!
# A client with a daemon of its own

The client and a daemon in one: the daemon starts where the client would look for it, the client
does what it was told over a connection to it, and then the daemon ends, so that everything it took
is published.

* `Local.transport` is the way from the client to its daemon.
* `Local.run` does all of this.
-/

namespace EventBatching.Local

/-- A daemon and a connection to it. -/
structure Link where
  /-- The connection. -/
  connection : Connection := {}
  /-- The daemon. -/
  daemon : Daemon.Running

/-- Makes a request to a daemon. -/
def transport : Client.Transport Link := fun r link =>
  match Wire.encodeFrame r with
  | .error fault => (.error (.unwritten fault), link)
  | .ok _ =>
    let (response, c, p) :=
      Server.exchange link.daemon.downstream link.connection r link.daemon.pipeline
    let link : Link := ⟨c, { link.daemon with pipeline := p }⟩
    match response with
    | none => (.error (.unread .noMessage), link)
    | some response => (.ok response, link)

/-- The client hangs up, and the daemon ends. -/
def Link.finish (link : Link) : Daemon.Report :=
  (link.daemon.converse [] link.connection).2.finish

/-- The options of a daemon with standard settings. -/
def daemonOptions (socket : String) : Daemon.Options :=
  { socket := socket, journal := none, settings := {}, grace := 5 * Duration.perSecond }

/-- Runs a client with a daemon of its own: what the client leaves, unless the daemon could not
serve, and what the daemon leaves. -/
def run (o : Client.Options) (input : ByteArray) (site : Daemon.Site) :
    Option Client.Report × Daemon.Report :=
  match Daemon.start (daemonOptions o.socket) site with
  | .error report => (none, report)
  | .ok daemon =>
    let connected := daemon.site.tree.connect o.socket
    let (report, link) := Client.run transport o connected input { daemon := daemon }
    (some report, link.finish)

end EventBatching.Local
