import EventBatching.Daemon.Options
import EventBatching.Journal
import EventBatching.Server

/-!
# The daemon

The daemon opens its journal, starts its pipeline and serves clients. At the end it stops the
pipeline, so that everything it took is published, also when it could not serve at all. This models
herald's daemon from its configuration to its end.

* `Daemon.start` goes as far as clients can connect.
* `Daemon.Running.finish` ends a daemon that serves.
* `Daemon.Report` is what a daemon leaves.
-/

namespace EventBatching.Daemon

/-! ## What the daemon writes to -/

/-- Everything that the daemon writes to. -/
structure Site where
  /-- The files and sockets. -/
  tree : FileTree := {}
  /-- What was printed. -/
  output : ByteArray := ByteArray.empty

/-- Where the journal goes. -/
inductive JournalTarget where
  /-- It is printed. -/
  | output
  /-- It is written to an open file. -/
  | file (place : Place)
  deriving Repr, DecidableEq

/-- Writes to the journal. -/
def JournalTarget.writer : JournalTarget → Writer Site
  | .output => fun bytes site =>
    let (written, printed) := Writer.memory bytes site.output
    (written, { site with output := printed })
  | .file place => fun bytes site =>
    let (written, tree) := Journal.fileWriter place bytes site.tree
    (written, { site with tree := tree })

/-- What the daemon does with batches. -/
def JournalTarget.downstream (t : JournalTarget) : Downstream Site Unit :=
  ⟨Journal.publisher t.writer, .logAndDrop _⟩

/-- Opens the journal. -/
def openJournal (o : Options) (site : Site) : Except Journal.OpenFault JournalTarget × Site :=
  match o.journal with
  | none => (.ok .output, site)
  | some path =>
    let (opened, tree) := Journal.openAt site.tree path
    (opened.map .file, { site with tree := tree })

/-! ## Failures -/

/-- Why a daemon ends with an error. -/
inductive Failure where
  /-- Its command line does not let it start. -/
  | options (fault : OptionsFault)
  /-- It has no journal. -/
  | journal (fault : Journal.OpenFault)
  /-- Its settings ask for what cannot be made. -/
  | settings (excess : Settings.Excess)
  /-- Its pipeline does not start. -/
  | pipeline (fault : Pipeline.AlreadyStarted)
  /-- It cannot listen. -/
  | socket (fault : BindFault)
  deriving Repr, DecidableEq

namespace Failure

/-- The exit code of a daemon that ends with an error. -/
def exitCode : Failure → Nat
  | .options (.stopped stop) => stop.exitCode
  | .settings _ => 101
  | _ => 1

/-- An error with an error of the system behind it, in words. -/
def causedBy (context : String) (cause : OsError) : String :=
  s!"Error: {context}\n\nCaused by:\n    {cause.message}\n"

/-- An error in words. -/
def text : Failure → String
  | .options (.stopped stop) => stop.printed
  | .options fault => s!"Error: {fault.message}\n"
  | .journal fault => causedBy fault.context fault.cause
  | .settings excess => s!"{excess.message}\n"
  | .pipeline fault => s!"Error: {fault.message}\n"
  | .socket fault => causedBy fault.context fault.cause

end Failure

/-- What a daemon leaves when it has ended. -/
structure Report where
  /-- The failure, if it ended with one. -/
  failure : Option Failure
  /-- What it wrote. -/
  site : Site
  /-- The lines that it logged. -/
  logs : List Log.Entry := []

namespace Report

/-- The exit code. -/
def exitCode (r : Report) : Nat := (r.failure.map Failure.exitCode).getD 0

/-- What is said on the side, without the times of the log lines. -/
def errors (r : Report) (limit : Log.Level) : String :=
  String.join ((r.logs.filter fun e => limit.enabledAt e.level).map fun e => e.line ++ "\n") ++
    (r.failure.map Failure.text).getD ""

/-- The report of a daemon that does not start. What was asked for instead is printed. -/
def ofOptionsFault (fault : OptionsFault) (site : Site) : Report :=
  let refusal : Report := ⟨some (.options fault), site, []⟩
  match fault with
  | .stopped stop =>
    if stop.isRefusal then refusal
    else ⟨none, { site with output := site.output ++ stop.printed.toUTF8 }, []⟩
  | .notPositive _ => refusal

end Report

/-! ## Lines -/

/-- A line of the daemon itself. -/
def entry (level : Log.Level) (message : String) : Log.Entry :=
  ⟨level, .daemon, some "main", message⟩

/-- The line for the start. -/
def startingLine (o : Options) : Log.Entry :=
  let journal := o.journal.getD "<stdout>"
  entry .info s!"Starting herald daemon: socket={o.socket}, journal={journal}"

/-- The line if senders do not leave in time. -/
def busyLine (o : Options) : Log.Entry :=
  entry .warn s!"Batch senders still busy after {Duration.text o.grace}; exiting anyway"

/-! ## Running -/

/-- A daemon that serves. -/
structure Running where
  /-- Its options. -/
  options : Options
  /-- Where its journal goes. -/
  target : JournalTarget
  /-- Its pipeline. -/
  pipeline : Pipeline Site Unit

namespace Running

/-- What the daemon does with batches. -/
def downstream (r : Running) : Downstream Site Unit := r.target.downstream

/-- What the daemon has written. -/
def site (r : Running) : Site := r.pipeline.sending.published

/-- Changes the files and sockets. -/
def withTree (r : Running) (tree : FileTree) : Running :=
  { r with pipeline := { r.pipeline with sending := { r.pipeline.sending with
      published := { r.site with tree := tree } } } }

/-- Adds lines. -/
def log (r : Running) (entries : List Log.Entry) : Running :=
  { r with pipeline := r.pipeline.log entries }

/-- Stops the pipeline and waits for the senders. -/
def stop (r : Running) (failure : Option Failure) : Report :=
  let p := r.pipeline.stop r.downstream
  let p := if p.terminated then p else p.log [busyLine r.options]
  ⟨failure, p.sending.published, p.sending.logs.toList⟩

/-- Makes the socket. -/
def listen (r : Running) : Except BindFault Unit × Running :=
  let (bound, tree) := Server.bind r.site.tree r.options.socket
  (bound, r.withTree tree)

/-- Ends a daemon that serves: it closes the socket and stops the pipeline. -/
def finish (r : Running) : Report :=
  let r := r.log Server.shutdownLines
  (r.withTree (Server.release r.site.tree r.options.socket)).stop none

/-- A client makes requests on one connection: the responses, and the daemon after that. -/
def converse (r : Running) : List Request → Connection → List (Option Response) × Running
  | [], c => ([], { r with pipeline := (Server.hangUp r.downstream c r.pipeline).2 })
  | request :: rest, c =>
    let (response, c, p) := Server.exchange r.downstream c request r.pipeline
    let (responses, r) := converse { r with pipeline := p } rest c
    (response :: responses, r)

end Running

/-- Starts a daemon: it goes on until clients can connect, or ends before that. -/
def start (o : Options) (site : Site) : Except Report Running :=
  let (opened, site) := openJournal o site
  let early := [startingLine o]
  match opened with
  | .error fault => .error ⟨some (.journal fault), site, early⟩
  | .ok target =>
    match Pipeline.make o.settings site () false with
    | .error excess => .error ⟨some (.settings excess), site, early⟩
    | .ok p =>
      match (p.log early).start with
      | .error fault => .error ⟨some (.pipeline fault), site, early⟩
      | .ok p =>
        match (⟨o, target, p⟩ : Running).listen with
        | (.ok (), r) => .ok (r.log [Server.listeningLine o.socket])
        | (.error fault, r) => .error (r.stop (some (.socket fault)))

/-- Runs a daemon from its command line: a client makes requests on one connection, and then the
daemon is told to shut down. -/
def run (words : List String) (e : Environment) (requests : List Request) (site : Site) :
    List (Option Response) × Report :=
  match readOptions words e with
  | .error fault => ([], .ofOptionsFault fault site)
  | .ok o =>
    match start o site with
    | .error report => ([], report)
    | .ok r =>
      let (responses, r) := r.converse requests {}
      (responses, r.finish)

end EventBatching.Daemon
