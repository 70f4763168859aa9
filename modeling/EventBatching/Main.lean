import EventBatching.Local

/-!
# The command line

`main` is the program: it collects what the program can see, has everything else done by
`Daemon.run` and `Local.run`, and writes down what they leave.

* `herald daemon [OPTIONS]` runs a daemon on the requests that stand on the input.
* `herald send|status|ping …` runs a client with a daemon of its own.
-/

namespace EventBatching

/-- The variable with the level up to which lines are logged. -/
def logVariable : String := "HERALD_LOG_LEVEL"

/-- What the environment says about directories. -/
def readEnvironment : IO Environment := do
  return {
    runtimeDirectory := ← IO.getEnv "XDG_RUNTIME_DIR"
    cacheDirectory := ← IO.getEnv "XDG_CACHE_HOME"
    home := ← IO.getEnv "HOME" }

/-- Writes what a daemon wrote: the journal at the end of its file, and what it printed. -/
def realize (journal : Option String) (site : Daemon.Site) : IO Unit := do
  let out ← IO.getStdout
  out.write site.output
  let some path := journal | return ()
  let some bytes := site.tree.read? path | return ()
  let some parent := Path.parent? path | return ()
  unless parent.isEmpty do IO.FS.createDirAll parent
  let handle ← IO.FS.Handle.mk path .append
  handle.write bytes

/-- Prints why a command line is not performed, or what it asks for instead. -/
def explain (stop : CommandLine.Stop) : IO Unit :=
  if stop.isRefusal then IO.eprint stop.printed else IO.print stop.printed

/-- Runs a daemon on the requests that stand on the input. -/
def runDaemon (words : List String) (limit : Log.Level) : IO UInt32 := do
  let e ← readEnvironment
  let options := (Daemon.readOptions words e).toOption
  let input ← if options.isSome then (← IO.getStdin).readBinToEnd else pure ByteArray.empty
  let reading : Wire.Reading Request := Wire.readAll false { bytes := input }
  let (_, report) := Daemon.run words e (reading.messages.map (·.1)) {}
  IO.eprint (report.errors limit)
  realize (options.bind (·.journal)) report.site
  return UInt32.ofNat report.exitCode

/-- Runs a client with a daemon of its own. -/
def runClient (words : List String) (limit : Log.Level) : IO UInt32 := do
  match Client.readOptions words (← readEnvironment) with
  | .error stop =>
    explain stop
    return UInt32.ofNat stop.exitCode
  | .ok o =>
    let input ← match o.action with
      | .send _ none => (← IO.getStdin).readBinToEnd
      | _ => pure ByteArray.empty
    let (report, ended) := Local.run o input {}
    IO.eprint (ended.errors limit)
    realize none ended.site
    let some report := report | return UInt32.ofNat ended.exitCode
    for e in report.logs.filter fun e => limit.enabledAt e.level do
      IO.eprintln e.line
    IO.eprint report.errors
    IO.print report.output
    return UInt32.ofNat report.exitCode

end EventBatching

/-- The program. -/
def main (words : List String) : IO UInt32 := do
  let limit := EventBatching.Log.Level.ofSetting (← IO.getEnv EventBatching.logVariable)
  match words with
  | "daemon" :: rest => EventBatching.runDaemon rest limit
  | _ => EventBatching.runClient words limit
