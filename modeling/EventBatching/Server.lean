import EventBatching.Connection
import EventBatching.FileTree

/-!
# The server

The server binds its socket in a directory that it makes if need be, and in place of whatever was
left there by an earlier run. It accepts clients until it is told to shut down, and removes the
socket when it ends. Every connection is served on its own. This models herald's accept loop,
`serve`, with the socket it binds.

* `Server.bind` makes the socket, and `Server.release` removes it.
* `Server.exchange` and `Server.hangUp` are what clients do.
-/

namespace EventBatching

/-- Why a server could not begin to serve. -/
inductive BindFault where
  /-- The directory of the socket could not be made. -/
  | directory (path : String) (cause : OsError)
  /-- What was left at the path of the socket could not be removed. -/
  | leftover (path : String) (cause : OsError)
  /-- The socket could not be bound. -/
  | socket (path : String) (cause : OsError)
  deriving Repr, DecidableEq

/-- What a server could not do. -/
def BindFault.context : BindFault → String
  | .directory path _ => s!"Failed to create socket directory {path}"
  | .leftover path _ => s!"Failed to remove existing socket at {path}"
  | .socket path _ => s!"Failed to bind Unix socket at {path}"

/-- The error of the system behind it. -/
def BindFault.cause : BindFault → OsError
  | .directory _ cause => cause
  | .leftover _ cause => cause
  | .socket _ cause => cause

/-- Why a server could not begin to serve, in words. -/
def BindFault.message (fault : BindFault) : String := s!"{fault.context}: {fault.cause.message}"

namespace Server

variable {π ρ : Type}

/-! ## Lines -/

/-- A line of the server itself. -/
def entry (message : String) : Log.Entry := ⟨.info, .server, some "main", message⟩

/-- The line when clients can connect. -/
def listeningLine (path : String) : Log.Entry := entry s!"herald daemon listening on {path}"

/-- The lines when the server ends. -/
def shutdownLines : List Log.Entry :=
  [entry "Shutdown signal observed; stopping RPC server.", entry "RPC server shutdown complete."]

/-- The line for a connection that was given up. -/
def connectionLine (fault : ConnectionFault) : Log.Entry :=
  ⟨.error, .server, none, s!"Error while handling client: {fault.message}"⟩

/-! ## The socket -/

/-- Makes the directory of the socket, removes what was left and binds the socket. The tree keeps
what was done before a fault. -/
def bind (t : FileTree) (path : String) : Except BindFault Unit × FileTree :=
  match t.createParent path with
  | (.error (parent, cause), t) => (.error (.directory parent cause), t)
  | (.ok (), t) =>
    let cleared :=
      if t.contains path then (t.removeFile path).mapError (BindFault.leftover path) else .ok t
    match cleared with
    | .error fault => (.error fault, t)
    | .ok t =>
      match t.bindSocket path with
      | .error cause => (.error (.socket path cause), t)
      | .ok t => (.ok (), t)

/-- Removes the socket; nothing happens if it is gone already. -/
def release (t : FileTree) (path : String) : FileTree :=
  match t.removeFile path with
  | .ok t => t
  | .error _ => t

/-! ## Clients -/

/-- Logs the end of a connection that has been given up since. -/
def logEnd (before after : Connection) (p : Pipeline π ρ) : Pipeline π ρ :=
  match before.ended, after.ended with
  | none, some (.givenUp fault) => p.log [connectionLine fault]
  | _, _ => p

/-- Serves a connection. -/
def serve (d : Downstream π ρ) (c : Connection) (p : Pipeline π ρ) :
    Connection × Pipeline π ρ :=
  let (after, p) := c.serve d p
  (after, logEnd c after p)

/-- A client sends a request and reads the next response, if there is one. -/
def exchange (d : Downstream π ρ) (c : Connection) (r : Request) (p : Pipeline π ρ) :
    Option Response × Connection × Pipeline π ρ :=
  let (response, after, p) := c.exchange d r p
  (response, after, logEnd c after p)

/-- A client stops writing. -/
def hangUp (d : Downstream π ρ) (c : Connection) (p : Pipeline π ρ) :
    Connection × Pipeline π ρ :=
  serve d c.close p

end Server

end EventBatching
