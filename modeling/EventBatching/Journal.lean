import EventBatching.FileTree
import EventBatching.Publication

/-!
# The journal

The journal is a publisher that writes one line for each batch: an object with the category and the
events. The body of a batch is a JSON array already and is put into the line as it is; on request it
is checked first. This models herald's `JournalPublisher`.

* `Journal.line` is the line of a batch.
* `Journal.publish` checks a batch if that is asked for, and writes its line.
* `Journal.publisher` is the publisher for the pool.
-/

namespace EventBatching

/-- How writing ended. -/
inductive Written where
  /-- Everything was written. -/
  | complete
  /-- There was no room for everything. -/
  | noRoom
  /-- The writer panicked. -/
  | panicked (message : String)
  deriving Repr, DecidableEq

/-- Something to write to. -/
abbrev Writer (ω : Type) := ByteArray → ω → Written × ω

/-- A writer that keeps everything. -/
def Writer.memory : Writer ByteArray := fun bytes out => (.complete, out ++ bytes)

namespace Journal

/-- Why a batch was not written. -/
inductive Fault where
  /-- The body is JSON, but no array. -/
  | notArray (category : String)
  /-- The body is no JSON. -/
  | notJson (category : String) (error : Json.ParseError)
  /-- There was no room for the line; what fitted was written. -/
  | noRoom
  /-- The writer panicked. -/
  | panicked (message : String)
  deriving Repr, DecidableEq

/-- The wording of a fault. -/
def Fault.message : Fault → String
  | .notArray category => s!"batch for {category} is not a JSON array"
  | .notJson category e => s!"batch for {category} is not valid JSON: {e.message}"
  | .noRoom => "failed to write whole buffer"
  | .panicked message => message

/-- The line of a batch. -/
def line (body category : String) : String :=
  "\x7b\"category\":" ++ Json.quote category ++ ",\"events\":" ++ body ++ "\x7d\n"

/-- Checks that a body is a JSON array. -/
def validate (body category : String) : Except Fault Unit :=
  match Json.parse body with
  | .ok (.array _) => .ok ()
  | .ok _ => .error (.notArray category)
  | .error e => .error (.notJson category e)

/-- Writes the line of a batch, after the check if that is asked for. Nothing is written if the
check fails. -/
def publish {ω : Type} (write : Writer ω) (body category : String) (options : PublishOptions)
    (out : ω) : Except Fault Unit × ω :=
  match if options.validate then validate body category else .ok () with
  | .error fault => (.error fault, out)
  | .ok () =>
    match write (line body category).toUTF8 out with
    | (.complete, out) => (.ok (), out)
    | (.noRoom, out) => (.error .noRoom, out)
    | (.panicked message, out) => (.error (.panicked message), out)

/-! ## Where the journal is -/

/-- Why a journal could not be opened. -/
inductive OpenFault where
  /-- The directory of the journal could not be made. -/
  | directory (path : String) (cause : OsError)
  /-- The journal could not be opened. -/
  | file (path : String) (cause : OsError)
  deriving Repr, DecidableEq

/-- What could not be done for a journal. -/
def OpenFault.context : OpenFault → String
  | .directory path _ => s!"Failed to create journal directory {path}"
  | .file path _ => s!"Failed to open journal at {path}"

/-- The error of the system behind it. -/
def OpenFault.cause : OpenFault → OsError
  | .directory _ cause => cause
  | .file _ cause => cause

/-- Why a journal could not be opened, in words. -/
def OpenFault.message (fault : OpenFault) : String := s!"{fault.context}: {fault.cause.message}"

/-- Opens the journal at a path to write at its end, in a directory that is made if need be: where
it lies, and the tree. The tree keeps what was made before an error. -/
def openAt (t : FileTree) (path : String) : Except OpenFault Place × FileTree :=
  match t.createParent path with
  | (.error (parent, cause), t) => (.error (.directory parent cause), t)
  | (.ok (), t) =>
    match t.openForAppend path with
    | .error cause => (.error (.file path cause), t)
    | .ok (place, t) => (.ok place, t)

/-- Writes at the end of an open file. -/
def fileWriter (place : Place) : Writer FileTree := fun bytes t => (.complete, t.append place bytes)

/-! ## The journal as a publisher -/

/-- How a publication ended. -/
def publication : Except Fault Unit → Publication
  | .ok () => .published
  | .error (.panicked message) => .panicked message
  | .error fault => .failed fault.message

/-- The journal as a publisher. -/
def publisher {ω : Type} (write : Writer ω) : Publisher ω := fun body category options out =>
  let (result, out) := publish write body category options out
  (publication result, out)

end Journal

end EventBatching
