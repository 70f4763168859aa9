/-!
# Files, directories and sockets

The part of a file system that the daemon and its clients touch: where the journal lies and where
the socket is bound. A tree is kept as a list of what lies at each place; a place is the list of
names that lead to it from the root, which always is a directory.

* `FileTree.locate` follows a path.
* `FileTree.createDirectories`, `FileTree.openForAppend`, `FileTree.removeFile`,
  `FileTree.bindSocket` and `FileTree.connect` are the operations, each with the errors of the
  system.
* `Path.parent?` is the path of the directory that a path lies in.
-/

namespace EventBatching

/-! ## Paths -/

namespace Path

/-- The parts of a path between its slashes. -/
def segments (path : String) : List String := path.splitOn "/"

/-- Whether a path starts at the root. -/
def isAbsolute (path : String) : Bool := path.startsWith "/"

/-- Whether a part of a path leads nowhere. -/
def isIdle (segment : String) : Bool := segment == "" || segment == "."

/-- The steps of a path: names, and the one or two dots that stay at a directory or go up. -/
def steps (path : String) : List String := (segments path).filter (!·.isEmpty)

/-- Whether a slash ends a path, which then can only mean a directory. -/
def endsInSlash (path : String) : Bool := path.endsWith "/"

/-- Without the parts at the end that lead nowhere. -/
def trimmed (parts : List String) : List String := (parts.reverse.dropWhile isIdle).reverse

/-- The path of the directory that a path lies in; none for the root and the empty path. -/
def parent? (path : String) : Option String :=
  if isAbsolute path then
    match trimmed ((segments path).drop 1) with
    | [] => none
    | parts => some ("/" ++ "/".intercalate (trimmed parts.dropLast))
  else
    match segments path with
    | [] => none
    | first :: rest =>
      match trimmed rest with
      | [] => if first == "" then none else some ""
      | parts => some ("/".intercalate (first :: trimmed parts.dropLast))

/-- A path below a directory; an absolute path replaces it. -/
def join (directory path : String) : String :=
  if isAbsolute path then path
  else if directory.endsWith "/" || directory.isEmpty then directory ++ path
  else directory ++ "/" ++ path

end Path

/-! ## Errors -/

/-- The errors of the system. -/
inductive OsError where
  /-- Nothing lies there. -/
  | notFound
  /-- A socket is no file. -/
  | noDevice
  /-- Something lies there already. -/
  | exists
  /-- Something on the way is no directory. -/
  | notDirectory
  /-- A directory is no file. -/
  | isDirectory
  /-- A name is too long. -/
  | nameTooLong
  /-- Nobody reads from the other end. -/
  | brokenPipe
  /-- Something lies already where a socket shall be. -/
  | addressInUse
  /-- Nobody listens there. -/
  | refused
  /-- A path is too long for a socket. -/
  | socketPathTooLong
  /-- A path of a file holds a NUL. -/
  | nulInFilePath
  /-- A path of a socket holds a NUL. -/
  | nulInSocketPath
  deriving Repr, DecidableEq

/-- An error in words. -/
def OsError.message : OsError → String
  | .notFound => "No such file or directory (os error 2)"
  | .noDevice => "No such device or address (os error 6)"
  | .exists => "File exists (os error 17)"
  | .notDirectory => "Not a directory (os error 20)"
  | .isDirectory => "Is a directory (os error 21)"
  | .brokenPipe => "Broken pipe (os error 32)"
  | .nameTooLong => "File name too long (os error 36)"
  | .addressInUse => "Address already in use (os error 98)"
  | .refused => "Connection refused (os error 111)"
  | .socketPathTooLong => "path must be shorter than SUN_LEN"
  | .nulInFilePath => "file name contained an unexpected NUL byte"
  | .nulInSocketPath => "paths must not contain interior null bytes"

/-! ## Trees -/

/-- What can lie at a place. -/
inductive Node where
  /-- A directory. -/
  | directory
  /-- A file with its content. -/
  | file (content : ByteArray)
  /-- A socket, and whether somebody listens on it. -/
  | socket (listening : Bool)

/-- A place: the names that lead to it from the root. -/
abbrev Place := List String

/-- Everything below the root. -/
structure FileTree where
  /-- Places and what lies there. -/
  nodes : List (Place × Node) := []

namespace FileTree

/-- The greatest length of a name in bytes. -/
def nameLimit : Nat := 255

/-- The greatest length of a path in bytes. -/
def pathLimit : Nat := 4095

/-- The greatest length of the path of a socket in bytes. -/
def socketPathLimit : Nat := 107

/-- What lies at a place. -/
def at? (t : FileTree) (place : Place) : Option Node :=
  if place.isEmpty then some .directory else t.nodes.lookup place

/-- The tree with something at a place. -/
def put (t : FileTree) (place : Place) (node : Node) : FileTree :=
  ⟨(place, node) :: t.nodes.filter (·.1 != place)⟩

/-- The tree with nothing at a place. -/
def erase (t : FileTree) (place : Place) : FileTree := ⟨t.nodes.filter (·.1 != place)⟩

/-- What lies at a name in a directory, if anything. -/
def entry (t : FileTree) (directory : Place) (name : String) : Except OsError (Option Node) :=
  if nameLimit < name.utf8ByteSize then .error .nameTooLong
  else .ok (t.at? (directory ++ [name]))

/-- Follows steps from a directory to a directory. -/
def walk (t : FileTree) (directory : Place) : List String → Except OsError Place
  | [] => .ok directory
  | step :: rest =>
    if step == "." then walk t directory rest
    else if step == ".." then walk t directory.dropLast rest
    else
      match t.entry directory step with
      | .error e => .error e
      | .ok (some .directory) => walk t (directory ++ [step]) rest
      | .ok (some _) => .error .notDirectory
      | .ok none => .error .notFound

/-- What a path means. -/
inductive Target where
  /-- A name in a directory, which may be free. If a slash follows it, it can only mean a directory.
  -/
  | name (directory : Place) (name : String) (slash : Bool)
  /-- A directory that is not reached by its name: the root, or one where dots lead. -/
  | directory (place : Place)
  deriving Repr, DecidableEq

/-- Follows a path. Everything but its last step must be a directory. -/
def locate (t : FileTree) (path : String) : Except OsError Target :=
  if path.contains '\x00' then .error .nulInFilePath
  else if path.isEmpty then .error .notFound
  else if pathLimit < path.utf8ByteSize then .error .nameTooLong
  else
    match (Path.steps path).getLast? with
    | none => .ok (.directory [])
    | some last =>
      (t.walk [] (Path.steps path).dropLast).map fun directory =>
        if last == "." then .directory directory
        else if last == ".." then .directory directory.dropLast
        else .name directory last (Path.endsInSlash path)

/-- What a path leads to; a path that can only mean a directory leads to nothing else. -/
def find (t : FileTree) (path : String) : Except OsError (Place × Node) := do
  match ← t.locate path with
  | .directory place => return (place, .directory)
  | .name directory name slash =>
    match ← t.entry directory name with
    | none => throw .notFound
    | some .directory => return (directory ++ [name], .directory)
    | some node => if slash then throw .notDirectory else return (directory ++ [name], node)

/-- Whether a path leads to anything. -/
def contains (t : FileTree) (path : String) : Bool := (t.find path).isOk

/-- Whether a path leads to a directory. -/
def isDirectory (t : FileTree) (path : String) : Bool :=
  match t.find path with
  | .ok (_, .directory) => true
  | _ => false

/-! ## Operations -/

/-- Makes a directory. -/
def createDirectory (t : FileTree) (path : String) : Except OsError FileTree := do
  match ← t.locate path with
  | .directory _ => throw .exists
  | .name directory name _ =>
    match ← t.entry directory name with
    | none => return t.put (directory ++ [name]) .directory
    | some _ => throw .exists

/-- Makes a directory, unless there is one already. -/
def ensureDirectory (t : FileTree) (path : String) : Except OsError Unit × FileTree :=
  match t.createDirectory path with
  | .ok t => (.ok (), t)
  | .error e => (if t.isDirectory path then .ok () else .error e, t)

/-- Makes a directory and those on the way to it, at most `steps` of them. The tree keeps those that
were made before an error. -/
def createDirectoriesIn : (steps : Nat) → FileTree → String → Except OsError Unit × FileTree
  | 0, t, _ => (.error .notFound, t)
  | steps + 1, t, path =>
    if path.isEmpty then (.ok (), t)
    else
      match t.ensureDirectory path with
      | (.error .notFound, t) =>
        match createDirectoriesIn steps t ((Path.parent? path).getD "") with
        | (.error e, t) => (.error e, t)
        | (.ok (), t) => t.ensureDirectory path
      | done => done

/-- Makes a directory and those on the way to it. -/
def createDirectories (t : FileTree) (path : String) : Except OsError Unit × FileTree :=
  createDirectoriesIn ((Path.segments path).length + 1) t path

/-- Makes the directory that a path lies in. An error names that directory. -/
def createParent (t : FileTree) (path : String) : Except (String × OsError) Unit × FileTree :=
  match Path.parent? path with
  | none => (.ok (), t)
  | some parent =>
    match t.createDirectories parent with
    | (.ok (), t) => (.ok (), t)
    | (.error e, t) => (.error (parent, e), t)

/-- Opens a file to write at its end, and makes it if it is not there: where it lies, and the tree.
Nothing is looked for at a path that can only mean a directory. -/
def openForAppend (t : FileTree) (path : String) : Except OsError (Place × FileTree) := do
  match ← t.locate path with
  | .directory _ | .name _ _ true => throw .isDirectory
  | .name directory name false =>
    let place := directory ++ [name]
    match ← t.entry directory name with
    | none => return (place, t.put place (.file ByteArray.empty))
    | some (.file _) => return (place, t)
    | some (.socket _) => throw .noDevice
    | some .directory => throw .isDirectory

/-- Writes at the end of an open file. -/
def append (t : FileTree) (place : Place) (bytes : ByteArray) : FileTree :=
  match t.at? place with
  | some (.file content) => t.put place (.file (content ++ bytes))
  | _ => t

/-- The content of a file. -/
def read? (t : FileTree) (path : String) : Option ByteArray :=
  match t.find path with
  | .ok (_, .file content) => some content
  | _ => none

/-- Removes a file or a socket. -/
def removeFile (t : FileTree) (path : String) : Except OsError FileTree :=
  match t.find path with
  | .error e => .error e
  | .ok (_, .directory) => .error .isDirectory
  | .ok (place, _) => .ok (t.erase place)

/-- Binds a socket to a path and listens on it. -/
def bindSocket (t : FileTree) (path : String) : Except OsError FileTree :=
  if path.contains '\x00' then .error .nulInSocketPath
  else if socketPathLimit < path.utf8ByteSize then .error .socketPathTooLong
  else
    match t.locate path with
    | .error e => .error e
    | .ok (.directory _) => .error .addressInUse
    | .ok (.name directory name slash) =>
      match t.entry directory name with
      | .error e => .error e
      | .ok (some _) => .error .addressInUse
      | .ok none =>
        if slash then .error .notFound else .ok (t.put (directory ++ [name]) (.socket true))

/-- Connects to the socket at a path. -/
def connect (t : FileTree) (path : String) : Except OsError Unit :=
  if path.contains '\x00' then .error .nulInSocketPath
  else if socketPathLimit < path.utf8ByteSize then .error .socketPathTooLong
  else
    match t.find path with
    | .error e => .error e
    | .ok (_, .socket true) => .ok ()
    | .ok _ => .error .refused

end FileTree

end EventBatching
