import EventBatching.FileTree

/-!
# Locations

Where the daemon and its clients meet if nobody says otherwise: a socket in a directory of their
own, below the runtime directory of the user, or else below the cache directory. Of the variables
that name these directories only absolute paths count. The cache directory is `.cache` below the
home directory if nothing names it. These are the default paths of herald's runtime.

* `Locations.directory` is the directory.
* `Locations.socket` is the path of the socket.
-/

namespace EventBatching

/-- What the environment of a process says about directories. -/
structure Environment where
  /-- The runtime directory. -/
  runtimeDirectory : Option String := none
  /-- The cache directory. -/
  cacheDirectory : Option String := none
  /-- The home directory. -/
  home : Option String := none
  /-- The home directory in the account of the user. -/
  accountHome : String := "/root"
  deriving Repr, DecidableEq

namespace Locations

/-- The name of the directory. -/
def directoryName : String := "herald"

/-- The name of the socket. -/
def socketName : String := "herald.sock"

/-- The name of the cache directory in a home directory. -/
def cacheName : String := ".cache"

/-- The home directory: an empty variable counts as unset. -/
def home (e : Environment) : String := (e.home.filter (!·.isEmpty)).getD e.accountHome

/-- The directory that the directory of the daemon lies in. -/
def base (e : Environment) : String :=
  ((e.runtimeDirectory.filter Path.isAbsolute).or (e.cacheDirectory.filter Path.isAbsolute)).getD
    (Path.join (home e) cacheName)

/-- The directory of the daemon. -/
def directory (e : Environment) : String := Path.join (base e) directoryName

/-- The path of the socket. -/
def socket (e : Environment) : String := Path.join (directory e) socketName

end Locations

end EventBatching
