import DurableWatch.Path
import DurableWatch.SessionState

/-!
# The coordination service, as its clients see it

The service keeps a tree of nodes with data and is asked one `Request` at a time. A read may arm a
watch, which the service fires once, by a `Notification`, at the next change of what was read.
-/
namespace DurableWatch

abbrev Data := ByteArray

instance : DecidableEq Data := ByteArray.instDecidableEq

/-- An ephemeral node goes when the session that created it ends. -/
inductive CreateMode
  | persistent
  | ephemeral
  deriving DecidableEq, Repr

inductive WatchKind
  | data
  | children
  deriving DecidableEq, Repr

/-- What the client hands over on its own account: a watch that fired, or a new session state. -/
inductive Notification
  | watch (path : Path) (kind : WatchKind)
  | state (state : SessionState)
  deriving DecidableEq, Repr

inductive Request
  | existence (path : Path)
  | readData (path : Path) (watch : Bool)
  | writeData (path : Path) (data : Data)
  | listChildren (path : Path) (watch : Bool)
  | create (path : Path) (data : Data) (mode : CreateMode)
  | delete (path : Path)
  | cancelDataWatch (path : Path)
  | reconnect
  deriving DecidableEq

/-- What a request is answered with when it succeeds. A creation answers the path of the new node.
-/
@[reducible] def Request.Answer : Request → Type
  | existence _ => Bool
  | readData _ _ => Data
  | writeData _ _ => Unit
  | listChildren _ _ => List String
  | create _ _ _ => Path
  | delete _ => Unit
  | cancelDataWatch _ => Unit
  | reconnect => Unit

end DurableWatch
