/-!
# States of a session
-/
namespace DurableWatch

/-- What the client reports about its connection to the service. -/
inductive SessionState
  | syncConnected
  | connectedReadOnly
  | disconnected
  | expired
  | authFailed
  | closed
  deriving DecidableEq, Repr

namespace SessionState

def name : SessionState → String
  | syncConnected => "SyncConnected"
  | connectedReadOnly => "ConnectedReadOnly"
  | disconnected => "Disconnected"
  | expired => "Expired"
  | authFailed => "AuthFailed"
  | closed => "Closed"

/-- A listener may be bound only to the two states in which the session is lost. -/
def isListenable : SessionState → Bool
  | disconnected | expired => true
  | _ => false

end SessionState

end DurableWatch
