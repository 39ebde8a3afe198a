import DurableWatch.Error
import DurableWatch.Event

/-!
# Listeners for session states

One listener for each of the two states in which the session is lost.
-/
namespace DurableWatch

structure StateListeners where
  disconnected? : Option Listener
  expired? : Option Listener
  deriving DecidableEq, Repr

namespace StateListeners

def empty : StateListeners := ⟨none, none⟩

def get? (l : StateListeners) : SessionState → Option Listener
  | .disconnected => l.disconnected?
  | .expired => l.expired?
  | _ => none

/-- Replaces whatever is bound to the state. -/
def set (l : StateListeners) (state : SessionState) (listener? : Option Listener) :
    Except Error StateListeners :=
  match state with
  | .disconnected => .ok { l with disconnected? := listener? }
  | .expired => .ok { l with expired? := listener? }
  | other => .error (.unsupportedState other)

def bind (l : StateListeners) (state : SessionState) (listener : Listener) :
    Except Error StateListeners := l.set state (some listener)

def unbind (l : StateListeners) (state : SessionState) : Except Error StateListeners :=
  l.set state none

def bound (l : StateListeners) : List SessionState :=
  [SessionState.disconnected, .expired].filter fun s => (l.get? s).isSome

end StateListeners

end DurableWatch
