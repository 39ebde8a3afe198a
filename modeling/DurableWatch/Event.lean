import DurableWatch.Client

/-!
# Events

What a subscription tells its listener about a node.
-/
namespace DurableWatch

/-- Listeners are known by name; what they do when they hear an event is not the library's concern.
-/
abbrev Listener := String

inductive Change
  | created (data : Data)
  | deleted
  | dataChanged (data : Data)
  deriving DecidableEq

def Change.data : Change → Data
  | created d => d
  | deleted => .empty
  | dataChanged d => d

structure Event where
  path : Path
  change : Change
  deriving DecidableEq

/-- How an event reaches its listener: before the call that caused it returns, or through a worker.
-/
inductive Delivery
  | inline
  | dispatched
  deriving DecidableEq, Repr

/-- The first pass of a subscription reports the children it finds inline. -/
def Delivery.forPass (initial : Bool) : Delivery := if initial then inline else dispatched

end DurableWatch
