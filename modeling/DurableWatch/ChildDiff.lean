import DurableWatch.Table

/-!
# Differences of child lists

A pass over a watched node compares the names known so far with the names listed now. The names
listed now then become the known ones, so nothing is reported twice.
-/
namespace DurableWatch

structure ChildDiff where
  created : List String
  deleted : List String
  deriving DecidableEq, Repr

namespace ChildDiff

/-- The names not known yet, each once, in the order of their first appearance. -/
def newNames (known : TextSet) : List String → List String
  | [] => []
  | n :: ns =>
    if known.contains n then newNames known ns else n :: newNames (TextSet.insert known n) ns

/-- Creations come in the order of the snapshot, deletions in ascending order. -/
def between (known : TextSet) (snapshot : List String) : ChildDiff where
  created := newNames known snapshot
  deleted := known.keys.filter fun n => !snapshot.contains n

/-- The known names after the difference has been reported. -/
def applyTo (d : ChildDiff) (known : TextSet) : TextSet :=
  (TextSet.insertAll known d.created).without d.deleted

def isEmpty (d : ChildDiff) : Bool := d.created.isEmpty && d.deleted.isEmpty

end ChildDiff

end DurableWatch
