import DurableWatch.Proofs.MemoryHost
import DurableWatch.Proofs.PassEffect

/-!
# What any operation can do over the service in memory

As for a client of any kind, an operation is a sequence of moves. Here a move says what becomes of
the coordinator and the service together: which watched reads went through, what they armed, and
which notification was taken for them. A watch that fires, the read that arms it again and the
change that the coordinator makes of it stand in one move each.
-/
namespace DurableWatch

open World Coordinator

/-- Coordinator and service, with the requests made so far. -/
structure Setting where
  coordinator : Coordinator
  service : MemoryService
  calls : List Inquiry

def World.setting {τ : Type} (w : World (Backstage τ)) : Setting :=
  ⟨w.coordinator, w.outside.service, w.outside.calls⟩

/-- Whether a subscription wants to hear of what this watch watches. -/
def Coordinator.subscribed (c : Coordinator) (p : Path) : WatchKind → Bool
  | .data => c.data.contains p
  | .children => c.children.contains p

namespace Setting

def lastTry (a : Setting) (p : Path) (kind : WatchKind) : Option Bool :=
  DurableWatch.lastTry p kind a.calls

abbrev subscribed (a : Setting) (p : Path) (kind : WatchKind) : Bool :=
  a.coordinator.subscribed p kind

/-- Between `a` and `b` the service has done nothing, but this notification may have been taken
from the channel. -/
structure Taken (a : Setting) (note : Notification) (b : Setting) : Prop where
  calls : b.calls = a.calls
  service : b.service = a.service ∨ ∃ rest, a.service.channel = note :: rest ∧
    b.service = { a.service with channel := rest }

/-- From `a` to `b` the watched reads in `seen` have been answered. A fire of one of them may have
been taken from the channel. -/
structure Looked (a b : Setting) (seen : Path → WatchKind → Prop) : Prop where
  nodes : b.service.nodes = a.service.nodes
  alive : b.service.alive = a.service.alive
  pending : b.service.pending = a.service.pending
  session : b.service.session = a.service.session
  armed : ∀ q k, b.service.armed q k = true ↔ a.service.armed q k = true ∨ seen q k
  present : ∀ q k, seen q k → a.service.nodes.contains q = true
  keeps : ∀ n ∈ a.service.channel, n ∈ b.service.channel ∨ ∃ q k, seen q k ∧ n = .watch q k
  tried : ∀ q k, seen q k → b.lastTry q k = some true
  others : ∀ q k, ¬seen q k → b.lastTry q k = a.lastTry q k

/-- From `a` to `b` one watched read has gone unanswered: the node is missing, or the session is not
alive. -/
structure Missed (a b : Setting) (p : Path) (kind : WatchKind) : Prop where
  nodes : b.service.nodes = a.service.nodes
  alive : b.service.alive = a.service.alive
  pending : b.service.pending = a.service.pending
  session : b.service.session = a.service.session
  armed : ∀ q k, b.service.armed q k = a.service.armed q k
  absent : a.service.alive = true → a.service.nodes.contains p = false
  keeps : ∀ n ∈ a.service.channel, n ∈ b.service.channel ∨ n = .watch p kind
  tried : b.lastTry p kind = some false
  others : ∀ q k, ¬(q = p ∧ k = kind) → b.lastTry q k = a.lastTry q k

/-- The watched reads of a pass: the child list, and each new child if the data of children is
watched. -/
def passReads (p : Path) (s : ChildSubscription) (created : List String) (q : Path)
    (k : WatchKind) : Prop :=
  q = p ∧ k = .children ∨ s.watchesChildData = true ∧ k = .data ∧ ∃ n ∈ created, q = p.child n

/-- `b` is what `a` becomes by a pass of `s` over `p`, begun with the coordinator `c`. All children
that are listed can be read. -/
structure Passed (a b : Setting) (c : Coordinator) (p : Path) (s : ChildSubscription)
    (delivery : Delivery) (new : NewChildren) : Prop where
  registered : c.children.get? p = some s
  alive : a.service.alive = true
  covers : new.Covers (ChildDiff.between s.known (a.service.childNames p)).created
  readable : new.unreadable = []
  looked : Looked a b
    (passReads p s (ChildDiff.between s.known (a.service.childNames p)).created)
  coordinator : b.coordinator =
    c.absorb p s delivery (ChildDiff.between s.known (a.service.childNames p)) new
  read : ∀ e ∈ new.found, (a.service.nodes.get? (p.child e.1)).map Node.data = some e.2

inductive Move (rule : Rule) : Setting → Setting → Prop
  /-- The tree changes, the connection goes, or nothing of importance happens. -/
  | aside {a b : Setting} (beside : a.coordinator.Beside b.coordinator)
      (edited : a.service.Edited b.service) (tries : ∀ q k, b.lastTry q k = a.lastTry q k) :
      Move rule a b
  /-- A notification is taken that no subscription waits for. -/
  | unclaimed {a b : Setting} {note : Notification} (taken : Taken a note b)
      (coordinator : b.coordinator = a.coordinator)
      (noOne : ∀ q k, note = .watch q k → a.subscribed q k = false) : Move rule a b
  | reread {a b : Setting} {p : Path} {e : DataSubscription} (d : Data)
      (registered : a.coordinator.data.get? p = some e)
      (looked : Looked a b fun q k => q = p ∧ k = .data)
      (coordinator : b.coordinator = a.coordinator.record [e.report ⟨p, .dataChanged d⟩])
      (read : (a.service.nodes.get? p).map Node.data = some d) : Move rule a b
  /-- A watched read goes unanswered, and the subscription waits on. A plain data subscription does
  so only while the session is not alive. -/
  | unread {a b : Setting} {p : Path} {kind : WatchKind} (missed : Missed a b p kind)
      (coordinator : b.coordinator = a.coordinator)
      (managed : a.service.alive = true → kind = .data →
        ∀ e, a.coordinator.data.get? p = some e → e.owner? ≠ none) : Move rule a b
  /-- A plain data subscription ends with its node. -/
  | ended {a b : Setting} {p : Path} {e : DataSubscription}
      (registered : a.coordinator.data.get? p = some e) (plain : e.owner? = none)
      (missed : Missed a b p .data)
      (coordinator : b.coordinator =
        (a.coordinator.removeData p).record [e.report ⟨p, .deleted⟩]) : Move rule a b
  | pass {a b : Setting} {p : Path} {s : ChildSubscription} {delivery : Delivery}
      {new : NewChildren} (passed : Passed a b a.coordinator p s delivery new) : Move rule a b
  | subscribe {a b : Setting} {p : Path} {l : Listener} {withData : Bool} {new : NewChildren}
      (allowed : rule a.coordinator a.service (.listen p l (.children withData)))
      (passed : Passed a b (a.coordinator.addChildren p l withData) p
        (a.coordinator.freshChildren l withData) .inline new) : Move rule a b
  | subscribeData {a b : Setting} {p : Path} {l : Listener} (d : Data)
      (allowed : rule a.coordinator a.service (.listen p l .data))
      (looked : Looked a b fun q k => q = p ∧ k = .data)
      (coordinator : b.coordinator = (a.coordinator.addData p l none).record
        [(a.coordinator.freshData l none).report ⟨p, .dataChanged d⟩])
      (read : (a.service.nodes.get? p).map Node.data = some d) : Move rule a b
  /-- A child subscription goes, and with it data subscriptions of children that it knew, all of
  them if it watched their data. -/
  | unsubscribe {a : Setting} {p : Path} (gone : List Path)
      (enough : ∀ s, a.coordinator.children.get? p = some s → s.watchesChildData = true →
        ∀ n, s.known.contains n = true → p.child n ∈ gone)
      (own : ∀ q ∈ gone, ∃ s n, a.coordinator.children.get? p = some s ∧
        s.known.contains n = true ∧ q = p.child n) :
      Move rule a { a with coordinator := (a.coordinator.removeChildren p).removeDataAll gone }
  /-- The data subscription of a child goes, after the child subscription at `p`. -/
  | dropChild {a : Setting} {p : Path} {n : String}
      (unsubscribed : a.coordinator.children.get? p = none) (isChild : p.IsChildName n) :
      Move rule a { a with coordinator := a.coordinator.removeData (p.child n) }
  | unsubscribeData {a : Setting} {p : Path}
      (allowed : rule a.coordinator a.service (.unlisten p .data)) :
      Move rule a { a with coordinator := a.coordinator.removeData p }
  | cancel {a b : Setting} {p : Path} (unsubscribed : a.coordinator.data.get? p = none)
      (coordinator : b.coordinator = a.coordinator) (service : b.service = a.service.disarm p .data)
      (tries : ∀ q k, b.lastTry q k = a.lastTry q k) : Move rule a b

/-- Every subscription of this watch has tried to arm it since the session was connected. -/
def Tried (p : Path) (kind : WatchKind) (a : Setting) : Prop :=
  a.subscribed p kind = true → a.lastTry p kind ≠ none

/-- A recovery has tried all watches, but for those of child lists if it ends at the first failure.
-/
structure Attempted (a : Setting) : Prop where
  data : ∀ p, Tried p .data a
  children : a.coordinator.failFast = false → ∀ p, Tried p .children a

def resumed (a : Setting) : Setting :=
  ⟨a.coordinator, a.service.reconnect, ⟨.reconnect, true⟩ :: a.calls⟩

inductive Turn (rule : Rule) : Setting → Setting → Prop
  | move {a b : Setting} (move : Move rule a b) : Turn rule a b
  | recovered {a b : Setting} (relisted : Relation.ReflTransGen (Move rule) a.resumed b)
      (attempted : Attempted b) : Turn rule a b

/-! ### What the moves do to the service -/

variable {rule : Rule} {a b : Setting} {seen : Path → WatchKind → Prop} {p : Path}
  {kind : WatchKind}

theorem Taken.refl (a : Setting) (note : Notification) : Taken a note a := ⟨rfl, .inl rfl⟩

/-- Every other notification stays in the channel. -/
theorem Taken.mem {note : Notification} (taken : Taken a note b) {n : Notification}
    (hn : n ∈ a.service.channel) : n ∈ b.service.channel ∨ n = note := by
  rcases taken.service with same | ⟨rest, next, popped⟩
  · rw [same]
    exact .inl hn
  · rw [next] at hn
    rw [popped]
    exact (List.mem_cons.1 hn).symm

/-- Nothing but the channel of the service may differ. -/
theorem Taken.service_eq {note : Notification} (taken : Taken a note b) :
    b.service = { a.service with channel := b.service.channel } := by
  rcases taken.service with same | ⟨rest, -, popped⟩
  · rw [same]
  · rw [popped]

theorem Taken.nodes {note : Notification} (taken : Taken a note b) :
    b.service.nodes = a.service.nodes := by rw [taken.service_eq]

theorem Taken.alive {note : Notification} (taken : Taken a note b) :
    b.service.alive = a.service.alive := by rw [taken.service_eq]

theorem Taken.pending {note : Notification} (taken : Taken a note b) :
    b.service.pending = a.service.pending := by rw [taken.service_eq]

theorem Taken.session {note : Notification} (taken : Taken a note b) :
    b.service.session = a.service.session := by
  rw [taken.service_eq]
  rfl

theorem Taken.armed {note : Notification} (taken : Taken a note b) (q : Path) (k : WatchKind) :
    b.service.armed q k = a.service.armed q k := by
  rw [taken.service_eq]
  cases k <;> rfl

theorem Taken.lastTry {note : Notification} (taken : Taken a note b) (q : Path) (k : WatchKind) :
    b.lastTry q k = a.lastTry q k := by
  rw [Setting.lastTry, Setting.lastTry, taken.calls]

theorem Looked.sane (looked : Looked a b seen) (sane : a.service.Sane) : b.service.Sane := by
  refine sane.of_nodes looked.nodes looked.alive looked.pending looked.session fun q k armed => ?_
  rcases (looked.armed q k).1 armed with before | now
  · exact sane.watched q k before
  · exact looked.present q k now

theorem Missed.sane (missed : Missed a b p kind) (sane : a.service.Sane) : b.service.Sane :=
  sane.of_nodes missed.nodes missed.alive missed.pending missed.session fun q k armed =>
    sane.watched q k (missed.armed q k ▸ armed)

theorem Taken.sane {note : Notification} (taken : Taken a note b) (sane : a.service.Sane) :
    b.service.Sane :=
  sane.of_nodes taken.nodes taken.alive taken.pending taken.session fun q k armed =>
    sane.watched q k (taken.armed q k ▸ armed)

theorem Move.sane (move : Move rule a b) (sane : a.service.Sane) : b.service.Sane := by
  cases move with
  | aside _ edited _ => exact edited.sane
  | unclaimed taken _ _ => exact taken.sane sane
  | reread d _ looked _ => exact looked.sane sane
  | unread missed _ _ => exact missed.sane sane
  | ended _ _ missed _ => exact missed.sane sane
  | pass passed => exact passed.looked.sane sane
  | subscribe _ passed => exact passed.looked.sane sane
  | subscribeData d _ looked _ => exact looked.sane sane
  | unsubscribe gone enough own => exact sane
  | dropChild unsubscribed isChild => exact sane
  | unsubscribeData allowed => exact sane
  | cancel _ _ service _ =>
    rw [service]
    exact sane_disarm sane _ _

theorem moves_sane (moves : Relation.ReflTransGen (Move rule) a b) (sane : a.service.Sane) :
    b.service.Sane := by
  induction moves with
  | refl => exact sane
  | tail _ move ih => exact move.sane ih

theorem Turn.sane (turn : Turn rule a b) (sane : a.service.Sane) : b.service.Sane := by
  cases turn with
  | move move => exact move.sane sane
  | recovered relisted _ => exact moves_sane relisted (sane_reconnect sane)

/-! ### What a pass does -/

section passed

variable {c : Coordinator} {s : ChildSubscription} {delivery : Delivery} {new : NewChildren}

theorem Passed.children (passed : Passed a b c p s delivery new) (q : Path) :
    b.coordinator.children.get? q =
      if q = p then some { s with
        known := knownAfter s.known (ChildDiff.between s.known (a.service.childNames p)) new }
      else c.children.get? q := by
  rw [passed.coordinator]
  exact children_absorb passed.registered delivery _ new q

/-- Known are then the children that the service lists. -/
theorem Passed.known (passed : Passed a b c p s delivery new) (n : String) :
    (knownAfter s.known (ChildDiff.between s.known (a.service.childNames p)) new).contains n =
      true ↔ n ∈ a.service.childNames p := by
  rw [contains_knownAfter, passed.readable]
  simp

theorem Passed.mem_found (passed : Passed a b c p s delivery new) {n : String} :
    n ∈ new.found.map Prod.fst ↔ n ∈ a.service.childNames p ∧ s.known.contains n = false := by
  rw [passed.covers.mem_found, passed.readable, ChildDiff.mem_created]
  simp

/-- A data subscription is made for a new child, one is taken away with a child that is gone, and
all others stay. -/
theorem Passed.entry (passed : Passed a b c p s delivery new) (q : Path) :
    (s.watchesChildData = true ∧
        (∃ n ∈ a.service.childNames p, s.known.contains n = false ∧ q = p.child n) ∧
        ∃ id, c.nextId ≤ id ∧ b.coordinator.data.get? q = some ⟨id, s.listener, some s.id⟩) ∨
      (s.watchesChildData = true ∧
        (∃ n, s.known.contains n = true ∧ n ∉ a.service.childNames p ∧ q = p.child n) ∧
        b.coordinator.data.get? q = none) ∨
      (b.coordinator.data.get? q = c.data.get? q ∧ (s.watchesChildData = true → ∀ n,
        q = p.child n → (s.known.contains n = true ↔ n ∈ a.service.childNames p))) := by
  rw [passed.coordinator, data_absorb]
  split
  · next gone =>
    obtain ⟨watches, hq⟩ := gone
    obtain ⟨n, hn, rfl⟩ := List.mem_map.1 hq
    obtain ⟨known, unlisted⟩ := ChildDiff.mem_deleted.1 hn
    exact .inr (.inl ⟨watches, ⟨n, known, unlisted, rfl⟩, rfl⟩)
  · next kept =>
    rcases data_addFound c p s new.found q with
      ⟨same, absent⟩ | ⟨watches, ⟨e, he, hq⟩, id, isNew, -, hget⟩
    · refine .inr (.inr ⟨same, fun watches n hq => ?_⟩)
      constructor
      · intro known
        by_contra unlisted
        exact kept ⟨watches, hq ▸ List.mem_map_of_mem (ChildDiff.mem_deleted.2 ⟨known, unlisted⟩)⟩
      · intro listed
        by_contra unknown
        rw [Bool.not_eq_true] at unknown
        obtain ⟨e, he, rfl⟩ := List.mem_map.1 (passed.mem_found.2 ⟨listed, unknown⟩)
        exact absent watches e he hq
    · have found : e.1 ∈ new.found.map Prod.fst := List.mem_map_of_mem he
      obtain ⟨listed, unknown⟩ := passed.mem_found.1 found
      exact .inl ⟨watches, ⟨e.1, listed, unknown, hq⟩, id, isNew, hget⟩

/-- The same, without what is new about the subscription. -/
theorem Passed.data (passed : Passed a b c p s delivery new) (q : Path) :
    (s.watchesChildData = true ∧ (∃ n ∈ a.service.childNames p, q = p.child n) ∧
        ∃ id, b.coordinator.data.get? q = some ⟨id, s.listener, some s.id⟩) ∨
      (s.watchesChildData = true ∧
        (∃ n, s.known.contains n = true ∧ n ∉ a.service.childNames p ∧ q = p.child n) ∧
        b.coordinator.data.get? q = none) ∨
      (b.coordinator.data.get? q = c.data.get? q ∧ (s.watchesChildData = true → ∀ n,
        q = p.child n → (s.known.contains n = true ↔ n ∈ a.service.childNames p))) := by
  refine (passed.entry q).imp_left ?_
  rintro ⟨watches, ⟨n, listed, -, hq⟩, id, -, hget⟩
  exact ⟨watches, ⟨n, listed, hq⟩, id, hget⟩

/-- A pass subscribes to nothing that it has not read. -/
theorem Passed.subscribed (passed : Passed a b c p s delivery new) {q : Path} {k : WatchKind}
    (after : b.subscribed q k = true) : c.subscribed q k = true ∨
      passReads p s (ChildDiff.between s.known (a.service.childNames p)).created q k := by
  cases k with
  | children =>
    obtain ⟨s', hs'⟩ := Table.contains_eq_true.1 after
    rw [passed.children] at hs'
    split at hs'
    · next hq => exact .inr (.inl ⟨hq, rfl⟩)
    · exact .inl (Table.contains_of_get? hs')
  | data =>
    obtain ⟨e, he⟩ := Table.contains_eq_true.1 after
    rw [passed.coordinator, data_absorb] at he
    split at he
    · cases he
    · rcases data_addFound c p s new.found q with ⟨same, -⟩ | ⟨watches, ⟨f, hf, hq⟩, -⟩
      · rw [same] at he
        exact .inl (Table.contains_of_get? he)
      · have found : f.1 ∈ new.found.map Prod.fst := List.mem_map_of_mem hf
        exact .inr (.inr ⟨watches, rfl, f.1, (passed.covers.mem_found.1 found).1, hq⟩)

end passed

/-! ### Subscriptions and reads -/

/-- From `a` to `b` no watched read was made, and whoever still waits for a watch has lost nothing.
-/
structure Quiet (a b : Setting) : Prop where
  tries : ∀ q k, b.lastTry q k = a.lastTry q k
  subscribed : ∀ q k, b.subscribed q k = true → a.subscribed q k = true
  alive : b.service.alive = true → a.service.alive = true
  unarms : ∀ q k, b.service.armed q k = true → a.service.armed q k = true
  fires : b.service.alive = true → ∀ q k, b.subscribed q k = true → a.service.armed q k = true →
    b.service.armed q k = true ∨ .watch q k ∈ b.service.channel
  keeps : ∀ q k, b.subscribed q k = true → .watch q k ∈ a.service.channel →
    .watch q k ∈ b.service.channel

/-- What is subscribed to after a move was subscribed to before, or has just been read. -/
inductive Move.Reads (a b : Setting) : Prop
  | none (quiet : Quiet a b)
  | some {seen : Path → WatchKind → Prop} (looked : Looked a b seen)
      (subscribed : ∀ q k, b.subscribed q k = true → a.subscribed q k = true ∨ seen q k)
  | failed {p : Path} {kind : WatchKind} (missed : Missed a b p kind)
      (subscribed : ∀ q k, b.subscribed q k = true → a.subscribed q k = true)

theorem quiet_of_service (service : b.service = a.service)
    (tries : ∀ q k, b.lastTry q k = a.lastTry q k)
    (subscribed : ∀ q k, b.subscribed q k = true → a.subscribed q k = true) : Quiet a b where
  tries := tries
  subscribed := subscribed
  alive alive := service ▸ alive
  unarms _ _ armed := service ▸ armed
  fires _ _ _ _ armed := .inl (service ▸ armed)
  keeps _ _ _ sent := service ▸ sent

theorem subscribed_of_beside {c c' : Coordinator} (beside : c.Beside c') (q : Path)
    (k : WatchKind) : c'.subscribed q k = c.subscribed q k := by
  cases k with
  | data => rw [Coordinator.subscribed, Coordinator.subscribed, beside.data]
  | children => rw [Coordinator.subscribed, Coordinator.subscribed, beside.children]

theorem subscribed_addChildren {c : Coordinator} {l : Listener} {withData : Bool} {q : Path}
    {k : WatchKind} (after : (c.addChildren p l withData).subscribed q k = true) :
    c.subscribed q k = true ∨ q = p ∧ k = .children := by
  cases k with
  | data => exact .inl after
  | children =>
    simp only [Coordinator.subscribed, addChildren, Table.contains_insert, Bool.or_eq_true,
      decide_eq_true_eq] at after
    exact after.symm.imp_right fun hq => ⟨hq, rfl⟩

theorem subscribed_addData {c : Coordinator} {l : Listener} {owner? : Option Nat} {q : Path}
    {k : WatchKind} (after : (c.addData p l owner?).subscribed q k = true) :
    c.subscribed q k = true ∨ q = p ∧ k = .data := by
  cases k with
  | children => exact .inl after
  | data =>
    simp only [Coordinator.subscribed, addData, Table.contains_insert, Bool.or_eq_true,
      decide_eq_true_eq] at after
    exact after.symm.imp_right fun hq => ⟨hq, rfl⟩

theorem subscribed_removeData {c : Coordinator} {q : Path} {k : WatchKind}
    (after : (c.removeData p).subscribed q k = true) : c.subscribed q k = true := by
  cases k with
  | children => exact after
  | data =>
    simp only [Coordinator.subscribed, removeData, Table.contains_erase, Bool.and_eq_true] at after
    exact after.2

theorem subscribed_removeDataAll {c : Coordinator} {qs : List Path} {q : Path} {k : WatchKind}
    (after : (c.removeDataAll qs).subscribed q k = true) : c.subscribed q k = true := by
  induction qs generalizing c with
  | nil => exact after
  | cons r qs ih => exact subscribed_removeData (ih after)

theorem subscribed_removeChildren {c : Coordinator} {q : Path} {k : WatchKind}
    (after : (c.removeChildren p).subscribed q k = true) : c.subscribed q k = true := by
  cases k with
  | data => exact after
  | children =>
    simp only [Coordinator.subscribed, removeChildren, Table.contains_erase,
      Bool.and_eq_true] at after
    exact after.2

theorem subscribed_record (c : Coordinator) (rs : List Report) (q : Path) (k : WatchKind) :
    (c.record rs).subscribed q k = c.subscribed q k := by cases k <;> rfl

theorem Move.reads (move : Move rule a b) : Move.Reads a b := by
  cases move with
  | aside beside edited tries =>
    have same (q : Path) (k : WatchKind) : b.subscribed q k = a.subscribed q k :=
      subscribed_of_beside beside q k
    exact .none ⟨tries, fun q k after => same q k ▸ after, edited.alive, edited.unarms,
      fun alive q k _ armed => edited.fires alive q k armed, fun q k _ sent => edited.keeps _ sent⟩
  | unclaimed taken coordinator noOne =>
    have same (q : Path) (k : WatchKind) : b.subscribed q k = a.subscribed q k := by
      rw [Setting.subscribed, coordinator]
    refine .none ⟨taken.lastTry, fun q k after => same q k ▸ after,
      fun alive => taken.alive ▸ alive, fun q k armed => taken.armed q k ▸ armed,
      fun _ q k _ armed => .inl (taken.armed q k ▸ armed), fun q k after sent => ?_⟩
    rcases taken.mem sent with kept | hnote
    · exact kept
    · rw [same, noOne q k hnote.symm] at after
      cases after
  | reread d _ looked coordinator =>
    refine .some looked fun q k after => .inl ?_
    rwa [Setting.subscribed, coordinator, subscribed_record] at after
  | unread missed coordinator =>
    refine .failed missed fun q k after => ?_
    rwa [Setting.subscribed, coordinator] at after
  | ended _ _ missed coordinator =>
    refine .failed missed fun q k after => ?_
    rw [Setting.subscribed, coordinator, subscribed_record] at after
    exact subscribed_removeData after
  | pass passed => exact .some passed.looked fun q k after => passed.subscribed after
  | subscribe _ passed =>
    refine .some passed.looked fun q k after => ?_
    rcases passed.subscribed after with before | read
    · rcases subscribed_addChildren before with before | own
      · exact .inl before
      · exact .inr (.inl own)
    · exact .inr read
  | subscribeData d _ looked coordinator =>
    refine .some looked fun q k after => ?_
    rw [Setting.subscribed, coordinator, subscribed_record] at after
    exact subscribed_addData after
  | unsubscribe gone enough own =>
    exact .none (quiet_of_service rfl (fun _ _ => rfl) fun q k after =>
      subscribed_removeChildren (subscribed_removeDataAll after))
  | dropChild unsubscribed isChild =>
    exact .none (quiet_of_service rfl (fun _ _ => rfl) fun q k after => subscribed_removeData after)
  | unsubscribeData allowed =>
    exact .none (quiet_of_service rfl (fun _ _ => rfl) fun q k after => subscribed_removeData after)
  | @cancel _ p unsubscribed coordinator service tries =>
    have same (q : Path) (k : WatchKind) : b.subscribed q k = a.subscribed q k := by
      rw [Setting.subscribed, coordinator]
    refine .none ⟨tries, fun q k after => same q k ▸ after, ?_, fun q k armed => ?_,
      fun _ q k after armed => .inl ?_, fun q k _ sent => ?_⟩
    · rw [service, MemoryService.alive_disarm]
      exact id
    · rw [service, MemoryService.armed_disarm] at armed
      exact armed.1
    · rw [service, MemoryService.armed_disarm]
      refine ⟨armed, ?_⟩
      rintro ⟨rfl, rfl⟩
      rw [same, Setting.subscribed, Coordinator.subscribed,
        Table.contains_eq_false.2 unsubscribed] at after
      cases after
    · rw [service, MemoryService.channel_disarm]
      exact sent

/-- Once a watch has been tried, it stays tried, whoever subscribes. -/
theorem Tried.move {q : Path} {k : WatchKind} (tried : Tried q k a) (move : Move rule a b) :
    Tried q k b := by
  intro after
  cases move.reads with
  | none quiet =>
    rw [quiet.tries]
    exact tried (quiet.subscribed q k after)
  | @some seen looked subscribed =>
    by_cases hit : seen q k
    · rw [looked.tried q k hit]
      exact Option.some_ne_none true
    · rw [looked.others q k hit]
      exact tried ((subscribed q k after).resolve_right hit)
  | @failed p kind missed subscribed =>
    by_cases own : q = p ∧ k = kind
    · obtain ⟨rfl, rfl⟩ := own
      rw [missed.tried]
      exact Option.some_ne_none false
    · rw [missed.others q k own]
      exact tried (subscribed q k after)

theorem Tried.moves {q : Path} {k : WatchKind} (tried : Tried q k a)
    (moves : Relation.ReflTransGen (Move rule) a b) : Tried q k b := by
  induction moves with
  | refl => exact tried
  | tail _ move ih => exact ih.move move

theorem Move.failFast (move : Move rule a b) :
    b.coordinator.failFast = a.coordinator.failFast := by
  cases move with
  | aside beside _ _ => exact beside.failFast
  | unclaimed _ coordinator _ => rw [coordinator]
  | reread d _ _ coordinator => rw [coordinator]; rfl
  | unread _ coordinator => rw [coordinator]
  | ended _ _ _ coordinator => rw [coordinator]; rfl
  | pass passed => rw [passed.coordinator, failFast_absorb]
  | subscribe _ passed => rw [passed.coordinator, failFast_absorb]; rfl
  | subscribeData d _ _ coordinator => rw [coordinator]; rfl
  | unsubscribe gone _ _ => exact failFast_removeDataAll _ gone
  | dropChild _ _ => rfl
  | unsubscribeData _ => rfl
  | cancel _ coordinator _ _ => rw [coordinator]

theorem moves_failFast (moves : Relation.ReflTransGen (Move rule) a b) :
    b.coordinator.failFast = a.coordinator.failFast := by
  induction moves with
  | refl => rfl
  | tail _ move ih => exact move.failFast.trans ih

end Setting

end DurableWatch
