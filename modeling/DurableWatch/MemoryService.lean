import DurableWatch.World

/-!
# A coordination service in memory

A tree of nodes for one session, with watches that fire once. Notifications go to a channel, from
which the owner of the session takes them; while the connection is lost they wait. `change` holds
what another client of the service may do to the tree, whatever the state of this session.
-/
namespace DurableWatch

/-- A node, with the session that created it; other clients count as session 0. -/
structure Node where
  data : Data
  mode : CreateMode
  owner : Nat
  deriving DecidableEq

/-- Whether the node goes when the session ends. -/
def Node.diesWith (session : Nat) (n : Node) : Bool :=
  n.mode = CreateMode.ephemeral && n.owner = session

structure MemoryService where
  nodes : Table Node
  dataWatches : TextSet
  childWatches : TextSet
  sessionId : Nat
  alive : Bool
  expired : Bool
  /-- Fires that wait for the connection. -/
  pending : List Notification
  /-- Notifications sent and not yet taken, the oldest first. -/
  channel : List Notification
  deriving DecidableEq

/-- Changes that another client makes. -/
inductive ExternalChange
  | create (path : Path) (data : Data)
  | setData (path : Path) (data : Data)
  | delete (path : Path)
  deriving DecidableEq

namespace MemoryService

/-- A connected session on a tree that holds the root only. -/
def new : MemoryService where
  nodes := Table.insert ∅ Path.root ⟨.empty, .persistent, 0⟩
  dataWatches := ∅
  childWatches := ∅
  sessionId := 1
  alive := true
  expired := false
  pending := []
  channel := []

def send (s : MemoryService) (n : Notification) : MemoryService :=
  { s with channel := s.channel ++ [n] }

def armed (s : MemoryService) (p : Path) : WatchKind → Bool
  | .data => s.dataWatches.contains p
  | .children => s.childWatches.contains p

def disarm (s : MemoryService) (p : Path) : WatchKind → MemoryService
  | .data => { s with dataWatches := s.dataWatches.erase p }
  | .children => { s with childWatches := s.childWatches.erase p }

def arm (s : MemoryService) (p : Path) : WatchKind → MemoryService
  | .data => { s with dataWatches := TextSet.insert s.dataWatches p }
  | .children => { s with childWatches := TextSet.insert s.childWatches p }

/-- Fires the watch if it is armed. -/
def fire (s : MemoryService) (p : Path) (kind : WatchKind) : MemoryService :=
  if s.armed p kind then
    let s := s.disarm p kind
    if s.alive then s.send (.watch p kind)
    else { s with pending := s.pending ++ [.watch p kind] }
  else s

/-- The names of the nodes right below `p`, in ascending order. -/
def childNames (s : MemoryService) (p : Path) : List String :=
  (s.nodes.keys.filter fun q => Path.parent? q == some p).map Path.name

/-- What keeps a node from being created at `p`, else its parent. -/
def creationSite (s : MemoryService) (p : Path) : Except Error Path :=
  match p.validate with
  | .error e => .error e
  | .ok () =>
    if s.nodes.contains p then .error (.nodeExists p)
    else
      match p.parent? with
      | none => .error (.nodeExists p)
      | some parent =>
        match s.nodes.get? parent with
        | none => .error (.pathNotFound parent)
        | some ⟨_, .ephemeral, _⟩ =>
          .error (.invalidArgument ("ephemeral node " ++ parent ++ " cannot have children"))
        | some _ => .ok parent

def createNode (s : MemoryService) (p : Path) (node : Node) : Except Error Path × MemoryService :=
  match s.creationSite p with
  | .error e => (.error e, s)
  | .ok parent => (.ok p, { s with nodes := s.nodes.insert p node }.fire parent .children)

def setData (s : MemoryService) (p : Path) (d : Data) : Except Error Unit × MemoryService :=
  match s.nodes.get? p with
  | none => (.error (.pathNotFound p), s)
  | some node => (.ok (), { s with nodes := s.nodes.insert p { node with data := d } }.fire p .data)

def deleteNode (s : MemoryService) (p : Path) : Except Error Unit × MemoryService :=
  if p = Path.root then (.error (.invalidArgument "cannot delete the root node"), s)
  else if !s.nodes.contains p then (.error (.pathNotFound p), s)
  else if !(s.childNames p).isEmpty then
    (.error (.invalidArgument ("node " ++ p ++ " has children")), s)
  else
    let s := (({ s with nodes := s.nodes.erase p }).fire p .data).fire p .children
    match p.parent? with
    | some parent => (.ok (), s.fire parent .children)
    | none => (.ok (), s)

def change (s : MemoryService) : ExternalChange → Except Error Unit × MemoryService
  | .create p d =>
    match s.createNode p ⟨d, .persistent, 0⟩ with
    | (.ok _, s) => (.ok (), s)
    | (.error e, s) => (.error e, s)
  | .setData p d => s.setData p d
  | .delete p => s.deleteNode p

/-- The connection is lost; the session lives on at the service. -/
def disconnect (s : MemoryService) : MemoryService :=
  { s with alive := false }.send (.state .disconnected)

/-- The service ends the session: its ephemeral nodes, its watches and its waiting fires are gone.
-/
def expireSession (s : MemoryService) : MemoryService :=
  let s := { s with
    nodes := s.nodes.filter fun _ n => !n.diesWith s.sessionId
    dataWatches := ∅
    childWatches := ∅
    pending := []
    alive := false
    expired := true }
  s.send (.state .expired)

/-- Sends what has waited, after the news of the connection. A session that had expired gets a new
number. -/
def reconnect (s : MemoryService) : MemoryService :=
  if s.alive then s
  else
    { s with
      sessionId := if s.expired then s.sessionId + 1 else s.sessionId
      expired := false
      alive := true
      pending := []
      channel := s.channel ++ .state .syncConnected :: s.pending }

/-- Answers a read of the node at `p`, and arms its watch only if there is a node to read. -/
def read {α : Type} (s : MemoryService) (p : Path) (kind : WatchKind) (watch : Bool)
    (answer : Node → α) : Except Error α × MemoryService :=
  match s.nodes.get? p with
  | none => (.error (.pathNotFound p), s)
  | some node => (.ok (answer node), if watch then s.arm p kind else s)

/-- A request of the session while it is alive. -/
def serve (s : MemoryService) : (r : Request) → Except Error r.Answer × MemoryService
  | .existence p => (.ok (s.nodes.contains p), s)
  | .readData p watch => s.read p .data watch Node.data
  | .writeData p d => s.setData p d
  | .listChildren p watch => s.read p .children watch fun _ => s.childNames p
  | .create p d mode => s.createNode p ⟨d, mode, s.sessionId⟩
  | .delete p => s.deleteNode p
  | .cancelDataWatch p => (.ok (), s.disarm p .data)
  | .reconnect => (.ok (), s)

/-- Only a reconnection is answered while the session is not alive. -/
def ask (s : MemoryService) (r : Request) : Except Error r.Answer × MemoryService :=
  match r with
  | .reconnect => (.ok (), s.reconnect)
  | r =>
    if s.alive then s.serve r
    else (.error (.notConnected ("session " ++ toString s.sessionId ++ " is not alive")), s)

end MemoryService

end DurableWatch
