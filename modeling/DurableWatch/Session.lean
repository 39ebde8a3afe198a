import DurableWatch.Recovery

/-!
# Sessions

The operations of a session that change nodes: creation in its several forms, deletion, and the
reconnection that brings everything back. Each answers a cause of failure or the path of the node.
-/
namespace DurableWatch.World

variable {σ : Type}

/-- Checks that the session is alive and that `p` is a path. -/
def ensureReady (host : Host σ) (p : Path) (w : World σ) : Except Stop Unit × World σ :=
  match ensureAlive host w with
  | (.error stop, w) => (.error stop, w)
  | (.ok (), w) => (p.validate.mapError .failed, w)

def create (host : Host σ) (p : Path) (d : Data) (mode : CreateMode) (w : World σ) :
    Except Stop Path × World σ :=
  match ensureReady host p w with
  | (.error stop, w) => (.error stop, w)
  | (.ok (), w) => host.ask (.create p d mode) w

/-- Marks the node as stubborn and answers its path. -/
def markCreated (p : Path) (d : Data) (w : World σ) : Except Stop Path × World σ :=
  match w.coordinator.markStubborn p d with
  | .error e => fail e w
  | .ok c => (.ok p, { w with coordinator := c })

def needsData (p : Path) : Error := .invalidArgument ("stubborn node " ++ p ++ " needs data")

/-- Creates an ephemeral node, which is stubborn if `recreate`. -/
def createEphemeral (host : Host σ) (p : Path) (d : Data) (recreate : Bool) (w : World σ) :
    Except Stop Path × World σ :=
  if recreate && d.isEmpty then fail (needsData p) w
  else
    match create host p d .ephemeral w with
    | (.error stop, w) => (.error stop, w)
    | (.ok created, w) => if recreate then markCreated created d w else (.ok created, w)

/-- Creates those of the nodes that are missing. One that appears meanwhile is no failure. -/
def createMissing (host : Host σ) : List Path → World σ → Except Stop Unit × World σ
  | [], w => (.ok (), w)
  | a :: as, w =>
    match host.ask (.existence a) w with
    | (.error stop, w) => (.error stop, w)
    | (.ok true, w) => createMissing host as w
    | (.ok false, w) =>
      match host.ask (.create a .empty .persistent) w with
      | (.ok _, w) => createMissing host as w
      | (.error stop, w) =>
        if stop.isNodeExists then createMissing host as w else (.error stop, w)

/-- Creates the node and whatever is missing above it, all without data. -/
def createRecursive (host : Host σ) (p : Path) (mode : CreateMode) (w : World σ) :
    Except Stop Path × World σ :=
  match ensureReady host p w with
  | (.error stop, w) => (.error stop, w)
  | (.ok (), w) =>
    match host.ask (.existence p) w with
    | (.error stop, w) => (.error stop, w)
    | (.ok true, w) => fail (.nodeExists p) w
    | (.ok false, w) =>
      match createMissing host p.ancestors w with
      | (.error stop, w) => (.error stop, w)
      | (.ok (), w) => host.ask (.create p .empty mode) w

/-- Deletes the node if it is there. -/
def clearAway (host : Host σ) (p : Path) (w : World σ) : Except Stop Unit × World σ :=
  match host.ask (.existence p) w with
  | (.error stop, w) => (.error stop, w)
  | (.ok false, w) => (.ok (), w)
  | (.ok true, w) =>
    match host.ask (.delete p) w with
    | (.ok (), w) => (.ok (), w)
    | (.error stop, w) => if stop.isNotFound then (.ok (), w) else (.error stop, w)

/-- Puts an ephemeral node of this session at `p`, in place of whatever is there, and marks it. -/
def createStubborn (host : Host σ) (p : Path) (d : Data) (w : World σ) :
    Except Stop Path × World σ :=
  match ensureReady host p w with
  | (.error stop, w) => (.error stop, w)
  | (.ok (), w) =>
    if d.isEmpty then fail (needsData p) w
    else
      match clearAway host p w with
      | (.error stop, w) => (.error stop, w)
      | (.ok (), w) =>
        match createMissing host p.ancestors w with
        | (.error stop, w) => (.error stop, w)
        | (.ok (), w) =>
          match host.ask (.create p d .ephemeral) w with
          | (.error stop, w) => (.error stop, w)
          | (.ok created, w) => markCreated created d w

/-- Marks the node again, if it was marked. -/
def remark (node? : Option StubbornNode) (w : World σ) : Except Stop Unit × World σ :=
  match node? with
  | none => (.ok (), w)
  | some n =>
    match markCreated n.path n.data w with
    | (.error stop, w) => (.error stop, w)
    | (.ok _, w) => (.ok (), w)

/-- Deletes the node, which is no longer stubborn then. It stays so if it cannot be deleted. -/
def delete (host : Host σ) (p : Path) (w : World σ) : Except Stop Unit × World σ :=
  match ensureAlive host w with
  | (.error stop, w) => (.error stop, w)
  | (.ok (), w) =>
    let node? := w.coordinator.stubbornNode? p
    match host.ask (.delete p) (w.update (·.unmarkStubborn p)) with
    | (.error (.failed e), w) =>
      match remark node? w with
      | (.error stop, w) => (.error stop, w)
      | (.ok (), w) => fail e w
    | done => done

/-- Connects again, then recovers every subscription and every stubborn node. -/
def reconnectIn (order : Enumeration) (host : Host σ) (w : World σ) :
    Except Stop Unit × World σ :=
  match host.ask .reconnect w with
  | (.error stop, w) => (.error stop, w)
  | (.ok (), w) => relistenIn order host w

def reconnect (host : Host σ) (w : World σ) : Except Stop Unit × World σ :=
  reconnectIn .ascending host w

end DurableWatch.World
