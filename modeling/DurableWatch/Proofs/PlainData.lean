import DurableWatch.Proofs.Ownership
import DurableWatch.Proofs.UpToDate

/-!
# What the watching of children does to other data subscriptions

The data subscriptions that an application makes share one pool with those that passes make for
children. The operations on child subscriptions do not tell the two apart: a pass that finds a new
child puts a subscription of its own in the place of whatever is there, one that misses a child
removes whatever is there, and so does unsubscribing for every child that it finds. Each operation
takes the subscriptions of certain children of its node, and leaves all others as they are.
-/
namespace DurableWatch

open World Coordinator

/-- The operations on the child pool at one node. `fire` is the handling of its notification. -/
inductive ChildOperation
  | listen (listener : Listener) (withData : Bool)
  | pass (delivery : Delivery)
  | fire
  | unlisten (withData : Bool)

namespace ChildOperation

def command (p : Path) : ChildOperation → Command
  | listen l withData => .listen p l (.children withData)
  | pass delivery => .childChange p delivery
  | fire => .notify (.watch p .children)
  | unlisten withData => .unlisten p (.children withData)

end ChildOperation

namespace Coordinator

/-- A pass over `p` goes through, and sees that the child `n` has come or gone. -/
def PassTakes (c : Coordinator) (service : MemoryService) (p : Path) (n : String) : Prop :=
  service.alive = true ∧ service.nodes.contains p = true ∧
    ∃ s, c.children.get? p = some s ∧ s.watchesChildData = true ∧
      (s.known.contains n = true ↔ n ∉ service.childNames p)

/-- Subscribing to the children of `p` and their data succeeds, and `n` is one of them. -/
def ListenTakes (service : MemoryService) (p : Path) (withData : Bool) (n : String) : Prop :=
  service.alive = true ∧ service.nodes.contains p = true ∧ withData = true ∧
    n ∈ service.childNames p

/-- Unsubscribing is about the data of children as well, and `n` was known or is found. -/
def UnlistenTakes (c : Coordinator) (service : MemoryService) (p : Path) (withData : Bool)
    (n : String) : Prop :=
  (withData = true ∨ ∃ s, c.children.get? p = some s ∧ s.watchesChildData = true) ∧
    ((∃ s, c.children.get? p = some s ∧ s.known.contains n = true) ∨
      service.alive = true ∧ service.nodes.contains p = true ∧ n ∈ service.childNames p)

/-- The operation on the child pool at `p` takes the data subscription of the child `n`. -/
def Takes (c : Coordinator) (service : MemoryService) (p : Path) :
    ChildOperation → String → Prop
  | .listen _ withData => ListenTakes service p withData
  | .pass _ | .fire => c.PassTakes service p
  | .unlisten withData => c.UnlistenTakes service p withData

end Coordinator

variable {τ : Type} {w w₁ : World (Backstage τ)} {p q : Path} {e : DataSubscription}

/-! ### Passes -/

namespace Setting

variable {a b : Setting} {c : Coordinator} {s : ChildSubscription} {delivery : Delivery}
  {new : NewChildren}

/-- A subscription outlives a pass unless the pass sees its node come or go as a child. -/
theorem Passed.kept_iff (passed : Passed a b c p s delivery new) (older : e.id < c.nextId)
    (registered : c.data.get? q = some e) :
    b.coordinator.data.get? q = some e ↔ ¬∃ n, q = p.child n ∧ s.watchesChildData = true ∧
      (s.known.contains n = true ↔ n ∉ a.service.childNames p) := by
  rcases passed.entry q with
    ⟨watches, ⟨n, listed, unknown, hq⟩, id, isNew, hget⟩ |
      ⟨watches, ⟨n, known, unlisted, hq⟩, gone⟩ | ⟨same, kept⟩
  · have taken : s.known.contains n = true ↔ n ∉ a.service.childNames p := by
      simp [unknown, listed]
    have replaced : b.coordinator.data.get? q ≠ some e := by
      rw [hget]
      rintro h
      cases h
      exact absurd isNew (Nat.not_le.2 older)
    exact iff_of_false replaced fun h => h ⟨n, hq, watches, taken⟩
  · have taken : s.known.contains n = true ↔ n ∉ a.service.childNames p := by
      simp [known, unlisted]
    have removed : b.coordinator.data.get? q ≠ some e := by
      rw [gone]
      exact Option.some_ne_none e ∘ Eq.symm
    exact iff_of_false removed fun h => h ⟨n, hq, watches, taken⟩
  · refine iff_of_true (same.trans registered) ?_
    rintro ⟨n, hq, watches, taken⟩
    have seen : s.known.contains n = true ↔ n ∈ a.service.childNames p := kept watches n hq
    rw [seen] at taken
    exact iff_not_self taken

end Setting

theorem data_deliver_silent (delivery : Delivery) (created deleted : List Report)
    (w : World (Backstage τ)) :
    (World.deliver (memoryClient.facing .silent) delivery created deleted w).2.coordinator.data =
      w.coordinator.data := by
  cases delivery with
  | inline =>
    rw [deliver_silent]
    exact (beside_submitAll w.coordinator deleted).data
  | dispatched => exact (beside_submitAll w.coordinator (created ++ deleted)).data

theorem childChange_kept_iff (sane : w.outside.service.Sane) (older : e.id < w.coordinator.nextId)
    (registered : w.coordinator.data.get? q = some e) (delivery : Delivery) :
    (childChange (memoryClient.facing .silent) p delivery w).2.coordinator.data.get? q = some e ↔
      ¬∃ n, q = p.child n ∧ w.coordinator.PassTakes w.outside.service p n := by
  unfold childChange
  cases watching : w.coordinator.children.get? p with
  | none =>
    refine iff_of_true registered ?_
    rintro ⟨n, -, -, -, s, hs, -⟩
    rw [watching] at hs
    cases hs
  | some s =>
    dsimp only
    rcases there_or_absent w p with ⟨alive, there⟩ | absent
    · obtain ⟨new, w₁, passed, -, hpass⟩ :=
        childPass_found .silent delivery (.refl w.setting _) sane watching alive there
      rw [hpass, data_deliver_silent]
      refine (passed.kept_iff older registered).trans (not_congr (exists_congr fun n => ?_))
      refine and_congr_right fun _ => ⟨fun taken => ?_, ?_⟩
      · exact ⟨alive, there, s, watching, taken⟩
      · rintro ⟨-, -, s', hs', taken⟩
        rw [watching] at hs'
        cases hs'
        exact taken
    · obtain ⟨error, w', -, same, hpass⟩ :=
        childPass_missed .silent delivery (.refl w.setting _) absent
      rw [hpass]
      dsimp only
      rw [same]
      refine iff_of_true registered ?_
      rintro ⟨n, -, alive, there, -⟩
      rw [absent alive] at there
      cases there

/-! ### Subscribing and unsubscribing -/

/-- To subscribe to a node that is missing, or in a session that is not alive, changes nothing. -/
theorem coordinator_listen_absent (l : Listener) (flavour : Flavour)
    (absent : w.outside.service.alive = true → w.outside.service.nodes.contains p = false) :
    (listen (memoryClient.facing .silent) p l flavour w).2.coordinator = w.coordinator := by
  have checked : (memoryClient.facing .silent).isAlive w = (w.outside.service.alive, w) := rfl
  unfold World.listen World.ensureAlive
  rw [checked]
  cases living : w.outside.service.alive with
  | false => rfl
  | true =>
    dsimp only
    rw [ask_existence .silent w p living, absent living]
    rfl

theorem listen_kept_iff (sane : w.outside.service.Sane) (older : e.id < w.coordinator.nextId)
    (registered : w.coordinator.data.get? q = some e) (l : Listener) (withData : Bool) :
    (listen (memoryClient.facing .silent) p l (.children withData) w).2.coordinator.data.get? q =
        some e ↔
      ¬∃ n, q = p.child n ∧ ListenTakes w.outside.service p withData n := by
  rcases there_or_absent w p with ⟨alive, there⟩ | absent
  · obtain ⟨new, created, deleted, w', passed, hpass⟩ := register_children_passed .silent l withData
      (w := w.noting w.outside.service (.existence p) true) sane alive there
    rw [listen_of_there .silent l _ alive there, hpass, data_deliver_silent]
    have later : e.id < (w.coordinator.addChildren p l withData).nextId := Nat.lt_succ_of_lt older
    refine (passed.kept_iff later registered).trans (not_congr (exists_congr fun n => ?_))
    -- who knows no child yet takes all that are there
    have unknown : (w.coordinator.freshChildren l withData).known.contains n = false := rfl
    refine and_congr_right fun _ => ⟨?_, ?_⟩
    · rintro ⟨watches, taken⟩
      refine ⟨alive, there, watches, ?_⟩
      by_contra unlisted
      have known := taken.2 unlisted
      cases known
    · rintro ⟨-, -, watches, listed⟩
      refine ⟨watches, fun known => ?_, fun unlisted => absurd listed unlisted⟩
      cases known
  · rw [coordinator_listen_absent l _ absent]
    refine iff_of_true registered ?_
    rintro ⟨n, -, alive, there, -⟩
    rw [absent alive] at there
    cases there

/-- The data subscriptions of all these children go, whatever the client answers. -/
theorem coordinator_cancelEach {σ : Type} {host : Host σ} (orderly : host.Orderly) (p : Path)
    (ns : List String) (w : World σ) :
    (cancelEach host p ns w).2.coordinator = w.coordinator.removeDataAll (ns.map p.child) := by
  induction ns generalizing w with
  | nil => rfl
  | cons n ns ih =>
    rcases asked : host.ask (.cancelDataWatch (p.child n)) (w.update (·.removeData (p.child n)))
      with ⟨answer, w₁⟩
    have same : w₁.coordinator = w.coordinator.removeData (p.child n) :=
      orderly.coordinator_of_ask asked
    have rest : (cancelEach host p ns w₁).2.coordinator =
        w.coordinator.removeDataAll ((n :: ns).map p.child) := by
      rw [ih, same]
      rfl
    unfold cancelEach
    rw [asked]
    rcases answer with (cause | reason) | ⟨⟩
    · dsimp only
      split
      · next h => rw [h] at rest; exact rest
      · next h => rw [h] at rest; exact rest
    · exact (orderly.not_crashed asked).elim
    · exact rest

theorem coordinator_cancelChildData (audience : Audience (Backstage τ)) (p : Path)
    (w : World (Backstage τ)) :
    (cancelChildData (memoryClient.facing audience) p w).2.coordinator =
      if w.outside.service.alive = true ∧ w.outside.service.nodes.contains p = true
      then w.coordinator.removeDataAll ((w.outside.service.childNames p).map p.child)
      else w.coordinator := by
  have orderly := (memoryClient_orderly (τ := τ)).facing audience
  cases living : w.outside.service.alive with
  | false =>
    obtain ⟨cause, -, refused⟩ := ask_dead audience w (r := .existence p) living (by simp)
    rw [cancelChildData, refused]
    rfl
  | true =>
    rw [cancelChildData, ask_existence audience w p living]
    cases there : w.outside.service.nodes.contains p with
    | false => rfl
    | true =>
      dsimp only
      rw [ask_listChildren_found audience (w.noting w.outside.service (.existence p) true) false
        living there]
      exact coordinator_cancelEach orderly p _ _

theorem removeDataAll_kept_iff (c : Coordinator) (p : Path) (ns : List String) :
    (c.removeDataAll (ns.map p.child)).data.get? q = some e ↔
      c.data.get? q = some e ∧ ¬∃ n, q = p.child n ∧ n ∈ ns := by
  rw [data_removeDataAll]
  have member : q ∈ ns.map p.child ↔ ∃ n, q = p.child n ∧ n ∈ ns := by
    rw [List.mem_map]
    exact exists_congr fun n => and_comm.trans (and_congr_left' eq_comm)
  rw [← member]
  split
  · next gone => simp [gone]
  · next kept => simp [kept]

theorem cancelChildData_kept_iff (audience : Audience (Backstage τ)) (p : Path)
    (w : World (Backstage τ)) :
    (cancelChildData (memoryClient.facing audience) p w).2.coordinator.data.get? q = some e ↔
      w.coordinator.data.get? q = some e ∧ ¬∃ n, q = p.child n ∧
        w.outside.service.alive = true ∧ w.outside.service.nodes.contains p = true ∧
          n ∈ w.outside.service.childNames p := by
  rw [coordinator_cancelChildData]
  split
  · next listed =>
    rw [removeDataAll_kept_iff]
    simp only [listed.1, listed.2, true_and]
  · next unlisted =>
    refine (and_iff_left ?_).symm
    rintro ⟨n, -, alive, there, -⟩
    exact unlisted ⟨alive, there⟩

/-- The names known to whatever is registered at `p`. -/
theorem mem_former_known {c : Coordinator} {n : String} :
    n ∈ ((c.children.get? p).map fun s => s.known.keys).getD [] ↔
      ∃ s, c.children.get? p = some s ∧ s.known.contains n = true := by
  cases c.children.get? p with
  | none => simp
  | some s => simp [Table.mem_keys]

/-- The children that are known go first, then those that are found. -/
theorem unlisten_kept_iff (registered : w.coordinator.data.get? q = some e) (withData : Bool) :
    (unlisten (memoryClient.facing .silent) p (.children withData) w).2.coordinator.data.get? q =
        some e ↔
      ¬∃ n, q = p.child n ∧ w.coordinator.UnlistenTakes w.outside.service p withData n := by
  have childData : (withData || (w.coordinator.children.get? p).any (·.watchesChildData)) = true ↔
      withData = true ∨
        ∃ s, w.coordinator.children.get? p = some s ∧ s.watchesChildData = true := by
    rw [Bool.or_eq_true, Option.any_eq_true]
  simp only [unlisten, unlistenChildren]
  split
  · next applies =>
    have about := childData.1 applies
    have still : (w.coordinator.removeChildren p).data.get? q = some e := registered
    rw [cancelChildData_kept_iff]
    dsimp only [coordinator_update, outside_update]
    rw [removeDataAll_kept_iff, and_iff_right still, ← not_or, ← exists_or]
    refine not_congr (exists_congr fun n => ?_)
    rw [← and_or_left, mem_former_known]
    exact and_congr_right fun _ => (and_iff_right about).symm
  · next spared =>
    refine iff_of_true registered ?_
    rintro ⟨n, -, about, -⟩
    exact spared (childData.2 about)

/-- After an operation on the child pool at `p`, a data subscription is still registered unless the
operation takes that of its child. Whether the application has made it does not matter. -/
theorem data_kept_unless_taken {audience : Audience (Backstage τ)}
    (tame : Tame memoryClient (MemoryStep .any) audience) {w₀ w : World (Backstage τ)}
    (isNew : w₀.IsNew)
    (run : Relation.ReflTransGen (MemoryStep .any (memoryClient.facing audience)) w₀ w)
    (operation : ChildOperation) (p : Path) {q : Path} {e : DataSubscription}
    (registered : w.coordinator.data.get? q = some e) :
    (w.perform (memoryClient.facing .silent) (operation.command p)).coordinator.data.get? q =
        some e ↔
      ¬∃ n, q = p.child n ∧ w.coordinator.Takes w.outside.service p operation n := by
  have kept : w.setting.Kept := isNew.kept_of_run tame run
  have sane : w.outside.service.Sane := kept.sane
  have older : e.id < w.coordinator.nextId := (kept.sound.numbered.data q e registered).1
  cases operation with
  | listen l withData => exact listen_kept_iff sane older registered l withData
  | pass delivery => exact childChange_kept_iff sane older registered delivery
  | fire =>
    have pass := childChange_kept_iff (p := p) sane older registered .dispatched
    simp only [ChildOperation.command, perform, onNotification, dropFailure_world]
    exact pass
  | unlisten withData => exact unlisten_kept_iff registered withData

/-- A data subscription that stays when someone subscribes to the children of the parent node, and
goes when someone unsubscribes from them. -/
theorem own_data_kept_then_taken :
    let w := World.blank.play [.change (.create "/a" .empty), .change (.create "/a/c" .empty),
      .command (.listen "/a/c" "own" .data)]
    let host : Host (Backstage Unit) := memoryClient.facing .silent
    ∃ e, w.coordinator.data.get? "/a/c" = some e ∧ e.owner? = none ∧
      (w.perform host (.listen "/a" "other" (.children false))).coordinator.data.get? "/a/c" =
        some e ∧
      (w.perform host (.unlisten "/a" (.children true))).coordinator.data.get? "/a/c" ≠ some e := by
  intro w host
  have run : Relation.ReflTransGen (MemoryStep .any host) .blank w := play_run (allows_any _ _)
  have own : (w.coordinator.data.get? "/a/c").any (fun e => e.owner? == none) = true := by decide
  obtain ⟨e, he, plain⟩ := (Option.any_eq_true _ _).1 own
  have listened := data_kept_unless_taken .silent blank_isNew run (.listen "other" false) "/a" he
  have unlistened := data_kept_unless_taken .silent blank_isNew run (.unlisten true) "/a" he
  refine ⟨e, he, by simpa using plain, listened.2 ?_, fun kept => unlistened.1 kept ?_⟩
  · rintro ⟨n, -, -, -, withData, -⟩
    cases withData
  · exact ⟨"c", rfl, .inl rfl, .inr ⟨by decide, by decide, by decide⟩⟩

/-- A subscription that an application has made for its own is removed by unsubscribing from the
children of the parent node, to which no one has subscribed. Another one is replaced by the pass
that finds its node as a new child. -/
theorem own_data_not_spared :
    let w := World.blank.play [.change (.create "/a" .empty), .change (.create "/a/c" .empty),
      .command (.listen "/a/c" "own" .data)]
    let w' := World.blank.play [.change (.create "/a" .empty),
      .command (.listen "/a" "parent" (.children true)), .change (.create "/a/c" .empty),
      .command (.listen "/a/c" "own" .data)]
    let host : Host (Backstage Unit) := memoryClient.facing .silent
    (w.coordinator.data.get? "/a/c").map (·.owner?) = some none ∧
      w.coordinator.children.get? "/a" = none ∧
      (w.perform host (.unlisten "/a" (.children true))).coordinator.data.get? "/a/c" = none ∧
      (w'.coordinator.data.get? "/a/c").map (·.listener) = some "own" ∧
      ((w'.perform host (.notify (.watch "/a" .children))).coordinator.data.get? "/a/c").map
        (·.listener) = some "parent" := by
  decide

end DurableWatch
