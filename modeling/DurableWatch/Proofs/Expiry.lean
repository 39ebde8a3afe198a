import DurableWatch.Proofs.Reconnection

/-!
# Sessions that expire

When a session expires, its ephemeral nodes go; a recovery creates the stubborn ones again, but only
after it has read all that is subscribed to. What lasts keeps its subscriptions. An ephemeral node
is missing when its own subscriptions are read, so a plain data subscription ends there. A
subscription to the children of its parent node, and their data, follows the node: it sees the node
go and come back.
-/
namespace DurableWatch

open World Coordinator Setting

/-! ### What lasts -/

namespace MemoryService

variable {s : MemoryService} {p : Path}

/-- There is a node at `p`, and it does not go with the session. -/
def Lasting (s : MemoryService) (p : Path) : Prop :=
  ∃ n, s.nodes.get? p = some n ∧ n.mode = .persistent

theorem lasting_expireSession (lasting : s.Lasting p) : s.expireSession.Lasting p := by
  obtain ⟨n, found, mode⟩ := lasting
  refine ⟨n, ?_, mode⟩
  simp [expireSession, send, found, Node.diesWith, mode]

/-- What is left when a session expires is what lasts. -/
theorem contains_expireSession (sane : s.Sane) :
    s.expireSession.nodes.contains p = true ↔ s.Lasting p := by
  constructor
  · intro there
    obtain ⟨n, left⟩ := Table.contains_eq_true.1 there
    obtain ⟨found, stays⟩ : s.nodes.get? p = some n ∧ n.diesWith s.sessionId = false := by
      simpa [expireSession, send, Option.filter_eq_some_iff] using left
    refine ⟨n, found, ?_⟩
    cases mode : n.mode with
    | persistent => rfl
    | ephemeral => simp [Node.diesWith, mode, (sane.attached p n found mode).1] at stays
  · intro lasting
    obtain ⟨n, found, -⟩ := lasting_expireSession lasting
    exact Table.contains_of_get? found

end MemoryService

theorem exists_stubbornNode {c : Coordinator} {q : Path} (marked : c.stubborn.contains q = true) :
    ∃ n ∈ c.stubbornNodes, n.path = q := by
  have listed : q ∈ c.stubborn.entries.map Prod.fst := Table.mem_keys.2 marked
  obtain ⟨entry, member, rfl⟩ := List.mem_map.1 listed
  exact ⟨⟨entry.1, entry.2⟩, List.mem_map_of_mem member, rfl⟩

/-! ### Children whose data is watched through the parent -/

/-- Someone watches the data of the children of the node above `q`. -/
def Coordinator.Fostered (q : Path) (c : Coordinator) : Prop :=
  ∃ p s, q.parent? = some p ∧ c.children.get? p = some s ∧ s.watchesChildData = true

namespace Setting

variable {a b : Setting} {p q : Path} {n : String}

theorem fostered_before (upkeep : Relation.ReflTransGen Upkeep a b)
    (fostered : b.coordinator.Fostered q) : a.coordinator.Fostered q := by
  obtain ⟨p, s', parent, hs', watches⟩ := fostered
  obtain ⟨s, hs, same⟩ := upkeep_former upkeep hs'
  exact ⟨p, s, parent, hs, (ChildSubscription.watches_of_face same).trans watches⟩

/-- Only the pass of a parent subscribes anyone to the data of a node. -/
theorem Upkeep.unsubscribed (upkeep : Upkeep a b) (sane : a.service.Sane)
    (unfostered : ¬a.coordinator.Fostered q) (absent : a.coordinator.data.get? q = none) :
    b.coordinator.data.get? q = none := by
  cases upkeep with
  | aside beside _ _ _ _ => rwa [beside.data]
  | unclaimed _ coordinator _ => rwa [coordinator]
  | reread d _ _ coordinator _ =>
    rw [coordinator]
    exact absent
  | unread _ coordinator => rwa [coordinator]
  | @ended p e _ _ missed coordinator =>
    rw [coordinator]
    change (a.coordinator.data.erase p).get? q = _
    simp [absent]
  | @pass p s delivery new passed =>
    rcases passed.entry q with ⟨watches, ⟨m, listed, -, rfl⟩, -⟩ | ⟨-, -, gone⟩ | ⟨same, -⟩
    · have isChild : p.IsChildName m := (sane.mem_childNames_iff.1 listed).2
      exact absurd ⟨p, s, isChild.parent, passed.registered, watches⟩ unfostered
    · exact gone
    · exact same.trans absent

theorem unsubscribed_along (upkeep : Relation.ReflTransGen Upkeep a b) (sane : a.service.Sane)
    (unfostered : ¬a.coordinator.Fostered q) (absent : a.coordinator.data.get? q = none) :
    b.coordinator.data.get? q = none := by
  induction upkeep with
  | refl => exact absent
  | tail so_far step ih =>
    exact step.unsubscribed (upkeep_sane so_far sane)
      (fun fostered => unfostered (fostered_before so_far fostered)) ih

/-- The child subscription at `p` watches the data of children, and if it knows the child `n`, then
the child is there and its data is subscribed to. -/
structure Followed (p : Path) (n : String) (a : Setting) : Prop where
  alive : a.service.alive = true
  watches : ∀ s, a.coordinator.children.get? p = some s → s.watchesChildData = true
  known : ∀ s, a.coordinator.children.get? p = some s → s.known.contains n = true →
    Served (p.child n) .data a ∧ a.coordinator.data.contains (p.child n) = true

/-- The pass that finds the child reads it and subscribes to it. -/
theorem Passed.finds {s : ChildSubscription} {delivery : Delivery} {new : NewChildren}
    (passed : Passed a b a.coordinator p s delivery new) (watches : s.watchesChildData = true)
    (unknown : s.known.contains n = false) (listed : n ∈ a.service.childNames p) :
    Served (p.child n) .data b ∧ b.coordinator.data.contains (p.child n) = true := by
  have read : passReads p s (ChildDiff.between s.known (a.service.childNames p)).created
      (p.child n) .data :=
    .inr ⟨watches, rfl, n, ChildDiff.mem_created.2 ⟨listed, unknown⟩, rfl⟩
  refine ⟨⟨passed.looked.alive.trans passed.alive, ?_, ?_⟩, ?_⟩
  · rw [passed.looked.nodes]
    exact passed.looked.present _ _ read
  · rw [passed.looked.tried _ _ read]
    simp
  · rcases passed.entry (p.child n) with
      ⟨-, -, id, -, hget⟩ | ⟨-, ⟨m, -, unlisted, hm⟩, -⟩ | ⟨-, kept⟩
    · exact Table.contains_of_get? hget
    · obtain rfl := Path.child_inj.1 hm
      exact absurd listed unlisted
    · rw [(kept watches n rfl).2 listed] at unknown
      cases unknown

theorem Followed.upkeep (followed : Followed p n a) (kept : Kept a) (upkeep : Upkeep a b) :
    Followed p n b := by
  have former {s' : ChildSubscription} (hs' : b.coordinator.children.get? p = some s') :
      ∃ s, a.coordinator.children.get? p = some s ∧ s.face = s'.face :=
    upkeep_former (.single upkeep) hs'
  refine ⟨upkeep.grown.alive.trans followed.alive, fun s' hs' => ?_, fun s' hs' known => ?_⟩
  · obtain ⟨s, hs, same⟩ := former hs'
    exact (ChildSubscription.watches_of_face same) ▸ followed.watches s hs
  · obtain ⟨s, hs, -⟩ := former hs'
    by_cases before : s.known.contains n = true
    · obtain ⟨served, subscribed⟩ := followed.known s hs before
      exact ⟨served.upkeep upkeep, served.subscribed kept upkeep subscribed⟩
    · rw [Bool.not_eq_true] at before
      rcases upkeep.children_or_passed with same | ⟨r, s₀, delivery, new, passed⟩
      · rw [same, hs] at hs'
        cases hs'
        rw [before] at known
        cases known
      · rw [passed.children] at hs'
        split at hs'
        · next hp =>
          subst hp
          obtain rfl : s₀ = s := Option.some.inj (passed.registered.symm.trans hs)
          cases hs'
          exact passed.finds (followed.watches s₀ hs) before ((passed.known n).1 known)
        · rw [hs] at hs'
          cases hs'
          rw [before] at known
          cases known

theorem followed_along (followed : Followed p n a) (kept : Kept a)
    (upkeep : Relation.ReflTransGen Upkeep a b) : Followed p n b := by
  induction upkeep with
  | refl => exact followed
  | tail so_far step ih => exact ih.upkeep (kept.upkeep so_far) step

/-- Every node that someone is subscribed to is there, and is stubborn if it goes with the session.
-/
def Sheltered (a : Setting) : Prop :=
  ∀ p k, a.subscribed p k = true → ∃ n, a.service.nodes.get? p = some n ∧
    (n.mode = .ephemeral → a.coordinator.stubborn.contains p = true)

/-- It suffices to look at what is listed in the pools. -/
theorem sheltered_iff_listed (a : Setting) :
    (∀ p ∈ a.coordinator.data.keys ++ a.coordinator.children.keys,
      (a.service.nodes.get? p).any (fun n =>
        n.mode == .persistent || a.coordinator.stubborn.contains p) = true) ↔ a.Sheltered := by
  have listed (p : Path) : p ∈ a.coordinator.data.keys ++ a.coordinator.children.keys ↔
      ∃ k, a.subscribed p k = true := by
    rw [List.mem_append, Table.mem_keys, Table.mem_keys]
    constructor
    · rintro (h | h)
      · exact ⟨.data, h⟩
      · exact ⟨.children, h⟩
    · rintro ⟨_ | _, h⟩
      · exact .inl h
      · exact .inr h
  constructor
  · intro all p k subscribed
    obtain ⟨n, found, safe⟩ := (Option.any_eq_true _ _).1 (all p ((listed p).2 ⟨k, subscribed⟩))
    exact ⟨n, found, fun mode => by simpa [mode] using safe⟩
  · intro sheltered p hp
    obtain ⟨k, subscribed⟩ := (listed p).1 hp
    obtain ⟨n, found, safe⟩ := sheltered p k subscribed
    refine (Option.any_eq_true _ _).2 ⟨n, found, ?_⟩
    cases mode : n.mode with
    | persistent => rfl
    | ephemeral => simpa using safe mode

instance (a : Setting) : Decidable a.Sheltered := decidable_of_iff _ (sheltered_iff_listed a)

end Setting

/-! ### Expiry and recovery -/

variable {τ : Type} {w w₁ w₂ w' : World (Backstage τ)}
  {done : Except Stop Unit × World (Backstage τ)}

/-- The world after the service has ended the session. -/
def World.expired (w : World (Backstage τ)) : World (Backstage τ) :=
  w.withService w.outside.service.expireSession

theorem World.kept_expired (kept : w.setting.Kept) : w.expired.setting.Kept := by
  have expiry : Move .any w.setting w.expired.setting :=
    .aside (.refl _) (MemoryService.edited_expireSession kept.sane) fun _ _ => rfl
  exact kept.move expiry

section childBack

variable {p q : Path} {n : String}

/-- The second phase has seen which children are missing. -/
theorem CaughtUp.missing_unknown (caught : CaughtUp w w₁ w₂ done w') (kept : w.setting.Kept)
    (complete : w.coordinator.failFast = false ∨ done.1 = .ok ())
    (unsent : .watch p .children ∉ w.resumed.outside.service.channel)
    (there : w.outside.service.nodes.contains p = true)
    (missing : w.outside.service.nodes.contains (p.child n) = false) {s₂ : ChildSubscription}
    (registered : w₂.coordinator.children.get? p = some s₂) : s₂.known.contains n = false := by
  obtain ⟨upkeep, consulted⟩ := caught.phases.rearmed
  have kept₂ : w₂.setting.Kept := kept.resumed.upkeep upkeep
  have served : Served p .children w₂.setting :=
    served_along (served_resumed (a := w.setting) there) upkeep
  have armed : w₂.setting.service.armed p .children = true := by
    refine kept₂.armed served.alive ?_ (Table.contains_of_get? registered)
      ((caught.phases.complete complete).1 p) served.answered
    rw [show w₂.setting.service.channel = _ from consulted.channel]
    exact unsent
  rw [← Bool.not_eq_true]
  intro known
  have listed := (kept₂.faithful.current p s₂ registered armed n).1 known
  have back := (kept₂.sane.mem_childNames_iff.1 listed).1
  rw [show w₂.setting.service.nodes = w.outside.service.nodes from
    consulted.nodes.trans (MemoryService.nodes_reconnect _), missing] at back
  cases back

/-- The third phase has created the stubborn nodes again. -/
theorem CaughtUp.created_again (caught : CaughtUp w w₁ w₂ done w')
    (complete : w.coordinator.failFast = false ∨ done.1 = .ok ())
    (creatable : w.resumed.outside.service.Creatable q)
    (marked : w.coordinator.stubborn.contains q = true) :
    w'.outside.service.nodes.contains q = true := by
  have upkeep := caught.phases.rearmed.upkeep
  have marked₂ : w₂.coordinator.stubborn.contains q = true := by
    rw [show w₂.coordinator.stubborn = w.coordinator.stubborn from upkeep_stubborn upkeep]
    exact marked
  obtain ⟨node, member, rfl⟩ := exists_stubbornNode marked₂
  have created := (caught.phases.complete complete).2 node member
    (creatable.grown (upkeep_grown upkeep))
  exact (upkeep_grown caught.handled).contains created

/-- A missing child that is created again is found by the pass of its parent. -/
theorem CaughtUp.child_back (caught : CaughtUp w w₁ w₂ done w') (kept : w.setting.Kept)
    (complete : w.coordinator.failFast = false ∨ done.1 = .ok ())
    (unsent : .watch p .children ∉ w.resumed.outside.service.channel)
    {s : ChildSubscription} (registered : w.coordinator.children.get? p = some s)
    (watches : s.watchesChildData = true) (isChild : p.IsChildName n)
    (there : w.outside.service.nodes.contains p = true)
    (missing : w.outside.service.nodes.contains (p.child n) = false)
    (creatable : w.resumed.outside.service.Creatable (p.child n))
    (marked : w.coordinator.stubborn.contains (p.child n) = true) :
    w'.coordinator.data.contains (p.child n) = true ∧
      w'.outside.service.armed (p.child n) .data = true := by
  have upkeep := caught.phases.rearmed.upkeep
  have kept₂ : w₂.setting.Kept := kept.resumed.upkeep upkeep
  have kept' : w'.setting.Kept := caught.kept kept
  have served : Served p .children w₂.setting :=
    served_along (served_resumed (a := w.setting) there) upkeep
  have followed : Followed p n w'.setting := by
    refine followed_along ⟨served.alive, fun s₂ hs₂ => ?_, fun s₂ hs₂ known => ?_⟩ kept₂
      (caught.phases.third.trans caught.handled)
    · obtain ⟨s₀, hs₀, same⟩ := upkeep_former upkeep hs₂
      obtain rfl : s₀ = s := Option.some.inj (hs₀.symm.trans registered)
      exact (ChildSubscription.watches_of_face same) ▸ watches
    · rw [caught.missing_unknown kept complete unsent there missing hs₂] at known
      cases known
  have back : w'.outside.service.nodes.contains (p.child n) = true :=
    caught.created_again complete creatable marked
  obtain ⟨s', hs', -⟩ : ∃ s', w'.coordinator.children.get? p = some s' ∧ s'.face = s.face := by
    have same := caught.faces p
    rw [registered] at same
    exact Option.map_eq_some_iff.1 same
  have watched : w'.outside.service.armed p .children = true :=
    caught.armed kept there (caught.tried_children complete p) (Table.contains_of_get? hs')
  have known : s'.known.contains n = true :=
    (kept'.faithful.current p s' hs' watched n).2 (kept'.sane.mem_childNames_iff.2 ⟨back, isChild⟩)
  obtain ⟨served', subscribed⟩ := followed.known s' hs' known
  exact ⟨subscribed, kept'.armed caught.alive (caught.unsent _ _) subscribed (caught.tried_data _)
    served'.answered⟩

end childBack

section expired

variable (before : w.setting.Kept) {p q : Path}
include before

theorem contains_expired (lasting : w.outside.service.Lasting p) :
    w.expired.outside.service.nodes.contains p = true :=
  (MemoryService.contains_expireSession before.sane).2 lasting

theorem missing_expired (fleeting : ¬w.outside.service.Lasting p) :
    w.expired.outside.service.nodes.contains p = false := by
  rw [← Bool.not_eq_true]
  exact fun left => fleeting ((MemoryService.contains_expireSession before.sane).1 left)

/-- A stubborn child that has gone with the session is created again below a node that lasts. -/
theorem fostered_back (caught : CaughtUp w.expired w₁ w₂ done w')
    (complete : w.coordinator.failFast = false ∨ done.1 = .ok ())
    (empty : w.outside.service.channel = []) (sheltered : w.setting.Sheltered)
    (subscribed : w.coordinator.data.contains q = true) (fleeting : ¬w.outside.service.Lasting q)
    (fostered : w.coordinator.Fostered q) :
    w'.coordinator.data.contains q = true ∧ w'.outside.service.armed q .data = true := by
  obtain ⟨p, s, parent, hs, watches⟩ := fostered
  obtain ⟨n, found, safe⟩ := sheltered q .data subscribed
  have marked : w.coordinator.stubborn.contains q = true := by
    refine safe ?_
    cases mode : n.mode with
    | persistent => exact absurd ⟨n, found, mode⟩ fleeting
    | ephemeral => rfl
  have there : w.outside.service.nodes.contains q = true := Table.contains_of_get? found
  have above : w.outside.service.Lasting p := before.sane.rooted q p there parent
  have valid : q.defect? = none := before.sane.paths q there
  have unsent : .watch p .children ∉ w.expired.resumed.outside.service.channel := by
    simp [World.resumed, World.noting, World.expired, World.withService, MemoryService.reconnect,
      MemoryService.expireSession, MemoryService.send, empty]
  have creatable : w.expired.resumed.outside.service.Creatable q := by
    obtain ⟨m, left, persistent⟩ := MemoryService.lasting_expireSession above
    refine ⟨valid, p, m, parent, ?_, persistent⟩
    rw [show w.expired.resumed.outside.service.nodes = _ from
      MemoryService.nodes_reconnect w.expired.outside.service]
    exact left
  have hq : p.child q.name = q := Path.child_name_of_parent? valid parent
  have isChild : p.IsChildName q.name := ⟨by rwa [hq], by rw [hq]⟩
  have back := caught.child_back (World.kept_expired before) complete unsent (n := q.name) hs
    watches isChild (contains_expired before above)
  rw [hq] at back
  exact back (missing_expired before fleeting) creatable marked

end expired

/-- What comes of subscriptions when the session expires and is connected again at once, with
nothing left to be handled and all nodes that are subscribed to there or stubborn. No child
subscription goes, and no data subscription of a node that lasts; none comes but for children whose
data is watched through the parent. What lasts is watched again, and so is the data of those
children, unless a failure has cut the recovery short. A plain data subscription of any other node
tells that the node is gone, and has ended. -/
theorem subscriptions_survive_expiry {audience : Audience (Backstage τ)}
    (tame : Tame memoryClient (MemoryStep .any) audience) {w₀ : World (Backstage τ)}
    (isNew : w₀.IsNew)
    (run : Relation.ReflTransGen (MemoryStep .any (memoryClient.facing audience)) w₀ w)
    (empty : w.outside.service.channel = []) (sheltered : w.setting.Sheltered)
    {quiet : Audience (Backstage τ)} (aloof : quiet.Aloof) (order : Enumeration) :
    let outcome := (w.expired.reconnectIn order (memoryClient.facing quiet)).1
    let w' := w.expired.catchUp order (memoryClient.facing quiet)
    (∀ p : Path, w'.coordinator.children.contains p = w.coordinator.children.contains p) ∧
      (∀ q : Path, w'.coordinator.data.contains q = true →
        w.coordinator.data.contains q = true ∨ w.coordinator.Fostered q) ∧
      (∀ q : Path, w.coordinator.data.contains q = true → w.outside.service.Lasting q →
        w'.coordinator.data.contains q = true ∧ w'.outside.service.armed q .data = true) ∧
      (w.coordinator.failFast = false ∨ outcome = .ok () →
        (∀ p : Path, w.coordinator.children.contains p = true → w.outside.service.Lasting p →
          w'.outside.service.armed p .children = true) ∧
        ∀ q : Path, w.coordinator.data.contains q = true → w.coordinator.Fostered q →
          w'.coordinator.data.contains q = true ∧ w'.outside.service.armed q .data = true) ∧
      ∀ (q : Path) e, w.coordinator.data.get? q = some e → e.owner? = none →
        ¬w.outside.service.Lasting q → ¬w.coordinator.Fostered q →
        w'.coordinator.changesFor e.id q = w.coordinator.changesFor e.id q ++ [.deleted] ∧
          w'.coordinator.data.contains q = false := by
  intro outcome w'
  have before : w.setting.Kept := isNew.kept_of_run tame run
  have kept : w.expired.setting.Kept := World.kept_expired before
  obtain ⟨w₁, w₂, caught⟩ := catchUp_caughtUp aloof order kept.sane
  have sameChildren (p : Path) :
      w'.coordinator.children.contains p = w.coordinator.children.contains p := by
    have same := congrArg Option.isSome (caught.faces p)
    rwa [Option.isSome_map, Option.isSome_map] at same
  have lastingData (q : Path) (subscribed : w.coordinator.data.contains q = true)
      (lasting : w.outside.service.Lasting q) :
      w'.coordinator.data.contains q = true ∧ w'.outside.service.armed q .data = true := by
    have there := contains_expired before lasting
    have still := caught.subscribed kept there subscribed
    exact ⟨still, caught.armed kept there (caught.tried_data q) still⟩
  refine ⟨sameChildren, fun q after => ?_, lastingData, fun complete => ⟨?_, ?_⟩, ?_⟩
  · by_contra new
    rw [not_or, Bool.not_eq_true] at new
    have none : w'.coordinator.data.get? q = none :=
      unsubscribed_along caught.upkeep kept.resumed.sane new.2 (Table.contains_eq_false.1 new.1)
    rw [Table.contains_eq_false.2 none] at after
    cases after
  · intro p subscribed lasting
    have still : w'.coordinator.children.contains p = true := (sameChildren p).trans subscribed
    exact caught.armed kept (contains_expired before lasting) (caught.tried_children complete p)
      still
  · intro q subscribed fostered
    by_cases lasting : w.outside.service.Lasting q
    · exact lastingData q subscribed lasting
    · exact fostered_back before caught complete empty sheltered subscribed lasting fostered
  · intro q e registered plain fleeting unfostered
    have missing := missing_expired before fleeting
    have ended := caught.ended registered plain missing
    have none : w'.coordinator.data.get? q = none := by
      refine unsubscribed_along caught.later ?_ ?_ ended.data
      · exact upkeep_sane caught.phases.first.upkeep kept.resumed.sane
      · exact fun fostered => unfostered (fostered_before caught.phases.first.upkeep fostered)
    exact ⟨(caught.retired kept registered plain missing).1, Table.contains_eq_false.2 none⟩

/-- An ephemeral child whose data is watched through the parent, and one that is on its own. -/
theorem fostered_child_survives_expiry :
    let w := World.blank.play [.change (.create "/a" .empty),
      .command (.listen "/a" "one" (.children true)),
      .command (.createEphemeral "/a/c" ⟨#[1]⟩ true), .handleNext,
      .command (.createEphemeral "/e" ⟨#[2]⟩ true), .command (.listen "/e" "two" .data)]
    let w' := w.expired.catchUp .ascending (memoryClient.facing .silent)
    (w'.outside.service.armed "/a" .children = true ∧ w'.coordinator.data.contains "/a/c" = true ∧
        w'.outside.service.armed "/a/c" .data = true) ∧
      ∃ e, w.coordinator.data.get? "/e" = some e ∧ w'.coordinator.changesFor e.id "/e" =
        w.coordinator.changesFor e.id "/e" ++ [.deleted] := by
  intro w w'
  have run : Relation.ReflTransGen (MemoryStep .any (memoryClient.facing .silent)) .blank w :=
    play_run (allows_any _ _)
  have empty : w.outside.service.channel = [] := by decide
  have sheltered : w.setting.Sheltered := by decide
  have patient : w.coordinator.failFast = false := by decide
  have watching : w.coordinator.children.contains "/a" = true := by decide
  have lasting : (w.outside.service.nodes.get? "/a").any (fun n => n.mode == .persistent) = true :=
    by decide
  have following : w.coordinator.data.contains "/a/c" = true := by decide
  have parent : (w.coordinator.children.get? "/a").any (·.watchesChildData) = true := by decide
  have own : (w.coordinator.data.get? "/e").any (fun e => e.owner? == none) = true := by decide
  have fleeting : (w.outside.service.nodes.get? "/e").all (fun n => n.mode == .ephemeral) = true :=
    by decide
  have lonely : w.coordinator.children.get? "/" = none := by decide
  have survived := subscriptions_survive_expiry .silent blank_isNew run empty sheltered aloof_silent
    .ascending
  have catching : w.expired.catchUp .ascending (memoryClient.facing .silent) = w' := rfl
  rw [catching] at survived
  clear_value w' w
  obtain ⟨-, -, -, lasts, ends⟩ := survived
  obtain ⟨watched, fostered⟩ := lasts (.inl patient)
  obtain ⟨n, found, mode⟩ := (Option.any_eq_true _ _).1 lasting
  obtain ⟨s, hs, watches⟩ := (Option.any_eq_true _ _).1 parent
  obtain ⟨e, he, plain⟩ := (Option.any_eq_true _ _).1 own
  refine ⟨⟨watched "/a" watching ⟨n, found, by simpa using mode⟩, ?_⟩, e, he, ?_⟩
  · exact fostered "/a/c" following ⟨"/a", s, by decide, hs, watches⟩
  · refine (ends "/e" e he (by simpa using plain) ?_ ?_).1
    · rintro ⟨n, found, mode⟩
      rw [found] at fleeting
      simp [mode] at fleeting
    · rintro ⟨p, s, above, hs, -⟩
      obtain rfl : "/" = p := Option.some.inj above
      rw [lonely] at hs
      cases hs

/-- A stubborn node whose data is watched comes back when the session has expired, but the
subscription to its data does not. -/
theorem own_data_ends_with_session :
    let w := World.blank.play [.command (.createEphemeral "/e" ⟨#[1]⟩ true),
      .command (.listen "/e" "one" .data)]
    let w' := w.expired.catchUp .ascending (memoryClient.facing .silent)
    w.outside.service.alive = true ∧ w.outside.service.channel = [] ∧ w.setting.Sheltered ∧
      w.coordinator.data.contains "/e" = true ∧ w'.outside.service.nodes.contains "/e" = true ∧
      w'.coordinator.data.contains "/e" = false ∧ w'.outside.service.armed "/e" .data = false := by
  decide

end DurableWatch
