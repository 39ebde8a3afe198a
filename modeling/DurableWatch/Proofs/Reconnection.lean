import DurableWatch.Proofs.UpToDate

/-!
# Reconnection

To connect again and to handle every notification brings all subscriptions up to date. A node that
is there when the session is connected stays, so no watched read of it is refused from then on; each
of its subscriptions has read it once, and what that read armed is armed again whenever it fires. A
plain data subscription whose node is missing ends in the first phase of the recovery, and nothing
is heard of it after that.
-/
namespace DurableWatch

open World Coordinator Setting

/-! ### Subscriptions that have ended -/

namespace Coordinator

variable {c c' : Coordinator} {i : Nat} {q : Path}

/-- The number `i` was given away once; no child subscription has it now, and at `q` no data
subscription has it or stands for one that has. -/
structure Retired (i : Nat) (q : Path) (c : Coordinator) : Prop where
  used : i < c.nextId
  children : ∀ (p : Path) s, c.children.get? p = some s → s.id ≠ i
  data : ∀ e, c.data.get? q = some e → e.id ≠ i ∧ e.family ≠ i

/-- Numbers are not given away twice, so what has ended says nothing more. -/
theorem Retired.move (retired : Retired i q c) (move : Coordinator.Move c c') :
    Retired i q c' ∧ c'.changesFor i q = c.changesFor i q := by
  obtain ⟨used, children, data⟩ := retired
  cases move with
  | aside sameChildren sameData nextId journal =>
    refine ⟨⟨nextId ▸ used, ?_, ?_⟩, changesFor_congr journal i q⟩
    · rwa [sameChildren]
    · rwa [sameData]
  | @reread p e d registered =>
    refine ⟨⟨used, children, data⟩, changesFor_others rfl fun r hr => ?_⟩
    obtain rfl := List.mem_singleton.1 hr
    by_cases hp : p = q
    · subst hp
      exact .inl (data e registered).2
    · exact .inr hp
  | @ended p e registered plain =>
    rw [removeDataIf_of_get? registered]
    refine ⟨⟨used, children, fun e' he' => data e' (Table.get?_of_erase he')⟩,
      changesFor_others rfl fun r hr => ?_⟩
    obtain rfl := List.mem_singleton.1 hr
    by_cases hp : p = q
    · subst hp
      exact .inl (data e registered).2
    · exact .inr hp
  | @pass p s delivery snapshot new registered covers =>
    have grows := nextId_le_absorb (c := c) (p := p) (s := s) delivery
      (ChildDiff.between s.known snapshot) new
    have other : s.id ≠ i := children p s registered
    refine ⟨⟨Nat.lt_of_lt_of_le used grows, fun r s' hs' => ?_, fun e he => ?_⟩, ?_⟩
    · rw [children_absorb registered] at hs'
      split at hs'
      · cases hs'
        exact other
      · exact children r s' hs'
    · rw [data_absorb] at he
      split at he
      · cases he
      · rcases data_addFound c p s new.found q with ⟨same, -⟩ | ⟨-, -, id, isNew, -, hget⟩
        · exact data e (same ▸ he)
        · rw [hget] at he
          cases he
          exact ⟨Nat.ne_of_gt (Nat.lt_of_lt_of_le used isNew), other⟩
    · refine changesFor_others (journal_absorb delivery _ new) fun r hr => .inl ?_
      rw [family_of_pass hr]
      exact other
  | addChildren p l withData =>
    refine ⟨⟨Nat.lt_succ_of_lt used, fun r s hs => ?_, data⟩, changesFor_congr rfl i q⟩
    rcases Table.get?_of_insert hs with ⟨-, rfl⟩ | before
    · exact Nat.ne_of_gt used
    · exact children r s before
  | addData p l =>
    refine ⟨⟨Nat.lt_succ_of_lt used, children, fun e he => ?_⟩, changesFor_congr rfl i q⟩
    rcases Table.get?_of_insert he with ⟨-, rfl⟩ | before
    · exact ⟨Nat.ne_of_gt used, Nat.ne_of_gt used⟩
    · exact data e before
  | removeChildren p =>
    exact ⟨⟨used, fun r s hs => children r s (Table.get?_of_erase hs), data⟩,
      changesFor_congr rfl i q⟩
  | removeData p =>
    exact ⟨⟨used, children, fun e he => data e (Table.get?_of_erase he)⟩,
      changesFor_congr rfl i q⟩

theorem Retired.moves (retired : Retired i q c)
    (moves : Relation.ReflTransGen Coordinator.Move c c') :
    Retired i q c' ∧ c'.changesFor i q = c.changesFor i q := by
  induction moves with
  | refl => exact ⟨retired, rfl⟩
  | tail _ move ih =>
    obtain ⟨still, same⟩ := ih.1.move move
    exact ⟨still, same.trans ih.2⟩

/-- A plain data subscription that has ended is retired. -/
theorem retired_of_ended {e : DataSubscription} (sound : c.Sound)
    (registered : c.data.get? q = some e) (plain : e.owner? = none) (ended : Ended q e c c') :
    Retired e.id q c' where
  used := by
    rw [ended.nextId]
    exact (sound.numbered.data q e registered).1
  children p s hs same := by
    rw [ended.children] at hs
    have own : e.family = s.id := by
      rw [DataSubscription.family, plain, same]
      rfl
    have managed := ((sound.tracks p s hs).managed q e registered own).2.1
    rw [plain] at managed
    cases managed
  data e' he' := by
    rw [ended.data] at he'
    cases he'

end Coordinator

/-! ### Handling all that is in the channel -/

variable {τ : Type} {w : World (Backstage τ)} {audience : Audience (Backstage τ)}

/-- Listeners that leave the coordinator and the service alone. -/
structure Audience.Aloof (audience : Audience (Backstage τ)) : Prop where
  hear : ∀ l event w, (audience.hear l event w).2.setting = w.setting
  hearState : ∀ l state w, (audience.hearState l state w).2.setting = w.setting

theorem aloof_silent : Audience.Aloof (τ := τ) .silent := ⟨fun _ _ _ => rfl, fun _ _ _ => rfl⟩

/-- Hands over as many notifications as there are in the channel, one after the other. -/
def World.handleAll (host : Host (Backstage τ)) (w : World (Backstage τ)) : World (Backstage τ) :=
  (handleNext host)^[w.outside.service.channel.length] w

/-- Handling a notification takes it from the channel, and puts none there. -/
theorem handleNext_upkeep (aloof : audience.Aloof) (sane : w.outside.service.Sane) :
    Relation.ReflTransGen Upkeep w.setting (w.handleNext (memoryClient.facing audience)).setting ∧
      (w.handleNext (memoryClient.facing audience)).outside.service.channel =
        w.outside.service.channel.tail := by
  unfold World.handleNext
  split
  · next empty => exact ⟨.refl, by rw [empty]; rfl⟩
  · next note rest next =>
    let popped := w.withService { w.outside.service with channel := rest }
    have taken : Taken w.setting note popped.setting := ⟨rfl, .inr ⟨rest, next, rfl⟩⟩
    rw [next, List.tail_cons]
    unfold onNotification
    rcases note with ⟨p, _ | _⟩ | state
    · obtain ⟨result, w', h, upkeep, -⟩ := dataChange_upkeep audience taken rfl sane
      have consulted := dataChange_consulted audience p popped
      rw [h] at consulted
      rw [dropFailure_world, h]
      exact ⟨upkeep, consulted.channel⟩
    · obtain ⟨result, w', h, upkeep, -⟩ := childChange_upkeep audience taken rfl sane
      have consulted := childChange_consulted audience p popped
      rw [h] at consulted
      rw [dropFailure_world, h]
      exact ⟨upkeep, consulted.channel⟩
    · have still : (notifyState (memoryClient.facing audience) state popped).2.setting =
          popped.setting := by
        unfold notifyState
        split
        · rfl
        · next l _ =>
          have heard := aloof.hearState l state popped
          split
          · next h =>
            rw [← heard]
            exact (congrArg (fun r => r.2.setting) h).symm
          · next h =>
            rw [← heard]
            exact (congrArg (fun r => r.2.setting) h).symm
      refine ⟨?_, congrArg (fun a => a.service.channel) still⟩
      rw [show (notifyState _ state _).2.setting = popped.setting from still]
      refine .single (.unclaimed taken rfl ?_)
      intro q k h
      cases h

theorem iterate_handleNext_upkeep (aloof : audience.Aloof) (n : Nat) {w : World (Backstage τ)}
    (sane : w.outside.service.Sane) :
    Relation.ReflTransGen Upkeep w.setting
        ((handleNext (memoryClient.facing audience))^[n] w).setting ∧
      ((handleNext (memoryClient.facing audience))^[n] w).outside.service.channel =
        w.outside.service.channel.drop n := by
  induction n generalizing w with
  | zero => exact ⟨.refl, rfl⟩
  | succ n ih =>
    obtain ⟨first, popped⟩ := handleNext_upkeep aloof sane
    obtain ⟨rest, dropped⟩ := ih (upkeep_sane first sane)
    rw [Function.iterate_succ_apply]
    refine ⟨first.trans rest, ?_⟩
    rw [dropped, popped, List.drop_tail]

theorem handleAll_upkeep (aloof : audience.Aloof) (sane : w.outside.service.Sane) :
    Relation.ReflTransGen Upkeep w.setting
        (w.handleAll (memoryClient.facing audience)).setting ∧
      (w.handleAll (memoryClient.facing audience)).outside.service.channel = [] := by
  obtain ⟨upkeep, dropped⟩ :=
    iterate_handleNext_upkeep aloof w.outside.service.channel.length sane
  exact ⟨upkeep, dropped.trans List.drop_length⟩

/-! ### What upkeep keeps -/

namespace Setting

variable {rule : Rule} {a b : Setting} {p q : Path} {kind : WatchKind}

theorem Kept.upkeep (kept : Kept a) (upkeep : Relation.ReflTransGen Upkeep a b) : Kept b :=
  upkeep_preserve (fun _ _ _ kept step => kept.move (step.move .any)) kept.sane kept upkeep

/-- A watch that has been tried is armed, unless its fire waits to be handled or the last read was
refused. -/
theorem Kept.armed (kept : Kept a) (alive : a.service.alive = true)
    (unsent : .watch p kind ∉ a.service.channel) (subscribed : a.subscribed p kind = true)
    (tried : Tried p kind a) (served : a.lastTry p kind ≠ some false) :
    a.service.armed p kind = true := by
  have answered : a.lastTry p kind = some true := by
    cases last : a.lastTry p kind with
    | none => exact absurd last (tried subscribed)
    | some answered =>
      cases answered with
      | true => rfl
      | false => exact absurd last served
  exact (kept.watching.answered alive p kind subscribed answered).resolve_right unsent

theorem upkeep_coordinator (upkeep : Relation.ReflTransGen Upkeep a b) :
    Relation.ReflTransGen Coordinator.Move a.coordinator b.coordinator :=
  Relation.ReflTransGen.lift' Setting.coordinator
    (fun _ _ step => (step.move .any).coordinator_moves) _ _ upkeep

/-! ### Nodes that are there all the time -/

/-- The session is alive, the node is there, and the last read for this watch was not refused. -/
structure Served (q : Path) (kind : WatchKind) (a : Setting) : Prop where
  alive : a.service.alive = true
  there : a.service.nodes.contains q = true
  answered : a.lastTry q kind ≠ some false

theorem Served.ne_of_missed {k : WatchKind} (served : Served q kind a) (missed : Missed a b p k) :
    q ≠ p := by
  rintro rfl
  have missing := missed.absent served.alive
  rw [served.there] at missing
  cases missing

theorem Served.upkeep (served : Served q kind a) (upkeep : Upkeep a b) : Served q kind b where
  alive := upkeep.grown.alive.trans served.alive
  there := upkeep.grown.contains served.there
  answered := by
    cases (upkeep.move .any).reads with
    | none quiet =>
      rw [quiet.tries]
      exact served.answered
    | @some seen looked _ =>
      by_cases hit : seen q kind
      · rw [looked.tried q kind hit]
        simp
      · rw [looked.others q kind hit]
        exact served.answered
    | failed missed _ =>
      rw [missed.others q kind fun own => served.ne_of_missed missed own.1]
      exact served.answered

theorem served_along (served : Served q kind a) (upkeep : Relation.ReflTransGen Upkeep a b) :
    Served q kind b := by
  induction upkeep with
  | refl => exact served
  | tail _ step ih => exact ih.upkeep step

theorem served_resumed (there : a.service.nodes.contains q = true) : Served q kind a.resumed where
  alive := MemoryService.alive_reconnect a.service
  there := by rwa [resumed, MemoryService.nodes_reconnect]
  answered := by
    rw [lastTry_resumed]
    simp

/-- Someone stays subscribed to the data of a node that is there. -/
theorem Served.subscribed (served : Served q kind a) (kept : Kept a) (upkeep : Upkeep a b)
    (before : a.coordinator.data.contains q = true) : b.coordinator.data.contains q = true := by
  cases upkeep with
  | aside beside _ _ _ _ => rwa [beside.data]
  | unclaimed _ coordinator _ => rwa [coordinator]
  | reread d _ _ coordinator _ =>
    rw [coordinator]
    exact before
  | unread _ coordinator => rwa [coordinator]
  | @ended p e _ _ missed coordinator =>
    rw [coordinator]
    change (a.coordinator.data.erase p).contains q = true
    simp [served.ne_of_missed missed, before]
  | @pass p s delivery new passed =>
    rcases passed.entry q with ⟨-, -, id, -, hget⟩ | ⟨-, ⟨n, known, unlisted, rfl⟩, -⟩ | ⟨same, -⟩
    · exact Table.contains_of_get? hget
    · have isChild := kept.faithful.names p s passed.registered n known
      exact absurd (kept.sane.mem_childNames_iff.2 ⟨served.there, isChild⟩) unlisted
    · rw [Table.contains, same]
      exact before

theorem subscribed_along (served : Served q kind a) (kept : Kept a)
    (upkeep : Relation.ReflTransGen Upkeep a b) (before : a.coordinator.data.contains q = true) :
    b.coordinator.data.contains q = true := by
  induction upkeep with
  | refl => exact before
  | tail so_far step ih =>
    exact (served_along served so_far).subscribed (kept.upkeep so_far) step ih

end Setting

/-! ### Connecting again -/

/-- Connects again, and then handles every notification. -/
def World.catchUp (order : Enumeration) (host : Host (Backstage τ)) (w : World (Backstage τ)) :
    World (Backstage τ) :=
  (w.reconnectIn order host).2.handleAll host

/-- How `w` catches up: by a recovery that ends as `done`, `w₁` and `w₂` being the worlds after its
first and second phases, and by handling the notifications, which leads to `w'`. -/
structure CaughtUp (w w₁ w₂ : World (Backstage τ)) (done : Except Stop Unit × World (Backstage τ))
    (w' : World (Backstage τ)) : Prop where
  phases : Phases w.resumed w₁ w₂ done
  handled : Relation.ReflTransGen Upkeep done.2.setting w'.setting
  empty : w'.outside.service.channel = []

theorem catchUp_caughtUp (aloof : audience.Aloof) (order : Enumeration)
    (sane : w.outside.service.Sane) :
    ∃ w₁ w₂, CaughtUp w w₁ w₂ (w.reconnectIn order (memoryClient.facing audience))
      (w.catchUp order (memoryClient.facing audience)) := by
  obtain ⟨w₁, w₂, phases⟩ := reconnectIn_phases audience order sane
  obtain ⟨handled, empty⟩ :=
    handleAll_upkeep aloof (upkeep_sane phases.upkeep (sane_reconnect sane))
  exact ⟨w₁, w₂, phases, handled, empty⟩

section caughtUp

variable {w₁ w₂ w' : World (Backstage τ)} {done : Except Stop Unit × World (Backstage τ)}

theorem CaughtUp.upkeep (caught : CaughtUp w w₁ w₂ done w') :
    Relation.ReflTransGen Upkeep w.setting.resumed w'.setting :=
  caught.phases.upkeep.trans caught.handled

theorem CaughtUp.later (caught : CaughtUp w w₁ w₂ done w') :
    Relation.ReflTransGen Upkeep w₁.setting w'.setting :=
  (caught.phases.second.upkeep.trans caught.phases.third).trans caught.handled

theorem CaughtUp.kept (caught : CaughtUp w w₁ w₂ done w') (kept : w.setting.Kept) :
    w'.setting.Kept := kept.resumed.upkeep caught.upkeep

theorem CaughtUp.alive (caught : CaughtUp w w₁ w₂ done w') : w'.outside.service.alive = true :=
  (upkeep_grown caught.upkeep).alive.trans (MemoryService.alive_reconnect w.outside.service)

theorem CaughtUp.unsent (caught : CaughtUp w w₁ w₂ done w') (p : Path) (kind : WatchKind) :
    .watch p kind ∉ w'.outside.service.channel := by
  rw [caught.empty]
  exact List.not_mem_nil

theorem CaughtUp.tried_data (caught : CaughtUp w w₁ w₂ done w') (p : Path) :
    Tried p .data w'.setting :=
  Tried.upkeep (caught.phases.data p) caught.later

theorem CaughtUp.tried_children (caught : CaughtUp w w₁ w₂ done w')
    (complete : w.coordinator.failFast = false ∨ done.1 = .ok ()) (p : Path) :
    Tried p .children w'.setting :=
  Tried.upkeep ((caught.phases.complete complete).1 p) (caught.phases.third.trans caught.handled)

/-- The watches of a node that has been there from the start are armed. -/
theorem CaughtUp.armed (caught : CaughtUp w w₁ w₂ done w') (kept : w.setting.Kept) {p : Path}
    {kind : WatchKind} (there : w.outside.service.nodes.contains p = true)
    (tried : Tried p kind w'.setting) (subscribed : w'.setting.subscribed p kind = true) :
    w'.outside.service.armed p kind = true := by
  have served : Served p kind w'.setting :=
    served_along (served_resumed (a := w.setting) there) caught.upkeep
  exact (caught.kept kept).armed caught.alive (caught.unsent p kind) subscribed tried
    served.answered

theorem CaughtUp.subscribed (caught : CaughtUp w w₁ w₂ done w') (kept : w.setting.Kept) {q : Path}
    (there : w.outside.service.nodes.contains q = true)
    (before : w.coordinator.data.contains q = true) : w'.coordinator.data.contains q = true := by
  have served : Served q .data w.setting.resumed := served_resumed there
  exact subscribed_along served kept.resumed caught.upkeep before

theorem CaughtUp.faces (caught : CaughtUp w w₁ w₂ done w') (p : Path) :
    (w'.coordinator.children.get? p).map ChildSubscription.face =
      (w.coordinator.children.get? p).map ChildSubscription.face := upkeep_faces caught.upkeep p

/-- A plain data subscription of a missing node ends in the first phase. -/
theorem CaughtUp.ended (caught : CaughtUp w w₁ w₂ done w') {q : Path} {e : DataSubscription}
    (registered : w.coordinator.data.get? q = some e) (plain : e.owner? = none)
    (missing : w.outside.service.nodes.contains q = false) :
    Ended q e w.coordinator w₁.coordinator := by
  have gone : w.resumed.outside.service.nodes.contains q = false := by
    rw [show w.resumed.outside.service.nodes = w.outside.service.nodes from
      MemoryService.nodes_reconnect w.outside.service]
    exact missing
  exact caught.phases.ended q e registered plain gone

/-- It has told that the node is gone, and tells nothing more. -/
theorem CaughtUp.retired (caught : CaughtUp w w₁ w₂ done w') (kept : w.setting.Kept) {q : Path}
    {e : DataSubscription} (registered : w.coordinator.data.get? q = some e)
    (plain : e.owner? = none) (missing : w.outside.service.nodes.contains q = false) :
    w'.coordinator.changesFor e.id q = w.coordinator.changesFor e.id q ++ [.deleted] ∧
      ∀ e', w'.coordinator.data.get? q = some e' → e'.id ≠ e.id := by
  have ended := caught.ended registered plain missing
  obtain ⟨retired, same⟩ :=
    (retired_of_ended kept.sound registered plain ended).moves (upkeep_coordinator caught.later)
  exact ⟨same.trans ended.changes, fun e' he' => (retired.data e' he').1⟩

end caughtUp

/-- The subscriptions of the node at `p` in `c` are still there in `c'`, although passes may have
changed what is known of children, and may have put data subscriptions in the place of others. -/
structure Coordinator.StillSubscribed (p : Path) (c c' : Coordinator) : Prop where
  children : (c'.children.get? p).map ChildSubscription.face =
    (c.children.get? p).map ChildSubscription.face
  data : c.data.contains p = true → c'.data.contains p = true

/-- Every subscription of the node at `p` has its watch armed, and its subscriber is up to date. -/
structure Setting.UpToDate (p : Path) (a : Setting) : Prop where
  children : ∀ s, a.coordinator.children.get? p = some s →
    a.service.armed p .children = true ∧
      ∀ n, s.known.contains n = true ↔ n ∈ a.service.childNames p
  data : ∀ e, a.coordinator.data.get? p = some e → a.service.armed p .data = true ∧
    ∃ node, a.service.nodes.get? p = some node ∧ a.coordinator.LastTold p e node.data

/-- Reconnection catches up, from wherever it starts and in whatever order. The nodes that are there
when it starts keep their subscriptions, each of which is then watched and up to date. A plain data
subscription of a node that is not there tells that the node is gone, and has ended. -/
theorem reconnection_catches_up (tame : Tame memoryClient (MemoryStep .any) audience)
    {w₀ w : World (Backstage τ)} (isNew : w₀.IsNew)
    (run : Relation.ReflTransGen (MemoryStep .any (memoryClient.facing audience)) w₀ w)
    (patient : w.coordinator.failFast = false) {quiet : Audience (Backstage τ)}
    (aloof : quiet.Aloof) (order : Enumeration) :
    let w' := w.catchUp order (memoryClient.facing quiet)
    w'.outside.service.channel = [] ∧
      (∀ p : Path, w.outside.service.nodes.contains p = true →
        StillSubscribed p w.coordinator w'.coordinator ∧ UpToDate p w'.setting) ∧
      ∀ (q : Path) e, w.coordinator.data.get? q = some e → e.owner? = none →
        w.outside.service.nodes.contains q = false →
        w'.coordinator.changesFor e.id q = w.coordinator.changesFor e.id q ++ [.deleted] ∧
          ∀ e', w'.coordinator.data.get? q = some e' → e'.id ≠ e.id := by
  intro w'
  have before : w.setting.Kept := isNew.kept_of_run tame run
  obtain ⟨w₁, w₂, caught⟩ := catchUp_caughtUp aloof order before.sane
  have kept : w'.setting.Kept := caught.kept before
  refine ⟨caught.empty, fun p there => ?_, fun q e => caught.retired before⟩
  · refine ⟨⟨caught.faces p, caught.subscribed before there⟩, fun s hs => ?_, fun e he => ?_⟩
    · have watched : w'.outside.service.armed p .children = true :=
        caught.armed before there (caught.tried_children (.inl patient) p)
          (Table.contains_of_get? hs)
      exact ⟨watched, kept.faithful.current p s hs watched⟩
    · have watched : w'.outside.service.armed p .data = true :=
        caught.armed before there (caught.tried_data p) (Table.contains_of_get? he)
      obtain ⟨node, found⟩ := Table.contains_eq_true.1 (kept.sane.watched p .data watched)
      exact ⟨watched, node, found, kept.current p e node he watched found⟩

/-- The session expires; one node gets another child, and the other is deleted. -/
theorem caught_up_after_expiry :
    let w := World.blank.play [.change (.create "/a" .empty), .change (.create "/a/c" ⟨#[1]⟩),
      .change (.create "/b" .empty), .command (.listen "/a" "one" (.children true)),
      .command (.listen "/b" "two" .data), .expire, .change (.create "/a/d" .empty),
      .change (.delete "/b")]
    let w' := w.catchUp .ascending (memoryClient.facing .silent)
    (∃ s, w'.coordinator.children.get? "/a" = some s ∧
        ∀ n, s.known.contains n = true ↔ n ∈ w'.outside.service.childNames "/a") ∧
      (∃ e, w'.coordinator.data.get? "/a/c" = some e ∧
        w'.coordinator.LastTold "/a/c" e ⟨#[1]⟩) ∧
      ∃ e, w.coordinator.data.get? "/b" = some e ∧ w'.coordinator.changesFor e.id "/b" =
        w.coordinator.changesFor e.id "/b" ++ [.deleted] := by
  intro w w'
  have run : Relation.ReflTransGen (MemoryStep .any (memoryClient.facing .silent)) .blank w :=
    play_run (allows_any _ _)
  have patient : w.coordinator.failFast = false := by decide
  have there : w.outside.service.nodes.contains "/a" = true ∧
      w.outside.service.nodes.contains "/a/c" = true ∧
      w.outside.service.nodes.contains "/b" = false := by decide
  have watching : (w'.coordinator.children.get? "/a").isSome = true := by decide
  have following : (w'.coordinator.data.get? "/a/c").isSome = true := by decide
  have waiting : (w.coordinator.data.get? "/b").any (fun e => e.owner?.isNone) = true := by decide
  have data : (w'.outside.service.nodes.get? "/a/c").map Node.data = some ⟨#[1]⟩ := by decide
  have caught := reconnection_catches_up .silent blank_isNew run patient aloof_silent .ascending
  have catching : w.catchUp .ascending (memoryClient.facing .silent) = w' := rfl
  rw [catching] at caught
  -- from here on it does not matter how these worlds came about
  clear_value w' w
  obtain ⟨-, present, missing⟩ := caught
  obtain ⟨s, hs⟩ := Option.isSome_iff_exists.1 watching
  obtain ⟨e, he⟩ := Option.isSome_iff_exists.1 following
  obtain ⟨e', he', plain⟩ := (Option.any_eq_true _ _).1 waiting
  obtain ⟨-, node, found, told⟩ := (present "/a/c" there.2.1).2.data e he
  have same : node.data = ⟨#[1]⟩ := by
    rw [show w'.outside.service.nodes.get? "/a/c" = some node from found] at data
    exact Option.some.inj data
  refine ⟨⟨s, hs, ((present "/a" there.1).2.children s hs).2⟩, ⟨e, he, same ▸ told⟩, e', he', ?_⟩
  exact (missing "/b" e' he' (Option.isNone_iff_eq_none.1 plain) there.2.2).1

end DurableWatch
