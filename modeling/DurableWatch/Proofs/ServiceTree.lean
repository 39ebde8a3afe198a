import DurableWatch.MemoryService
import DurableWatch.Proofs.Lookup
import DurableWatch.Proofs.PathParts
import DurableWatch.Proofs.Routine

/-!
# The service in memory, seen through its watches

A change of the tree fires the watches of what it touches, and a watch is armed only on a node that
is there. `Edited` says what the holder of a watch may rely on when the tree changes: the watch is
either still armed, and then what it watches is the same, or its fire is in the channel.
-/
namespace DurableWatch

/-- Whether `n` is the name of the node that is called `n` below `p`; it is not if `n` has a slash
in it. -/
structure Path.IsChildName (p : Path) (n : String) : Prop where
  parent : (p.child n).parent? = some p
  name : (p.child n).name = n

theorem Path.IsChildName.child_ne {p p' : Path} {n m : String} (h : p.IsChildName n)
    (h' : p'.IsChildName m) (other : p ≠ p') : p.child n ≠ p'.child m := by
  intro same
  have parent := h'.parent
  rw [← same, h.parent] at parent
  exact other (Option.some.inj parent)

namespace MemoryService

variable {s s' : MemoryService}

/-- The number of the session, and whether it has expired. -/
def session (s : MemoryService) : Nat × Bool := (s.sessionId, s.expired)

/-! ### Arming, disarming and firing -/

theorem armed_disarm (s : MemoryService) (p q : Path) (kind k : WatchKind) :
    (s.disarm p kind).armed q k = true ↔ s.armed q k = true ∧ ¬(q = p ∧ k = kind) := by
  cases kind <;> cases k <;> simp [armed, disarm] <;> tauto

theorem armed_arm (s : MemoryService) (p q : Path) (kind k : WatchKind) :
    (s.arm p kind).armed q k = true ↔ s.armed q k = true ∨ (q = p ∧ k = kind) := by
  cases kind <;> cases k <;> simp [armed, arm] <;> tauto

@[simp] theorem nodes_arm (s : MemoryService) (p : Path) (kind : WatchKind) :
    (s.arm p kind).nodes = s.nodes := by cases kind <;> rfl

@[simp] theorem alive_arm (s : MemoryService) (p : Path) (kind : WatchKind) :
    (s.arm p kind).alive = s.alive := by cases kind <;> rfl

@[simp] theorem channel_arm (s : MemoryService) (p : Path) (kind : WatchKind) :
    (s.arm p kind).channel = s.channel := by cases kind <;> rfl

@[simp] theorem pending_arm (s : MemoryService) (p : Path) (kind : WatchKind) :
    (s.arm p kind).pending = s.pending := by cases kind <;> rfl

@[simp] theorem session_arm (s : MemoryService) (p : Path) (kind : WatchKind) :
    (s.arm p kind).session = s.session := by cases kind <;> rfl

@[simp] theorem nodes_disarm (s : MemoryService) (p : Path) (kind : WatchKind) :
    (s.disarm p kind).nodes = s.nodes := by cases kind <;> rfl

@[simp] theorem alive_disarm (s : MemoryService) (p : Path) (kind : WatchKind) :
    (s.disarm p kind).alive = s.alive := by cases kind <;> rfl

@[simp] theorem channel_disarm (s : MemoryService) (p : Path) (kind : WatchKind) :
    (s.disarm p kind).channel = s.channel := by cases kind <;> rfl

@[simp] theorem pending_disarm (s : MemoryService) (p : Path) (kind : WatchKind) :
    (s.disarm p kind).pending = s.pending := by cases kind <;> rfl

@[simp] theorem session_disarm (s : MemoryService) (p : Path) (kind : WatchKind) :
    (s.disarm p kind).session = s.session := by cases kind <;> rfl

@[simp] theorem nodes_reconnect (s : MemoryService) : s.reconnect.nodes = s.nodes := by
  unfold reconnect
  split <;> rfl

@[simp] theorem armed_reconnect (s : MemoryService) (p : Path) (kind : WatchKind) :
    s.reconnect.armed p kind = s.armed p kind := by
  unfold reconnect
  split
  · rfl
  · cases kind <;> rfl

@[simp] theorem alive_reconnect (s : MemoryService) : s.reconnect.alive = true := by
  unfold reconnect
  split
  · next alive => exact alive
  · rfl

/-- `s'` comes from `s` by fires only. -/
structure Fired (s s' : MemoryService) : Prop where
  nodes : s'.nodes = s.nodes
  alive : s'.alive = s.alive
  session : s'.session = s.session
  settled : s.alive = true → s'.pending = s.pending
  unarms : ∀ q k, s'.armed q k = true → s.armed q k = true
  fires : s.alive = true → ∀ q k, s.armed q k = true →
    s'.armed q k = true ∨ .watch q k ∈ s'.channel
  keeps : ∀ n ∈ s.channel, n ∈ s'.channel
  sends : ∀ q k, .watch q k ∈ s'.channel → .watch q k ∈ s.channel ∨ s.armed q k = true

theorem Fired.trans {s₁ s₂ s₃ : MemoryService} (h : Fired s₁ s₂) (h' : Fired s₂ s₃) :
    Fired s₁ s₃ where
  nodes := h'.nodes.trans h.nodes
  alive := h'.alive.trans h.alive
  session := h'.session.trans h.session
  settled alive := (h'.settled (h.alive.trans alive)).trans (h.settled alive)
  unarms q k armed := h.unarms q k (h'.unarms q k armed)
  fires alive q k armed := by
    rcases h.fires alive q k armed with still | sent
    · exact h'.fires (h.alive.trans alive) q k still
    · exact .inr (h'.keeps _ sent)
  keeps n hn := h'.keeps n (h.keeps n hn)
  sends q k sent := by
    rcases h'.sends q k sent with before | armed
    · exact h.sends q k before
    · exact .inr (h.unarms q k armed)

theorem Fired.refl (s : MemoryService) : Fired s s :=
  ⟨rfl, rfl, rfl, fun _ => rfl, fun _ _ armed => armed, fun _ _ _ armed => .inl armed,
    fun _ hn => hn, fun _ _ sent => .inl sent⟩

/-- A fire disarms this one watch, and its notification is sent while the session is connected. -/
theorem fired_fire (s : MemoryService) (p : Path) (kind : WatchKind) : Fired s (s.fire p kind) := by
  unfold fire
  split
  · next fires =>
    dsimp only
    split
    · next alive =>
      rw [alive_disarm] at alive
      refine ⟨nodes_disarm s p kind, alive_disarm s p kind, session_disarm s p kind,
        fun _ => pending_disarm s p kind, ?_, ?_, ?_, ?_⟩
      · intro q k armed
        exact ((armed_disarm s p q kind k).1 armed).1
      · intro _ q k armed
        by_cases h : q = p ∧ k = kind
        · refine .inr ?_
          simp [send, h.1, h.2]
        · exact .inl ((armed_disarm s p q kind k).2 ⟨armed, h⟩)
      · intro n hn
        simp [send, hn]
      · intro q k sent
        simp only [send, channel_disarm, List.mem_append, List.mem_singleton,
          Notification.watch.injEq] at sent
        rcases sent with before | ⟨rfl, rfl⟩
        · exact .inl before
        · exact .inr fires
    · next lost =>
      rw [alive_disarm] at lost
      refine ⟨nodes_disarm s p kind, alive_disarm s p kind, session_disarm s p kind,
        fun alive => absurd alive lost, ?_, ?_, ?_, ?_⟩
      · intro q k armed
        exact ((armed_disarm s p q kind k).1 armed).1
      · intro alive
        exact absurd alive lost
      · intro n hn
        simpa using hn
      · intro q k sent
        exact .inl (by simpa using sent)
  · exact Fired.refl s

theorem fire_of_unarmed {p : Path} {kind : WatchKind} (unarmed : s.armed p kind = false) :
    s.fire p kind = s := by
  simp [fire, unarmed]

/-- A fire disarms its own watch and no other. -/
theorem armed_fire (s : MemoryService) (p q : Path) (k kind : WatchKind) :
    (s.fire p k).armed q kind = true ↔ s.armed q kind = true ∧ (q, kind) ≠ (p, k) := by
  by_cases fires : s.armed p k = true
  · have same : (s.fire p k).armed q kind = (s.disarm p k).armed q kind := by
      simp only [fire, fires, if_true]
      cases kind <;> split <;> rfl
    rw [same, armed_disarm]
    simp
  · rw [fire_of_unarmed (Bool.eq_false_of_not_eq_true fires)]
    constructor
    · intro armed
      refine ⟨armed, ?_⟩
      rintro ⟨⟩
      exact fires armed
    · exact And.left

theorem armed_fire_self (s : MemoryService) (p : Path) (kind : WatchKind) :
    (s.fire p kind).armed p kind = false := by
  rw [Bool.eq_false_iff, ne_eq, armed_fire]
  simp

theorem fire_of_armed {p : Path} {kind : WatchKind} (armed : s.armed p kind = true)
    (alive : s.alive = true) : s.fire p kind = (s.disarm p kind).send (.watch p kind) := by
  unfold fire
  rw [if_pos armed]
  dsimp only
  rw [alive_disarm, if_pos alive]

/-! ### What holds of every tree -/

/-- The session that `n` is to go with, if it is to go with one, goes on. -/
def Attached (s : MemoryService) (n : Node) : Prop :=
  n.mode = .ephemeral → n.owner = s.sessionId ∧ s.expired = false

structure Sane (s : MemoryService) : Prop where
  paths : ∀ q : Path, s.nodes.contains q = true → q.defect? = none
  watched : ∀ q k, s.armed q k = true → s.nodes.contains q = true
  settled : s.alive = true → s.pending = []
  /-- Only nodes that last have children. -/
  rooted : ∀ q p : Path, s.nodes.contains q = true → q.parent? = some p →
    ∃ n, s.nodes.get? p = some n ∧ n.mode = .persistent
  attached : ∀ q n, s.nodes.get? q = some n → s.Attached n
  ended : s.expired = true → s.alive = false

theorem attached_of_session (session : s'.session = s.session) {n : Node} (h : s.Attached n) :
    s'.Attached n := by
  simp only [MemoryService.session, Prod.mk.injEq] at session
  rwa [Attached, session.1, session.2]

/-- Watches and notifications may come and go. -/
theorem Sane.of_nodes (sane : s.Sane) (nodes : s'.nodes = s.nodes) (alive : s'.alive = s.alive)
    (pending : s'.pending = s.pending) (session : s'.session = s.session)
    (watched : ∀ q k, s'.armed q k = true → s.nodes.contains q = true) : s'.Sane where
  paths := nodes ▸ sane.paths
  watched := nodes ▸ watched
  settled := by
    rw [alive, pending]
    exact sane.settled
  rooted := nodes ▸ sane.rooted
  attached := by
    rw [nodes]
    exact fun q n found => attached_of_session session (sane.attached q n found)
  ended := by
    rw [alive, show s'.expired = s.expired from congrArg Prod.snd session]
    exact sane.ended

theorem mem_childNames {p : Path} {n : String} :
    n ∈ s.childNames p ↔
      ∃ q : Path, s.nodes.contains q = true ∧ q.parent? = some p ∧ q.name = n := by
  simp only [childNames, List.mem_map, List.mem_filter, Table.mem_keys, beq_iff_eq, and_assoc]

theorem Sane.mem_childNames_iff (sane : s.Sane) {p : Path} {n : String} :
    n ∈ s.childNames p ↔ s.nodes.contains (p.child n) = true ∧ p.IsChildName n := by
  rw [mem_childNames]
  constructor
  · rintro ⟨q, there, parent, rfl⟩
    have hq : p.child q.name = q := Path.child_name_of_parent? (sane.paths q there) parent
    refine ⟨by rwa [hq], ?_, ?_⟩
    · rwa [hq]
    · rw [hq]
  · rintro ⟨there, isChild⟩
    exact ⟨p.child n, there, isChild.parent, isChild.name⟩

/-- Children are listed in the order of their names. -/
theorem Sane.childNames_pairwise (sane : s.Sane) (p : Path) :
    (s.childNames p).Pairwise (· < ·) := by
  have ascending := s.nodes.keys_pairwise.filter fun q => Path.parent? q == some p
  refine List.pairwise_map.2 (ascending.imp_of_mem fun {q r} hq hr less => ?_)
  have below {q : Path} (hq : q ∈ s.nodes.keys.filter fun q => Path.parent? q == some p) :
      p.child q.name = q := by
    obtain ⟨there, parent⟩ := List.mem_filter.1 hq
    exact Path.child_name_of_parent? (sane.paths q (Table.mem_keys.1 there)) (beq_iff_eq.1 parent)
  rwa [← Path.child_lt_child, below hq, below hr]

/-- What remains of watches when the tree changes or the connection goes. -/
structure Edited (s s' : MemoryService) : Prop where
  sane : s'.Sane
  alive : s'.alive = true → s.alive = true
  unarms : ∀ q k, s'.armed q k = true → s.armed q k = true
  fires : s'.alive = true → ∀ q k, s.armed q k = true →
    s'.armed q k = true ∨ .watch q k ∈ s'.channel
  keeps : ∀ n ∈ s.channel, n ∈ s'.channel
  sends : ∀ q k, .watch q k ∈ s'.channel → .watch q k ∈ s.channel ∨ s.armed q k = true
  lists : ∀ p, s'.armed p .children = true → ∀ n, n ∈ s'.childNames p ↔ n ∈ s.childNames p
  reads : ∀ p, s'.armed p .data = true → s'.nodes.get? p = s.nodes.get? p

theorem Edited.refl (sane : s.Sane) : Edited s s :=
  ⟨sane, id, fun _ _ armed => armed, fun _ _ _ armed => .inl armed, fun _ hn => hn,
    fun _ _ sent => .inl sent, fun _ _ _ => Iff.rfl, fun _ _ => rfl⟩

/-- The tree becomes `t`, and the fires that follow leave no watch armed on what has changed. -/
theorem edited_of_fired (sane : s.Sane) {t : Table Node} (fired : Fired { s with nodes := t } s')
    (paths : ∀ q : Path, t.contains q = true → q.defect? = none)
    (rooted : ∀ q p : Path, t.contains q = true → q.parent? = some p →
      ∃ n, t.get? p = some n ∧ n.mode = .persistent)
    (attached : ∀ q n, t.get? q = some n → s.Attached n)
    (watched : ∀ q k, s'.armed q k = true → t.contains q = true)
    (lists : ∀ p, s'.armed p .children = true → ∀ q : Path, q.parent? = some p →
      (t.contains q = true ↔ s.nodes.contains q = true))
    (reads : ∀ p, s'.armed p .data = true → t.get? p = s.nodes.get? p) : Edited s s' where
  sane := by
    refine ⟨?_, ?_, ?_, ?_, ?_, ?_⟩
    · rw [fired.nodes]
      exact paths
    · rw [fired.nodes]
      exact watched
    · rw [fired.alive]
      intro alive
      exact (fired.settled alive).trans (sane.settled alive)
    · rw [fired.nodes]
      exact rooted
    · rw [fired.nodes]
      exact fun q n found => attached_of_session fired.session (attached q n found)
    · rw [fired.alive, show s'.expired = s.expired from congrArg Prod.snd fired.session]
      exact sane.ended
  alive alive := fired.alive ▸ alive
  unarms q k armed := fired.unarms q k armed
  fires alive q k armed := fired.fires (fired.alive ▸ alive) q k armed
  keeps := fired.keeps
  sends := fired.sends
  lists p armed n := by
    simp only [mem_childNames, fired.nodes]
    constructor
    · rintro ⟨q, there, parent, name⟩
      exact ⟨q, (lists p armed q parent).1 there, parent, name⟩
    · rintro ⟨q, there, parent, name⟩
      exact ⟨q, (lists p armed q parent).2 there, parent, name⟩
  reads p armed := by
    rw [fired.nodes]
    exact reads p armed

/-! ### The changes of the tree -/

theorem creationSite_ok {p parent : Path} (site : s.creationSite p = .ok parent) :
    p.defect? = none ∧ s.nodes.contains p = false ∧ p.parent? = some parent ∧
      ∃ n, s.nodes.get? parent = some n ∧ n.mode = .persistent := by
  unfold creationSite at site
  split at site
  · cases site
  · next checked =>
    split at site
    · cases site
    · next absent =>
      split at site
      · cases site
      · next above hparent =>
        refine ⟨Path.validate_eq_ok.1 checked, Bool.eq_false_of_not_eq_true absent, ?_⟩
        split at site
        · cases site
        · cases site
        · next n lasts found =>
          cases site
          refine ⟨hparent, n, found, ?_⟩
          rcases n with ⟨data, _ | _, owner⟩
          · rfl
          · exact absurd rfl (lasts data owner)

theorem edited_createNode (sane : s.Sane) (p : Path) (node : Node) (attached : s.Attached node) :
    Edited s (s.createNode p node).2 := by
  unfold createNode
  split
  · exact Edited.refl sane
  · next parent site =>
    obtain ⟨valid, absent, hparent, above, found, lasts⟩ := creationSite_ok site
    have fired := fired_fire { s with nodes := s.nodes.insert p node } parent .children
    -- the new node stands in the place of none
    have kept (q : Path) (n : Node) (h : s.nodes.get? q = some n) :
        (s.nodes.insert p node).get? q = some n := by
      have hq : q ≠ p := by
        rintro rfl
        rw [Table.contains_of_get? h] at absent
        cases absent
      simpa [hq] using h
    refine edited_of_fired sane fired ?_ ?_ ?_ ?_ ?_ ?_
    · intro q there
      by_cases hq : q = p
      · exact hq ▸ valid
      · exact sane.paths q (by simpa [hq] using there)
    · intro q r there hr
      by_cases hq : q = p
      · subst hq
        obtain rfl : parent = r := by
          rw [hparent] at hr
          exact Option.some.inj hr
        exact ⟨above, kept parent above found, lasts⟩
      · obtain ⟨n, hn, persistent⟩ := sane.rooted q r (by simpa [hq] using there) hr
        exact ⟨n, kept r n hn, persistent⟩
    · intro q n hn
      rcases Table.get?_of_insert hn with ⟨-, rfl⟩ | before
      · exact attached
      · exact sane.attached q n before
    · intro q k armed
      have there := sane.watched q k (fired.unarms q k armed)
      simp [there]
    · intro r armed q above
      have hq : q ≠ p := by
        rintro rfl
        obtain rfl : r = parent := by
          rw [hparent] at above
          exact (Option.some.inj above).symm
        rw [armed_fire_self] at armed
        cases armed
      simp [hq]
    · intro q armed
      have hq : q ≠ p := by
        rintro rfl
        have there := sane.watched q .data (fired.unarms q .data armed)
        rw [absent] at there
        cases there
      simp [hq]

theorem edited_setData (sane : s.Sane) (p : Path) (d : Data) : Edited s (s.setData p d).2 := by
  unfold setData
  split
  · exact Edited.refl sane
  · next node found =>
    have there : s.nodes.contains p = true := Table.contains_of_get? found
    have same (q : Path) :
        (s.nodes.insert p { node with data := d }).contains q = s.nodes.contains q := by
      by_cases hq : q = p <;> simp [hq, there]
    have fired := fired_fire { s with nodes := s.nodes.insert p { node with data := d } } p .data
    refine edited_of_fired sane fired ?_ ?_ ?_ ?_ ?_ ?_
    · intro q hq
      rw [same] at hq
      exact sane.paths q hq
    · intro q r hq hr
      rw [same] at hq
      obtain ⟨n, hn, persistent⟩ := sane.rooted q r hq hr
      by_cases hp : r = p
      · subst hp
        rw [found] at hn
        cases hn
        exact ⟨{ node with data := d }, by simp, persistent⟩
      · exact ⟨n, by simpa [hp] using hn, persistent⟩
    · intro q n hn
      rcases Table.get?_of_insert hn with ⟨-, rfl⟩ | before
      · exact sane.attached p node found
      · exact sane.attached q n before
    · intro q k armed
      rw [same]
      exact sane.watched q k (fired.unarms q k armed)
    · intro r _ q _
      rw [same]
    · intro q armed
      have hq : q ≠ p := by
        rintro rfl
        rw [armed_fire_self] at armed
        cases armed
      simp [hq]

theorem edited_deleteNode (sane : s.Sane) (p : Path) : Edited s (s.deleteNode p).2 := by
  unfold deleteNode
  split
  · exact Edited.refl sane
  · split
    · exact Edited.refl sane
    · split
      · exact Edited.refl sane
      · next childless =>
        have leaf (q : Path) (there : s.nodes.contains q = true) : q.parent? ≠ some p := by
          intro hp
          refine childless ?_
          have listed : q.name ∈ s.childNames p := mem_childNames.2 ⟨q, there, hp, rfl⟩
          simpa using List.ne_nil_of_mem listed
        -- the parent hears of it too, if there is one
        have edited (s' : MemoryService)
            (more : Fired
              ((({ s with nodes := s.nodes.erase p }).fire p .data).fire p .children) s')
            (told : ∀ parent, p.parent? = some parent → s'.armed parent .children = false) :
            Edited s s' := by
          have first := fired_fire { s with nodes := s.nodes.erase p } p .data
          have second := fired_fire (({ s with nodes := s.nodes.erase p }).fire p .data) p .children
          have elsewhere (q : Path) (k : WatchKind) (armed : s'.armed q k = true) : q ≠ p := by
            rintro rfl
            have after := more.unarms q k armed
            cases k with
            | data =>
              have between := second.unarms q .data after
              rw [armed_fire_self] at between
              cases between
            | children =>
              rw [armed_fire_self] at after
              cases after
          have before (q : Path) (there : (s.nodes.erase p).contains q = true) :
              s.nodes.contains q = true := by
            simp only [Table.contains_erase, Bool.and_eq_true] at there
            exact there.2
          refine edited_of_fired sane ((first.trans second).trans more) ?_ ?_ ?_ ?_ ?_ ?_
          · exact fun q there => sane.paths q (before q there)
          · intro q r there hr
            obtain ⟨n, hn, persistent⟩ := sane.rooted q r (before q there) hr
            have hp : r ≠ p := by
              rintro rfl
              exact leaf q (before q there) hr
            exact ⟨n, by simpa [hp] using hn, persistent⟩
          · exact fun q n hn => sane.attached q n (Table.get?_of_erase hn)
          · intro q k armed
            have before := first.unarms q k (second.unarms q k (more.unarms q k armed))
            simp [elsewhere q k armed, sane.watched q k before]
          · intro r armed q above
            have hq : q ≠ p := by
              rintro rfl
              rw [told r above] at armed
              cases armed
            simp [hq]
          · intro q armed
            simp [elsewhere q .data armed]
        dsimp only
        split
        · next parent hparent =>
          refine edited _ (fired_fire _ parent .children) fun above habove => ?_
          obtain rfl : parent = above := by
            rw [hparent] at habove
            exact Option.some.inj habove
          exact armed_fire_self _ parent .children
        · next hparent =>
          refine edited _ (.refl _) fun above habove => ?_
          rw [hparent] at habove
          cases habove

theorem change_create (s : MemoryService) (p : Path) (d : Data) :
    (s.change (.create p d)).2 = (s.createNode p ⟨d, .persistent, 0⟩).2 := by
  simp only [change]
  split
  · next h => rw [h]
  · next h => rw [h]

theorem edited_change (sane : s.Sane) (change : ExternalChange) :
    Edited s (s.change change).2 := by
  cases change with
  | create p d =>
    rw [change_create]
    exact edited_createNode sane p _ nofun
  | setData p d => exact edited_setData sane p d
  | delete p => exact edited_deleteNode sane p

theorem edited_disconnect (sane : s.Sane) : Edited s s.disconnect where
  sane := ⟨sane.paths, sane.watched, nofun, sane.rooted, sane.attached, fun _ => rfl⟩
  alive alive := by cases alive
  unarms _ _ armed := armed
  fires alive := by cases alive
  keeps n hn := List.mem_append_left _ hn
  sends q k sent := by simpa [disconnect, send] using Or.inl sent
  lists _ _ _ := Iff.rfl
  reads _ _ := rfl

theorem edited_expireSession (sane : s.Sane) : Edited s s.expireSession where
  sane := by
    have left (q : Path) (n : Node) (found : s.expireSession.nodes.get? q = some n) :
        s.nodes.get? q = some n ∧ n.diesWith s.sessionId = false := by
      simpa [expireSession, send, Option.filter_eq_some_iff] using found
    have before (q : Path) (there : s.expireSession.nodes.contains q = true) :
        s.nodes.contains q = true := by
      obtain ⟨n, found⟩ := Table.contains_eq_true.1 there
      exact Table.contains_of_get? (left q n found).1
    refine ⟨fun q there => sane.paths q (before q there), ?_, nofun, ?_, ?_, fun _ => rfl⟩
    · intro q k armed
      cases k <;> cases armed
    · intro q p there hp
      obtain ⟨n, found, persistent⟩ := sane.rooted q p (before q there) hp
      refine ⟨n, ?_, persistent⟩
      simp [expireSession, send, found, Node.diesWith, persistent]
    · intro q n found mode
      obtain ⟨was, stays⟩ := left q n found
      simp [Node.diesWith, mode, (sane.attached q n was mode).1] at stays
  alive alive := by cases alive
  unarms _ k armed := by cases k <;> cases armed
  fires alive := by cases alive
  keeps n hn := List.mem_append_left _ hn
  sends q k sent := .inl (by simpa [expireSession, send] using sent)
  lists _ armed := by cases armed
  reads _ armed := by cases armed

theorem ask_of_alive (alive : s.alive = true) {r : Request} (other : r ≠ .reconnect) :
    s.ask r = s.serve r := by
  unfold ask
  split
  · exact absurd rfl other
  · simp [alive]

theorem ask_of_dead (dead : s.alive = false) {r : Request} (other : r ≠ .reconnect) :
    ∃ e, e.isNotFound = false ∧ s.ask r = (.error e, s) := by
  unfold ask
  split
  · exact absurd rfl other
  · rw [dead]
    exact ⟨_, rfl, rfl⟩

/-- A plain request changes the tree as another client might, or nothing. -/
theorem edited_serve (sane : s.Sane) (alive : s.alive = true) {r : Request}
    (plain : r.isPlain = true) : Edited s (s.serve r).2 := by
  have unwatched {α : Type} (p : Path) (kind : WatchKind) (answer : Node → α) :
      Edited s (s.read p kind false answer).2 := by
    unfold read
    split
    · exact Edited.refl sane
    · exact Edited.refl sane
  cases r with
  | existence p => exact Edited.refl sane
  | readData p watch =>
    cases watch with
    | true => cases plain
    | false => exact unwatched p .data Node.data
  | writeData p d => exact edited_setData sane p d
  | listChildren p watch =>
    cases watch with
    | true => cases plain
    | false => exact unwatched p .children fun _ => s.childNames p
  | create p d mode =>
    refine edited_createNode sane p _ fun _ => ⟨rfl, ?_⟩
    by_contra expired
    rw [sane.ended (Bool.eq_true_of_not_eq_false expired)] at alive
    cases alive
  | delete p => exact edited_deleteNode sane p
  | cancelDataWatch p => cases plain
  | reconnect => cases plain

theorem edited_ask (sane : s.Sane) {r : Request} (plain : r.isPlain = true) :
    Edited s (s.ask r).2 := by
  unfold ask
  split
  · cases plain
  · split
    · next alive => exact edited_serve sane alive plain
    · exact Edited.refl sane

end MemoryService

theorem sane_new : MemoryService.new.Sane where
  paths q there := by
    simp only [MemoryService.new, Table.contains_insert, Table.contains_empty, Bool.or_false,
      decide_eq_true_eq] at there
    subst there
    decide
  watched q k armed := by cases k <;> cases armed
  settled _ := rfl
  rooted q p there hp := by
    simp only [MemoryService.new, Table.contains_insert, Table.contains_empty, Bool.or_false,
      decide_eq_true_eq] at there
    subst there
    cases hp
  attached q n found mode := by
    rcases Table.get?_of_insert found with ⟨-, rfl⟩ | none
    · cases mode
    · cases none
  ended := nofun

theorem sane_disarm {s : MemoryService} (sane : s.Sane) (p : Path) (kind : WatchKind) :
    (s.disarm p kind).Sane := by
  refine sane.of_nodes ?_ ?_ ?_ ?_ fun q k armed =>
    sane.watched q k ((MemoryService.armed_disarm s p q kind k).1 armed).1
  · exact MemoryService.nodes_disarm s p kind
  · exact MemoryService.alive_disarm s p kind
  · exact MemoryService.pending_disarm s p kind
  · exact MemoryService.session_disarm s p kind

theorem sane_reconnect {s : MemoryService} (sane : s.Sane) : s.reconnect.Sane := by
  unfold MemoryService.reconnect
  split
  · exact sane
  · refine ⟨sane.paths, fun q k armed => sane.watched q k ?_, fun _ => rfl, sane.rooted, ?_, nofun⟩
    · cases k <;> exact armed
    · intro q n found mode
      obtain ⟨owner, running⟩ := sane.attached q n found mode
      exact ⟨by simpa [running] using owner, rfl⟩

end DurableWatch
