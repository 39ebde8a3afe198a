import DurableWatch.Proofs.ChildStreams
import DurableWatch.Proofs.LostWatch
import DurableWatch.Proofs.MemoryOperations

/-!
# The phases of a recovery

A recovery makes one attempt for each data subscription, then one for each child subscription, then
one for each stubborn node. What an attempt brings about, the later ones keep, so a phase that is
not cut short has brought about all of it. The first two phases do no more to the service than to
arm watches. In a session that is alive only the second and the third can fail.
-/
namespace DurableWatch

open World Coordinator Setting

/-! ### Attempts one after the other -/

/-- What comes of one attempt at a world in `G`: a world in `G` again, within `R` of the one before,
in which `Q` holds. It cannot fail if `S`. -/
structure Attempt {σ : Type} (G : World σ → Prop) (R : World σ → World σ → Prop) (S : Prop)
    (Q : World σ → Prop) (w : World σ) (done : Except Stop Unit × World σ) : Prop where
  good : G done.2
  within : R w done.2
  hits : Q done.2
  succeeds : S → done.1 = .ok ()
  orderly : ∀ reason, done.1 ≠ .error (.crashed reason)

/-- Attempts that are not cut short by a failure bring about all that each of them is for. -/
theorem attemptAll_hits {σ α : Type} {G : World σ → Prop} {R : World σ → World σ → Prop}
    {S : Prop} {Q : α → World σ → Prop} (refl : ∀ w, R w w)
    (trans : ∀ {w₁ w₂ w₃}, R w₁ w₂ → R w₂ w₃ → R w₁ w₃)
    (keeps : ∀ a {w w'}, R w w' → Q a w → Q a w') (failFast : Bool) (path : α → Path)
    {attempt : α → World σ → Except Stop Unit × World σ} {l : List α}
    (attempts : ∀ a ∈ l, ∀ w, G w → Attempt G R S (Q a) w (attempt a w))
    {w : World σ} (good : G w) :
    ∃ result w', attemptAll failFast path attempt l w = (result, w') ∧ G w' ∧ R w w' ∧
      ((∃ failed, result = .ok failed) ∧ (∀ a ∈ l, Q a w') ∨
        ¬S ∧ failFast = true ∧ ∃ e, result = .error (.failed e)) := by
  induction l generalizing w with
  | nil => exact ⟨_, w, rfl, good, refl w, .inl ⟨⟨[], rfl⟩, List.forall_mem_nil _⟩⟩
  | cons a l ih =>
    obtain ⟨here, later⟩ := List.forall_mem_cons.1 attempts
    have first := here w good
    rcases h : attempt a w with ⟨outcome, w₁⟩
    rw [h] at first
    obtain ⟨result, w₂, hrest, good₂, rest, hresult⟩ := ih later first.good
    have both : R w w₂ := trans first.within rest
    have hit : Q a w₂ := keeps a rest first.hits
    unfold attemptAll
    rw [h]
    rcases outcome with (e | reason) | ⟨⟩
    · have unsure : ¬S := by
        intro certain
        cases first.succeeds certain
      dsimp only
      cases failFast with
      | true => exact ⟨_, w₁, rfl, first.good, first.within, .inr ⟨unsure, rfl, e, rfl⟩⟩
      | false =>
        rcases hresult with ⟨⟨failed, rfl⟩, all⟩ | ⟨-, off, -⟩
        · rw [hrest]
          exact ⟨_, w₂, rfl, good₂, both, .inl ⟨⟨_, rfl⟩, List.forall_mem_cons.2 ⟨hit, all⟩⟩⟩
        · cases off
    · exact absurd rfl (first.orderly reason)
    · refine ⟨result, w₂, hrest, good₂, both, hresult.imp ?_ id⟩
      exact fun all => ⟨all.1, List.forall_mem_cons.2 ⟨hit, all.2⟩⟩

/-! ### What the phases do to the service -/

namespace MemoryService

variable {s s' : MemoryService}

/-- Watches may have been armed, and nothing else has been done. -/
structure Consulted (s s' : MemoryService) : Prop where
  nodes : s'.nodes = s.nodes
  alive : s'.alive = s.alive
  channel : s'.channel = s.channel

theorem Consulted.refl (s : MemoryService) : Consulted s s := ⟨rfl, rfl, rfl⟩

theorem Consulted.trans {s₁ s₂ s₃ : MemoryService} (h : Consulted s₁ s₂) (h' : Consulted s₂ s₃) :
    Consulted s₁ s₃ :=
  ⟨h'.nodes.trans h.nodes, h'.alive.trans h.alive, h'.channel.trans h.channel⟩

theorem consulted_arm (s : MemoryService) (p : Path) (kind : WatchKind) :
    Consulted s (s.arm p kind) :=
  ⟨nodes_arm s p kind, alive_arm s p kind, channel_arm s p kind⟩

theorem consulted_read {α : Type} (s : MemoryService) (p : Path) (kind : WatchKind) (watch : Bool)
    (answer : Node → α) : Consulted s (s.read p kind watch answer).2 := by
  unfold read
  split
  · exact .refl s
  · cases watch with
    | false => exact .refl s
    | true => exact consulted_arm s p kind

theorem consulted_readData (s : MemoryService) (p : Path) (watch : Bool) :
    Consulted s (s.ask (.readData p watch)).2 := by
  simp only [ask]
  split
  · exact consulted_read s p .data watch Node.data
  · exact .refl s

theorem consulted_listChildren (s : MemoryService) (p : Path) (watch : Bool) :
    Consulted s (s.ask (.listChildren p watch)).2 := by
  simp only [ask]
  split
  · exact consulted_read s p .children watch fun _ => s.childNames p
  · exact .refl s

/-- A node may be created at `p`, or is there already. -/
structure Creatable (s : MemoryService) (p : Path) : Prop where
  valid : p.defect? = none
  rooted : ∃ parent n, p.parent? = some parent ∧ s.nodes.get? parent = some n ∧ n.mode = .persistent

theorem Creatable.grown {p : Path} (creatable : s.Creatable p) (grown : Grown s s') :
    s'.Creatable p := by
  obtain ⟨valid, parent, n, hparent, found, lasts⟩ := creatable
  exact ⟨valid, parent, n, hparent, grown.kept parent n found, lasts⟩

theorem contains_createNode {p : Path} (creatable : s.Creatable p) (node : Node) :
    (s.createNode p node).2.nodes.contains p = true := by
  obtain ⟨valid, parent, n, hparent, found, lasts⟩ := creatable
  have checked : p.validate = .ok () := by rw [Path.validate, valid]
  obtain ⟨data, mode, owner⟩ := n
  obtain rfl : mode = .persistent := lasts
  by_cases there : s.nodes.contains p = true
  · have taken : s.creationSite p = .error (.nodeExists p) := by
      rw [creationSite, checked]
      exact if_pos there
    rw [createNode, taken]
    exact there
  · have free : s.creationSite p = .ok parent := by
      rw [creationSite, checked]
      dsimp only
      rw [if_neg there, hparent]
      dsimp only
      rw [found]
    have fired := fired_fire { s with nodes := s.nodes.insert p node } parent .children
    rw [createNode, free]
    dsimp only
    rw [fired.nodes]
    simp

end MemoryService

variable {τ : Type} {w w₁ : World (Backstage τ)} {p q : Path} {e : DataSubscription}

theorem dataChange_consulted (audience : Audience (Backstage τ)) (p : Path)
    (w : World (Backstage τ)) : w.outside.service.Consulted
      (dataChange (memoryClient.facing audience) p w).2.outside.service := by
  have asked : w.outside.service.Consulted
      ((memoryClient.facing audience).ask (.readData p true) w).2.outside.service :=
    w.outside.service.consulted_readData p true
  unfold dataChange
  split
  · exact .refl _
  · split
    · next h => rw [h] at asked; exact asked
    · next h =>
      rw [h] at asked
      split
      · exact asked
      · split <;> exact asked

theorem readNew_consulted (audience : Audience (Backstage τ)) (p : Path) (s : ChildSubscription)
    (ns : List String) (w : World (Backstage τ)) : w.outside.service.Consulted
      (readNew (memoryClient.facing audience) p s ns w).2.outside.service := by
  induction ns generalizing w with
  | nil => exact .refl _
  | cons n ns ih =>
    have asked : w.outside.service.Consulted ((memoryClient.facing audience).ask
        (.readData (p.child n) s.watchesChildData) w).2.outside.service :=
      w.outside.service.consulted_readData (p.child n) s.watchesChildData
    unfold readNew
    split
    · next h => rw [h] at asked; exact asked
    · next w₁ h => rw [h] at asked; exact asked.trans (ih w₁)
    · next w₁ h =>
      rw [h] at asked
      refine asked.trans ?_
      split
      · exact ih (w₁.update (·.addData (p.child n) s.listener (some s.id)))
      · exact ih w₁

theorem childChange_consulted (audience : Audience (Backstage τ)) (p : Path)
    (w : World (Backstage τ)) : w.outside.service.Consulted
      (childChange (memoryClient.facing audience) p .dispatched w).2.outside.service := by
  have asked : w.outside.service.Consulted
      ((memoryClient.facing audience).ask (.listChildren p true) w).2.outside.service :=
    w.outside.service.consulted_listChildren p true
  unfold childChange
  split
  · exact .refl _
  · next s _ =>
    unfold childPass
    split
    · next h => rw [h] at asked; exact asked
    · next snapshot w₁ h =>
      rw [h] at asked
      have read := readNew_consulted audience p s (ChildDiff.between s.known snapshot).created w₁
      dsimp only
      split
      · exact asked.trans read
      · unfold tellChanges World.deliver
        dsimp only
        split <;> exact asked.trans read

/-! ### What a pass over data does to the coordinator -/

/-- It is left as it is, tells what was read, or ends a plain subscription with its node. -/
theorem dataChange_coordinator {σ : Type} {host : Host σ} (orderly : host.Orderly) (p : Path)
    (w : World σ) :
    (dataChange host p w).2.coordinator = w.coordinator ∨
      ∃ e, w.coordinator.data.get? p = some e ∧
        ((∃ d, (dataChange host p w).2.coordinator =
            w.coordinator.dispatch (e.report ⟨p, .dataChanged d⟩)) ∨
          e.owner? = none ∧ (dataChange host p w).2.coordinator =
            (w.coordinator.removeData p).dispatch (e.report ⟨p, .deleted⟩)) := by
  unfold dataChange
  split
  · exact .inl rfl
  · next e registered =>
    split
    · next d w₁ h =>
      refine .inr ⟨e, registered, .inl ⟨d, ?_⟩⟩
      rw [coordinator_update, orderly.coordinator_of_ask h]
    · next w₁ h =>
      have same : w₁.coordinator = w.coordinator := orderly.coordinator_of_ask h
      split
      · exact .inl same
      · split
        · exact .inl same
        · next managed =>
          have plain : e.owner? = none := by simpa [DataSubscription.parentManaged] using managed
          refine .inr ⟨e, registered, .inr ⟨plain, ?_⟩⟩
          rw [coordinator_update, same, removeDataIf_of_get? registered]

/-- Child subscriptions, what is subscribed at `q` and what is told of it are the same. -/
structure Untouched (q : Path) (c c' : Coordinator) : Prop where
  children : c'.children = c.children
  nextId : c'.nextId = c.nextId
  data : c'.data.get? q = c.data.get? q
  changes : ∀ i, c'.changesFor i q = c.changesFor i q

theorem Untouched.refl (q : Path) (c : Coordinator) : Untouched q c c :=
  ⟨rfl, rfl, rfl, fun _ => rfl⟩

theorem Untouched.trans {c₁ c₂ c₃ : Coordinator} (h : Untouched q c₁ c₂)
    (h' : Untouched q c₂ c₃) : Untouched q c₁ c₃ where
  children := h'.children.trans h.children
  nextId := h'.nextId.trans h.nextId
  data := h'.data.trans h.data
  changes i := (h'.changes i).trans (h.changes i)

theorem dataChange_elsewhere {σ : Type} {host : Host σ} (orderly : host.Orderly) (w : World σ)
    (other : q ≠ p) : Untouched q w.coordinator (dataChange host p w).2.coordinator := by
  have reported {c : Coordinator} {r : Report} (about : r.event.path = p) (i : Nat) :
      (c.dispatch r).changesFor i q = c.changesFor i q := by
    have journal : (c.dispatch r).journal = c.journal ++ [r] := rfl
    refine changesFor_others journal fun r' hr' => .inr ?_
    obtain rfl := List.mem_singleton.1 hr'
    rw [about]
    exact other.symm
  rcases dataChange_coordinator orderly p w with h | ⟨e, -, ⟨d, h⟩ | ⟨-, h⟩⟩
  · rw [h]
    exact .refl q w.coordinator
  · rw [h]
    exact ⟨rfl, rfl, rfl, reported rfl⟩
  · rw [h]
    refine ⟨rfl, rfl, ?_, fun i => ?_⟩
    · exact (Table.get?_erase w.coordinator.data p q).trans (if_neg other)
    · exact (reported rfl i).trans (changesFor_congr rfl i q)

/-- In a session that is alive, a plain subscription ends at a pass over the data of its node if the
node is missing. -/
theorem dataChange_missing (audience : Audience (Backstage τ))
    (registered : w.coordinator.data.get? q = some e) (plain : e.owner? = none)
    (alive : w.outside.service.alive = true)
    (missing : w.outside.service.nodes.contains q = false) :
    (dataChange (memoryClient.facing audience) q w).2.coordinator =
      (w.coordinator.removeData q).dispatch (e.report ⟨q, .deleted⟩) := by
  obtain ⟨cause, notFound, refused⟩ := ask_read_refused audience w .data (p := q) fun _ => missing
  simp only [WatchKind.read] at refused
  have gone : (Stop.failed cause).isNotFound = true := notFound.trans alive
  have unmanaged : e.parentManaged = false := by rw [DataSubscription.parentManaged, plain]; rfl
  have still : (w.noting w.outside.service (.readData q true) false).coordinator.data.get? q =
      some e := registered
  rw [dataChange, registered]
  dsimp only
  rw [refused]
  simp only [gone, unmanaged, Bool.not_true, Bool.false_eq_true, if_false, coordinator_update,
    removeDataIf_of_get? still]
  rfl

/-! ### Phase by phase -/

/-- Subscriptions have been kept up, and the service has been read from only. -/
structure Rearmed (w w' : World (Backstage τ)) : Prop where
  upkeep : Relation.ReflTransGen Upkeep w.setting w'.setting
  consulted : w.outside.service.Consulted w'.outside.service

theorem Rearmed.refl (w : World (Backstage τ)) : Rearmed w w := ⟨.refl, .refl _⟩

theorem Rearmed.trans {w₁ w₂ w₃ : World (Backstage τ)} (h : Rearmed w₁ w₂) (h' : Rearmed w₂ w₃) :
    Rearmed w₁ w₃ := ⟨h.upkeep.trans h'.upkeep, h.consulted.trans h'.consulted⟩

theorem Tried.upkeep {kind : WatchKind} {a b : Setting} (tried : Tried p kind a)
    (upkeep : Relation.ReflTransGen Upkeep a b) : Tried p kind b :=
  tried.moves (upkeep_moves .any upkeep)

/-- The session is alive, and its tree well-formed. -/
def Ready (w : World (Backstage τ)) : Prop :=
  w.outside.service.Sane ∧ w.outside.service.alive = true

theorem Rearmed.ready {w' : World (Backstage τ)} (rearmed : Rearmed w w') (ready : Ready w) :
    Ready w' :=
  ⟨upkeep_sane rearmed.upkeep ready.1, rearmed.consulted.alive.trans ready.2⟩

theorem dataChange_attempt (audience : Audience (Backstage τ)) (p : Path) (ready : Ready w) :
    Attempt Ready Rearmed True (fun w' => Tried p .data w'.setting) w
      (dataChange (memoryClient.facing audience) p w) := by
  obtain ⟨result, w', h, upkeep, tried, succeeds, orderly⟩ :=
    dataChange_upkeep audience (.refl w.setting (.watch p .data)) rfl ready.1
  have consulted := dataChange_consulted audience p w
  rw [h] at consulted
  have rearmed : Rearmed w w' := ⟨upkeep, consulted⟩
  rw [h]
  exact ⟨rearmed.ready ready, rearmed, tried, fun _ => succeeds ready.2, orderly⟩

theorem childChange_attempt (audience : Audience (Backstage τ)) (p : Path) (ready : Ready w) :
    Attempt Ready Rearmed False (fun w' => Tried p .children w'.setting) w
      (childChange (memoryClient.facing audience) p .dispatched w) := by
  obtain ⟨result, w', h, upkeep, tried, orderly⟩ :=
    childChange_upkeep audience (.refl w.setting (.watch p .children)) rfl ready.1
  have consulted := childChange_consulted audience p w
  rw [h] at consulted
  have rearmed : Rearmed w w' := ⟨upkeep, consulted⟩
  rw [h]
  exact ⟨rearmed.ready ready, rearmed, tried, False.elim, orderly⟩

/-- The subscription `e`, once at `q`, has told that its node is gone, and nothing else. -/
structure Ended (q : Path) (e : DataSubscription) (c c' : Coordinator) : Prop where
  children : c'.children = c.children
  nextId : c'.nextId = c.nextId
  data : c'.data.get? q = none
  changes : c'.changesFor e.id q = c.changesFor e.id q ++ [.deleted]

theorem Ended.untouched {c c₁ c₂ : Coordinator} (ended : Ended q e c c₁)
    (untouched : Untouched q c₁ c₂) : Ended q e c c₂ where
  children := untouched.children.trans ended.children
  nextId := untouched.nextId.trans ended.nextId
  data := untouched.data.trans ended.data
  changes := (untouched.changes e.id).trans ended.changes

theorem Untouched.ended {c c₁ c₂ : Coordinator} (untouched : Untouched q c c₁)
    (ended : Ended q e c₁ c₂) : Ended q e c c₂ where
  children := ended.children.trans untouched.children
  nextId := ended.nextId.trans untouched.nextId
  data := ended.data
  changes := by rw [ended.changes, untouched.changes]

theorem ended_of_missing (audience : Audience (Backstage τ))
    (registered : w.coordinator.data.get? q = some e) (plain : e.owner? = none)
    (alive : w.outside.service.alive = true)
    (missing : w.outside.service.nodes.contains q = false) :
    Ended q e w.coordinator (dataChange (memoryClient.facing audience) q w).2.coordinator := by
  rw [dataChange_missing audience registered plain alive missing]
  refine ⟨rfl, rfl, ?_, ?_⟩
  · exact (Table.get?_erase w.coordinator.data q q).trans (if_pos rfl)
  · have own : (e.report ⟨q, .deleted⟩).family = e.id := by
      rw [DataSubscription.report, plain]
      rfl
    have journal : ((w.coordinator.removeData q).dispatch (e.report ⟨q, .deleted⟩)).journal =
        w.coordinator.journal ++ [e.report ⟨q, .deleted⟩] := rfl
    rw [changesFor_of_journal journal, List.filter_singleton, own]
    simp [DataSubscription.report]

/-- In the first phase a plain subscription ends if its node is missing. -/
theorem ended_of_attempts (audience : Audience (Backstage τ)) (failFast : Bool) {ps : List Path}
    (ready : Ready w) (registered : w.coordinator.data.get? q = some e) (plain : e.owner? = none)
    (missing : w.outside.service.nodes.contains q = false) (listed : q ∈ ps) :
    Ended q e w.coordinator
      (attemptAll failFast id (dataChange (memoryClient.facing audience)) ps w).2.coordinator := by
  have orderly := (memoryClient_orderly (τ := τ)).facing audience
  let ended (v : World (Backstage τ)) : Prop := Ended q e w.coordinator v.coordinator
  -- until its turn comes the subscription is left alone, and from then on it has ended
  let good (v : World (Backstage τ)) : Prop :=
    Rearmed w v ∧ (Untouched q w.coordinator v.coordinator ∨ ended v)
  have attempts (p : Path) (_ : p ∈ ps) (v : World (Backstage τ)) (isGood : good v) :
      Attempt good (fun v v' => ended v → ended v') True (fun v => p = q → ended v) v
        (dataChange (memoryClient.facing audience) p v) := by
    obtain ⟨rearmed, progress⟩ := isGood
    have attempt := dataChange_attempt audience p (rearmed.ready ready)
    have later := rearmed.trans attempt.within
    by_cases hp : p = q
    · subst hp
      have now : ended (dataChange (memoryClient.facing audience) p v).2 := by
        rcases progress with untouched | done
        · have gone : v.outside.service.nodes.contains p = false := by
            rw [rearmed.consulted.nodes]
            exact missing
          exact untouched.ended (ended_of_missing audience (untouched.data.trans registered) plain
            (rearmed.ready ready).2 gone)
        · have same : dataChange (memoryClient.facing audience) p v = (.ok (), v) := by
            rw [dataChange, done.data]
          rw [same]
          exact done
      exact ⟨⟨later, .inr now⟩, fun _ => now, fun _ => now, attempt.succeeds, attempt.orderly⟩
    · have elsewhere := dataChange_elsewhere orderly v (Ne.symm hp)
      have after (done : ended v) : ended (dataChange (memoryClient.facing audience) p v).2 :=
        done.untouched elsewhere
      refine ⟨⟨later, progress.imp ?_ after⟩, after, fun h => absurd h hp, attempt.succeeds,
        attempt.orderly⟩
      exact fun untouched => untouched.trans elsewhere
  obtain ⟨result, w', h, -, -, hits⟩ := attemptAll_hits (R := fun v v' => ended v → ended v')
    (Q := fun p v => p = q → ended v) (fun _ => id) (fun h h' => h' ∘ h)
    (fun _ _ _ keeps hit hp => keeps (hit hp)) failFast id attempts
    (w := w) ⟨.refl w, .inl (.refl q w.coordinator)⟩
  rw [h]
  exact (hits.resolve_right fun cut => cut.1 trivial).2 q listed rfl

/-! ### The recovery as a whole -/

theorem recreate_upkeep (audience : Audience (Backstage τ)) (n : StubbornNode) (ready : Ready w) :
    Relation.ReflTransGen Upkeep w.setting
        (recreate (memoryClient.facing audience) n w).2.setting ∧
      (w.outside.service.Creatable n.path →
        (recreate (memoryClient.facing audience) n w).2.outside.service.nodes.contains n.path =
          true) ∧
      ∀ reason, (recreate (memoryClient.facing audience) n w).1 ≠ .error (.crashed reason) := by
  obtain ⟨sane, alive⟩ := ready
  let node : Node := ⟨n.data, .ephemeral, w.outside.service.sessionId⟩
  have asked := ask_alive audience w (r := .create n.path n.data .ephemeral) alive (by simp)
  have edited : w.outside.service.Edited (w.outside.service.createNode n.path node).2 :=
    MemoryService.edited_serve sane alive (r := .create n.path n.data .ephemeral) rfl
  have grown := w.outside.service.grown_createNode n.path node
  have made (answered : Bool) : Upkeep w.setting (w.noting
      (w.outside.service.createNode n.path node).2 (.create n.path n.data .ephemeral)
        answered).setting :=
    .aside (.refl _) rfl edited grown (lastTry_plain rfl)
  have there (creatable : w.outside.service.Creatable n.path) :=
    MemoryService.contains_createNode creatable node
  unfold recreate
  rw [asked]
  cases answer : (w.outside.service.serve (.create n.path n.data .ephemeral)).1 with
  | ok path => exact ⟨.single (made _), there, ok_orderly⟩
  | error cause =>
    simp only [Except.mapError]
    split
    · exact ⟨.single (made _), there, ok_orderly⟩
    · exact ⟨.single (made _), there, failed_orderly _⟩

theorem upkeep_ready {w' : World (Backstage τ)}
    (upkeep : Relation.ReflTransGen Upkeep w.setting w'.setting) (ready : Ready w) : Ready w' :=
  ⟨upkeep_sane upkeep ready.1, (upkeep_grown upkeep).alive.trans ready.2⟩

/-- Everything that has been subscribed to is tried, if all that is listed has been. -/
theorem tried_of_phase {kind : WatchKind} {a b : Setting} {ps : List Path}
    (listed : ∀ p, a.subscribed p kind = true → p ∈ ps)
    (upkeep : Relation.ReflTransGen Upkeep a b) (tried : ∀ p ∈ ps, Tried p kind b) (p : Path) :
    Tried p kind b := by
  by_cases hp : a.subscribed p kind = true
  · exact tried p (listed p hp)
  · exact Tried.upkeep (tried_of_unsubscribed (Bool.eq_false_of_not_eq_true hp)) upkeep

/-- A recovery of `w` that ends as `done`: `w₁` and `w₂` are the worlds after its first and second
phases. The second and third are complete unless a failure has cut them short. -/
structure Phases (w w₁ w₂ : World (Backstage τ)) (done : Except Stop Unit × World (Backstage τ)) :
    Prop where
  first : Rearmed w w₁
  data : ∀ p, Tried p .data w₁.setting
  ended : ∀ (q : Path) e, w.coordinator.data.get? q = some e → e.owner? = none →
    w.outside.service.nodes.contains q = false → Ended q e w.coordinator w₁.coordinator
  second : Rearmed w₁ w₂
  third : Relation.ReflTransGen Upkeep w₂.setting done.2.setting
  complete : w.coordinator.failFast = false ∨ done.1 = .ok () →
    (∀ p, Tried p .children w₂.setting) ∧
      ∀ n ∈ w₂.coordinator.stubbornNodes, w₂.outside.service.Creatable n.path →
        done.2.outside.service.nodes.contains n.path = true

theorem Phases.rearmed {w₂ : World (Backstage τ)}
    {done : Except Stop Unit × World (Backstage τ)} (phases : Phases w w₁ w₂ done) :
    Rearmed w w₂ := phases.first.trans phases.second

theorem Phases.upkeep {w₂ : World (Backstage τ)} {done : Except Stop Unit × World (Backstage τ)}
    (phases : Phases w w₁ w₂ done) : Relation.ReflTransGen Upkeep w.setting done.2.setting :=
  phases.rearmed.upkeep.trans phases.third

/-- In a session that is alive, a recovery tries every watch, unless it ends at its first failure.
-/
theorem Phases.attempted {w₂ : World (Backstage τ)}
    {done : Except Stop Unit × World (Backstage τ)} (phases : Phases w w₁ w₂ done) :
    Attempted done.2.setting where
  data p := Tried.upkeep (phases.data p) (phases.second.upkeep.trans phases.third)
  children slow p := by
    have slow₀ : w.coordinator.failFast = false := by
      rw [← slow]
      exact (moves_failFast (upkeep_moves .any phases.upkeep)).symm
    exact Tried.upkeep ((phases.complete (.inl slow₀)).1 p) phases.third

theorem relistenIn_phases (audience : Audience (Backstage τ)) (order : Enumeration)
    (ready : Ready w) :
    ∃ w₁ w₂, Phases w w₁ w₂ (relistenIn order (memoryClient.facing audience) w) := by
  have keeps (kind : WatchKind) (p : Path) {v v' : World (Backstage τ)} (rearmed : Rearmed v v')
      (tried : Tried p kind v.setting) : Tried p kind v'.setting :=
    Tried.upkeep tried rearmed.upkeep
  obtain ⟨result₁, w₁, h₁, ready₁, first, hits₁⟩ := attemptAll_hits
    (Q := fun p v => Tried p .data v.setting) (l := order.data w.coordinator.data.keys)
    Rearmed.refl Rearmed.trans (keeps .data) w.coordinator.failFast id
    (fun p _ _ ready => dataChange_attempt audience p ready) ready
  obtain ⟨⟨failed₁, rfl⟩, tried₁⟩ := hits₁.resolve_right fun cut => cut.1 trivial
  have data : ∀ p, Tried p .data w₁.setting := tried_of_phase
    (fun q hq => (order.data_perm _).mem_iff.2 (Table.mem_keys.2 hq)) first.upkeep tried₁
  have ended (q : Path) (e : DataSubscription) (registered : w.coordinator.data.get? q = some e)
      (plain : e.owner? = none) (missing : w.outside.service.nodes.contains q = false) :
      Ended q e w.coordinator w₁.coordinator := by
    have listed : q ∈ order.data w.coordinator.data.keys :=
      (order.data_perm _).mem_iff.2 (Table.mem_keys.2 (Table.contains_of_get? registered))
    have h := ended_of_attempts audience w.coordinator.failFast ready registered plain missing
      listed
    rwa [h₁] at h
  obtain ⟨result₂, w₂, h₂, ready₂, second, hits₂⟩ := attemptAll_hits
    (Q := fun p v => Tried p .children v.setting)
    (l := order.children w₁.coordinator.children.keys)
    Rearmed.refl Rearmed.trans (keeps .children) w.coordinator.failFast id
    (fun p _ _ ready => childChange_attempt audience p ready) ready₁
  refine ⟨w₁, w₂, ?_⟩
  unfold relistenIn
  dsimp only
  rw [h₁]
  dsimp only
  rw [h₂]
  rcases hits₂ with ⟨⟨failed₂, rfl⟩, tried₂⟩ | ⟨-, fast, e, rfl⟩
  · have children : ∀ p, Tried p .children w₂.setting := tried_of_phase
      (fun q hq => (order.children_perm _).mem_iff.2 (Table.mem_keys.2 hq)) second.upkeep tried₂
    -- what may be created when the phase starts may still be when its turn comes
    let G (v : World (Backstage τ)) : Prop :=
      Ready v ∧ Relation.ReflTransGen Upkeep w₂.setting v.setting
    let Q (n : StubbornNode) (v : World (Backstage τ)) : Prop :=
      w₂.outside.service.Creatable n.path → v.outside.service.nodes.contains n.path = true
    have attempts (n : StubbornNode) (v : World (Backstage τ)) (good : G v) :
        Attempt G (fun v v' => Relation.ReflTransGen Upkeep v.setting v'.setting) False (Q n) v
          (recreate (memoryClient.facing audience) n v) := by
      obtain ⟨upkeep, there, orderly⟩ := recreate_upkeep audience n good.1
      refine ⟨⟨upkeep_ready upkeep good.1, good.2.trans upkeep⟩, upkeep, fun creatable => ?_,
        False.elim, orderly⟩
      exact there (creatable.grown (upkeep_grown good.2))
    obtain ⟨result₃, w₃, h₃, -, third, hits₃⟩ := attemptAll_hits
      (Q := Q) (l := order.stubborn w₂.coordinator.stubbornNodes)
      (fun _ => .refl) (fun h h' => h.trans h')
      (fun n _ _ upkeep there creatable => (upkeep_grown upkeep).contains (there creatable))
      w.coordinator.failFast StubbornNode.path (fun n _ => attempts n) ⟨ready₂, .refl⟩
    dsimp only
    rw [h₃]
    rcases hits₃ with ⟨⟨failed₃, rfl⟩, made⟩ | ⟨-, fast, e, rfl⟩
    · have nodes (n : StubbornNode) (hn : n ∈ w₂.coordinator.stubbornNodes) :=
        made n ((order.stubborn_perm _).mem_iff.2 hn)
      dsimp only
      split
      · exact ⟨first, data, ended, second, third, fun _ => ⟨children, nodes⟩⟩
      · exact ⟨first, data, ended, second, third, fun _ => ⟨children, nodes⟩⟩
    · refine ⟨first, data, ended, second, third, ?_⟩
      rintro (slow | h)
      · rw [fast] at slow
        cases slow
      · cases h
  · refine ⟨first, data, ended, second, .refl, ?_⟩
    rintro (slow | h)
    · rw [fast] at slow
      cases slow
    · cases h

/-- The world when the session is connected again, before anything is recovered. -/
def World.resumed (w : World (Backstage τ)) : World (Backstage τ) :=
  w.noting w.outside.service.reconnect .reconnect true

theorem reconnectIn_phases (audience : Audience (Backstage τ)) (order : Enumeration)
    (sane : w.outside.service.Sane) :
    ∃ w₁ w₂, Phases w.resumed w₁ w₂ (reconnectIn order (memoryClient.facing audience) w) := by
  have answer : (memoryClient.facing audience).ask .reconnect w = (.ok (), w.resumed) := rfl
  rw [reconnectIn, answer]
  exact relistenIn_phases audience order
    ⟨sane_reconnect sane, MemoryService.alive_reconnect w.outside.service⟩

end DurableWatch
