import DurableWatch.Proofs.Reconnection
import DurableWatch.Proofs.RecoveryView

/-!
# The attempts of a recovery, seen through views

In a session that is alive, each attempt does to the view what the function of its kind says, and it
fails if and only if a condition on the view holds that no other attempt changes.
-/
namespace DurableWatch

open World Coordinator Setting

section mirrored

variable {σ α β : Type}

/-- What comes of an attempt: a world in `G` that is seen as `now`, and a failure or none. -/
structure Seen (G : World σ → Prop) (view : World σ → β) (now : β) (failing : Bool)
    (done : Except Stop Unit × World σ) : Prop where
  good : G done.2
  seen : view done.2 = now
  succeeds : failing = false → done.1 = .ok ()
  stops : failing = true → ∃ e, done.1 = .error (.failed e)

/-- At a world in `G` an attempt does to the view what `step` does, and it fails if and only if
`fails` says so. No attempt changes whether another one fails. -/
structure Mirrored (G : World σ → Prop) (view : World σ → β) (step : β → α → β)
    (fails : β → α → Bool) (attempt : α → World σ → Except Stop Unit × World σ) : Prop where
  mirrors : ∀ a w, G w → Seen G view (step (view w) a) (fails (view w) a) (attempt a w)
  settled : ∀ v a b, fails (step v a) b = fails v b

end mirrored

variable {τ : Type} {a b : Setting} {base : Nat}

/-- The session is alive, and all is as a run has left it. -/
structure Steady (base : Nat) (w : World (Backstage τ)) : Prop where
  kept : w.setting.Kept
  alive : w.outside.service.alive = true
  newer : base ≤ w.coordinator.nextId

theorem Steady.upkeep {w w' : World (Backstage τ)} (steady : Steady base w)
    (upkeep : Relation.ReflTransGen Upkeep w.setting w'.setting)
    (newer : w.coordinator.nextId ≤ w'.coordinator.nextId) : Steady base w' where
  kept := steady.kept.upkeep upkeep
  alive := (upkeep_grown upkeep).alive.trans steady.alive
  newer := steady.newer.trans newer

theorem reportsOn_of_journal {c c' : Coordinator} {rs : List Report}
    (h : c'.journal = c.journal ++ rs) (q : Path) :
    c'.reportsOn q = c.reportsOn q ++ rs.filter fun r => r.event.path == q := by
  simp [Coordinator.reportsOn, h]

/-! ### Data subscriptions -/

section data

variable {w : World (Backstage τ)} {p : Path} {e : DataSubscription}

theorem DataSubscription.levelled_of_le (old : e.id ≤ base) : e.levelled base = e := by
  rw [DataSubscription.levelled, Nat.min_eq_left old]

theorem nextId_dataChange (audience : Audience (Backstage τ)) (p : Path) (w : World (Backstage τ)) :
    (dataChange (memoryClient.facing audience) p w).2.coordinator.nextId =
      w.coordinator.nextId := by
  rcases dataChange_coordinator ((memoryClient_orderly (τ := τ)).facing audience) p w with
    h | ⟨e, -, ⟨d, h⟩ | ⟨-, h⟩⟩
  · rw [h]
  · rw [h]
    rfl
  · rw [h]
    rfl

theorem reportsOn_dispatch (c : Coordinator) (r : Report) (q : Path) :
    (c.dispatch r).reportsOn q =
      if r.event.path = q then c.reportsOn q ++ [r] else c.reportsOn q := by
  have journal : (c.dispatch r).journal = c.journal ++ [r] := rfl
  rw [reportsOn_of_journal journal, List.filter_singleton]
  by_cases h : r.event.path = q <;> simp [h, beq_false_of_ne]

theorem reportsOn_removeData (c : Coordinator) (p q : Path) :
    (c.removeData p).reportsOn q = c.reportsOn q := rfl

theorem get?_removeData (c : Coordinator) (p q : Path) :
    (c.removeData p).data.get? q = if q = p then none else c.data.get? q :=
  Table.get?_erase c.data p q

@[simp] theorem MemoryService.armed_arm_data (s : MemoryService) (p q : Path) :
    (s.arm p .data).armed q .data = (decide (q = p) || s.armed q .data) :=
  TextSet.contains_insert s.dataWatches p q

/-- A report that is dispatched shows in the reports on its node only. -/
theorem cells_dispatch (c : Coordinator) (service : MemoryService) (calls : List Inquiry)
    (e : DataSubscription) (event : Event) (q : Path) :
    (Setting.view base ⟨c.dispatch (e.report event), service, calls⟩).cells q =
      ⟨(c.data.get? q).map (·.levelled base), service.armed q .data,
        if event.path = q then c.reportsOn q ++ [e.report event] else c.reportsOn q⟩ :=
  congrArg (Cell.mk _ _) (reportsOn_dispatch c (e.report event) q)

/-- Only what concerns the data of the node at `p` may differ. -/
theorem view_put {cell : Cell} (here : (b.view base).cells p = cell)
    (others : ∀ q, q ≠ p → (b.view base).cells q = (a.view base).cells q)
    (posts : (b.view base).posts = (a.view base).posts)
    (stubborn : b.coordinator.stubborn = a.coordinator.stubborn)
    (nodes : b.service.nodes = a.service.nodes)
    (session : b.service.sessionId = a.service.sessionId)
    (channel : b.service.channel = a.service.channel) :
    b.view base = (a.view base).put p cell := by
  refine View.ext (funext fun q => ?_) posts stubborn nodes session
    (congrArg Multiset.ofList channel)
  rw [View.cells_put]
  by_cases hq : q = p
  · rw [hq, here, Function.update_self]
  · rw [others q hq, Function.update_of_ne hq]

theorem view_read (registered : a.coordinator.data.get? p = some e) (old : e.id ≤ base) (d : Data)
    (calls : List Inquiry) :
    Setting.view base
        ⟨a.coordinator.dispatch (e.report ⟨p, .dataChanged d⟩), a.service.arm p .data, calls⟩ =
      (a.view base).put p
        ⟨some e, true, a.coordinator.reportsOn p ++ [e.report ⟨p, .dataChanged d⟩]⟩ := by
  refine view_put ?_ (fun q hq => ?_) rfl rfl rfl rfl rfl
  · rw [cells_dispatch]
    simp [registered, DataSubscription.levelled_of_le old]
  · rw [cells_dispatch]
    simp [Setting.view, hq, Ne.symm hq]

theorem view_ended (e : DataSubscription) (calls : List Inquiry) :
    Setting.view base
        ⟨(a.coordinator.removeData p).dispatch (e.report ⟨p, .deleted⟩), a.service, calls⟩ =
      (a.view base).put p ⟨none, a.service.armed p .data,
        a.coordinator.reportsOn p ++ [e.report ⟨p, .deleted⟩]⟩ := by
  refine view_put ?_ (fun q hq => ?_) rfl rfl rfl rfl rfl
  · rw [cells_dispatch]
    simp [reportsOn_removeData, get?_removeData]
  · rw [cells_dispatch]
    simp [Setting.view, reportsOn_removeData, get?_removeData, hq, Ne.symm hq]

/-- Before any pass over children all subscriptions are older than `base`. -/
theorem view_dataChange (audience : Audience (Backstage τ)) (p : Path) (steady : Steady base w)
    (last : w.coordinator.nextId = base) :
    (dataChange (memoryClient.facing audience) p w).2.setting.view base =
      (w.setting.view base).reread p := by
  have cell : (w.setting.view base).cells p = ⟨(w.coordinator.data.get? p).map (·.levelled base),
    w.outside.service.armed p .data, w.coordinator.reportsOn p⟩ := rfl
  have node? : (w.setting.view base).nodes.get? p = w.outside.service.nodes.get? p := rfl
  rw [View.reread, node?]
  cases registered : w.coordinator.data.get? p with
  | none =>
    have same : dataChange (memoryClient.facing audience) p w = (.ok (), w) := by
      rw [dataChange, registered]
    have idle (n? : Option Node) : ((w.setting.view base).cells p).reread p n? =
        (w.setting.view base).cells p := by
      rw [cell, registered]
      rfl
    rw [same, idle, View.put_self]
  | some e =>
    have old : e.id ≤ base := (last ▸ (steady.kept.sound.numbered.data p e registered).1).le
    rw [registered, Option.map_some, DataSubscription.levelled_of_le old] at cell
    unfold dataChange
    rw [registered]
    dsimp only
    cases found : w.outside.service.nodes.get? p with
    | some node =>
      rw [ask_readData_found audience w true steady.alive found, cell]
      exact view_read (a := w.setting) registered old node.data _
    | none =>
      have absent : w.outside.service.alive = true → w.outside.service.nodes.contains p = false :=
        fun _ => Table.contains_eq_false.2 found
      obtain ⟨cause, notFound, refused⟩ := ask_read_refused audience w .data absent
      simp only [WatchKind.read] at refused
      have gone : (Stop.failed cause).isNotFound = true := notFound.trans steady.alive
      rw [refused]
      simp only [gone, Bool.not_true, Bool.false_eq_true, if_false]
      by_cases managed : e.parentManaged = true
      · have idle : ((w.setting.view base).cells p).reread p none =
            (w.setting.view base).cells p := by
          simp only [cell, Cell.reread, managed, if_true]
        rw [if_pos managed, idle, View.put_self]
        rfl
      · have ends : ((w.setting.view base).cells p).reread p none =
            ⟨none, w.outside.service.armed p .data,
              w.coordinator.reportsOn p ++ [e.report ⟨p, .deleted⟩]⟩ := by
          simp only [cell, Cell.reread, managed, Bool.false_eq_true, if_false]
        rw [if_neg managed, ends]
        refine Eq.trans ?_
          (view_ended (a := w.setting) e (⟨.readData p true, false⟩ :: w.outside.calls))
        rw [show w.setting.coordinator.removeData p = w.coordinator.removeDataIf p e.id from
          (removeDataIf_of_get? registered).symm]
        rfl

theorem dataChange_mirrored (audience : Audience (Backstage τ)) (base : Nat) :
    Mirrored (fun w => Steady base w ∧ w.coordinator.nextId = base)
      (fun w => w.setting.view base) View.reread (fun _ _ => false)
      (dataChange (memoryClient.facing audience)) where
  mirrors p w good := by
    obtain ⟨steady, last⟩ := good
    obtain ⟨result, w', h, upkeep, -, succeeds, -⟩ :=
      dataChange_upkeep audience (.refl w.setting (.watch p .data)) rfl steady.kept.sane
    have now := view_dataChange audience p steady last
    have same := nextId_dataChange audience p w
    rw [h] at now same ⊢
    refine ⟨⟨steady.upkeep upkeep same.ge, same.trans last⟩, now, fun _ => ?_, fun failing => ?_⟩
    · exact succeeds steady.alive
    · cases failing
  settled _ _ _ := rfl

end data

/-! ### Child subscriptions -/

section pass

variable {p : Path} {s : ChildSubscription} {new : NewChildren}

namespace Setting

/-- What a pass tells of the child `n`. -/
theorem Passed.reportsOn (passed : Passed a b a.coordinator p s .dispatched new) (n : String) :
    b.coordinator.reportsOn (p.child n) = a.coordinator.reportsOn (p.child n) ++
      (s.createdReports p .dispatched (new.found.filter fun e => e.1 == n) ++
        s.deletedReports (((ChildDiff.between s.known (a.service.childNames p)).deleted.filter
          (· == n)).map p.child)) := by
  have journal := journal_absorb (c := a.coordinator) (p := p) (s := s) .dispatched
    (ChildDiff.between s.known (a.service.childNames p)) new
  rw [← passed.coordinator] at journal
  rw [reportsOn_of_journal journal, List.filter_append, createdReports_on, deletedReports_on]

theorem Passed.armed_data (passed : Passed a b a.coordinator p s .dispatched new) (q : Path) :
    b.service.armed q .data = true ↔ a.service.armed q .data = true ∨
      s.watchesChildData = true ∧
        ∃ n, (n ∈ a.service.childNames p ∧ s.known.contains n = false) ∧ q = p.child n := by
  rw [passed.looked.armed]
  simp [passReads, ChildDiff.mem_created]

theorem Passed.armed_children (passed : Passed a b a.coordinator p s .dispatched new) (q : Path) :
    b.service.armed q .children = true ↔ a.service.armed q .children = true ∨ q = p := by
  rw [passed.looked.armed]
  simp [passReads]

/-- A new child is told of, and watched if data is. -/
theorem Passed.cell_found (passed : Passed a b a.coordinator p s .dispatched new)
    (newer : base ≤ a.coordinator.nextId) {q : Path} (child : p.child q.name = q) {node : Node}
    (found : a.service.nodes.get? q = some node) (listed : q.name ∈ a.service.childNames p)
    (unknown : s.known.contains q.name = false) : (b.view base).cells q =
      ((a.view base).cells q).compare base s q (some node) := by
  have told : b.coordinator.reportsOn q =
      a.coordinator.reportsOn q ++ [s.report .dispatched ⟨q, .created node.data⟩] := by
    obtain ⟨d, only⟩ := filter_key_of_mem
      (passed.covers.found_nodup (ChildDiff.created_nodup _ _))
      (passed.mem_found.2 ⟨listed, unknown⟩)
    have member : (q.name, d) ∈ new.found := by
      refine List.mem_of_mem_filter (?_ : _ ∈ new.found.filter fun e => e.1 == q.name)
      rw [only]
      exact List.mem_singleton_self _
    have read := passed.read _ member
    rw [child, found, Option.map_some, Option.some.injEq] at read
    have kept : q.name ∉ (ChildDiff.between s.known (a.service.childNames p)).deleted :=
      fun gone => (ChildDiff.mem_deleted.1 gone).2 listed
    have tells := passed.reportsOn q.name
    rw [child, only, List.filter_beq, List.count_eq_zero_of_not_mem kept] at tells
    simpa [ChildSubscription.createdReports, ChildSubscription.deletedReports, child, read] using
      tells
  have armed : b.service.armed q .data = (s.watchesChildData || a.service.armed q .data) := by
    rw [Bool.eq_iff_iff, passed.armed_data, Bool.or_eq_true, or_comm]
    refine or_congr_left (and_iff_left_iff_imp.2 fun _ => ?_)
    exact ⟨q.name, ⟨listed, unknown⟩, child.symm⟩
  have subscribed : (b.coordinator.data.get? q).map (·.levelled base) =
      if s.watchesChildData then some ⟨base, s.listener, some s.id⟩
      else (a.coordinator.data.get? q).map (·.levelled base) := by
    rcases passed.entry q with
      ⟨watches, -, id, isNew, hget⟩ | ⟨-, ⟨n, known, -, hq⟩, -⟩ | ⟨same, agrees⟩
    · rw [hget, if_pos watches]
      simp [DataSubscription.levelled, newer.trans isNew]
    · rw [← child, Path.child_inj] at hq
      rw [hq, known] at unknown
      cases unknown
    · have unwatched : ¬s.watchesChildData = true := by
        intro watches
        rw [(agrees watches q.name child.symm).2 listed] at unknown
        cases unknown
      rw [same, if_neg unwatched]
  simp [Setting.view, Cell.compare, unknown, told, armed, subscribed]

/-- A child that is gone is told of, and no one is subscribed to its data. -/
theorem Passed.cell_gone (passed : Passed a b a.coordinator p s .dispatched new)
    {q : Path} (child : p.child q.name = q) (unlisted : q.name ∉ a.service.childNames p)
    (known : s.known.contains q.name = true) : (b.view base).cells q =
      ((a.view base).cells q).compare base s q none := by
  have told : b.coordinator.reportsOn q =
      a.coordinator.reportsOn q ++ [s.report .dispatched ⟨q, .deleted⟩] := by
    have notFound : q.name ∉ new.found.map Prod.fst := by
      intro found
      exact unlisted (passed.mem_found.1 found).1
    have gone : q.name ∈ (ChildDiff.between s.known (a.service.childNames p)).deleted :=
      ChildDiff.mem_deleted.2 ⟨known, unlisted⟩
    have tells := passed.reportsOn q.name
    rw [child, filter_key_of_not_mem notFound, List.filter_beq,
      List.count_eq_one_of_mem (ChildDiff.deleted_nodup _ _) gone] at tells
    simpa [ChildSubscription.createdReports, ChildSubscription.deletedReports, child] using tells
  have armed : b.service.armed q .data = a.service.armed q .data := by
    rw [Bool.eq_iff_iff, passed.armed_data, or_iff_left_iff_imp]
    rintro ⟨-, n, ⟨listed, -⟩, hq⟩
    rw [← child, Path.child_inj] at hq
    exact absurd (hq ▸ listed) unlisted
  have subscribed : b.coordinator.data.get? q =
      if s.watchesChildData then none else a.coordinator.data.get? q := by
    rcases passed.entry q with ⟨-, ⟨n, listed, -, hq⟩, -⟩ | ⟨watches, -, hget⟩ | ⟨same, agrees⟩
    · rw [← child, Path.child_inj] at hq
      exact absurd (hq ▸ listed) unlisted
    · rw [hget, if_pos watches]
    · have unwatched : ¬s.watchesChildData = true :=
        fun watches => unlisted ((agrees watches q.name child.symm).1 known)
      rw [same, if_neg unwatched]
  simp only [Setting.view, Cell.compare, known, told, armed, subscribed]
  split <;> rfl

/-- A pass leaves alone what it finds as it is known. -/
theorem Passed.cell_kept (passed : Passed a b a.coordinator p s .dispatched new) {q : Path}
    (agrees : ∀ n, q = p.child n → (s.known.contains n = true ↔ n ∈ a.service.childNames p)) :
    (b.view base).cells q = (a.view base).cells q := by
  have fresh (n : String) (listed : n ∈ a.service.childNames p)
      (unknown : s.known.contains n = false) : q ≠ p.child n := by
    intro hq
    rw [(agrees n hq).2 listed] at unknown
    cases unknown
  have told : b.coordinator.reportsOn q = a.coordinator.reportsOn q := by
    have journal := journal_absorb (c := a.coordinator) (p := p) (s := s) .dispatched
      (ChildDiff.between s.known (a.service.childNames p)) new
    rw [← passed.coordinator] at journal
    rw [reportsOn_of_journal journal, List.filter_eq_nil_iff.2, List.append_nil]
    intro r hr
    rw [beq_iff_eq, eq_comm]
    rcases List.mem_append.1 hr with created | deleted
    · obtain ⟨e, he, rfl⟩ := List.mem_map.1 created
      obtain ⟨listed, unknown⟩ := passed.mem_found.1 (List.mem_map_of_mem he)
      exact fresh e.1 listed unknown
    · obtain ⟨_, hgone, rfl⟩ := List.mem_map.1 deleted
      obtain ⟨n, hn, rfl⟩ := List.mem_map.1 hgone
      obtain ⟨known, unlisted⟩ := ChildDiff.mem_deleted.1 hn
      exact fun hq => unlisted ((agrees n hq).1 known)
  have armed : b.service.armed q .data = a.service.armed q .data := by
    rw [Bool.eq_iff_iff, passed.armed_data, or_iff_left_iff_imp]
    rintro ⟨-, n, ⟨listed, unknown⟩, hq⟩
    exact absurd hq (fresh n listed unknown)
  have subscribed : b.coordinator.data.get? q = a.coordinator.data.get? q := by
    rcases passed.entry q with
      ⟨-, ⟨n, listed, unknown, hq⟩, -⟩ | ⟨-, ⟨n, known, unlisted, hq⟩, -⟩ | ⟨same, -⟩
    · exact absurd hq (fresh n listed unknown)
    · exact absurd ((agrees n hq).1 known) unlisted
    · exact same
  simp only [Setting.view, told, armed, subscribed]

theorem Passed.post (passed : Passed a b a.coordinator p s .dispatched new) (q : Path) :
    (b.view base).posts q = Function.update (a.view base).posts p
      ⟨some (s.upTo ((a.view base).tree.childNames p)), true⟩ q := by
  have armed : b.service.armed q .children = (decide (q = p) || a.service.armed q .children) := by
    rw [Bool.eq_iff_iff, passed.armed_children]
    simp [or_comm]
  have names : (a.view base).tree.childNames p = a.service.childNames p := rfl
  by_cases hq : q = p
  · subst hq
    rw [Function.update_self, names]
    simp [Setting.view, armed, passed.children, ChildSubscription.upTo, knownAfter, passed.readable]
  · rw [Function.update_of_ne hq]
    simp [Setting.view, armed, passed.children, hq]

/-- The pass of a worker, seen through views. -/
theorem Passed.view (passed : Passed a b a.coordinator p s .dispatched new) (sane : a.service.Sane)
    (faithful : Faithful a) (newer : base ≤ a.coordinator.nextId)
    (channel : b.service.channel = a.service.channel) :
    b.view base = (a.view base).compare base p s := by
  refine View.ext (funext fun q => ?_) (funext passed.post) ?_ passed.looked.nodes
    (congrArg Prod.fst passed.looked.session) (congrArg Multiset.ofList channel)
  · simp only [View.compare]
    split
    · next isChild =>
      have child : p.child q.name = q := isChild.2
      have isName : p.IsChildName q.name := ⟨by rw [child, isChild.1], by rw [child]⟩
      have listed : q.name ∈ a.service.childNames p ↔ a.service.nodes.contains q = true := by
        rw [sane.mem_childNames_iff, child]
        exact and_iff_left isName
      have own (n : String) (hq : q = p.child n) : q.name = n := by
        rwa [← child, Path.child_inj] at hq
      change _ = ((a.view base).cells q).compare base s q (a.service.nodes.get? q)
      by_cases agree : s.known.contains q.name = a.service.nodes.contains q
      · rw [Cell.compare_known base agree]
        refine passed.cell_kept fun n hq => ?_
        rw [← own n hq, listed, agree]
      · cases found : a.service.nodes.get? q with
        | some node =>
          have there : a.service.nodes.contains q = true := Table.contains_of_get? found
          refine passed.cell_found newer child found (listed.2 there) ?_
          rw [there, Bool.not_eq_true] at agree
          exact agree
        | none =>
          have missing : a.service.nodes.contains q = false := Table.contains_eq_false.2 found
          rw [missing, Bool.not_eq_false] at agree
          refine passed.cell_gone child ?_ agree
          rw [listed, missing]
          exact Bool.false_ne_true
    · next other =>
      have strange (n : String) (isName : p.IsChildName n) : q ≠ p.child n := by
        rintro rfl
        exact other (View.isChild_of_name isName)
      refine passed.cell_kept fun n hq => iff_of_false ?_ ?_
      · exact fun known => strange n (faithful.names p s passed.registered n known) hq
      · exact fun listed => strange n (sane.mem_childNames_iff.1 listed).2 hq
  · change b.coordinator.stubborn = a.coordinator.stubborn
    rw [passed.coordinator, stubborn_absorb]

end Setting

theorem view_submitAll (base : Nat) (w : World (Backstage τ)) (rs : List Report) :
    (w.update (·.submitAll rs)).setting.view base = w.setting.view base := by
  have beside := beside_submitAll w.coordinator rs
  have same : (w.update (·.submitAll rs)).setting =
    ⟨w.coordinator.submitAll rs, w.outside.service, w.outside.calls⟩ := rfl
  rw [same]
  refine View.ext (funext fun q => ?_) (funext fun q => ?_) (stubborn_submitAll _ rs) rfl rfl rfl
  · simp [Setting.view, World.setting, Coordinator.reportsOn, beside.data, beside.journal]
  · simp [Setting.view, World.setting, beside.children]

/-- A watched read that was refused leaves the view as it is. -/
theorem Setting.Missed.view {kind : WatchKind} (missed : Missed a b p kind)
    (coordinator : b.coordinator = a.coordinator)
    (channel : b.service.channel = a.service.channel) :
    b.view base = a.view base := by
  refine View.ext (funext fun q => ?_) (funext fun q => ?_) ?_ missed.nodes
    (congrArg Prod.fst missed.session) (congrArg Multiset.ofList channel)
  · simp only [Setting.view, coordinator, missed.armed]
  · simp only [Setting.view, coordinator, missed.armed]
  · exact congrArg Coordinator.stubborn coordinator

theorem childChange_mirrored (audience : Audience (Backstage τ)) (base : Nat) :
    Mirrored (Steady base) (fun w => w.setting.view base) (View.pass base) View.passFails
      (fun p => childChange (memoryClient.facing audience) p .dispatched) where
  mirrors p w steady := by
    have taken : Taken w.setting (.watch p .children) w.setting := .refl w.setting _
    have post : ((w.setting.view base).posts p).subscription = w.coordinator.children.get? p := rfl
    obtain ⟨result, w', h, upkeep, -⟩ := childChange_upkeep audience taken rfl steady.kept.sane
    have consulted := childChange_consulted audience p w
    rw [h] at consulted ⊢
    unfold childChange at h
    cases registered : w.coordinator.children.get? p with
    | none =>
      rw [registered] at h
      cases h
      have idle : (w.setting.view base).passing? p = none := by
        simp [View.passing?, post, registered]
      refine ⟨steady, ?_, fun _ => rfl, fun failing => ?_⟩
      · rw [View.pass, idle]
      · simp [View.passFails, post, registered] at failing
    | some s =>
      rw [registered] at h
      dsimp only at h
      rcases there_or_absent w p with ⟨alive, there⟩ | absent
      · obtain ⟨new, w₁, passed, -, hpass⟩ :=
          childPass_found audience .dispatched taken steady.kept.sane registered alive there
        rw [hpass] at h
        cases h
        have there' : (w.setting.view base).nodes.contains p = true := there
        have passing : (w.setting.view base).passing? p = some s := by
          rw [View.passing?, if_pos there', post, registered]
        have grows : w.coordinator.nextId ≤ w₁.coordinator.nextId := by
          rw [show w₁.coordinator = _ from passed.coordinator]
          exact nextId_le_absorb _ _ _
        have same (rs : List Report) := (beside_submitAll w₁.coordinator rs).nextId
        refine ⟨steady.upkeep upkeep (grows.trans (same _).ge), ?_, fun _ => rfl,
          fun failing => ?_⟩
        · rw [View.pass, passing, view_submitAll]
          exact passed.view steady.kept.sane steady.kept.faithful steady.newer consulted.channel
        · simp [View.passFails, there'] at failing
      · obtain ⟨e, w₁, missed, still, hpass⟩ :=
          childPass_missed (s := s) audience .dispatched taken absent
        rw [hpass] at h
        cases h
        have missing : (w.setting.view base).nodes.contains p = false := absent steady.alive
        have idle : (w.setting.view base).passing? p = none := by simp [View.passing?, missing]
        refine ⟨steady.upkeep upkeep (by rw [still]), ?_, fun failing => ?_, fun _ => ⟨e, rfl⟩⟩
        · rw [View.pass, idle]
          exact missed.view still consulted.channel
        · simp [View.passFails, post, registered, missing] at failing
  settled v p q := View.passFails_pass base v p q

end pass

/-! ### Stubborn nodes -/

theorem creationSite_ground (s : MemoryService) (p : Path) :
    match Ground.of s.nodes p with
    | .below parent => s.creationSite p = .ok parent
    | .taken => ∃ e, s.creationSite p = .error e ∧ e.isNodeExists = true
    | .barred => ∃ e, s.creationSite p = .error e ∧ e.isNodeExists = false := by
  unfold Ground.of MemoryService.creationSite Path.validate
  cases p.defect? with
  | some defect => exact ⟨_, rfl, rfl⟩
  | none =>
    simp only [ne_eq, not_true_eq_false, if_false]
    cases there : s.nodes.contains p with
    | true => exact ⟨_, rfl, rfl⟩
    | false =>
      simp only [Bool.false_eq_true, if_false]
      cases p.parent? with
      | none => exact ⟨_, rfl, rfl⟩
      | some parent =>
        dsimp only
        rcases s.nodes.get? parent with _ | ⟨data, _ | _, owner⟩
        · exact ⟨_, rfl, rfl⟩
        · rfl
        · exact ⟨_, rfl, rfl⟩

theorem view_fire (base : Nat) (alive : a.service.alive = true) (p : Path) :
    Setting.view base { a with service := a.service.fire p .children } =
      (a.view base).fire p := by
  have post : ((a.view base).posts p).armed = a.service.armed p .children := rfl
  unfold View.fire
  rw [post]
  by_cases armed : a.service.armed p .children = true
  · rw [MemoryService.fire_of_armed armed alive, if_pos armed]
    refine View.ext rfl (funext fun q => ?_) rfl rfl rfl ?_
    · have disarmed : ((a.service.disarm p .children).send (.watch p .children)).armed q .children =
          (!decide (q = p) && a.service.armed q .children) :=
        Table.contains_erase a.service.childWatches p q
      dsimp only
      by_cases hq : q = p
      · subst hq
        rw [Function.update_self]
        simp [Setting.view, disarmed]
      · rw [Function.update_of_ne hq]
        simp [Setting.view, disarmed, hq]
    · exact Multiset.coe_eq_coe.2 (List.perm_append_singleton _ _)
  · rw [MemoryService.fire_of_unarmed (Bool.eq_false_of_not_eq_true armed), if_neg armed]

/-- A node that cannot be created because it is there counts as created. -/
theorem recreate_outcome (audience : Audience (Backstage τ)) {w : World (Backstage τ)}
    (n : StubbornNode) (alive : w.outside.service.alive = true) :
    let s := w.outside.service
    let answered (s' : MemoryService) := w.noting s' (.create n.path n.data .ephemeral)
    match Ground.of s.nodes n.path with
    | .below parent => recreate (memoryClient.facing audience) n w = (.ok (), answered
        ({ s with nodes := s.nodes.insert n.path ⟨n.data, .ephemeral, s.sessionId⟩ }.fire
          parent .children) true)
    | .taken => recreate (memoryClient.facing audience) n w = (.ok (), answered s false)
    | .barred => ∃ e, recreate (memoryClient.facing audience) n w =
        (.error (.failed e), answered s false) := by
  let node : Node := ⟨n.data, .ephemeral, w.outside.service.sessionId⟩
  have asked := ask_alive audience w (r := .create n.path n.data .ephemeral) alive (by simp)
  have site := creationSite_ground w.outside.service n.path
  rw [show w.outside.service.serve (.create n.path n.data .ephemeral) =
    w.outside.service.createNode n.path node from rfl, MemoryService.createNode] at asked
  unfold recreate
  rw [asked]
  dsimp only
  cases ground : Ground.of w.outside.service.nodes n.path with
  | below parent =>
    rw [ground] at site
    dsimp only at site
    rw [site]
    rfl
  | taken =>
    rw [ground] at site
    obtain ⟨e, refused, there⟩ := site
    have tolerated : (Stop.failed e).isNodeExists = true := there
    rw [refused]
    simp only [Except.mapError, tolerated, if_true]
    rfl
  | barred =>
    rw [ground] at site
    obtain ⟨e, refused, missing⟩ := site
    have failed : (Stop.failed e).isNodeExists = false := missing
    rw [refused]
    simp only [Except.mapError, failed, Bool.false_eq_true, if_false]
    exact ⟨_, rfl⟩

theorem recreate_mirrored (audience : Audience (Backstage τ)) (base : Nat) :
    Mirrored (Steady base) (fun w => w.setting.view base) View.recreate View.recreateFails
      (recreate (memoryClient.facing audience)) where
  mirrors n w steady := by
    have upkeep := (recreate_upkeep audience n ⟨steady.kept.sane, steady.alive⟩).1
    have outcome := recreate_outcome audience n steady.alive
    have nodes : (w.setting.view base).nodes = w.outside.service.nodes := rfl
    dsimp only at outcome
    cases ground : Ground.of w.outside.service.nodes n.path with
    | below parent =>
      rw [ground] at outcome
      dsimp only at outcome
      rw [outcome] at upkeep ⊢
      refine ⟨steady.upkeep upkeep le_rfl, ?_, fun _ => rfl, fun failing => ?_⟩
      · rw [View.recreate, nodes, ground]
        let node : Node := ⟨n.data, .ephemeral, w.outside.service.sessionId⟩
        exact view_fire (a := ⟨w.coordinator, { w.outside.service with
          nodes := w.outside.service.nodes.insert n.path node }, []⟩) base steady.alive parent
      · simp [View.recreateFails, nodes, ground] at failing
    | taken =>
      rw [ground] at outcome
      dsimp only at outcome
      rw [outcome] at upkeep ⊢
      refine ⟨steady.upkeep upkeep le_rfl, ?_, fun _ => rfl, fun failing => ?_⟩
      · rw [View.recreate, nodes, ground]
        rfl
      · simp [View.recreateFails, nodes, ground] at failing
    | barred =>
      rw [ground] at outcome
      obtain ⟨e, outcome⟩ := outcome
      rw [outcome] at upkeep ⊢
      refine ⟨steady.upkeep upkeep le_rfl, ?_, fun succeeding => ?_, fun _ => ⟨e, rfl⟩⟩
      · rw [View.recreate, nodes, ground]
        rfl
      · simp [View.recreateFails, nodes, ground] at succeeding
  settled := View.recreateFails_recreate

end DurableWatch
