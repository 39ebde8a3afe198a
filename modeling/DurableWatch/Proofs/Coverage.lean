import DurableWatch.Proofs.Convergence

/-!
# The data of every child

A subscription that watches the data of children has a data subscription for each child that it
knows. Whether a change of the data is noticed is a matter of the watch: it is armed exactly when
the last watched read of the child was answered. A fire that is handled between the deletion of a
child and its re-creation finds no node to read; if the parent's pass comes after the re-creation,
it sees no difference and reads nothing either.
-/
namespace DurableWatch

open World Coordinator

/-- No data subscription of the application's own below `p`. -/
def Rule.sparing (p : Path) : Rule := fun _ _ command =>
  ∀ q : Path, q.parent? = some p →
    (∀ l, command ≠ .listen q l .data) ∧ command ≠ .unlisten q .data

namespace Setting

variable {a b : Setting} {p : Path}

/-- The subscription at `p` has a data subscription for each child it knows, if it watches them. -/
def Covered (p : Path) (a : Setting) : Prop :=
  ∀ s, a.coordinator.children.get? p = some s → s.watchesChildData = true →
    ∀ n, s.known.contains n = true →
      ∃ e, a.coordinator.data.get? (p.child n) = some e ∧ e.owner? = some s.id ∧
        e.listener = s.listener

theorem Covered.frame (covered : Covered p a)
    (children : ∀ s, b.coordinator.children.get? p = some s →
      a.coordinator.children.get? p = some s)
    (data : ∀ s n e, a.coordinator.children.get? p = some s → s.known.contains n = true →
      a.coordinator.data.get? (p.child n) = some e → e.owner? = some s.id →
      b.coordinator.data.get? (p.child n) = some e) : Covered p b := by
  intro s hs watches n known
  obtain ⟨e, he, owner, listener⟩ := covered s (children s hs) watches n known
  exact ⟨e, data s n e (children s hs) known he owner, owner, listener⟩

/-- What goes from the pool does not lie below `p`. -/
theorem Covered.removeData (covered : Covered p a) (faithful : Faithful a) {q : Path}
    (elsewhere : ∀ s, a.coordinator.children.get? p = some s → q.parent? ≠ some p)
    (coordinator : b.coordinator = a.coordinator.removeData q) : Covered p b := by
  refine covered.frame (fun s hs => ?_) fun s n e hs known he _ => ?_
  · rwa [coordinator] at hs
  · have hq : p.child n ≠ q := by
      rintro rfl
      exact elsewhere s hs (faithful.names p s hs n known).parent
    rw [coordinator]
    simpa [Coordinator.removeData, hq] using he

/-- The pass of `p` itself brings what is missing. -/
theorem covered_passed {c : Coordinator} {s : ChildSubscription} {delivery : Delivery}
    {new : NewChildren} (passed : Passed a b c p s delivery new)
    (before : s.watchesChildData = true → ∀ n, s.known.contains n = true →
      ∃ e, c.data.get? (p.child n) = some e ∧ e.owner? = some s.id ∧ e.listener = s.listener) :
    Covered p b := by
  intro s' hs' watches n known
  rw [passed.children, if_pos rfl] at hs'
  cases hs'
  have listed := (passed.known n).1 known
  rcases passed.data (p.child n) with ⟨-, -, id, hget⟩ | ⟨-, ⟨m, -, unlisted, hm⟩, -⟩ | ⟨same, kept⟩
  · exact ⟨_, hget, rfl, rfl⟩
  · rw [Path.child_inj] at hm
    subst hm
    exact absurd listed unlisted
  · rw [same]
    exact before watches n ((kept watches n rfl).2 listed)

/-- The pass of another node leaves the children of `p` alone. -/
theorem Covered.passed_other (covered : Covered p a) (faithful : Faithful a)
    (sane : a.service.Sane) {c : Coordinator} {p' : Path} {s' : ChildSubscription}
    {delivery : Delivery} {new : NewChildren} (passed : Passed a b c p' s' delivery new)
    (other : p ≠ p') (children : c.children.get? p = a.coordinator.children.get? p)
    (data : c.data = a.coordinator.data)
    (names : ∀ n, s'.known.contains n = true → p'.IsChildName n) : Covered p b := by
  refine covered.frame (fun s hs => ?_) fun s n e hs known he _ => ?_
  · rwa [passed.children, if_neg other, children] at hs
  · have isChild := faithful.names p s hs n known
    rcases passed.data (p.child n) with
      ⟨-, ⟨m, listed, hm⟩, -⟩ | ⟨-, ⟨m, was, -, hm⟩, -⟩ | ⟨same, -⟩
    · exact absurd hm (isChild.child_ne (sane.mem_childNames_iff.1 listed).2 other)
    · exact absurd hm (isChild.child_ne (names m was) other)
    · rw [same, data]
      exact he

theorem Covered.move (covered : Covered p a) (faithful : Faithful a) (sane : a.service.Sane)
    (move : Move (.sparing p) a b) : Covered p b := by
  cases move with
  | aside beside _ _ =>
    refine covered.frame (fun s hs => ?_) fun s n e _ _ he _ => ?_
    · rwa [beside.children] at hs
    · rwa [beside.data]
  | unclaimed _ coordinator _ =>
    rw [Covered, coordinator]
    exact covered
  | reread d _ _ coordinator =>
    rw [Covered, coordinator]
    exact covered
  | unread _ coordinator =>
    rw [Covered, coordinator]
    exact covered
  | @ended _ q e' registered plain _ coordinator =>
    refine covered.frame (fun s hs => ?_) fun s n e hs known he owner => ?_
    · rwa [coordinator] at hs
    · have hq : p.child n ≠ q := by
        rintro rfl
        rw [registered] at he
        cases he
        rw [plain] at owner
        cases owner
      rw [coordinator]
      simpa [record, Coordinator.removeData, hq] using he
  | @pass _ p' s' _ _ passed =>
    by_cases hp : p = p'
    · subst hp
      exact covered_passed passed (covered s' passed.registered)
    · exact covered.passed_other faithful sane passed hp rfl rfl
        (faithful.names p' s' passed.registered)
  | @subscribe _ p' l withData _ _ passed =>
    by_cases hp : p = p'
    · subst hp
      refine covered_passed passed fun _ n known => ?_
      cases known
    · refine covered.passed_other faithful sane passed hp (by simp [addChildren, hp]) rfl ?_
      intro n known
      cases known
  | @subscribeData _ q l d allowed _ coordinator =>
    refine covered.frame (fun s hs => ?_) fun s n e hs known he _ => ?_
    · rwa [coordinator] at hs
    · have hq : p.child n ≠ q := by
        rintro rfl
        exact (allowed _ (faithful.names p s hs n known).parent).1 l rfl
      rw [coordinator]
      simpa [record, addData, hq] using he
  | @unsubscribe p' gone _ own =>
    by_cases hp : p = p'
    · intro s hs
      simp [removeChildren, hp] at hs
    · refine covered.frame (fun s hs => ?_) fun s n e hs known he _ => ?_
      · simpa [removeChildren, hp] using hs
      · have kept : p.child n ∉ gone := by
          intro hn
          obtain ⟨s', m, hs', was, hm⟩ := own _ hn
          exact (faithful.names p s hs n known).child_ne (faithful.names p' s' hs' m was) hp hm
        rw [data_removeDataAll, if_neg kept]
        exact he
  | @dropChild p' n unsubscribed isChild =>
    refine covered.removeData faithful (fun s hs h => ?_) rfl
    rw [isChild.parent] at h
    cases h
    rw [unsubscribed] at hs
    cases hs
  | @unsubscribeData q allowed =>
    refine covered.removeData faithful (fun s _ h => ?_) rfl
    exact (allowed q h).2 rfl
  | cancel _ coordinator _ _ =>
    rw [Covered, coordinator]
    exact covered

end Setting

variable {τ : Type}

theorem World.IsNew.covered {w : World (Backstage τ)} (isNew : w.IsNew) (p : Path) :
    w.setting.Covered p := by
  obtain ⟨dispatcher, failFast, h⟩ := isNew.coordinator
  intro s hs
  rw [setting, h] at hs
  cases hs

theorem journal_dataChange (audience : Audience (Backstage τ)) (node : Node)
    {w : World (Backstage τ)} {q : Path} {e : DataSubscription}
    (alive : w.outside.service.alive = true) (registered : w.coordinator.data.get? q = some e)
    (found : w.outside.service.nodes.get? q = some node) :
    (dataChange (memoryClient.facing audience) q w).2.coordinator.journal =
      w.coordinator.journal ++ [e.report ⟨q, .dataChanged node.data⟩] := by
  rw [dataChange, registered]
  dsimp only
  rw [ask_readData_found audience w true alive found]
  rfl

/-- While the watch is armed, the next change of the data is reported when its fire is handled. -/
theorem journal_setData (audience : Audience (Backstage τ)) {w : World (Backstage τ)} {q : Path}
    {e : DataSubscription} (alive : w.outside.service.alive = true)
    (quiet : w.outside.service.channel = []) (sane : w.outside.service.Sane)
    (armed : w.outside.service.armed q .data = true)
    (registered : w.coordinator.data.get? q = some e) (d : Data) :
    ((w.changed (.setData q d)).handleNext (memoryClient.facing audience)).coordinator.journal =
      w.coordinator.journal ++ [e.report ⟨q, .dataChanged d⟩] := by
  obtain ⟨node, found⟩ := Table.contains_eq_true.1 (sane.watched q .data armed)
  have fired : (w.changed (.setData q d)).outside.service =
      (({ w.outside.service with
        nodes := w.outside.service.nodes.insert q { node with data := d } }).disarm q .data).send
          (.watch q .data) := by
    simp only [World.changed, withService, MemoryService.change, MemoryService.setData, found]
    exact MemoryService.fire_of_armed armed alive
  have next : (w.changed (.setData q d)).outside.service.channel = [.watch q .data] := by
    rw [fired]
    simp [MemoryService.send, quiet]
  rw [handleNext_of_channel next]
  simp only [onNotification, dropFailure_world]
  refine journal_dataChange audience { node with data := d } ?_ registered ?_
  · change (w.changed (.setData q d)).outside.service.alive = true
    rw [fired]
    exact alive
  · change (w.changed (.setData q d)).outside.service.nodes.get? q = _
    rw [fired]
    simp [MemoryService.send]

/-- A subscription that watches the data of children has a data subscription for each child it
knows. While nothing waits to be handled, the watch of a child is armed if its last watched read was
answered, and then the next change of its data is reported. If the child was missing then, the watch
is gone, and no change is noticed any more, even when the child comes back. -/
theorem child_data_covered {audience : Audience (Backstage τ)} {p : Path}
    (tame : Tame memoryClient (MemoryStep (.sparing p)) audience) {w₀ w : World (Backstage τ)}
    (isNew : w₀.IsNew)
    (run : Relation.ReflTransGen (MemoryStep (.sparing p) (memoryClient.facing audience)) w₀ w)
    (alive : w.outside.service.alive = true) (quiet : w.outside.service.channel = [])
    {s : ChildSubscription} (registered : w.coordinator.children.get? p = some s)
    (watches : s.watchesChildData = true) {n : String} (known : s.known.contains n = true) :
    ∃ e, w.coordinator.data.get? (p.child n) = some e ∧ e.owner? = some s.id ∧
      e.listener = s.listener ∧
      (lastTry (p.child n) .data w.outside.calls = some true ∧
          w.outside.service.armed (p.child n) .data = true ∧
          (∀ d, ((w.changed (.setData (p.child n) d)).handleNext
              (memoryClient.facing audience)).coordinator.journal =
            w.coordinator.journal ++ [e.report ⟨p.child n, .dataChanged d⟩]) ∨
        lastTry (p.child n) .data w.outside.calls = some false ∧
          w.outside.service.armed (p.child n) .data = false ∧
          ∀ changes : List ExternalChange, .watch (p.child n) .data ∉
            (changes.foldl (fun s change => (s.change change).2) w.outside.service).channel) := by
  obtain ⟨sane, turns⟩ := memory_run_turns (memory_tame_routine tame) run isNew.sane
  have watching : w.setting.Watching := Setting.turns_preserve
    (fun _ _ sane watching move => watching.move sane move) (fun a _ _ => .resumed a)
    isNew.sane isNew.watching turns
  have both : w.setting.Faithful ∧ w.setting.Covered p := Setting.turns_preserve
    (I := fun a => a.Faithful ∧ a.Covered p)
    (fun _ _ sane both move => ⟨both.1.move sane move, both.2.move both.1 sane move⟩)
    (fun _ _ both => ⟨both.1.resumed, both.2⟩) isNew.sane ⟨isNew.faithful, isNew.covered p⟩ turns
  have attempted : w.setting.Attempted := isNew.attempted.turns turns
  obtain ⟨e, he, owner, listener⟩ := both.2 s registered watches n known
  have subscribed : w.setting.subscribed (p.child n) .data = true := Table.contains_of_get? he
  have nothing : .watch (p.child n) .data ∉ w.outside.service.channel := by
    rw [quiet]
    exact List.not_mem_nil
  refine ⟨e, he, owner, listener, ?_⟩
  cases last : lastTry (p.child n) .data w.outside.calls with
  | none => exact absurd last (attempted.data (p.child n) subscribed)
  | some answered =>
    cases answered with
    | true =>
      have armed : w.outside.service.armed (p.child n) .data = true :=
        (watching.answered alive (p.child n) .data subscribed last).resolve_right nothing
      exact .inl ⟨rfl, armed, journal_setData audience alive quiet sane armed he⟩
    | false =>
      have unarmed : w.outside.service.armed (p.child n) .data = false :=
        watching.missed alive (p.child n) .data last
      have lost : w.outside.service.Lost (p.child n) .data := ⟨sane, unarmed, nothing⟩
      exact .inr ⟨rfl, unarmed, fun changes => (lost.changes changes).unsent⟩

/-- A child whose data has changed once, and will be noticed the next time. -/
theorem child_data_followed :
    let w := World.blank.play [.change (.create "/a" .empty), .change (.create "/a/c" .empty),
      .command (.listen "/a" "one" (.children true)), .change (.setData "/a/c" .empty), .handleNext]
    ∃ e, w.coordinator.data.get? "/a/c" = some e ∧ ∀ d,
      ((w.changed (.setData "/a/c" d)).handleNext (memoryClient.facing .silent)).coordinator.journal
        = w.coordinator.journal ++ [e.report ⟨"/a/c", .dataChanged d⟩] := by
  intro w
  have run : Relation.ReflTransGen (MemoryStep (.sparing "/a") (memoryClient.facing .silent))
      .blank w := by
    refine play_run ⟨nofun, nofun, ?_, nofun, nofun, trivial⟩
    rintro command h q -
    cases h
    simp
  have subscribed : (w.coordinator.children.get? "/a").any (fun s =>
      s.watchesChildData && s.known.contains "c") = true := by decide
  obtain ⟨s, hs, hboth⟩ := (Option.any_eq_true _ _).1 subscribed
  rw [Bool.and_eq_true] at hboth
  obtain ⟨e, he, -, -, ⟨-, -, told⟩ | ⟨missed, -⟩⟩ := child_data_covered .silent blank_isNew run
    (by decide) (by decide) hs hboth.1 hboth.2
  · exact ⟨e, he, told⟩
  · have answered : lastTry "/a/c" .data w.outside.calls = some true := by decide
    rw [show Path.child "/a" "c" = "/a/c" from rfl, answered] at missed
    cases missed

/-- A child is deleted, the fire of its data finds nothing, and the child comes back before the
child list is read again: it is there and known, and its watch is not armed. -/
theorem child_back_unwatched :
    let w := World.blank.play [.change (.create "/a" .empty), .change (.create "/a/c" .empty),
      .command (.listen "/a" "one" (.children true)), .change (.delete "/a/c"), .handleNext,
      .change (.create "/a/c" .empty), .handleNext]
    w.outside.service.alive = true ∧ w.outside.service.channel = [] ∧
      w.outside.service.nodes.contains "/a/c" = true ∧
      w.coordinator.knownChildren? "/a" = some ["c"] ∧
      w.outside.service.armed "/a/c" .data = false := by
  decide

end DurableWatch
