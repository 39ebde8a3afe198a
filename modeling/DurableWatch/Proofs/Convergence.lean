import DurableWatch.Proofs.LostWatch
import DurableWatch.Proofs.MemoryCommands

/-!
# What a subscription knows when all is quiet

A watch that fires is lost unless its fire is handled and the read that answers it arms it again.
`Watching` follows each watch from the last watched read on: as long as that read was answered, the
watch is armed or its fire is in the channel. With an empty channel it is armed, and then the child
subscription knows what the service lists. A read that goes unanswered breaks the chain: the node
was missing at that moment, and nothing arms the watch when the node comes back.
-/
namespace DurableWatch

open World Coordinator

namespace Setting

variable {rule : Rule} {a b : Setting} {seen : Path → WatchKind → Prop} {p : Path}
  {kind : WatchKind}

/-- An invariant of all moves, which a new connection does not disturb, is one of all turns. -/
theorem turns_preserve {I : Setting → Prop}
    (moves : ∀ a b, a.service.Sane → I a → Move rule a b → I b)
    (resumes : ∀ a, a.service.Sane → I a → I a.resumed) (sane : a.service.Sane)
    (holds : I a) (turns : Relation.ReflTransGen (Turn rule) a b) : I b := by
  have chain {a b : Setting} (sane : a.service.Sane) (holds : I a)
      (run : Relation.ReflTransGen (Move rule) a b) : I b := by
    induction run with
    | refl => exact holds
    | tail before move ih => exact moves _ _ (moves_sane before sane) ih move
  have both : b.service.Sane ∧ I b := by
    induction turns with
    | refl => exact ⟨sane, holds⟩
    | tail _ turn ih =>
      refine ⟨turn.sane ih.1, ?_⟩
      cases turn with
      | move move => exact moves _ _ ih.1 ih.2 move
      | recovered relisted _ => exact chain (sane_reconnect ih.1) (resumes _ ih.1 ih.2) relisted
  exact both.2

/-! ### Watches between a read and the next -/

structure Watching (a : Setting) : Prop where
  answered : a.service.alive = true → ∀ q k, a.subscribed q k = true →
    a.lastTry q k = some true → a.service.armed q k = true ∨ .watch q k ∈ a.service.channel
  missed : a.service.alive = true → ∀ q k, a.lastTry q k = some false →
    a.service.armed q k = false

theorem Watching.quiet (watching : Watching a) (quiet : Quiet a b) : Watching b where
  answered alive q k subscribed last := by
    rw [quiet.tries] at last
    rcases watching.answered (quiet.alive alive) q k (quiet.subscribed q k subscribed) last with
      armed | sent
    · exact quiet.fires alive q k subscribed armed
    · exact .inr (quiet.keeps q k subscribed sent)
  missed alive q k last := by
    rw [quiet.tries] at last
    have unarmed := watching.missed (quiet.alive alive) q k last
    rw [← Bool.not_eq_true] at unarmed ⊢
    exact fun armed => unarmed (quiet.unarms q k armed)

/-- Reads that were answered arm their watches and leave the others as they are. -/
theorem Watching.looked (watching : Watching a) (looked : Looked a b seen)
    (subscribed : ∀ q k, b.subscribed q k = true → a.subscribed q k = true ∨ seen q k) :
    Watching b where
  answered alive q k after last := by
    by_cases hit : seen q k
    · exact .inl ((looked.armed q k).2 (.inr hit))
    · rw [looked.others q k hit] at last
      have before := (subscribed q k after).resolve_right hit
      rcases watching.answered (looked.alive ▸ alive) q k before last with armed | sent
      · exact .inl ((looked.armed q k).2 (.inl armed))
      · rcases looked.keeps _ sent with kept | ⟨r, j, other, h⟩
        · exact .inr kept
        · cases h
          exact absurd other hit
  missed alive q k last := by
    by_cases hit : seen q k
    · rw [looked.tried q k hit] at last
      cases last
    · rw [looked.others q k hit] at last
      have unarmed := watching.missed (looked.alive ▸ alive) q k last
      rw [← Bool.not_eq_true] at unarmed ⊢
      exact fun armed => ((looked.armed q k).1 armed).elim unarmed hit

/-- A node that was not there to be read has no watch. -/
theorem Watching.unread (watching : Watching a) (sane : a.service.Sane)
    (missed : Missed a b p kind)
    (subscribed : ∀ q k, b.subscribed q k = true → a.subscribed q k = true) : Watching b where
  answered alive q k after last := by
    by_cases own : q = p ∧ k = kind
    · obtain ⟨rfl, rfl⟩ := own
      rw [missed.tried] at last
      cases last
    · rw [missed.others q k own] at last
      rw [missed.armed]
      rcases watching.answered (missed.alive ▸ alive) q k (subscribed q k after) last with
        armed | sent
      · exact .inl armed
      · rcases missed.keeps _ sent with kept | h
        · exact .inr kept
        · cases h
          exact absurd ⟨rfl, rfl⟩ own
  missed alive q k last := by
    rw [missed.armed]
    by_cases own : q = p ∧ k = kind
    · obtain ⟨rfl, rfl⟩ := own
      rw [← Bool.not_eq_true]
      intro armed
      have there := sane.watched q k armed
      rw [missed.absent (missed.alive ▸ alive)] at there
      cases there
    · rw [missed.others q k own] at last
      exact watching.missed (missed.alive ▸ alive) q k last

theorem Watching.move (watching : Watching a) (sane : a.service.Sane) (move : Move rule a b) :
    Watching b := by
  cases move.reads with
  | none quiet => exact watching.quiet quiet
  | some looked subscribed => exact watching.looked looked subscribed
  | failed missed subscribed => exact watching.unread sane missed subscribed

theorem lastTry_resumed (a : Setting) (q : Path) (k : WatchKind) :
    a.resumed.lastTry q k = none := by
  simp [Setting.lastTry, Setting.resumed, DurableWatch.lastTry]

/-- Nothing has been tried on a new connection. -/
theorem Watching.resumed (a : Setting) : Watching a.resumed where
  answered _ q k _ last := by
    rw [lastTry_resumed] at last
    cases last
  missed _ q k last := by
    rw [lastTry_resumed] at last
    cases last

theorem Attempted.move (attempted : Attempted a) (move : Move rule a b) : Attempted b where
  data p := (attempted.data p).move move
  children slow p := (attempted.children (move.failFast ▸ slow) p).move move

theorem Attempted.turns (attempted : Attempted a) (turns : Relation.ReflTransGen (Turn rule) a b) :
    Attempted b := by
  induction turns with
  | refl => exact attempted
  | tail _ turn ih =>
    cases turn with
    | move move => exact ih.move move
    | recovered _ attempted => exact attempted

/-! ### Known children -/

/-- What is known are names of children, and while the child list is watched it is what the service
lists. -/
structure Faithful (a : Setting) : Prop where
  names : ∀ (p : Path) s, a.coordinator.children.get? p = some s →
    ∀ n, s.known.contains n = true → p.IsChildName n
  current : ∀ (p : Path) s, a.coordinator.children.get? p = some s →
    a.service.armed p .children = true →
    ∀ n, s.known.contains n = true ↔ n ∈ a.service.childNames p

/-- Child lists that are still watched have not changed. -/
theorem Faithful.frame (faithful : Faithful a)
    (children : ∀ q s, b.coordinator.children.get? q = some s →
      a.coordinator.children.get? q = some s)
    (unarms : ∀ q, b.service.armed q .children = true → a.service.armed q .children = true)
    (lists : ∀ q, b.service.armed q .children = true →
      ∀ n, n ∈ b.service.childNames q ↔ n ∈ a.service.childNames q) : Faithful b where
  names p s hs := faithful.names p s (children p s hs)
  current p s hs armed n := by
    rw [faithful.current p s (children p s hs) (unarms p armed) n, lists p armed n]

theorem childNames_of_nodes {s s' : MemoryService} (h : s'.nodes = s.nodes) (p : Path) :
    s'.childNames p = s.childNames p := by
  rw [MemoryService.childNames, MemoryService.childNames, h]

theorem Faithful.missed (faithful : Faithful a) (missed : Missed a b p kind)
    (children : b.coordinator.children = a.coordinator.children) : Faithful b := by
  refine faithful.frame (fun q s hs => ?_) (fun q armed => ?_) fun q _ n => ?_
  · rwa [children] at hs
  · rwa [missed.armed] at armed
  · rw [childNames_of_nodes missed.nodes]

theorem Faithful.dataLooked (faithful : Faithful a)
    (looked : Looked a b fun q k => q = p ∧ k = .data)
    (children : b.coordinator.children = a.coordinator.children) : Faithful b := by
  refine faithful.frame (fun q s hs => ?_) (fun q armed => ?_) fun q _ n => ?_
  · rwa [children] at hs
  · rcases (looked.armed q .children).1 armed with before | ⟨-, h⟩
    · exact before
    · cases h
  · rw [childNames_of_nodes looked.nodes]

theorem Faithful.passed {c : Coordinator} {s : ChildSubscription} {delivery : Delivery}
    {new : NewChildren} (faithful : Faithful a) (sane : a.service.Sane)
    (passed : Passed a b c p s delivery new)
    (others : ∀ q s, q ≠ p → c.children.get? q = some s →
      a.coordinator.children.get? q = some s) : Faithful b where
  names q s' hs' n known := by
    rw [passed.children] at hs'
    split at hs'
    · next hq =>
      subst hq
      cases hs'
      exact (sane.mem_childNames_iff.1 ((passed.known n).1 known)).2
    · next hq => exact faithful.names q s' (others q s' hq hs') n known
  current q s' hs' armed n := by
    rw [childNames_of_nodes passed.looked.nodes]
    rw [passed.children] at hs'
    split at hs'
    · next hq =>
      subst hq
      cases hs'
      exact passed.known n
    · next hq =>
      refine faithful.current q s' (others q s' hq hs') ?_ n
      rcases (passed.looked.armed q .children).1 armed with before | ⟨own, -⟩ | ⟨-, h, -⟩
      · exact before
      · exact absurd own hq
      · cases h

theorem Faithful.move (faithful : Faithful a) (sane : a.service.Sane) (move : Move rule a b) :
    Faithful b := by
  cases move with
  | aside beside edited _ =>
    refine faithful.frame (fun q s hs => ?_) (fun q => edited.unarms q .children) edited.lists
    rwa [beside.children] at hs
  | unclaimed taken coordinator _ =>
    refine faithful.frame (fun q s hs => ?_) (fun q armed => ?_) fun q _ n => ?_
    · rwa [coordinator] at hs
    · rwa [taken.armed] at armed
    · rw [childNames_of_nodes taken.nodes]
  | reread d _ looked coordinator =>
    exact faithful.dataLooked looked (by rw [coordinator]; rfl)
  | unread missed coordinator => exact faithful.missed missed (by rw [coordinator])
  | ended _ _ missed coordinator => exact faithful.missed missed (by rw [coordinator]; rfl)
  | pass passed => exact faithful.passed sane passed fun _ _ _ hs => hs
  | subscribe _ passed =>
    refine faithful.passed sane passed fun q s hq hs => ?_
    simpa [addChildren, hq] using hs
  | subscribeData d _ looked coordinator =>
    exact faithful.dataLooked looked (by rw [coordinator]; rfl)
  | @unsubscribe p gone enough own =>
    refine faithful.frame (fun q s hs => ?_) (fun _ armed => armed) fun _ _ _ => Iff.rfl
    rw [children_removeDataAll] at hs
    exact Table.get?_of_erase hs
  | dropChild _ _ =>
    exact faithful.frame (fun _ _ hs => hs) (fun _ armed => armed) fun _ _ _ => Iff.rfl
  | unsubscribeData _ =>
    exact faithful.frame (fun _ _ hs => hs) (fun _ armed => armed) fun _ _ _ => Iff.rfl
  | cancel _ coordinator service _ =>
    refine faithful.frame (fun q s hs => ?_) (fun q armed => ?_) fun q _ n => ?_
    · rwa [coordinator] at hs
    · rw [service, MemoryService.armed_disarm] at armed
      exact armed.1
    · rw [service, childNames_of_nodes (MemoryService.nodes_disarm _ _ _)]

theorem Faithful.resumed (faithful : Faithful a) : Faithful a.resumed := by
  refine faithful.frame (fun _ _ hs => hs) (fun q armed => ?_) fun q _ n => ?_
  · rwa [Setting.resumed, MemoryService.armed_reconnect] at armed
  · rw [Setting.resumed, childNames_of_nodes (MemoryService.nodes_reconnect _)]

end Setting

/-! ### From the start of a session -/

variable {τ : Type} {w : World (Backstage τ)}

theorem World.IsNew.sane (isNew : w.IsNew) : w.setting.service.Sane := by
  rw [setting, isNew.service]
  exact sane_new

theorem World.IsNew.unsubscribed (isNew : w.IsNew) (q : Path) (k : WatchKind) :
    w.setting.subscribed q k = false := by
  obtain ⟨dispatcher, failFast, h⟩ := isNew.coordinator
  rw [Setting.subscribed, setting, h]
  cases k <;> rfl

theorem World.IsNew.attempted (isNew : w.IsNew) : w.setting.Attempted where
  data p := tried_of_unsubscribed (isNew.unsubscribed p .data)
  children _ p := tried_of_unsubscribed (isNew.unsubscribed p .children)

theorem World.IsNew.watching (isNew : w.IsNew) : w.setting.Watching where
  answered _ q k subscribed := by
    rw [isNew.unsubscribed] at subscribed
    cases subscribed
  missed _ q k last := by
    rw [Setting.lastTry, setting, isNew.calls] at last
    cases last

theorem World.IsNew.faithful (isNew : w.IsNew) : w.setting.Faithful := by
  obtain ⟨dispatcher, failFast, h⟩ := isNew.coordinator
  refine ⟨?_, ?_⟩
  · intro p s hs
    rw [setting, h] at hs
    cases hs
  · intro p s hs
    rw [setting, h] at hs
    cases hs

/-- What holds of a child subscription while nothing waits to be handled. If the last watched read
of the child list was answered, the known children are those that the service has. If the node was
missing then, the watch is gone: whatever other clients do and whatever notifications are handled,
the known children stay those that they are, even when the node comes back. A watched read has been
made, unless a recovery ended at an earlier failure. -/
theorem children_converge {audience : Audience (Backstage τ)}
    (tame : Tame memoryClient (MemoryStep .any) audience) {w₀ w : World (Backstage τ)}
    (isNew : w₀.IsNew)
    (run : Relation.ReflTransGen (MemoryStep .any (memoryClient.facing audience)) w₀ w)
    (alive : w.outside.service.alive = true) (quiet : w.outside.service.channel = [])
    {p : Path} {s : ChildSubscription} (registered : w.coordinator.children.get? p = some s) :
    (lastTry p .children w.outside.calls = some true →
        ∀ n, s.known.contains n = true ↔ n ∈ w.outside.service.childNames p) ∧
      (lastTry p .children w.outside.calls = some false → ∀ w',
        Relation.ReflTransGen Unattended w w' → w'.coordinator.children.get? p = some s) ∧
      (lastTry p .children w.outside.calls = none → w.coordinator.failFast = true) := by
  obtain ⟨sane, turns⟩ := memory_run_turns (memory_tame_routine tame) run isNew.sane
  have watching : w.setting.Watching := Setting.turns_preserve
    (fun _ _ sane watching move => watching.move sane move) (fun a _ _ => .resumed a)
    isNew.sane isNew.watching turns
  have faithful : w.setting.Faithful := Setting.turns_preserve
    (fun _ _ sane faithful move => faithful.move sane move) (fun _ _ h => h.resumed)
    isNew.sane isNew.faithful turns
  have attempted : w.setting.Attempted := isNew.attempted.turns turns
  have subscribed : w.setting.subscribed p .children = true := Table.contains_of_get? registered
  have nothing : .watch p .children ∉ w.outside.service.channel := by
    rw [quiet]
    exact List.not_mem_nil
  refine ⟨fun answered => ?_, fun unanswered w' unattended => ?_, fun untried => ?_⟩
  · have armed := (watching.answered alive p .children subscribed answered).resolve_right nothing
    exact faithful.current p s registered armed
  · have lost : w.outside.service.Lost p .children :=
      ⟨sane, watching.missed alive p .children unanswered, nothing⟩
    rw [(unattended_idle p unattended lost).2]
    exact registered
  · by_contra slow
    rw [Bool.not_eq_true] at slow
    exact attempted.children slow p subscribed untried

/-- A watched node whose only child comes, goes and is replaced. -/
theorem children_followed :
    let w := World.blank.play [.change (.create "/a" .empty), .change (.create "/a/c" .empty),
      .command (.listen "/a" "one" (.children false)), .change (.delete "/a/c"),
      .change (.create "/a/d" .empty), .handleNext]
    ∃ s, w.coordinator.children.get? "/a" = some s ∧
      ∀ n, s.known.contains n = true ↔ n ∈ w.outside.service.childNames "/a" := by
  intro w
  have run : Relation.ReflTransGen (MemoryStep .any (memoryClient.facing .silent)) .blank w :=
    play_run (allows_any _ _)
  have registered : (w.coordinator.children.get? "/a").isSome = true := by decide
  obtain ⟨s, hs⟩ := Option.isSome_iff_exists.1 registered
  have converged := (children_converge .silent blank_isNew run (by decide) (by decide) hs).1
  exact ⟨s, hs, converged (by decide)⟩

/-- A node and its child are deleted before the fire of the child list is handled: the child stays
known, though it is gone. -/
theorem child_of_missing_node_stays_known :
    let w := World.blank.play [.change (.create "/a" .empty), .change (.create "/a/c" .empty),
      .command (.listen "/a" "one" (.children false)), .change (.delete "/a/c"),
      .change (.delete "/a"), .handleNext]
    w.outside.service.alive = true ∧ w.outside.service.channel = [] ∧
      w.outside.service.childNames "/a" = [] ∧ w.coordinator.knownChildren? "/a" = some ["c"] := by
  decide

end DurableWatch
