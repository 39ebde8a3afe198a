import DurableWatch.Proofs.MemoryHost
import DurableWatch.Proofs.PassEffect

/-!
# A watch that is gone

A node is read again only when its watch fires. Once the watch of a child list is neither armed nor
on its way through the channel, other clients may change the tree and notifications may be handled
as long as they like: the subscription stays as it is, and so does what it knows.
-/
namespace DurableWatch

open World Coordinator

namespace MemoryService

variable {s s' : MemoryService} {p q : Path} {kind k : WatchKind}

/-- The watch is not armed, and its fire is not in the channel. -/
structure Lost (s : MemoryService) (p : Path) (kind : WatchKind) : Prop where
  sane : s.Sane
  unarmed : s.armed p kind = false
  unsent : .watch p kind ∉ s.channel

theorem Lost.edited (lost : s.Lost p kind) (edited : s.Edited s') : s'.Lost p kind where
  sane := edited.sane
  unarmed := by
    have unarmed := lost.unarmed
    rw [← Bool.not_eq_true] at unarmed ⊢
    exact fun armed => unarmed (edited.unarms p kind armed)
  unsent sent := by
    rcases edited.sends p kind sent with before | armed
    · exact lost.unsent before
    · rw [lost.unarmed] at armed
      cases armed

/-- A watch that is gone says nothing, whatever other clients do to the tree. -/
theorem Lost.changes (lost : s.Lost p kind) (changes : List ExternalChange) :
    (changes.foldl (fun s change => (s.change change).2) s).Lost p kind := by
  induction changes generalizing s with
  | nil => exact lost
  | cons change changes ih => exact ih (lost.edited (edited_change lost.sane change))

/-- A watched read arms its watch, or leaves the service as it is. -/
theorem ask_read_cases (s : MemoryService) (p : Path) (kind : WatchKind) :
    (s.ask (kind.read p)).2 = s ∨
      s.nodes.contains p = true ∧ (s.ask (kind.read p)).2 = s.arm p kind := by
  cases living : s.alive with
  | false => cases kind <;> exact .inl (by simp [WatchKind.read, ask, living])
  | true =>
    cases found : s.nodes.get? p with
    | none => cases kind <;> exact .inl (by simp [WatchKind.read, ask, living, serve, read, found])
    | some node =>
      refine .inr ⟨Table.contains_of_get? found, ?_⟩
      cases kind <;> simp [WatchKind.read, ask, living, serve, read, found]

/-- The read of another watch does not bring it back. -/
theorem Lost.read (lost : s.Lost p kind) (other : ¬(p = q ∧ kind = k)) :
    (s.ask (k.read q)).2.Lost p kind := by
  rcases ask_read_cases s q k with same | ⟨there, armed⟩
  · rw [same]
    exact lost
  · rw [armed]
    refine ⟨lost.sane.of_nodes ?_ ?_ ?_ ?_ fun r j hr => ?_, ?_, ?_⟩
    · exact nodes_arm s q k
    · exact alive_arm s q k
    · exact pending_arm s q k
    · exact session_arm s q k
    · rcases (armed_arm s q r k j).1 hr with before | ⟨rfl, -⟩
      · exact lost.sane.watched r j before
      · exact there
    · have unarmed := lost.unarmed
      rw [← Bool.not_eq_true] at unarmed ⊢
      exact fun h => ((armed_arm s q p k kind).1 h).elim unarmed other
    · rw [channel_arm]
      exact lost.unsent

end MemoryService

variable {τ : Type} {w w' : World (Backstage τ)} {p : Path}

/-- Another client changes the tree, or the next notification is handled. No listener calls back. -/
inductive Unattended : World (Backstage τ) → World (Backstage τ) → Prop
  | change (w : World (Backstage τ)) (change : ExternalChange) : Unattended w (w.changed change)
  | handleNext (w : World (Backstage τ)) :
      Unattended w (w.handleNext (memoryClient.facing .silent))

/-- If the watch of the child list at `p` is gone, it stays so, and so does the subscription. -/
def Idle (p : Path) (w w' : World (Backstage τ)) : Prop :=
  w.outside.service.Lost p .children → w'.outside.service.Lost p .children ∧
    w'.coordinator.children.get? p = w.coordinator.children.get? p

namespace Idle

theorem refl (p : Path) (w : World (Backstage τ)) : Idle p w w := fun lost => ⟨lost, rfl⟩

theorem trans {w₁ w₂ w₃ : World (Backstage τ)} (h : Idle p w₁ w₂) (h' : Idle p w₂ w₃) :
    Idle p w₁ w₃ := by
  intro lost
  obtain ⟨lost₂, same⟩ := h lost
  obtain ⟨lost₃, same'⟩ := h' lost₂
  exact ⟨lost₃, same'.trans same⟩

theorem of_children (outside : w'.outside = w.outside)
    (children : w'.coordinator.children.get? p = w.coordinator.children.get? p) : Idle p w w' := by
  intro lost
  rw [outside]
  exact ⟨lost, children⟩

theorem of_read {q : Path} (kind : WatchKind) (other : ¬(p = q ∧ .children = kind))
    {answer : Except Stop (kind.read q).Answer}
    (asked : (memoryClient.facing .silent).ask (kind.read q) w = (answer, w')) : Idle p w w' := by
  intro lost
  have h : ((memoryClient.facing .silent).ask (kind.read q) w).2 = w' := congrArg Prod.snd asked
  rw [← h]
  exact ⟨lost.read other, rfl⟩

end Idle

theorem idle_routine (p : Path) :
    Routine (memoryClient.facing .silent) (Idle (τ := τ) p) where
  refl := Idle.refl p
  trans := Idle.trans
  isAlive := Idle.refl p
  ask _ _ plain lost := ⟨lost.edited (MemoryService.edited_ask lost.sane plain), rfl⟩
  aside _ _ beside _ := Idle.of_children rfl (by rw [beside.children])
  hear _ _ w := Idle.refl p w
  hearState _ _ w := Idle.refl p w

theorem dataChange_idle (p q : Path) (w : World (Backstage τ)) :
    Idle p w (dataChange (memoryClient.facing .silent) q w).2 := by
  unfold dataChange
  split
  · exact Idle.refl p w
  · next e _ =>
    split
    · next d w₁ asked =>
      exact (Idle.of_read .data (by simp) asked).trans (Idle.of_children rfl rfl)
    · next stop w₁ asked =>
      have read : Idle p w w₁ := Idle.of_read .data (by simp) asked
      split
      · exact read
      · split
        · exact read
        · refine read.trans (Idle.of_children rfl ?_)
          simp only [coordinator_update, Coordinator.removeDataIf]
          split <;> rfl

theorem readNew_idle (p q : Path) (s : ChildSubscription) (ns : List String)
    (w : World (Backstage τ)) : Idle p w (readNew (memoryClient.facing .silent) q s ns w).2 := by
  induction ns generalizing w with
  | nil => exact Idle.refl p w
  | cons n ns ih =>
    have asked (watch : Bool) :
        Idle p w ((memoryClient.facing .silent).ask (.readData (q.child n) watch) w).2 := by
      cases watch with
      | true => exact Idle.of_read .data (by simp) rfl
      | false => exact (idle_routine p).ask _ w rfl
    have first := asked s.watchesChildData
    unfold readNew
    split
    · next h => rw [h] at first; exact first
    · next h => rw [h] at first; exact first.trans (ih _)
    · next w₁ h =>
      rw [h] at first
      refine (first.trans ?_).trans (ih _)
      split
      · exact Idle.of_children rfl rfl
      · exact Idle.refl p w₁

/-- The pass of another node does not read the child list of `p`. -/
theorem childChange_idle {p q : Path} (other : p ≠ q) (w : World (Backstage τ)) :
    Idle p w (childChange (memoryClient.facing .silent) q .dispatched w).2 := by
  have orderly := (memoryClient_orderly (τ := τ)).facing .silent
  unfold childChange
  split
  · exact Idle.refl p w
  · next s registered =>
    rcases asked : (memoryClient.facing .silent).ask (.listChildren q true) w with ⟨answer, w₁⟩
    have read : Idle p w w₁ := Idle.of_read .children (by simp [other]) asked
    cases answer with
    | error stop =>
      rw [childPass, asked]
      exact read
    | ok snapshot =>
      rw [childPass_listed orderly q s .dispatched asked]
      refine Idle.trans ?_ ((idle_routine p).deliver _ _ _ _)
      intro lost
      have news := readNew_idle p q s (ChildDiff.between s.known snapshot).created w₁
      refine ⟨(news (read lost).1).1, ?_⟩
      change (w.coordinator.absorb q s .dispatched _ _).children.get? p = _
      rw [children_absorb registered, if_neg other]

/-- Handling any notification but the missing one leaves the subscription as it is. -/
theorem handleNext_idle (p : Path) (w : World (Backstage τ)) :
    Idle p w (w.handleNext (memoryClient.facing .silent)) := by
  intro lost
  unfold World.handleNext
  split
  · exact ⟨lost, rfl⟩
  · next note rest next =>
    have taken : ({ w.outside.service with channel := rest } : MemoryService).Lost p .children := by
      refine ⟨lost.sane.of_nodes rfl rfl rfl rfl fun q k armed => lost.sane.watched q k ?_,
        lost.unarmed, fun sent => lost.unsent ?_⟩
      · cases k <;> exact armed
      · rw [next]
        exact List.mem_cons_of_mem note sent
    unfold onNotification
    rcases note with ⟨q, _ | _⟩ | state
    · rw [dropFailure_world]
      exact dataChange_idle p q _ taken
    · rw [dropFailure_world]
      refine childChange_idle ?_ _ taken
      rintro rfl
      refine lost.unsent ?_
      rw [next]
      exact List.mem_cons_self
    · exact (idle_routine p).notifyState state _ taken

theorem unattended_idle (p : Path) (run : Relation.ReflTransGen Unattended w w') : Idle p w w' := by
  induction run with
  | refl => exact Idle.refl p w
  | tail _ step ih =>
    refine ih.trans ?_
    cases step with
    | change change =>
      exact fun lost => ⟨lost.edited (MemoryService.edited_change lost.sane change), rfl⟩
    | handleNext => exact handleNext_idle p _

end DurableWatch
