import DurableWatch.Proofs.Frames
import DurableWatch.Proofs.MemoryHost
import DurableWatch.Proofs.ServiceIntegrity

/-!
# The history of the service in memory

Whatever a run does, all that it does to the service are the operations of the service, one after
the other. So what holds of every history holds of the service at every point of a run.
-/
namespace DurableWatch

namespace MemoryService

theorem sane_history (operations : List Operation) :
    (history operations).Sane ∧ Grounded (history operations).nodes := by
  induction operations using List.reverseRecOn with
  | nil => exact ⟨sane_new, _, rfl, rfl⟩
  | append_singleton operations op ih =>
    rw [history, List.foldl_append]
    exact ⟨sane_perform ih.1 op, grounded_perform ih.2 op⟩

end MemoryService

namespace World

open MemoryService

variable {τ : Type} {rule : Rule} {audience : Audience (Backstage τ)}
  {w w' w₀ : World (Backstage τ)}

/-- The service has been through some operations. -/
def Operated (w w' : World (Backstage τ)) : Prop :=
  ∃ operations : List Operation,
    w'.outside.service = operations.foldl MemoryService.perform w.outside.service

theorem Operated.of_eq (same : w'.outside.service = w.outside.service) : Operated w w' :=
  ⟨[], same⟩

theorem Operated.single (op : Operation)
    (operated : w'.outside.service = w.outside.service.perform op) : Operated w w' :=
  ⟨[op], operated⟩

theorem Operated.trans {w₁ w₂ w₃ : World (Backstage τ)} (h : Operated w₁ w₂)
    (h' : Operated w₂ w₃) : Operated w₁ w₃ := by
  obtain ⟨operations, first⟩ := h
  obtain ⟨operations', second⟩ := h'
  exact ⟨operations ++ operations', by rw [List.foldl_append, ← first, second]⟩

theorem operated_framing (hear : ∀ l event w, Operated w (audience.hear l event w).2)
    (hearState : ∀ l state w, Operated w (audience.hearState l state w).2) :
    Routine.Framing (memoryClient.facing audience) Operated where
  refl _ := .of_eq rfl
  trans := .trans
  isAlive _ := .of_eq rfl
  ask r _ _ := .single (.request r) rfl
  aside _ _ _ _ := .of_eq rfl
  hear := hear
  hearState := hearState
  asks r _ := .single (.request r) rfl
  updates _ _ _ := .of_eq rfl

theorem operated_marking : Routine.Marking (Operated (τ := τ)) where
  marked _ _ _ _ _ := .of_eq rfl
  unmarked _ _ := .of_eq rfl

theorem operated_step (framing : Routine.Framing (memoryClient.facing audience) Operated)
    (step : MemoryStep rule (memoryClient.facing audience) w w') : Operated w w' := by
  cases step with
  | command command _ => exact (framing.registering operated_marking).perform w command
  | handleNext =>
    unfold handleNext
    split
    · exact .of_eq rfl
    · next note rest channel =>
      have taken : Operated w (w.withService { w.outside.service with channel := rest }) := by
        refine .single .take ?_
        simp only [MemoryService.perform, channel]
        rfl
      exact taken.trans (framing.subscribing.onNotification note _)
  | change change => exact .single (.change change) rfl
  | request r _ => exact .single (.request r) rfl
  | disconnect => exact .single .disconnect rfl
  | expire => exact .single .expire rfl
  | elsewhere rest => exact .of_eq rfl

theorem operated_run (framing : Routine.Framing (memoryClient.facing audience) Operated)
    (run : Relation.ReflTransGen (MemoryStep rule (memoryClient.facing audience)) w w') :
    Operated w w' := by
  induction run with
  | refl => exact .of_eq rfl
  | tail _ step ih => exact ih.trans (operated_step framing step)

theorem operated_tame (tame : Tame memoryClient (MemoryStep rule) audience) :
    Routine.Framing (memoryClient.facing audience) Operated := by
  obtain ⟨hear, hearState⟩ := tame.within (R := Operated) (fun _ => .of_eq rfl) .trans
    fun hear hearState _ _ step => operated_step (operated_framing hear hearState) step
  exact operated_framing hear hearState

/-- The service at any point of a run, as what has been done to a new one. -/
theorem IsNew.history (isNew : w₀.IsNew) (tame : Tame memoryClient (MemoryStep rule) audience)
    (run : Relation.ReflTransGen (MemoryStep rule (memoryClient.facing audience)) w₀ w) :
    ∃ operations, w.outside.service = .history operations := by
  obtain ⟨operations, operated⟩ := operated_run (operated_tame tame) run
  exact ⟨operations, by rw [operated, isNew.service]; rfl⟩

end World

end DurableWatch
