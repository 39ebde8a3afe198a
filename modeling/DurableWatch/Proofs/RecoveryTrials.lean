import DurableWatch.Proofs.PassOutcome
import DurableWatch.Proofs.RecoveryOrder

/-!
# The attempts of a recovery

A recovery makes one attempt for every data subscription, every child subscription and every
stubborn node there is when it starts. What comes of an attempt is the answer to the request that it
makes first, what it reads besides, and what it tells. One that fails has asked once, and that is
all it has done.
-/
namespace DurableWatch

open World

variable {σ : Type}

/-- What one attempt of a recovery is for. -/
inductive Errand
  | data (p : Path)
  | children (p : Path)
  | node (n : StubbornNode)

namespace Errand

def path : Errand → Path
  | data p | children p => p
  | node n => n.path

/-- What an attempt asks first. -/
@[reducible] def request : Errand → Request
  | data p => .readData p true
  | children p => .listChildren p true
  | node n => .create n.path n.data .ephemeral

def operation : Errand → String
  | data _ => "get_data"
  | children _ => "get_children"
  | node _ => "create"

/-- A refusal that is no failure. -/
def excuses : Errand → Error → Bool
  | data _, e => e.isNotFound
  | children _, _ => false
  | node _, e => e.isNodeExists

def attempt (host : Host σ) : Errand → World σ → Except Stop Unit × World σ
  | data p => dataChange host p
  | children p => childChange host p .dispatched
  | node n => recreate host n

def attemptAll (host : Host σ) (failFast : Bool) :
    List Errand → World σ → Except Stop (List Path) × World σ :=
  World.attemptAll failFast path (attempt host)

/-- What the attempt is for is registered. -/
def Present (c : Coordinator) : Errand → Prop
  | data p => c.data.contains p = true
  | children p => c.children.contains p = true
  | node _ => True

/-- An attempt for `e` leaves what is registered for a later one, `e'`. -/
def Spares (e e' : Errand) : Prop := ∀ q, e' = data q → ∃ p, e = data p ∧ p ≠ q

end Errand

/-- The attempts of a recovery, in their order. -/
def Coordinator.errands (c : Coordinator) (order : Enumeration) : List Errand :=
  (order.data c.data.keys).map .data ++
    ((order.children c.children.keys).map .children ++
      (order.stubborn c.stubbornNodes).map .node)

/-- An attempt that has been made, with the answer to its request, what else it has asked, and what
it has produced. -/
structure Trial where
  errand : Errand
  answer : Except Error errand.request.Answer
  further : List Exchange
  told : List Report

namespace Trial

/-- The failure of the attempt, with its operation and path. -/
def failure? (t : Trial) : Option Error :=
  match t.answer with
  | .ok _ => none
  | .error e =>
    if t.errand.excuses e then none else some (e.during t.errand.operation t.errand.path)

def failed (t : Trial) : Bool := t.failure?.isSome

def outcome (t : Trial) : Except Stop Unit :=
  match t.failure? with
  | none => .ok ()
  | some e => .error (.failed e)

def calls (t : Trial) : List Exchange := ⟨t.errand.request, t.answer⟩ :: t.further

section refused

variable (e : Errand) (cause : Error) (further : List Exchange) (told : List Report)

theorem failed_refused : (⟨e, .error cause, further, told⟩ : Trial).failed = !e.excuses cause := by
  simp only [failed, failure?]
  cases e.excuses cause <;> rfl

theorem outcome_refused : (⟨e, .error cause, further, told⟩ : Trial).outcome =
    if e.excuses cause then .ok () else .error (.failed (cause.during e.operation e.path)) := by
  simp only [outcome, failure?]
  cases e.excuses cause <;> rfl

end refused

/-- Only a pass asks more than once, and it goes on to read children. Who fails has produced
nothing, and who reads a node again tells of that node only. -/
structure Proper (t : Trial) : Prop where
  further : ∀ x ∈ t.further, ∃ p n watch, t.errand = .children p ∧
    x.request = .readData (p.child n) watch
  failed : t.failed = true → t.further = [] ∧ t.told = []
  told : ∀ p, t.errand = .data p → ∀ r ∈ t.told, r.event.path = p

end Trial

namespace Coordinator

/-- These reports are produced and queued. Every child subscription and every stubborn node is still
there, and so is every data subscription, but where a child is told to have come or gone. -/
structure Advanced (c c' : Coordinator) (told : List Report) : Prop where
  journal : c'.journal = c.journal ++ told
  dispatcher : c'.dispatcher = told.foldl (fun d r => d.submit ⟨r.listener, r.event⟩) c.dispatcher
  stubborn : c'.stubborn = c.stubborn
  children : ∀ p, (c'.children.get? p).map (·.face) = (c.children.get? p).map (·.face)
  data : ∀ q, c'.data.get? q = c.data.get? q ∨
    ∃ r ∈ told, r.event.path = q ∧ ∀ d, r.event.change ≠ .dataChanged d

theorem Advanced.refl (c : Coordinator) : c.Advanced c [] where
  journal := (List.append_nil _).symm
  dispatcher := rfl
  stubborn := rfl
  children _ := rfl
  data _ := .inl rfl

theorem Advanced.trans {c₁ c₂ c₃ : Coordinator} {told told' : List Report}
    (h : c₁.Advanced c₂ told) (h' : c₂.Advanced c₃ told') : c₁.Advanced c₃ (told ++ told') where
  journal := by rw [h'.journal, h.journal, List.append_assoc]
  dispatcher := by rw [h'.dispatcher, h.dispatcher, List.foldl_append]
  stubborn := h'.stubborn.trans h.stubborn
  children p := (h'.children p).trans (h.children p)
  data q := by
    rcases h'.data q with same' | ⟨r, hr, about⟩
    · rcases h.data q with same | ⟨r, hr, about⟩
      · exact .inl (same'.trans same)
      · exact .inr ⟨r, List.mem_append_left _ hr, about⟩
    · exact .inr ⟨r, List.mem_append_right _ hr, about⟩

end Coordinator

theorem Coordinator.Advanced.contains {c c' : Coordinator} {told : List Report}
    (h : c.Advanced c' told) (p : Path) : c'.children.contains p = c.children.contains p := by
  have same := congrArg Option.isSome (h.children p)
  rwa [Option.isSome_map, Option.isSome_map] at same

/-! ### What one attempt does -/

namespace Coordinator

def withFailFast (c : Coordinator) (b : Bool) : Coordinator := { c with failFast := b }

/-- What does not look at the flag, step by step, does not look at it at all. -/
theorem foldl_withFailFast {α : Type} {f : Coordinator → α → Coordinator} {b : Bool}
    (step : ∀ c a, f (c.withFailFast b) a = (f c a).withFailFast b) (l : List α)
    (c : Coordinator) : l.foldl f (c.withFailFast b) = (l.foldl f c).withFailFast b := by
  induction l generalizing c with
  | nil => rfl
  | cons a l ih => rw [List.foldl_cons, List.foldl_cons, step, ih]

variable (c : Coordinator) (b : Bool) (p : Path)

theorem submitAll_withFailFast (rs : List Report) :
    (c.withFailFast b).submitAll rs = (c.submitAll rs).withFailFast b :=
  foldl_withFailFast (fun _ _ => rfl) rs c

theorem absorbData_withFailFast (e : DataSubscription) (answer : Except Error Data) :
    (c.withFailFast b).absorbData p e answer = (c.absorbData p e answer).withFailFast b := by
  cases answer with
  | ok d => rfl
  | error cause =>
    unfold absorbData
    dsimp only
    split <;> rfl

theorem absorb_withFailFast (s : ChildSubscription) (delivery : Delivery) (diff : ChildDiff)
    (new : NewChildren) :
    (c.withFailFast b).absorb p s delivery diff new =
      (c.absorb p s delivery diff new).withFailFast b := by
  have added : (c.withFailFast b).addFound p s new.found =
      (c.addFound p s new.found).withFailFast b := by
    unfold addFound
    split
    · exact foldl_withFailFast (fun _ _ => rfl) new.found c
    · rfl
  have settled (c : Coordinator) (known : TextSet) : (c.withFailFast b).settle p s known =
      (c.settle p s known).withFailFast b := by
    have there : (c.withFailFast b).hasChildren p s.id = c.hasChildren p s.id := rfl
    unfold settle
    rw [there]
    split <;> rfl
  have removed (c : Coordinator) (qs : List Path) : (c.withFailFast b).removeDataAll qs =
      (c.removeDataAll qs).withFailFast b := foldl_withFailFast (fun _ _ => rfl) qs c
  unfold absorb
  dsimp only
  rw [added, settled]
  split
  · rw [removed]; rfl
  · rfl

theorem dispatcher_submitAll (rs : List Report) : (c.submitAll rs).dispatcher =
    rs.foldl (fun d r => d.submit ⟨r.listener, r.event⟩) c.dispatcher := by
  induction rs generalizing c with
  | nil => rfl
  | cons r rs ih => exact ih (c.submit r)

/-- What is told of a node that is read again. -/
def toldOfData (p : Path) (e : DataSubscription) : Except Error Data → List Report
  | .ok d => [e.report ⟨p, .dataChanged d⟩]
  | .error cause =>
    if cause.isNotFound && !e.parentManaged then [e.report ⟨p, .deleted⟩] else []

theorem advanced_absorbData (e : DataSubscription) (answer : Except Error Data) :
    c.Advanced (c.absorbData p e answer) (toldOfData p e answer) := by
  cases answer with
  | ok d => exact ⟨rfl, rfl, rfl, fun _ => rfl, fun _ => .inl rfl⟩
  | error cause =>
    unfold absorbData toldOfData
    dsimp only
    split
    · refine ⟨rfl, rfl, rfl, fun _ => rfl, fun q => ?_⟩
      by_cases hq : q = p
      · exact .inr ⟨_, List.mem_singleton_self _, hq.symm, fun d => Change.noConfusion⟩
      · exact .inl ((Table.get?_erase c.data p q).trans (if_neg hq))
    · exact .refl c

theorem advanced_absorb {c : Coordinator} {p : Path} {s : ChildSubscription}
    (registered : c.children.get? p = some s) (diff : ChildDiff) (new : NewChildren) :
    let told := s.createdReports p .dispatched new.found ++
      s.deletedReports (diff.deleted.map p.child)
    c.Advanced ((c.absorb p s .dispatched diff new).submitAll told) told := by
  intro told
  have beside := (c.absorb p s .dispatched diff new).beside_submitAll told
  have aside := aside_absorb c p s .dispatched diff new
  have queues : (c.absorb p s .dispatched diff new).dispatcher = c.dispatcher :=
    congrArg (·.2.2.1) aside
  refine ⟨?_, ?_, ?_, fun q => ?_, fun q => ?_⟩
  · rw [beside.journal, journal_absorb]
  · rw [dispatcher_submitAll, queues]
  · rw [stubborn_submitAll, stubborn_absorb]
  · rw [beside.children, children_absorb registered]
    split
    · next hq => rw [hq, registered]; rfl
    · rfl
  · rw [beside.data, data_absorb]
    split
    · next gone =>
      exact .inr ⟨s.report .dispatched ⟨q, .deleted⟩,
        List.mem_append_right _ (List.mem_map_of_mem gone.2), rfl, fun d => Change.noConfusion⟩
    · rcases data_addFound c p s new.found q with ⟨same, -⟩ | ⟨-, ⟨e, found, hq⟩, -⟩
      · exact .inl same
      · exact .inr ⟨s.report .dispatched ⟨p.child e.1, .created e.2⟩,
          List.mem_append_left _ (List.mem_map.2 ⟨e, found, rfl⟩), hq.symm,
          fun d => Change.noConfusion⟩

end Coordinator

def World.withFailFast (w : World σ) (b : Bool) : World σ := w.update (·.withFailFast b)

namespace Errand

variable (client : Client σ) (audience : Audience (Dialogue σ)) (w : World (Dialogue σ))

/-- The attempt has this outcome and leaves this behind, whatever the flag. -/
def Tried (e : Errand) (t : Trial) (c : Coordinator) (state : σ) : Prop :=
  t.errand = e ∧ t.Proper ∧ w.coordinator.Advanced c t.told ∧
    ∀ b, e.attempt (client.host.facing audience) (w.withFailFast b) =
      (t.outcome, ⟨c.withFailFast b, ⟨state, w.outside.log ++ t.calls⟩⟩)

theorem tried_data {p : Path} (present : (data p).Present w.coordinator) :
    ∃ t c state, Tried client audience w (data p) t c state := by
  obtain ⟨e, registered⟩ := Table.contains_eq_true.1 present
  rcases asked : client.ask (.readData p true) w.outside.client with ⟨answer, state⟩
  refine ⟨⟨data p, answer, [], Coordinator.toldOfData p e answer⟩,
    w.coordinator.absorbData p e answer, state, rfl, ?_,
    w.coordinator.advanced_absorbData p e answer, fun b => ?_⟩
  · refine ⟨by simp, fun failed => ⟨rfl, ?_⟩, ?_⟩
    · cases answer with
      | ok d => cases failed
      | error cause =>
        rw [Trial.failed_refused] at failed
        have real : cause.isNotFound = false := by simpa [excuses] using failed
        simp [Coordinator.toldOfData, real]
    · rintro q same r told
      obtain rfl : p = q := by simpa using same
      cases answer with
      | ok d => rw [List.mem_singleton.1 told]; rfl
      | error cause =>
        simp only [Coordinator.toldOfData] at told
        split at told
        · rw [List.mem_singleton.1 told]; rfl
        · cases told
  · have outcome : dataOutcome p answer =
        (⟨data p, answer, [], Coordinator.toldOfData p e answer⟩ : Trial).outcome := by
      cases answer with
      | ok d => rfl
      | error cause => exact (Trial.outcome_refused (data p) cause _ _).symm
    have changed : (data p).attempt (client.host.facing audience) (w.withFailFast b) = _ :=
      dataChange_asked (w := w.withFailFast b) registered asked
    rw [changed, outcome, ← Coordinator.absorbData_withFailFast]
    rfl

theorem tried_children {p : Path} (present : (children p).Present w.coordinator) :
    ∃ t c state, Tried client audience w (children p) t c state := by
  obtain ⟨s, registered⟩ := Table.contains_eq_true.1 present
  have passes (b : Bool) : (children p).attempt (client.host.facing audience) (w.withFailFast b) =
      childPass (client.host.facing audience) p s .dispatched (w.withFailFast b) :=
    childChange_registered (w := w.withFailFast b) registered .dispatched
  rcases asked : client.ask (.listChildren p true) w.outside.client with ⟨answer, state⟩
  cases answer with
  | error cause =>
    refine ⟨⟨children p, .error cause, [], []⟩, w.coordinator, state, rfl,
      ⟨by simp, fun _ => ⟨rfl, rfl⟩, by simp⟩, .refl _, fun b => ?_⟩
    rw [passes]
    exact childPass_refused (w := w.withFailFast b) audience s .dispatched asked
  | ok snapshot =>
    obtain ⟨answers, state', answered, -⟩ := childPass_asked audience s .dispatched asked
    let diff := ChildDiff.between s.known snapshot
    let new := NewChildren.ofAnswers answers diff.created
    refine ⟨⟨children p, .ok snapshot,
        diff.created.map (childReading p s.watchesChildData answers),
        s.createdReports p .dispatched new.found ++ s.deletedReports (diff.deleted.map p.child)⟩,
      (w.coordinator.absorb p s .dispatched diff new).submitAll _, state', rfl,
      ⟨fun x asked => ?_, fun failed => ?_, fun q other => ?_⟩,
      Coordinator.advanced_absorb registered diff new, fun b => ?_⟩
    · obtain ⟨n, -, rfl⟩ := List.mem_map.1 asked
      exact ⟨p, n, s.watchesChildData, rfl, rfl⟩
    · cases failed
    · cases other
    · have passed := childPass_answered (w := w.withFailFast b) audience s .dispatched answered
      rw [passes, passed, ← Coordinator.submitAll_withFailFast,
        ← Coordinator.absorb_withFailFast]
      rfl

theorem tried_node (n : StubbornNode) :
    ∃ t c state, Tried client audience w (node n) t c state := by
  rcases asked : client.ask (.create n.path n.data .ephemeral) w.outside.client with ⟨answer, state⟩
  refine ⟨⟨node n, answer, [], []⟩, w.coordinator, state, rfl,
    ⟨by simp, fun _ => ⟨rfl, rfl⟩, by simp⟩, .refl _, fun b => ?_⟩
  have made : (node n).attempt (client.host.facing audience) (w.withFailFast b) =
    recreate (client.host.facing audience) n (w.withFailFast b) := rfl
  rw [made]
  unfold recreate
  cases answer with
  | ok q =>
    rw [Client.ask_ok (w := w.withFailFast b) asked]
    rfl
  | error cause =>
    rw [Client.ask_error (w := w.withFailFast b) asked]
    have outcome := Trial.outcome_refused (node n) cause [] []
    rw [outcome]
    by_cases there : cause.isNodeExists = true
    · have excused : (node n).excuses cause = true := there
      rw [if_pos excused]
      exact if_pos there
    · have counted : ¬(node n).excuses cause = true := there
      rw [if_neg counted]
      exact if_neg there

theorem tried (e : Errand) (present : e.Present w.coordinator) :
    ∃ t c state, Tried client audience w e t c state := by
  cases e with
  | data p => exact tried_data client audience w present
  | children p => exact tried_children client audience w present
  | node n => exact tried_node client audience w n

variable {client audience w}

/-- What is registered for a later attempt stays. -/
theorem Tried.present {e e' : Errand} {t : Trial} {c : Coordinator} {state : σ}
    (tried : Tried client audience w e t c state) (spares : e.Spares e')
    (present : e'.Present w.coordinator) : e'.Present c := by
  obtain ⟨isFor, proper, advanced, -⟩ := tried
  cases e' with
  | data q =>
    obtain ⟨p, rfl, other⟩ := spares q rfl
    rcases advanced.data q with same | ⟨r, told, about, -⟩
    · exact (congrArg Option.isSome same).trans present
    · exact absurd ((proper.told p isFor r told).symm.trans about) other
  | children q => exact (advanced.contains q).trans present
  | node n => trivial

end Errand

end DurableWatch
