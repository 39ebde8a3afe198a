import DurableWatch.Proofs.Frames
import DurableWatch.Proofs.Rollback

/-!
# What is stubborn

A node is marked as stubborn when it has been created, and the mark goes when the node has been
deleted. A deletion takes the mark away before it asks and puts it back when it fails; that it can
be put back rests on what every mark has been checked for. Everything else leaves the marks alone.
-/
namespace DurableWatch

variable {σ : Type}

namespace Coordinator

variable {c c' : Coordinator} {p : Path} {d : Data} {n : StubbornNode}

/-- Every stubborn node has a path and data. -/
def WellMarked (c : Coordinator) : Prop :=
  ∀ p d, c.stubborn.get? p = some d → p ≠ "" ∧ d.isEmpty = false

theorem markStubborn_eq_ok : c.markStubborn p d = .ok c' ↔
    (p ≠ "" ∧ d.isEmpty = false) ∧ { c with stubborn := c.stubborn.insert p d } = c' := by
  by_cases named : p = ""
  · simp [markStubborn, named]
  · cases some : d.isEmpty <;> simp [markStubborn, named, some]

theorem mem_stubbornNodes : n ∈ c.stubbornNodes ↔ c.stubborn.get? n.path = some n.data := by
  rw [← Table.mem_entries, stubbornNodes, List.mem_map]
  constructor
  · rintro ⟨entry, listed, rfl⟩
    exact listed
  · exact fun listed => ⟨_, listed, rfl⟩

theorem stubbornNode?_eq_some :
    c.stubbornNode? p = some n ↔ n.path = p ∧ c.stubborn.get? p = some n.data := by
  obtain ⟨path, data⟩ := n
  simp [stubbornNode?, eq_comm, and_comm]

end Coordinator

theorem Host.Discreet.facing {client : Host σ} (discreet : client.Discreet)
    (audience : Audience σ) : (client.facing audience).Discreet :=
  ⟨discreet.isAlive, discreet.ask⟩

namespace World

/-! ### Every mark has been checked -/

/-- The stubborn nodes still have paths and data. -/
def KeepsWellMarked (w w' : World σ) : Prop :=
  w.coordinator.WellMarked → w'.coordinator.WellMarked

theorem KeepsWellMarked.of_stubborn {w w' : World σ}
    (same : w'.coordinator.stubborn = w.coordinator.stubborn) : KeepsWellMarked w w' := by
  unfold KeepsWellMarked Coordinator.WellMarked
  rw [same]
  exact id

theorem keepsWellMarked_marking : Routine.Marking (KeepsWellMarked (σ := σ)) where
  marked w c p d marked before := by
    obtain ⟨checked, rfl⟩ := Coordinator.markStubborn_eq_ok.1 marked
    intro q e found
    rcases Table.get?_of_insert found with ⟨rfl, rfl⟩ | was
    · exact checked
    · exact before q e was
  unmarked w p before q e found := before q e (Table.get?_of_erase found)

theorem keepsWellMarked_framing {host : Host σ} (discreet : host.Discreet)
    (hear : ∀ l event w, KeepsWellMarked w (host.hear l event w).2)
    (hearState : ∀ l state w, KeepsWellMarked w (host.hearState l state w).2) :
    Routine.Framing host KeepsWellMarked where
  refl _ := id
  trans h h' := h' ∘ h
  isAlive w := .of_stubborn (by rw [discreet.isAlive])
  ask r w _ := .of_stubborn (by rw [discreet.ask])
  aside _ _ _ same := .of_stubborn same
  hear := hear
  hearState := hearState
  asks r w := .of_stubborn (by rw [discreet.ask])
  updates _ _ same := .of_stubborn same

theorem keepsWellMarked_tame {client : Host σ} (discreet : client.Discreet)
    {audience : Audience σ} (tame : Tame client Step audience) :
    Routine.Framing (client.facing audience) KeepsWellMarked := by
  obtain ⟨hear, hearState⟩ := tame.within (R := KeepsWellMarked) (fun _ => id)
    (fun h h' => h' ∘ h)
    fun hear hearState _ _ step =>
      ((keepsWellMarked_framing (discreet.facing _) hear hearState).registering
        keepsWellMarked_marking).run (fun _ _ => .of_stubborn rfl) (.single step)
  exact keepsWellMarked_framing (discreet.facing _) hear hearState

/-! ### What leaves the marks alone -/

def KeepsMarks (w w' : World σ) : Prop := w'.coordinator.stubborn = w.coordinator.stubborn

theorem keepsMarks_framing {host : Host σ} (discreet : host.Discreet)
    (hear : ∀ l event w, KeepsMarks w (host.hear l event w).2)
    (hearState : ∀ l state w, KeepsMarks w (host.hearState l state w).2) :
    Routine.Framing host KeepsMarks where
  refl _ := rfl
  trans h h' := h'.trans h
  isAlive w := congrArg Coordinator.stubborn (discreet.isAlive w)
  ask r w _ := congrArg Coordinator.stubborn (discreet.ask r w)
  aside _ _ _ same := same
  hear := hear
  hearState := hearState
  asks r w := congrArg Coordinator.stubborn (discreet.ask r w)
  updates _ _ same := same

theorem keepsMarks_silent {client : Host σ} (discreet : client.Discreet) :
    Routine.Framing (client.facing .silent) KeepsMarks :=
  keepsMarks_framing (discreet.facing .silent) (fun _ _ _ => rfl) fun _ _ _ => rfl

/-! ### What changes the marks -/

/-- The marks are as they were if the operation fails, and `after` its answer if it succeeds. -/
structure MarksOnSuccess {α : Type} (before : Table Data) (after : α → Table Data)
    (done : Except Stop α × World σ) : Prop where
  failed : ∀ e, done.1 = .error (.failed e) → done.2.coordinator.stubborn = before
  succeeded : ∀ a, done.1 = .ok a → done.2.coordinator.stubborn = after a

namespace MarksOnSuccess

variable {α : Type} {before : Table Data} {after : α → Table Data} {w : World σ}

theorem of_error {stop : Stop} (kept : w.coordinator.stubborn = before) :
    MarksOnSuccess before after (.error stop, w) where
  failed _ _ := kept
  succeeded _ answer := by cases answer

theorem of_ok {a : α} (changed : w.coordinator.stubborn = after a) :
    MarksOnSuccess before after (.ok a, w) where
  failed _ answer := by cases answer
  succeeded b answer := by
    cases answer
    exact changed

end MarksOnSuccess

variable {host : Host σ} {w : World σ} {p : Path} {d : Data}

theorem markCreated_marks {w₁ : World σ} (kept : KeepsMarks w w₁) (p : Path) (d : Data) :
    MarksOnSuccess w.coordinator.stubborn (w.coordinator.stubborn.insert · d)
      (markCreated p d w₁) := by
  unfold markCreated
  split
  · exact .of_error kept
  · next marked =>
    obtain ⟨-, rfl⟩ := Coordinator.markStubborn_eq_ok.1 marked
    exact .of_ok (by rw [← kept])

theorem createEphemeral_marks (framing : Routine.Framing host KeepsMarks) (p : Path) (d : Data)
    (recreate : Bool) (w : World σ) :
    MarksOnSuccess w.coordinator.stubborn
      (fun q => if recreate then w.coordinator.stubborn.insert q d else w.coordinator.stubborn)
      (createEphemeral host p d recreate w) := by
  unfold createEphemeral
  by_cases refused : (recreate && d.isEmpty) = true
  · rw [if_pos refused]
    exact .of_error rfl
  · rw [if_neg refused]
    have made := framing.create p d .ephemeral w
    rcases answer : World.create host p d .ephemeral w with ⟨_ | created, w₁⟩
    · rw [answer] at made
      exact .of_error made
    · rw [answer] at made
      cases recreate with
      | true => exact markCreated_marks made created d
      | false => exact .of_ok made

theorem createStubborn_marks (framing : Routine.Framing host KeepsMarks) (p : Path) (d : Data)
    (w : World σ) :
    MarksOnSuccess w.coordinator.stubborn (w.coordinator.stubborn.insert · d)
      (createStubborn host p d w) := by
  unfold createStubborn
  split
  · next ready => exact .of_error (framing.ensureReady ready)
  · next w₁ ready =>
    have kept₁ : KeepsMarks w w₁ := framing.ensureReady ready
    split
    · exact .of_error kept₁
    · have cleared := framing.trans kept₁ (framing.clearAway p w₁)
      split
      · next h =>
        rw [h] at cleared
        exact .of_error cleared
      · next w₂ h =>
        rw [h] at cleared
        have made := framing.trans cleared (framing.createMissing p.ancestors w₂)
        split
        · next h =>
          rw [h] at made
          exact .of_error made
        · next w₃ h =>
          rw [h] at made
          split
          · next asked => exact .of_error (framing.trans made (framing.answered asked))
          · next asked => exact markCreated_marks (framing.trans made (framing.answered asked)) _ d

/-- A mark that has been taken away can be put back, as it has been checked before. -/
theorem remark_restores {c : Coordinator} (wellMarked : c.WellMarked)
    (unmarked : w.coordinator.stubborn = c.stubborn.erase p) :
    ∃ w', remark (c.stubbornNode? p) w = (.ok (), w') ∧
      w'.coordinator.stubborn = c.stubborn := by
  cases found : c.stubborn.get? p with
  | none =>
    refine ⟨w, ?_, ?_⟩
    · simp [Coordinator.stubbornNode?, found, remark]
    · rw [unmarked, Table.erase_eq_self.2 found]
  | some d =>
    have marked : w.coordinator.markStubborn p d = .ok _ :=
      Coordinator.markStubborn_eq_ok.2 ⟨wellMarked p d found, rfl⟩
    refine ⟨w.update fun c => { c with stubborn := c.stubborn.insert p d }, ?_, ?_⟩
    · simp only [Coordinator.stubbornNode?, found, Option.map_some, remark, markCreated, marked]
      rfl
    · simp [unmarked, Table.insert_eq_self found]

theorem ensureAlive_cases (host : Host σ) (w : World σ) :
    ensureAlive host w = (.ok (), (host.isAlive w).2) ∨
      ensureAlive host w =
        (.error (.failed (.notConnected "session is not alive")), (host.isAlive w).2) := by
  unfold ensureAlive
  split
  · next alive =>
    rw [alive]
    exact .inl rfl
  · next lost =>
    rw [lost]
    exact .inr rfl

/-- A deletion fails because the session is not alive, or for the cause that the client gives. -/
theorem delete_marks (discreet : host.Discreet) (wellMarked : w.coordinator.WellMarked)
    (p : Path) :
    MarksOnSuccess w.coordinator.stubborn (fun _ => w.coordinator.stubborn.erase p)
        (delete host p w) ∧
      ∀ e, (delete host p w).1 = .error (.failed e) →
        e = .notConnected "session is not alive" ∨
          (host.ask (.delete p) ((host.isAlive w).2.update (·.unmarkStubborn p))).1 =
            .error (.failed e) := by
  have checked := discreet.isAlive w
  unfold delete
  rcases ensureAlive_cases host w with alive | lost
  · rw [alive]
    have asked := discreet.ask (.delete p) ((host.isAlive w).2.update (·.unmarkStubborn p))
    rw [coordinator_update, checked] at asked
    have unmarked := congrArg Coordinator.stubborn asked
    dsimp only
    rw [checked]
    rcases answer : host.ask (.delete p) ((host.isAlive w).2.update (·.unmarkStubborn p)) with
      ⟨(e | reason) | ⟨⟩, w₁⟩
    · rw [answer] at unmarked
      obtain ⟨w₂, restored, back⟩ := remark_restores (p := p) wellMarked unmarked
      simp only [restored]
      exact ⟨.of_error back, fun e' failed => .inr failed⟩
    · exact ⟨⟨nofun, nofun⟩, nofun⟩
    · rw [answer] at unmarked
      exact ⟨.of_ok unmarked, nofun⟩
  · rw [lost]
    refine ⟨.of_error (congrArg Coordinator.stubborn checked), fun e failed => .inl ?_⟩
    cases failed
    rfl

/-! ### All operations -/

/-- What is marked in `w`, and what becomes of the marks by the operations of a session. -/
structure MarksSettled (host : Host σ) (w : World σ) : Prop where
  keyed : ∀ p n, w.coordinator.stubbornNode? p = some n ↔
    n ∈ w.coordinator.stubbornNodes ∧ n.path = p
  checked : ∀ n ∈ w.coordinator.stubbornNodes, n.path ≠ "" ∧ n.data.isEmpty = false
  createEphemeral : ∀ p d recreate, MarksOnSuccess w.coordinator.stubborn
    (fun q => if recreate then w.coordinator.stubborn.insert q d else w.coordinator.stubborn)
    (createEphemeral host p d recreate w)
  createStubborn : ∀ p d, MarksOnSuccess w.coordinator.stubborn
    (fun q => w.coordinator.stubborn.insert q d) (createStubborn host p d w)
  delete : ∀ p, MarksOnSuccess w.coordinator.stubborn
    (fun _ => w.coordinator.stubborn.erase p) (delete host p w)
  delete_cause : ∀ p e, (World.delete host p w).1 = .error (.failed e) →
    e = .notConnected "session is not alive" ∨
      (host.ask (.delete p) ((host.isAlive w).2.update (·.unmarkStubborn p))).1 =
        .error (.failed e)
  relisten : ∀ order, KeepsMarks w (relistenIn order host w).2
  reconnect : ∀ order, KeepsMarks w (reconnectIn order host w).2
  unlisten : ∀ p flavour, KeepsMarks w (unlisten host p flavour w).2
  /-- The first pass calls listeners, which may do anything. -/
  listen : (∀ l event w, KeepsMarks w (host.hear l event w).2) →
    (∀ l state w, KeepsMarks w (host.hearState l state w).2) →
    ∀ p l flavour, KeepsMarks w (listen host p l flavour w).2

/-- Whatever the client answers, marks change with operations that succeed. -/
theorem marks_change_on_success {client : Host σ} (discreet : client.Discreet)
    {audience : Audience σ} (tame : Tame client Step audience) {w₀ w : World σ}
    {dispatcher : Dispatcher} {failFast : Bool}
    (start : w₀.coordinator = .new dispatcher failFast)
    (run : Relation.ReflTransGen (Step (client.facing audience)) w₀ w) :
    MarksSettled (client.facing audience) w := by
  have wellMarked : w.coordinator.WellMarked := by
    have registering := (keepsWellMarked_tame discreet tame).registering keepsWellMarked_marking
    refine registering.run (fun _ _ => .of_stubborn rfl) run fun p d found => ?_
    rw [start] at found
    cases found
  have silent := keepsMarks_silent discreet
  refine
    { keyed := fun p n => ?_
      checked := fun n listed =>
        wellMarked n.path n.data (Coordinator.mem_stubbornNodes.1 listed)
      createEphemeral := fun p d recreate => createEphemeral_marks silent p d recreate w
      createStubborn := fun p d => ?_
      delete := fun p => (delete_marks (discreet.facing audience) wellMarked p).1
      delete_cause := fun p => (delete_marks (discreet.facing audience) wellMarked p).2
      relisten := fun order => ?_
      reconnect := fun order => ?_
      unlisten := fun p flavour => ?_
      listen := fun hear hearState p l flavour =>
        (keepsMarks_framing (discreet.facing audience) hear hearState).subscribing.listen
          p l flavour w }
  · rw [Coordinator.stubbornNode?_eq_some, Coordinator.mem_stubbornNodes, and_comm]
    constructor
    · rintro ⟨found, rfl⟩
      exact ⟨found, rfl⟩
    · rintro ⟨found, rfl⟩
      exact ⟨found, rfl⟩
  · rw [createStubborn_facing, ← createStubborn_facing client .silent]
    exact createStubborn_marks silent p d w
  · rw [relistenIn_facing, ← relistenIn_facing client .silent]
    exact silent.subscribing.relistenIn order w
  · rw [reconnectIn_facing, ← reconnectIn_facing client .silent]
    exact silent.subscribing.reconnectIn (silent.asks .reconnect) order w
  · rw [unlisten_facing, ← unlisten_facing client .silent]
    exact silent.subscribing.unlisten p flavour w

/-- A node that another client has deleted cannot be deleted again, and stays stubborn. -/
theorem mark_outlives_failed_deletion :
    let w := blank.play [.command (.createStubborn "/a" ⟨#[1]⟩), .change (.delete "/a")]
    let done := delete (memoryClient.facing .silent) "/a" w
    done.1 = .error (.failed (.pathNotFound "/a")) ∧
      done.2.coordinator.stubborn = w.coordinator.stubborn ∧
      w.coordinator.stubborn.get? "/a" = some ⟨#[1]⟩ := by
  have discreet : (memoryClient : Host (Backstage Unit)).Discreet := ⟨fun _ => rfl, fun _ _ => rfl⟩
  have start : blank.coordinator = .new (.ofSize 1) false := rfl
  have settled := marks_change_on_success discreet .silent start
    (memory_run_steps (play_run (allows_any
      [.command (.createStubborn "/a" ⟨#[1]⟩), .change (.delete "/a")] blank)))
  exact ⟨rfl, (settled.delete "/a").failed _ rfl, rfl⟩

end World

end DurableWatch
