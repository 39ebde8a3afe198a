import DurableWatch.Proofs.Dialogue
import DurableWatch.Proofs.PassOutcome
import DurableWatch.Proofs.PlainLife

/-!
# What unsubscribing from children takes away

The subscription goes before the client is asked anything, and with it the data subscriptions of the
children it knows. The client is then asked for the children there are, and to cancel the watch of
each. None of its answers keeps the rest from being done; the first refusal is the result.
-/
namespace DurableWatch

open World

variable {σ : Type} {p : Path}

/-! ### Unsubscribing -/

/-- What is said when the client will not cancel the watch of the child. -/
def refusal? (p : Path) : String × Except Error Unit → Option Error
  | (_, .ok ()) => none
  | (n, .error e) => some (e.during "remove_data_watch" (p.child n))

/-- The first refusal, if there is one. -/
def firstRefusal (p : Path) (attempts : List (String × Except Error Unit)) : Except Stop Unit :=
  match attempts.findSome? (refusal? p) with
  | none => .ok ()
  | some e => .error (.failed e)

theorem firstRefusal_cons_ok (n : String) (attempts : List (String × Except Error Unit)) :
    firstRefusal p ((n, .ok ()) :: attempts) = firstRefusal p attempts := rfl

theorem firstRefusal_cons_error (n : String) (e : Error)
    (attempts : List (String × Except Error Unit)) :
    firstRefusal p ((n, .error e) :: attempts) =
      .error (.failed (e.during "remove_data_watch" (p.child n))) := rfl

/-- A refusal is no crash. -/
theorem firstRefusal_ne_crashed (attempts : List (String × Except Error Unit)) (reason : String) :
    firstRefusal p attempts ≠ .error (.crashed reason) := by
  unfold firstRefusal
  split <;> simp

/-- The cancelling of the watch of the child, with its answer. -/
def cancelling (p : Path) (attempt : String × Except Error Unit) : Exchange :=
  ⟨.cancelDataWatch (p.child attempt.1), attempt.2⟩

/-- What is asked about the children of `p` when their data is no longer watched, the children that
are found, and the result. -/
inductive Cancelled (p : Path) : List Exchange → List String → Except Stop Unit → Prop
  | unsure (e : Error) :
    Cancelled p [⟨.existence p, .error e⟩] [] (.error (.failed (e.during "exists" p)))
  | missing : Cancelled p [⟨.existence p, .ok false⟩] [] (.ok ())
  | unlisted (e : Error) :
    Cancelled p [⟨.existence p, .ok true⟩, ⟨.listChildren p false, .error e⟩] []
      (.error (.failed (e.during "get_children" p)))
  | listed (attempts : List (String × Except Error Unit)) :
    Cancelled p (⟨.existence p, .ok true⟩ ::
        ⟨.listChildren p false, .ok (attempts.map Prod.fst)⟩ :: attempts.map (cancelling p))
      (attempts.map Prod.fst) (firstRefusal p attempts)

namespace World

variable (client : Client σ) (audience : Audience (Dialogue σ)) (w : World (Dialogue σ))

theorem cancelEach_asked (names : List String) :
    ∃ attempts state, attempts.map Prod.fst = names ∧
      client.Answers (attempts.map (cancelling p)) w.outside.client state ∧
      cancelEach (client.host.facing audience) p names w = (firstRefusal p attempts,
        (w.exchanged state (attempts.map (cancelling p))).update
          (·.removeDataAll (names.map p.child))) := by
  induction names generalizing w with
  | nil =>
    refine ⟨[], w.outside.client, rfl, .nil _, ?_⟩
    simp [cancelEach, firstRefusal, exchanged, update, Coordinator.removeDataAll]
  | cons n names ih =>
    let w₁ := w.update (·.removeData (p.child n))
    rcases asked : client.ask (.cancelDataWatch (p.child n)) w₁.outside.client with ⟨answer, state⟩
    obtain ⟨attempts, state', named, answered, rest⟩ :=
      ih (w₁.exchanged state [cancelling p (n, answer)])
    have left : ((w₁.exchanged state [cancelling p (n, answer)]).exchanged state'
        (attempts.map (cancelling p))).update (·.removeDataAll (names.map p.child)) =
          (w.exchanged state' (((n, answer) :: attempts).map (cancelling p))).update
            (·.removeDataAll ((n :: names).map p.child)) := by
      simp [exchanged, update, w₁]
    rw [left] at rest
    refine ⟨(n, answer) :: attempts, state', by rw [List.map_cons, named], .cons asked answered, ?_⟩
    unfold cancelEach
    cases answer with
    | ok done =>
      rw [Client.ask_ok (w := w₁) asked, firstRefusal_cons_ok]
      exact rest
    | error e =>
      rw [Client.ask_error (w := w₁) asked, firstRefusal_cons_error]
      have rest' : cancelEach (client.host.facing audience) p names
          (w₁.exchanged state [⟨.cancelDataWatch (p.child n), .error e⟩]) = _ := rest
      dsimp only
      rw [rest']
      split
      · next h => exact absurd (congrArg Prod.fst h) (firstRefusal_ne_crashed attempts _)
      · next h =>
        obtain ⟨-, rfl⟩ := Prod.mk.inj h
        rfl

/-- However the client answers, the children that it lists lose their data subscriptions. -/
theorem cancelChildData_asked : ∃ calls listed result state, Cancelled p calls listed result ∧
    client.Answers calls w.outside.client state ∧
    cancelChildData (client.host.facing audience) p w =
      (result, (w.exchanged state calls).update (·.removeDataAll (listed.map p.child))) := by
  rcases asked : client.ask (.existence p) w.outside.client with ⟨answer, state⟩
  unfold cancelChildData
  cases answer with
  | error e =>
    rw [Client.ask_error asked]
    exact ⟨_, _, _, state, .unsure e, .cons asked (.nil _), rfl⟩
  | ok there =>
    rw [Client.ask_ok asked]
    cases there with
    | false => exact ⟨_, _, _, state, .missing, .cons asked (.nil _), rfl⟩
    | true =>
      let w₁ := w.exchanged state [⟨.existence p, .ok true⟩]
      rcases asked' : client.ask (.listChildren p false) w₁.outside.client with ⟨answer, state₁⟩
      dsimp only
      cases answer with
      | error e =>
        rw [Client.ask_error (w := w₁) asked']
        refine ⟨_, _, _, state₁, .unlisted e, .cons asked (.cons asked' (.nil _)), ?_⟩
        simp [exchanged, update, w₁, Coordinator.removeDataAll, Stop.during]
      | ok names =>
        rw [Client.ask_ok (w := w₁) asked']
        obtain ⟨attempts, state₂, rfl, answered, cancelled⟩ := cancelEach_asked client audience
          (w₁.exchanged state₁ [⟨.listChildren p false, .ok names⟩]) names
        refine ⟨_, _, _, state₂, .listed attempts, .cons asked (.cons asked' answered),
          cancelled.trans ?_⟩
        simp [exchanged, update, w₁]

end World

/-- Without the child subscription at `p` and the data subscriptions of these children, and the same
for the rest. -/
structure Coordinator.Left (c c' : Coordinator) (p : Path) (gone : List String) : Prop where
  children : c'.children = c.children.erase p
  data : ∀ q, c'.data.get? q = if q ∈ gone.map p.child then none else c.data.get? q
  nextId : c'.nextId = c.nextId
  journal : c'.journal = c.journal
  aside : c'.aside = c.aside

theorem Coordinator.left_removeDataAll (c : Coordinator) (p : Path) (known listed : List String) :
    c.Left (((c.removeChildren p).removeDataAll (known.map p.child)).removeDataAll
      (listed.map p.child)) p (known ++ listed) where
  children := by rw [children_removeDataAll, children_removeDataAll]; rfl
  data q := by
    rw [data_removeDataAll, data_removeDataAll, List.map_append]
    by_cases hl : q ∈ listed.map p.child <;> by_cases hk : q ∈ known.map p.child <;>
      simp [hl, hk, removeChildren]
  nextId := by rw [nextId_removeDataAll, nextId_removeDataAll]; rfl
  journal := by rw [journal_removeDataAll, journal_removeDataAll]; rfl
  aside := by
    have kept (c : Coordinator) (qs : List Path) : (c.removeDataAll qs).aside = c.aside :=
      removeDataAll_of_step aside (fun _ _ => rfl) c qs
    rw [kept, kept]
    rfl

namespace World

/-- Whether unsubscribing from the children of `p` is about their data as well. -/
def cancelsData (w : World σ) (p : Path) (withData : Bool) : Bool :=
  withData || (w.coordinator.children.get? p).any (·.watchesChildData)

/-- The children that the subscription at `p` knows. -/
def knownAt (w : World σ) (p : Path) : List String :=
  ((w.coordinator.children.get? p).map fun s => s.known.keys).getD []

/-- What it does to unsubscribe from the children of `p`. -/
structure Unsubscribed (client : Client σ) (w w' : World (Dialogue σ)) (p : Path)
    (withData : Bool) (calls : List Exchange) (gone : List String) (result : Except Stop Unit) :
    Prop where
  left : w.coordinator.Left w'.coordinator p gone
  log : w'.outside.log = w.outside.log ++ calls
  answers : client.Answers calls w.outside.client w'.outside.client
  plainly : w.cancelsData p withData = false → calls = [] ∧ gone = [] ∧ result = .ok ()
  cancelled : w.cancelsData p withData = true →
    ∃ listed, gone = w.knownAt p ++ listed ∧ Cancelled p calls listed result

theorem unlisten_children_eq (host : Host σ) (w : World σ) (p : Path) (withData : Bool) :
    w.unlisten host p (.children withData) =
      if w.cancelsData p withData
      then cancelChildData host p
        (w.update fun c => (c.removeChildren p).removeDataAll ((w.knownAt p).map p.child))
      else (.ok (), w.update (·.removeChildren p)) := by
  simp only [World.unlisten, unlistenChildren]
  cases cancels : w.cancelsData p withData with
  | false =>
    rw [cancelsData] at cancels
    rw [cancels]
    rfl
  | true =>
    rw [cancelsData] at cancels
    rw [cancels]
    rfl

theorem unlisten_unsubscribed (client : Client σ) (audience : Audience (Dialogue σ))
    (w : World (Dialogue σ)) (p : Path) (withData : Bool) :
    ∃ result w' calls gone,
      w.unlisten (client.host.facing audience) p (.children withData) = (result, w') ∧
        Unsubscribed client w w' p withData calls gone result := by
  rw [unlisten_children_eq]
  cases cancels : w.cancelsData p withData with
  | false =>
    refine ⟨_, _, [], [], rfl, w.coordinator.left_removeDataAll p [] [], (List.append_nil _).symm,
      .nil _, fun _ => ⟨rfl, rfl, rfl⟩, fun does => ?_⟩
    rw [cancels] at does
    cases does
  | true =>
    obtain ⟨calls, listed, result, state, cancelled, answered, done⟩ :=
      cancelChildData_asked client audience
        (w.update fun c => (c.removeChildren p).removeDataAll ((w.knownAt p).map p.child))
    refine ⟨_, _, calls, w.knownAt p ++ listed, done,
      w.coordinator.left_removeDataAll p (w.knownAt p) listed, rfl, answered, fun doesNot => ?_,
      fun _ => ⟨listed, rfl, cancelled⟩⟩
    rw [cancels] at doesNot
    cases doesNot

end World

/-! ### The last of a subscription -/

namespace Coordinator

variable {c c' : Coordinator} {i : Nat}

/-- Neither the subscription with this number nor a data subscription made for it is registered. -/
structure Extinct (i : Nat) (c : Coordinator) : Prop where
  used : i < c.nextId
  children : ∀ q s, c.children.get? q = some s → s.id ≠ i
  data : ∀ q e, c.data.get? q = some e → e.family ≠ i

/-- A pass makes data subscriptions for a subscription that is registered, so none for this one. -/
theorem Extinct.move (extinct : Extinct i c) (move : Coordinator.Move c c') :
    Extinct i c' ∧ ∃ rs, c'.journal = c.journal ++ rs ∧ ∀ r ∈ rs, r.family ≠ i := by
  have origins := move.origins
  have used := extinct.used
  refine ⟨⟨used.trans_le origins.nextId, fun q s hs own => ?_, fun q e he own => ?_⟩, ?_⟩
  · rcases origins.children q s hs with isNew | ⟨s', hs', same⟩
    · omega
    · exact extinct.children q s' hs' (same.trans own)
  · rcases origins.data q e he with before | ⟨isNew, -⟩ | ⟨-, r, s, hs, owner⟩
    · exact extinct.data q e before own
    · have plain : e.family = c.nextId := by rw [isNew]; rfl
      omega
    · have managed : e.family = s.id := by rw [DataSubscription.family, owner]; rfl
      exact extinct.children r s hs (managed.symm.trans own)
  · cases move.produces with
    | nothing journal => exact ⟨[], journal.trans (List.append_nil _).symm, by simp⟩
    | change d registered _ journal =>
      refine ⟨_, journal, fun r hr => ?_⟩
      rw [List.mem_singleton.1 hr]
      exact extinct.data _ _ registered
    | ending registered _ _ journal =>
      refine ⟨_, journal, fun r hr => ?_⟩
      rw [List.mem_singleton.1 hr]
      exact extinct.data _ _ registered
    | pass registered journal own =>
      refine ⟨_, journal, fun r hr => ?_⟩
      rw [(own r hr).2]
      exact extinct.children _ _ registered

theorem Extinct.moves (extinct : Extinct i c)
    (moves : Relation.ReflTransGen Coordinator.Move c c') :
    Extinct i c' ∧ ∃ rs, c'.journal = c.journal ++ rs ∧ ∀ r ∈ rs, r.family ≠ i := by
  induction moves with
  | refl => exact ⟨extinct, [], (List.append_nil _).symm, by simp⟩
  | tail _ move ih =>
    obtain ⟨still, rs, journal, others⟩ := ih
    obtain ⟨now, rs', journal', others'⟩ := still.move move
    refine ⟨now, rs ++ rs', by rw [journal', journal, List.append_assoc], fun r hr => ?_⟩
    exact (List.mem_append.1 hr).elim (others r) (others' r)

/-- The data subscriptions made for a subscription are those of the children that it knows. -/
theorem Sound.extinct_of_left (sound : c.Sound) {p : Path} {s : ChildSubscription}
    {gone : List String} (registered : c.children.get? p = some s) (left : c.Left c' p gone)
    (all : s.watchesChildData = true → ∀ n, s.known.contains n = true → n ∈ gone) :
    Extinct s.id c' := by
  have tracks := sound.tracks p s registered
  refine ⟨left.nextId.symm ▸ tracks.old, fun q s' hs' own => ?_, fun q e he own => ?_⟩
  · rw [left.children, Table.get?_erase] at hs'
    split at hs'
    · cases hs'
    · next other => exact other (tracks.place q s' hs' own).1
  · rw [left.data] at he
    split at he
    · cases he
    · next kept =>
      obtain ⟨watches, -, n, rfl, alive⟩ := tracks.managed q e he own
      have known : s.known.contains n = true := (tracks.known s registered rfl n).trans alive
      exact kept (List.mem_map_of_mem (all watches n known))

end Coordinator

end DurableWatch
