import DurableWatch.Proofs.Dialogue
import DurableWatch.Proofs.Rollback

/-!
# Failed passes leave no trace

A handler that fails has asked the client, and that is all it has done. So a run can be repeated
without the calls that failed, before a client that only says again what the other calls were
answered: it comes to the same coordinator, with the same subscriptions, queues and journal.
-/
namespace DurableWatch

open World

variable {σ τ α β : Type}

/-! ### A client that repeats what was answered -/

/-- Gives the recorded answers, as long as what it is asked is what was asked then. -/
def Client.scripted : Client (List Exchange) where
  isAlive script := (true, script)
  ask
    | r, x :: script =>
      if same : x.request = r then (same ▸ x.answer, script)
      else (.error (.invalidArgument "not in the script"), x :: script)
    | _, [] => (.error (.invalidArgument "end of the script"), [])

theorem Client.scripted_ask (x : Exchange) (script : List Exchange) :
    scripted.ask x.request (x :: script) = (x.answer, script) := by
  simp [scripted]

theorem Client.scripted_answers (xs rest : List Exchange) :
    scripted.Answers xs (xs ++ rest) rest := by
  induction xs with
  | nil => exact .nil rest
  | cons x xs ih => exact .cons (scripted_ask x (xs ++ rest)) ih

/-- A world before the script, of which the first part has been said. -/
def World.onScript (c : Coordinator) (script said : List Exchange) :
    World (Dialogue (List Exchange)) :=
  ⟨c, ⟨script, said⟩⟩

/-- In `w` the call `f` asks some exchanges. With these on the script `g` does the same from the
same coordinator, and uses them up. -/
def EchoesAt (w : World (Dialogue σ)) (f : World (Dialogue σ) → α × World (Dialogue σ))
    (g : World (Dialogue (List Exchange)) → α × World (Dialogue (List Exchange))) : Prop :=
  ∃ xs, (f w).2.outside.log = w.outside.log ++ xs ∧
    ∀ rest said, g (onScript w.coordinator (xs ++ rest) said) =
      ((f w).1, onScript (f w).2.coordinator rest (said ++ xs))

/-- What a call says when a listener has heard the new state. -/
def Hearing.result : Hearing → Except Stop Unit
  | .crashed reason => .error (.crashed reason)
  | _ => .ok ()

section notifyState

variable {host : Host σ} {state : SessionState} {w : World σ}

theorem World.notifyState_unbound (unbound : w.coordinator.states.get? state = none) :
    notifyState host state w = (.ok (), w) := by
  simp [notifyState, unbound]

theorem World.notifyState_bound {l : Listener} (bound : w.coordinator.states.get? state = some l) :
    notifyState host state w =
      ((host.hearState l state w).1.result, (host.hearState l state w).2) := by
  rcases heard : host.hearState l state w with ⟨hearing, w₁⟩
  cases hearing <;> simp [notifyState, bound, heard, Hearing.result]

theorem World.notifyState_not_failed (host : Host σ) (state : SessionState) (w : World σ)
    (e : Error) : (notifyState host state w).1 ≠ .error (.failed e) := by
  cases bound : w.coordinator.states.get? state with
  | none => simp [notifyState_unbound bound]
  | some l =>
    rw [notifyState_bound bound]
    cases (host.hearState l state w).1 <;> simp [Hearing.result]

end notifyState

/-- Listeners that go by the coordinator and by what they are answered, on either side. -/
structure Audience.Alike (audience : Audience (Dialogue σ))
    (audience' : Audience (Dialogue (List Exchange))) : Prop where
  hear : ∀ l event w, EchoesAt w (audience.hear l event) (audience'.hear l event)
  hearState : ∀ l state w, EchoesAt w (audience.hearState l state) (audience'.hearState l state)

namespace EchoesAt

/-- A call that asks nothing. -/
theorem unasked {w : World (Dialogue σ)} {f : World (Dialogue σ) → α × World (Dialogue σ)}
    {g : World (Dialogue (List Exchange)) → α × World (Dialogue (List Exchange))}
    (same : (f w).2.outside.log = w.outside.log)
    (echo : ∀ script said, g (onScript w.coordinator script said) =
      ((f w).1, onScript (f w).2.coordinator script said)) : EchoesAt w f g :=
  ⟨[], by simpa using same, fun rest said => by simpa using echo rest said⟩

/-- First these exchanges, then a call that echoes. -/
theorem after {w w₁ : World (Dialogue σ)} {f f₁ : World (Dialogue σ) → α × World (Dialogue σ)}
    {g g₁ : World (Dialogue (List Exchange)) → α × World (Dialogue (List Exchange))}
    (xs : List Exchange) (rest : EchoesAt w₁ f₁ g₁) (log : w₁.outside.log = w.outside.log ++ xs)
    (goesOn : f w = f₁ w₁)
    (echo : ∀ script said, g (onScript w.coordinator (xs ++ script) said) =
      g₁ (onScript w₁.coordinator script (said ++ xs))) : EchoesAt w f g := by
  obtain ⟨ys, log', echo'⟩ := rest
  refine ⟨xs ++ ys, ?_, fun script said => ?_⟩
  · rw [goesOn, log', log, List.append_assoc]
  · rw [List.append_assoc, echo, echo', goesOn, List.append_assoc]

end EchoesAt

section

variable {client : Client σ} {audience : Audience (Dialogue σ)}
  {audience' : Audience (Dialogue (List Exchange))} (w : World (Dialogue σ)) {p : Path}

theorem EchoesAt.dataChange :
    EchoesAt w (World.dataChange (client.host.facing audience) p)
      (World.dataChange (Client.scripted.host.facing audience') p) := by
  cases registered : w.coordinator.data.get? p with
  | none =>
    refine .unasked ?_ fun script said => ?_
    · rw [dataChange_unregistered registered]
    · rw [dataChange_unregistered registered, dataChange_unregistered (by exact registered)]
  | some e =>
    rcases asked : client.ask (.readData p true) w.outside.client with ⟨answer, state⟩
    have changed : World.dataChange (client.host.facing audience) p w = _ :=
      dataChange_asked registered asked
    refine ⟨[⟨.readData p true, answer⟩], by rw [changed]; rfl, fun rest said => ?_⟩
    have again : Client.scripted.ask (.readData p true)
        (onScript w.coordinator (⟨.readData p true, answer⟩ :: rest) said).outside.client =
          (answer, rest) := Client.scripted_ask ⟨.readData p true, answer⟩ rest
    rw [changed]
    exact dataChange_asked (by exact registered) again

namespace Audience.Alike

theorem silent : (Audience.silent : Audience (Dialogue σ)).Alike .silent where
  hear _ _ _ := .unasked rfl fun _ _ => rfl
  hearState _ _ _ := .unasked rfl fun _ _ => rfl

variable (alike : audience.Alike audience')
include alike

theorem tellAll (rs : List Report) :
    EchoesAt w (World.tellAll (client.host.facing audience) rs)
      (World.tellAll (Client.scripted.host.facing audience') rs) := by
  induction rs generalizing w with
  | nil => exact .unasked rfl fun _ _ => rfl
  | cons r rs ih =>
    obtain ⟨xs, log, echo⟩ := alike.hear r.listener r.event w
    rcases heard : audience.hear r.listener r.event w with ⟨hearing, w₁⟩
    rw [heard] at log echo
    have echo (script said : List Exchange) : tellInline (Client.scripted.host.facing audience') r
        (onScript w.coordinator (xs ++ script) said) =
          (hearing, onScript w₁.coordinator script (said ++ xs)) := echo script said
    have heard : tellInline (client.host.facing audience) r w = (hearing, w₁) := heard
    cases hearing with
    | crashed reason =>
      refine ⟨xs, ?_, fun script said => ?_⟩
      · simpa only [World.tellAll, heard] using log
      · simp only [World.tellAll, heard, echo]
    | fine =>
      refine (ih w₁).after xs log ?_ fun script said => ?_
      · simp only [World.tellAll, heard]
      · simp only [World.tellAll, echo]
    | failed =>
      refine (ih w₁).after xs log ?_ fun script said => ?_
      · simp only [World.tellAll, heard]
      · simp only [World.tellAll, echo]

theorem deliver (delivery : Delivery) (created deleted : List Report) :
    EchoesAt w (World.deliver (client.host.facing audience) delivery created deleted)
      (World.deliver (Client.scripted.host.facing audience') delivery created deleted) := by
  cases delivery with
  | dispatched => exact .unasked rfl fun _ _ => rfl
  | inline =>
    obtain ⟨xs, log, echo⟩ : EchoesAt w (World.tellAll (client.host.facing audience) created)
        (World.tellAll (Client.scripted.host.facing audience') created) := alike.tellAll w created
    rcases told : World.tellAll (client.host.facing audience) created w with ⟨result, w₁⟩
    rw [told] at log echo
    refine ⟨xs, ?_, fun script said => ?_⟩
    · simp only [World.deliver, told]
      cases result <;> exact log
    · simp only [World.deliver, told, echo]
      cases result <;> rfl

theorem notifyState (state : SessionState) :
    EchoesAt w (World.notifyState (client.host.facing audience) state)
      (World.notifyState (Client.scripted.host.facing audience') state) := by
  cases bound : w.coordinator.states.get? state with
  | none =>
    refine .unasked ?_ fun script said => ?_
    · rw [notifyState_unbound bound]
    · rw [notifyState_unbound bound, notifyState_unbound (by exact bound)]
  | some l =>
    obtain ⟨xs, log, echo⟩ := alike.hearState l state w
    refine ⟨xs, ?_, fun script said => ?_⟩
    · rw [notifyState_bound bound]
      exact log
    · rw [notifyState_bound bound, notifyState_bound (by exact bound)]
      have heard : (Client.scripted.host.facing audience').hearState l state
        (onScript w.coordinator (xs ++ script) said) = _ := echo script said
      rw [heard]
      rfl

theorem childChange (delivery : Delivery) :
    EchoesAt w (World.childChange (client.host.facing audience) p delivery)
      (World.childChange (Client.scripted.host.facing audience') p delivery) := by
  cases registered : w.coordinator.children.get? p with
  | none =>
    refine .unasked ?_ fun script said => ?_
    · rw [childChange_unregistered registered]
    · rw [childChange_unregistered registered, childChange_unregistered (by exact registered)]
  | some s =>
    rcases asked : client.ask (.listChildren p true) w.outside.client with ⟨answer, state⟩
    have passed : World.childChange (client.host.facing audience) p delivery w = _ :=
      childChange_registered registered delivery
    have again (script said : List Exchange) :
        World.childChange (Client.scripted.host.facing audience') p delivery
            (onScript w.coordinator script said) =
          childPass (Client.scripted.host.facing audience') p s delivery
            (onScript w.coordinator script said) := childChange_registered (by exact registered) _
    cases answer with
    | error e =>
      rw [childPass_refused audience s delivery asked] at passed
      refine ⟨[⟨.listChildren p true, .error e⟩], by rw [passed]; rfl, fun script said => ?_⟩
      rw [passed, again]
      exact childPass_refused audience' s delivery
        (Client.scripted_ask ⟨.listChildren p true, .error e⟩ script)
    | ok snapshot =>
      obtain ⟨answers, state', -, delivered⟩ := childPass_asked audience s delivery asked
      refine (alike.deliver _ delivery _ _).after (passExchanges p s snapshot answers) rfl
        (passed.trans delivered) fun script said => ?_
      rw [again]
      exact childPass_answered audience' s delivery (Client.scripted_answers _ script)

end Audience.Alike

end

/-! ### The run without its failures -/

/-- The handling of a fire, on its own or of what the client hands over. -/
inductive FireCall
  | data (p : Path)
  | children (p : Path) (initial : Bool)
  | notification (note : Notification)

/-- A crash of a listener is no failure of the handler that called it. -/
def Failed : Except Stop Unit → Bool
  | .error (.failed _) => true
  | _ => false

theorem failed_iff {r : Except Stop Unit} : Failed r = true ↔ ∃ e, r = .error (.failed e) := by
  rcases r with ⟨_ | _⟩ | _ <;> simp [Failed]

namespace FireCall

/-- What the handler does and answers, before anyone drops its failure. -/
def handle (host : Host σ) : FireCall → World σ → Except Stop Unit × World σ
  | data p | notification (.watch p .data) => dataChange host p
  | children p initial => childChange host p (.forPass initial)
  | notification (.watch p .children) => childChange host p .dispatched
  | notification (.state state) => notifyState host state

def command : FireCall → Command
  | data p => .dataChange p
  | children p initial => .childChange p (.forPass initial)
  | notification note => .notify note

theorem perform_command (host : Host σ) (call : FireCall) (w : World σ) :
    w.perform host call.command = (call.handle host w).2 := by
  cases call with
  | data p => rfl
  | children p initial => rfl
  | notification note =>
    cases note with
    | watch p kind => cases kind <;> exact dropFailure_world _
    | state state => rfl

/-- The calls that do not fail, each with the exchanges it has had. -/
def surviving (host : Host (Dialogue σ)) :
    World (Dialogue σ) → List FireCall → List (FireCall × List Exchange)
  | _, [] => []
  | w, call :: calls =>
    let (result, w₁) := call.handle host w
    let rest := surviving host w₁ calls
    if Failed result then rest
    else (call, w₁.outside.log.drop w.outside.log.length) :: rest

theorem surviving_cons (host : Host (Dialogue σ)) (w : World (Dialogue σ)) (call : FireCall)
    (calls : List FireCall) :
    surviving host w (call :: calls) =
      if Failed (call.handle host w).1 then surviving host (call.handle host w).2 calls
      else (call, (call.handle host w).2.outside.log.drop w.outside.log.length) ::
        surviving host (call.handle host w).2 calls := rfl

variable {client : Client σ} {audience : Audience (Dialogue σ)}
  {audience' : Audience (Dialogue (List Exchange))}

theorem handle_echoes (alike : audience.Alike audience') (call : FireCall)
    (w : World (Dialogue σ)) :
    EchoesAt w (call.handle (client.host.facing audience))
      (call.handle (Client.scripted.host.facing audience')) := by
  cases call with
  | data p => exact .dataChange w
  | children p initial => exact alike.childChange w _
  | notification note =>
    cases note with
    | watch p kind =>
      cases kind with
      | data => exact .dataChange w
      | children => exact alike.childChange w _
    | state state => exact alike.notifyState w state

/-- A handler fails before it has changed anything. -/
theorem coordinator_of_failed {host : Host σ} (orderly : host.Orderly) {call : FireCall}
    {w : World σ} (failed : Failed (call.handle host w).1 = true) :
    (call.handle host w).2.coordinator = w.coordinator := by
  rcases handled : call.handle host w with ⟨result, w'⟩
  rw [handled] at failed
  obtain ⟨e, rfl⟩ := failed_iff.1 failed
  have dataFailed {p : Path} (handled : dataChange host p w = (.error (.failed e), w')) :
      w'.coordinator = w.coordinator := by
    obtain ⟨cause, refused⟩ := dataChange_failed handled
    exact orderly.coordinator_of_ask refused
  have childrenFailed {p : Path} {delivery : Delivery}
      (handled : childChange host p delivery w = (.error (.failed e), w')) :
      w'.coordinator = w.coordinator := by
    cases registered : w.coordinator.children.get? p with
    | none => rw [childChange_unregistered registered] at handled; cases handled
    | some s =>
      rw [childChange_registered registered] at handled
      obtain ⟨cause, refused⟩ := childPass_failed handled
      exact orderly.coordinator_of_ask refused
  cases call with
  | data p => exact dataFailed handled
  | children p initial => exact childrenFailed handled
  | notification note =>
    cases note with
    | watch p kind =>
      cases kind with
      | data => exact dataFailed handled
      | children => exact childrenFailed handled
    | state state =>
      exact absurd (congrArg Prod.fst handled) (notifyState_not_failed host state w e)

theorem replay_surviving (client : Client σ) (alike : audience.Alike audience')
    (calls : List FireCall) (w : World (Dialogue σ)) (rest said : List Exchange) :
    let host := client.host.facing audience
    let kept := surviving host w calls
    let script := kept.flatMap Prod.snd
    (kept.map fun call => call.1.command).foldl (perform (Client.scripted.host.facing audience'))
        (onScript w.coordinator (script ++ rest) said) =
      onScript ((calls.map command).foldl (perform host) w).coordinator rest (said ++ script) := by
  intro host
  dsimp only
  induction calls generalizing w said with
  | nil => simp [surviving]
  | cons call calls ih =>
    have later := ih (call.handle host w).2
    rw [surviving_cons, List.map_cons, List.foldl_cons, perform_command]
    cases failed : Failed (call.handle host w).1 with
    | true =>
      rw [if_pos rfl, ← later, coordinator_of_failed (client.host_orderly.facing audience) failed]
    | false =>
      obtain ⟨xs, log, echo⟩ : EchoesAt w (call.handle (client.host.facing audience))
          (call.handle (Client.scripted.host.facing audience')) := handle_echoes alike call w
      have added : (call.handle host w).2.outside.log.drop w.outside.log.length = xs := by
        rw [log, List.drop_left]
      rw [if_neg Bool.false_ne_true, List.flatMap_cons, List.map_cons, List.foldl_cons,
        perform_command, added, List.append_assoc, echo, later, List.append_assoc]

/-- A call whose handler fails leaves the coordinator as it was. So, repeated with the other calls
alone and with what these were answered, the run comes to the same coordinator; and when all calls
fail, the next pass finds what the last successful one has left. -/
theorem failed_calls_invisible (client : Client σ) {audience : Audience (Dialogue σ)}
    {audience' : Audience (Dialogue (List Exchange))} (alike : audience.Alike audience')
    (w : World (Dialogue σ)) (calls : List FireCall) :
    let host := client.host.facing audience
    let final := (calls.map command).foldl (perform host) w
    let kept := surviving host w calls
    let script := kept.flatMap Prod.snd
    (∀ (v : World (Dialogue σ)) (call : FireCall), Failed (call.handle host v).1 = true →
        (v.perform host call.command).coordinator = v.coordinator) ∧
      (kept.map fun call => call.1.command).foldl (perform (Client.scripted.host.facing audience'))
          (onScript w.coordinator script []) = onScript final.coordinator [] script ∧
      (kept = [] → final.coordinator = w.coordinator) := by
  intro host final kept script
  have again := replay_surviving client alike calls w [] []
  dsimp only at again
  rw [List.append_nil] at again
  refine ⟨fun v call failed => ?_, again, fun none => ?_⟩
  · rw [perform_command]
    exact coordinator_of_failed (client.host_orderly.facing audience) failed
  · have kept_nil : surviving (client.host.facing audience) w calls = [] := none
    rw [kept_nil] at again
    exact (congrArg World.coordinator again).symm

end FireCall

/-- Fails as often as it is told. Then every node is there, and has one child. -/
def Client.faltering : Client Nat where
  isAlive n := (true, n)
  ask
    | _, n + 1 => (.error (.notConnected "down"), n)
    | .existence _, 0 => (.ok true, 0)
    | .readData _ _, 0 => (.ok .empty, 0)
    | .listChildren _ _, 0 => (.ok ["x"], 0)
    | .create p _ _, 0 => (.ok p, 0)
    | .writeData _ _, 0 | .delete _, 0 | .cancelDataWatch _, 0 | .reconnect, 0 => (.ok (), 0)

/-- A child list is subscribed to, then the client is about to fail twice. -/
def World.unsteadied : World (Dialogue Nat) :=
  { perform Client.faltering.host ⟨.new (.ofSize 1) false, ⟨0, []⟩⟩
      (.listen "/a" "l" (.children true)) with
    outside := ⟨2, []⟩ }

/-- Of three calls only the last does not fail, and it is enough by itself. -/
theorem FireCall.failed_calls_invisible_faltering :
    let host := Client.faltering.host.facing .silent
    let calls := [children "/a" true, notification (.watch "/a/x" .data), children "/a" false]
    ∃ script, (surviving host unsteadied calls) = [(children "/a" false, script)] ∧
      (onScript unsteadied.coordinator script []).perform (Client.scripted.host.facing .silent)
          (.childChange "/a" .dispatched) =
        onScript ((calls.map command).foldl (perform host) unsteadied).coordinator [] script := by
  intro host calls
  have kept : surviving host unsteadied calls =
      [(children "/a" false, [⟨.listChildren "/a" true, .ok ["x"]⟩])] := rfl
  have again := (failed_calls_invisible Client.faltering .silent unsteadied calls).2.1
  refine ⟨_, kept, ?_⟩
  rw [kept] at again
  exact again

end DurableWatch
