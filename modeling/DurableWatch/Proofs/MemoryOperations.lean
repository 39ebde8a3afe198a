import DurableWatch.Proofs.Frames
import DurableWatch.Proofs.Upkeep

/-!
# Operations over the service in memory are moves

Each operation is followed through the requests it makes. The service answers a read exactly when
the session is alive and the node is there, so a pass either reads everything it asks for or stops
at its first request.
-/
namespace DurableWatch

open World Coordinator Setting

/-! ### The requests made, and the last watched read -/

theorem lastTry_other {r : Request} {answered : Bool} {p : Path} {kind : WatchKind}
    {calls : List Inquiry} (connected : r ≠ .reconnect) (other : r ≠ kind.read p) :
    lastTry p kind (⟨r, answered⟩ :: calls) = lastTry p kind calls := by
  simp [lastTry, connected, other]

theorem lastTry_plain {r : Request} {answered : Bool} {calls : List Inquiry}
    (plain : r.isPlain = true) (p : Path) (kind : WatchKind) :
    lastTry p kind (⟨r, answered⟩ :: calls) = lastTry p kind calls := by
  refine lastTry_other ?_ ?_
  · rintro rfl
    cases plain
  · rintro rfl
    cases kind <;> cases plain

theorem lastTry_read (p : Path) (kind : WatchKind) (answered : Bool) (calls : List Inquiry) :
    lastTry p kind (⟨kind.read p, answered⟩ :: calls) = some answered := by
  cases kind <;> simp [lastTry, WatchKind.read]

theorem lastTry_read_other {p q : Path} {kind k : WatchKind} (other : ¬(q = p ∧ k = kind))
    (answered : Bool) (calls : List Inquiry) :
    lastTry q k (⟨kind.read p, answered⟩ :: calls) = lastTry q k calls := by
  refine lastTry_other ?_ ?_
  · cases kind <;> simp [WatchKind.read]
  · cases kind <;> cases k <;> simp_all [WatchKind.read, eq_comm]

namespace Setting

variable {a b c : Setting} {seen : Path → WatchKind → Prop} {p : Path} {kind : WatchKind}

/-- One watched read that was answered. -/
theorem looked_of_taken (taken : Taken a (.watch p kind) b)
    (there : b.service.nodes.contains p = true) (service : c.service = b.service.arm p kind)
    (calls : c.calls = ⟨kind.read p, true⟩ :: b.calls) :
    Looked a c fun q k => q = p ∧ k = kind where
  nodes := by rw [service, MemoryService.nodes_arm, taken.nodes]
  alive := by rw [service, MemoryService.alive_arm, taken.alive]
  pending := by rw [service, MemoryService.pending_arm, taken.pending]
  session := by rw [service, MemoryService.session_arm, taken.session]
  armed q k := by rw [service, MemoryService.armed_arm, taken.armed]
  present q k own := by
    rw [own.1, ← taken.nodes]
    exact there
  keeps n hn := by
    rw [service, MemoryService.channel_arm]
    rcases taken.mem hn with kept | rfl
    · exact .inl kept
    · exact .inr ⟨p, kind, ⟨rfl, rfl⟩, rfl⟩
  tried q k own := by
    obtain ⟨rfl, rfl⟩ := own
    rw [Setting.lastTry, calls, lastTry_read]
  others q k other := by
    rw [Setting.lastTry, calls, lastTry_read_other other]
    exact taken.lastTry q k

theorem missed_of_taken (taken : Taken a (.watch p kind) b)
    (absent : b.service.alive = true → b.service.nodes.contains p = false)
    (service : c.service = b.service) (calls : c.calls = ⟨kind.read p, false⟩ :: b.calls) :
    Missed a c p kind where
  nodes := by rw [service, taken.nodes]
  alive := by rw [service, taken.alive]
  pending := by rw [service, taken.pending]
  session := by rw [service, taken.session]
  armed q k := by rw [service, taken.armed]
  absent alive := by
    rw [← taken.nodes]
    exact absent (taken.alive ▸ alive)
  keeps n hn := by
    rw [service]
    exact taken.mem hn
  tried := by rw [Setting.lastTry, calls, lastTry_read]
  others q k other := by
    rw [Setting.lastTry, calls, lastTry_read_other other]
    exact taken.lastTry q k

/-- Another watched read that was answered. -/
theorem Looked.arm (looked : Looked a b seen) (there : a.service.nodes.contains p = true)
    (service : c.service = b.service.arm p kind)
    (calls : c.calls = ⟨kind.read p, true⟩ :: b.calls) :
    Looked a c fun q k => seen q k ∨ q = p ∧ k = kind where
  nodes := by rw [service, MemoryService.nodes_arm, looked.nodes]
  alive := by rw [service, MemoryService.alive_arm, looked.alive]
  pending := by rw [service, MemoryService.pending_arm, looked.pending]
  session := by rw [service, MemoryService.session_arm, looked.session]
  armed q k := by rw [service, MemoryService.armed_arm, looked.armed, or_assoc]
  present q k hit := by
    rcases hit with hit | ⟨rfl, -⟩
    · exact looked.present q k hit
    · exact there
  keeps n hn := by
    rw [service, MemoryService.channel_arm]
    rcases looked.keeps n hn with kept | ⟨q, k, hit, hn⟩
    · exact .inl kept
    · exact .inr ⟨q, k, .inl hit, hn⟩
  tried q k hit := by
    by_cases own : q = p ∧ k = kind
    · obtain ⟨rfl, rfl⟩ := own
      rw [Setting.lastTry, calls, lastTry_read]
    · rw [Setting.lastTry, calls, lastTry_read_other own]
      exact looked.tried q k (hit.resolve_right own)
  others q k miss := by
    rw [not_or] at miss
    rw [Setting.lastTry, calls, lastTry_read_other miss.2]
    exact looked.others q k miss.1

/-- Another request that arms nothing. -/
theorem Looked.note (looked : Looked a b seen) {r : Request} {answered : Bool}
    (plain : r.isPlain = true) (service : c.service = b.service)
    (calls : c.calls = ⟨r, answered⟩ :: b.calls) : Looked a c seen where
  nodes := service ▸ looked.nodes
  alive := service ▸ looked.alive
  pending := service ▸ looked.pending
  session := service ▸ looked.session
  armed q k := service ▸ looked.armed q k
  present := looked.present
  keeps n hn := service ▸ looked.keeps n hn
  tried q k hit := by
    rw [Setting.lastTry, calls, lastTry_plain plain]
    exact looked.tried q k hit
  others q k miss := by
    rw [Setting.lastTry, calls, lastTry_plain plain]
    exact looked.others q k miss

theorem Looked.congr {seen' : Path → WatchKind → Prop} (looked : Looked a b seen)
    (same : ∀ q k, seen q k ↔ seen' q k) : Looked a b seen' := by
  have h : seen = seen' := funext fun q => funext fun k => propext (same q k)
  exact h ▸ looked

end Setting

variable {τ : Type} {audience : Audience (Backstage τ)} {a : Setting} {p : Path}

/-! ### Reading the new children -/

theorem readNew_looked {s : ChildSubscription} {seen : Path → WatchKind → Prop} {ns : List String}
    {w : World (Backstage τ)} (looked : Looked a w.setting seen) (alive : a.service.alive = true)
    (there : ∀ n ∈ ns, a.service.nodes.contains (p.child n) = true) :
    (readNew (memoryClient.facing audience) p s ns w).1.unreadable = [] ∧
      (∀ e ∈ (readNew (memoryClient.facing audience) p s ns w).1.found,
        (a.service.nodes.get? (p.child e.1)).map Node.data = some e.2) ∧
      Looked a (readNew (memoryClient.facing audience) p s ns w).2.setting fun q k =>
        seen q k ∨ s.watchesChildData = true ∧ k = .data ∧ ∃ n ∈ ns, q = p.child n := by
  induction ns generalizing w seen with
  | nil =>
    refine ⟨rfl, List.forall_mem_nil _, looked.congr fun q k => ?_⟩
    simp
  | cons n ns ih =>
    have same : w.outside.service.nodes = a.service.nodes := looked.nodes
    obtain ⟨node, here⟩ := Table.contains_eq_true.1 (there n List.mem_cons_self)
    have found : w.outside.service.nodes.get? (p.child n) = some node := same ▸ here
    have read : (a.service.nodes.get? (p.child n)).map Node.data = some node.data := by
      rw [here]
      rfl
    have living : w.outside.service.alive = true := looked.alive.trans alive
    have rest : ∀ m ∈ ns, a.service.nodes.contains (p.child m) = true :=
      fun m hm => there m (List.mem_cons_of_mem n hm)
    simp only [readNew, ask_readData_found audience w s.watchesChildData living found]
    by_cases watches : s.watchesChildData = true
    · simp only [watches, if_true]
      have armed : Looked a ((w.noting (w.outside.service.arm (p.child n) .data)
          (.readData (p.child n) true) true).update
            (·.addData (p.child n) s.listener (some s.id))).setting
          fun q k => seen q k ∨ q = p.child n ∧ k = .data :=
        looked.arm (there n List.mem_cons_self) rfl rfl
      obtain ⟨readable, reads, all⟩ := ih armed rest
      refine ⟨readable, List.forall_mem_cons.2 ⟨read, reads⟩, all.congr fun q k => ?_⟩
      simp only [watches, true_and, List.mem_cons, exists_eq_or_imp]
      tauto
    · simp only [watches]
      have noted : Looked a (w.noting w.outside.service (.readData (p.child n) false) true).setting
          seen := looked.note rfl rfl rfl
      obtain ⟨readable, reads, all⟩ := ih noted rest
      refine ⟨readable, List.forall_mem_cons.2 ⟨read, reads⟩, all.congr fun q k => ?_⟩
      simp [watches]

/-- The client leaves alone what is neither coordinator nor service. -/
theorem rest_framing : Routine.Framing (memoryClient.facing .silent)
    fun w w' : World (Backstage τ) => w'.outside.rest = w.outside.rest where
  refl _ := rfl
  trans h h' := h'.trans h
  isAlive _ := rfl
  ask _ _ _ := rfl
  aside _ _ _ _ := rfl
  hear _ _ _ := rfl
  hearState _ _ _ := rfl
  asks _ _ := rfl
  updates _ _ _ := rfl

theorem rest_readNew (audience : Audience (Backstage τ)) (p : Path) (s : ChildSubscription)
    (ns : List String) (w : World (Backstage τ)) :
    (readNew (memoryClient.facing audience) p s ns w).2.outside.rest = w.outside.rest := by
  rw [readNew_facing, ← readNew_facing memoryClient .silent]
  exact rest_framing.readNew p s ns w

/-! ### Passes -/

/-- A pass over a node that is there, in a session that is alive, sees all its children. -/
theorem childPass_found (audience : Audience (Backstage τ)) (delivery : Delivery)
    {s : ChildSubscription} {w : World (Backstage τ)}
    (taken : Taken a (.watch p .children) w.setting) (sane : a.service.Sane)
    (registered : w.coordinator.children.get? p = some s)
    (alive : w.outside.service.alive = true)
    (there : w.outside.service.nodes.contains p = true) :
    ∃ new, ∃ w' : World (Backstage τ), Passed a w'.setting w.coordinator p s delivery new ∧
      w'.outside.rest = w.outside.rest ∧ childPass (memoryClient.facing audience) p s delivery w =
        World.deliver (memoryClient.facing audience) delivery
          (s.createdReports p delivery new.found)
          (s.deletedReports
            ((ChildDiff.between s.known (a.service.childNames p)).deleted.map p.child)) w' := by
  have listed := ask_listChildren_found audience w true alive there
  rw [if_pos rfl] at listed
  have names : w.outside.service.childNames p = a.service.childNames p := by
    rw [MemoryService.childNames, MemoryService.childNames,
      show w.outside.service.nodes = a.service.nodes from taken.nodes]
  rw [names] at listed
  have looked := looked_of_taken taken there
    (c := (w.noting (w.outside.service.arm p .children) (.listChildren p true) true).setting)
    rfl rfl
  have living : a.service.alive = true := by
    rw [← taken.alive]
    exact alive
  have present : ∀ n ∈ (ChildDiff.between s.known (a.service.childNames p)).created,
      a.service.nodes.contains (p.child n) = true :=
    fun n hn => (sane.mem_childNames_iff.1 (ChildDiff.mem_created.1 hn).1).1
  rw [childPass_listed (memoryClient_orderly.facing audience) p s delivery listed]
  obtain ⟨readable, read, reads⟩ := readNew_looked looked living present
  refine ⟨_, _, ⟨registered, living, ?_, readable, ?_, rfl, read⟩, ?_, rfl⟩
  · exact readNew_covers (memoryClient_orderly.facing audience) p s (ChildDiff.created_nodup _ _) _
  · exact ⟨reads.nodes, reads.alive, reads.pending, reads.session, reads.armed, reads.present,
      reads.keeps, reads.tried, reads.others⟩
  · exact rest_readNew audience p s _ (w.noting _ (.listChildren p true) true)

theorem childPass_missed (audience : Audience (Backstage τ)) (delivery : Delivery)
    {s : ChildSubscription} {w : World (Backstage τ)}
    (taken : Taken a (.watch p .children) w.setting)
    (absent : w.outside.service.alive = true → w.outside.service.nodes.contains p = false) :
    ∃ e, ∃ w' : World (Backstage τ), Missed a w'.setting p .children ∧
      w'.coordinator = w.coordinator ∧
      childPass (memoryClient.facing audience) p s delivery w = (.error (.failed e), w') := by
  have missed := missed_of_taken taken absent
    (c := (w.noting w.outside.service (.listChildren p true) false).setting) rfl rfl
  obtain ⟨e, -, refused⟩ := ask_read_refused audience w .children absent
  simp only [WatchKind.read] at refused
  refine ⟨e.during "get_children" p, _, missed, rfl, ?_⟩
  rw [childPass, refused]
  rfl

theorem there_or_absent (w : World (Backstage τ)) (p : Path) :
    (w.outside.service.alive = true ∧ w.outside.service.nodes.contains p = true) ∨
      (w.outside.service.alive = true → w.outside.service.nodes.contains p = false) := by
  cases w.outside.service.alive <;> cases w.outside.service.nodes.contains p <;> simp

section passes

variable {w : World (Backstage τ)}

theorem submitted_upkeep {a b : Setting} (sane : a.service.Sane) (rs : List Report)
    (coordinator : b.coordinator = a.coordinator.submitAll rs) (service : b.service = a.service)
    (calls : b.calls = a.calls) : Upkeep a b := by
  have beside : a.coordinator.Beside b.coordinator := by
    rw [coordinator]
    exact beside_submitAll a.coordinator rs
  have edited : a.service.Edited b.service := by
    rw [service]
    exact .refl sane
  have grown : a.service.Grown b.service := by
    rw [service]
    exact .refl a.service
  refine .aside beside ?_ edited grown fun q k => by rw [Setting.lastTry, Setting.lastTry, calls]
  rw [coordinator, stubborn_submitAll]

theorem tried_of_unsubscribed {kind : WatchKind} (none : a.subscribed p kind = false) :
    Tried p kind a := by
  intro subscribed
  rw [none] at subscribed
  cases subscribed

theorem tried_of_some {kind : WatchKind} {answered : Bool}
    (last : a.lastTry p kind = some answered) : Tried p kind a := by
  intro _
  rw [last]
  exact Option.some_ne_none answered

theorem ok_orderly (reason : String) : (.ok () : Except Stop Unit) ≠ .error (.crashed reason) := by
  simp

theorem failed_orderly (e : Error) (reason : String) :
    (.error (.failed e) : Except Stop Unit) ≠ .error (.crashed reason) := by
  simp

/-- A pass over data keeps subscriptions up. It fails only in a session that is not alive. -/
theorem dataChange_upkeep (audience : Audience (Backstage τ))
    (taken : Taken a (.watch p .data) w.setting)
    (same : w.coordinator = a.coordinator) (sane : a.service.Sane) :
    ∃ result, ∃ w' : World (Backstage τ),
      dataChange (memoryClient.facing audience) p w = (result, w') ∧
      Relation.ReflTransGen Upkeep a w'.setting ∧ Tried p .data w'.setting ∧
      (w.outside.service.alive = true → result = .ok ()) ∧
      ∀ reason, result ≠ .error (.crashed reason) := by
  unfold dataChange
  cases registered : w.coordinator.data.get? p with
  | none =>
    have unsubscribed : a.subscribed p .data = false := by
      rw [Setting.subscribed, ← same]
      exact Table.contains_eq_false.2 registered
    refine ⟨_, w, rfl, .single (.unclaimed taken same ?_), ?_, fun _ => rfl, ok_orderly⟩
    · rintro q k h
      cases h
      exact unsubscribed
    · exact tried_of_unsubscribed (Table.contains_eq_false.2 registered)
  | some e =>
    have was : a.coordinator.data.get? p = some e := same ▸ registered
    dsimp only
    rcases there_or_absent w p with ⟨alive, there⟩ | absent
    · obtain ⟨node, found⟩ := Table.contains_eq_true.1 there
      have looked := looked_of_taken taken there
        (c := ((w.noting (w.outside.service.arm p .data) (.readData p true) true).update
          (·.record [e.report ⟨p, .dataChanged node.data⟩])).setting) rfl rfl
      rw [ask_readData_found audience w true alive found]
      refine ⟨_, _, rfl, ?_, ?_, fun _ => rfl, ok_orderly⟩
      · have read : (a.service.nodes.get? p).map Node.data = some node.data := by
          rw [← taken.nodes, show w.setting.service.nodes.get? p = some node from found]
          rfl
        have reread : Upkeep a _ :=
          .reread node.data was looked (by rw [← same]; rfl) read
        exact (Relation.ReflTransGen.single reread).tail
          (submitted_upkeep (looked.sane sane) [_] rfl rfl rfl)
      · exact tried_of_some (looked.tried p .data ⟨rfl, rfl⟩)
    · have missed := missed_of_taken taken absent
        (c := (w.noting w.outside.service (.readData p true) false).setting) rfl rfl
      have unread (waits : w.outside.service.alive = true → e.owner? ≠ none) :
          Upkeep a (w.noting w.outside.service (.readData p true) false).setting := by
        refine .unread missed same fun alive _ e' he' => ?_
        rw [was] at he'
        cases he'
        exact waits (taken.alive.trans alive)
      obtain ⟨cause, notFound, refused⟩ := ask_read_refused audience w .data absent
      simp only [WatchKind.read] at refused
      rw [refused]
      cases living : w.outside.service.alive with
      | false =>
        have lost : (Stop.failed cause).isNotFound = false := notFound.trans living
        simp only [lost, Bool.not_false, if_true]
        refine ⟨_, _, rfl, .single (unread fun alive => ?_), tried_of_some missed.tried,
          fun alive => ?_, failed_orderly _⟩
        · rw [living] at alive
          cases alive
        · cases alive
      | true =>
        have gone : (Stop.failed cause).isNotFound = true := notFound.trans living
        simp only [gone, Bool.not_true, Bool.false_eq_true, if_false]
        by_cases managed : e.parentManaged = true
        · rw [if_pos managed]
          have owned : e.owner? ≠ none := by
            simpa [DataSubscription.parentManaged, Option.isSome_iff_ne_none] using managed
          exact ⟨_, _, rfl, .single (unread fun _ => owned), tried_of_some missed.tried,
            fun _ => rfl, ok_orderly⟩
        · rw [if_neg managed]
          have plain : e.owner? = none := by simpa [DataSubscription.parentManaged] using managed
          have ended : Upkeep a _ := .ended was plain
            (missed_of_taken taken absent
              (c := ((w.noting w.outside.service (.readData p true) false).update
                fun c => (c.removeData p).record [e.report ⟨p, .deleted⟩]).setting) rfl rfl)
            (by rw [← same]; rfl)
          refine ⟨_, _, rfl, (Relation.ReflTransGen.single ended).tail ?_,
            tried_of_some missed.tried, fun _ => rfl, ok_orderly⟩
          refine submitted_upkeep (missed.sane sane) [e.report ⟨p, .deleted⟩] ?_ rfl rfl
          change (w.coordinator.removeDataIf p e.id).dispatch (e.report ⟨p, .deleted⟩) = _
          rw [removeDataIf_of_get? registered]
          rfl

/-- A pass of a worker over a child list keeps subscriptions up. It fails only if there is no such
node, or the session is not alive. -/
theorem childChange_upkeep (audience : Audience (Backstage τ))
    (taken : Taken a (.watch p .children) w.setting)
    (same : w.coordinator = a.coordinator) (sane : a.service.Sane) :
    ∃ result, ∃ w' : World (Backstage τ),
      childChange (memoryClient.facing audience) p .dispatched w = (result, w') ∧
      Relation.ReflTransGen Upkeep a w'.setting ∧ Tried p .children w'.setting ∧
      ∀ reason, result ≠ .error (.crashed reason) := by
  unfold childChange
  cases registered : w.coordinator.children.get? p with
  | none =>
    have unsubscribed : a.subscribed p .children = false := by
      rw [Setting.subscribed, ← same]
      exact Table.contains_eq_false.2 registered
    refine ⟨_, w, rfl, .single (.unclaimed taken same ?_), ?_, ok_orderly⟩
    · rintro q k h
      cases h
      exact unsubscribed
    · exact tried_of_unsubscribed (Table.contains_eq_false.2 registered)
  | some s =>
    dsimp only
    rcases there_or_absent w p with ⟨alive, there⟩ | absent
    · obtain ⟨new, w₁, passed, -, hpass⟩ :=
        childPass_found audience .dispatched taken sane registered alive there
      rw [hpass]
      rw [same] at passed
      have tried := passed.looked.tried p .children (.inl ⟨rfl, rfl⟩)
      have submitted (rs : List Report) :
          Upkeep w₁.setting (w₁.update (·.submitAll rs)).setting :=
        submitted_upkeep (passed.looked.sane sane) rs rfl rfl rfl
      exact ⟨_, _, rfl, (Relation.ReflTransGen.single (.pass passed)).tail (submitted _),
        tried_of_some tried, ok_orderly⟩
    · obtain ⟨e, w', missed, still, hpass⟩ := childPass_missed audience .dispatched taken absent
      rw [hpass]
      refine ⟨_, _, rfl, .single (.unread missed (still.trans same) fun _ h => ?_),
        tried_of_some missed.tried, failed_orderly _⟩
      cases h

end passes

end DurableWatch
