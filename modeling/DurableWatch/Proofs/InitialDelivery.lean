import DurableWatch.Proofs.Convergence
import DurableWatch.Proofs.PassOutcome

/-!
# The first pass of a child subscription

To subscribe to the children of a node is to be told of all of them at once: when `listen` returns,
the listener has heard of each child, in the order of their names. The first pass starts from no
known child, so what an earlier subscription at the same node knew does not matter.
-/
namespace DurableWatch

open World Coordinator Setting

variable {τ : Type} {audience : Audience (Backstage τ)} {l : Listener} {heard : τ → List Event}

/-- The listener writes down what it hears, and does nothing else. A call may fail, but none
crashes. -/
structure Audience.Records (audience : Audience (Backstage τ)) (l : Listener)
    (heard : τ → List Event) : Prop where
  ne_crashed : ∀ event w reason, (audience.hear l event w).1 ≠ .crashed reason
  setting : ∀ event w, (audience.hear l event w).2.setting = w.setting
  heard : ∀ event w,
    heard (audience.hear l event w).2.outside.rest = heard w.outside.rest ++ [event]

/-- A listener that writes down every event and fails each time. -/
def writing : Audience (Backstage (List Event)) where
  hear _ event w :=
    (.failed, { w with outside := { w.outside with rest := w.outside.rest ++ [event] } })
  hearState _ _ w := (.fine, w)

theorem writing_records (l : Listener) : writing.Records l id where
  ne_crashed _ _ _ := nofun
  setting _ _ := rfl
  heard _ _ := rfl

theorem writing_tame (rule : Rule) : Tame memoryClient (MemoryStep rule) writing :=
  .nested .silent (fun _ event w => .single (.elsewhere w (w.outside.rest ++ [event])))
    fun _ _ _ => .refl

/-- Who only writes down is told all reports, whichever of the calls fail. -/
theorem tellAll_recorded (records : audience.Records l heard) {rs : List Report}
    (own : ∀ r ∈ rs, r.listener = l) (w : World (Backstage τ)) :
    ∃ w', tellAll (memoryClient.facing audience) rs w = (.ok (), w') ∧ w'.setting = w.setting ∧
      heard w'.outside.rest = heard w.outside.rest ++ rs.map (·.event) := by
  induction rs generalizing w with
  | nil => exact ⟨w, rfl, rfl, by simp⟩
  | cons r rs ih =>
    obtain ⟨first, rest⟩ := List.forall_mem_cons.1 own
    obtain ⟨w', told, same, all⟩ := ih rest (audience.hear l r.event w).2
    have hear : tellInline (memoryClient.facing audience) r w = audience.hear l r.event w := by
      rw [← first]
      rfl
    refine ⟨w', ?_, same.trans (records.setting r.event w), ?_⟩
    · unfold tellAll
      rw [hear]
      split
      · next reason _ crash =>
        exact absurd (congrArg Prod.fst crash) (records.ne_crashed r.event w reason)
      · next w₁ _ went =>
        have left : (audience.hear l r.event w).2 = w₁ := congrArg Prod.snd went
        rw [← left]
        exact told
    · rw [all, records.heard, List.map_cons, List.append_assoc, List.singleton_append]

/-! ### The children that are told -/

/-- What is told are the children of `p` and their data, each child once. -/
structure MemoryService.Lists (s : MemoryService) (p : Path) (told : List (String × Data)) :
    Prop where
  ascending : (told.map Prod.fst).Pairwise (· < ·)
  complete : ∀ (q : Path) (d : Data), (∃ n, (n, d) ∈ told ∧ q = p.child n) ↔
    q.parent? = some p ∧ (s.nodes.get? q).map Node.data = some d

namespace Setting

variable {a b : Setting} {c : Coordinator} {p : Path} {s : ChildSubscription} {delivery : Delivery}
  {new : NewChildren}

/-- A pass that starts from no known child finds all that the service lists. -/
theorem Passed.names_found (passed : Passed a b c p s delivery new) (sane : a.service.Sane)
    (unknown : s.known = ∅) : new.found.map Prod.fst = a.service.childNames p := by
  have distinct : (a.service.childNames p).Nodup :=
    (sane.childNames_pairwise p).imp fun less => ne_of_lt less
  have all : (ChildDiff.between s.known (a.service.childNames p)).created =
      a.service.childNames p :=
    ChildDiff.newNames_of_new distinct fun n _ => by rw [unknown]; rfl
  rw [passed.covers.found, passed.readable, all]
  simp

theorem Passed.lists (passed : Passed a b c p s delivery new) (sane : a.service.Sane)
    (unknown : s.known = ∅) : a.service.Lists p new.found where
  ascending := by
    rw [passed.names_found sane unknown]
    exact sane.childNames_pairwise p
  complete q d := by
    constructor
    · rintro ⟨n, found, rfl⟩
      have listed : n ∈ a.service.childNames p := by
        rw [← passed.names_found sane unknown]
        exact List.mem_map_of_mem found
      exact ⟨(sane.mem_childNames_iff.1 listed).2.parent, passed.read _ found⟩
    · rintro ⟨parent, read⟩
      obtain ⟨node, there, -⟩ := Option.map_eq_some_iff.1 read
      have isPath := sane.paths q (Table.contains_of_get? there)
      have listed : q.name ∈ new.found.map Prod.fst := by
        rw [passed.names_found sane unknown]
        exact MemoryService.mem_childNames.2 ⟨q, Table.contains_of_get? there, parent, rfl⟩
      have whole : p.child q.name = q := Path.child_name_of_parent? isPath parent
      obtain ⟨⟨n, d'⟩, found, hn⟩ := List.mem_map.1 listed
      obtain rfl : n = q.name := hn
      have readAgain := passed.read _ found
      rw [whole, read] at readAgain
      obtain rfl : d = d' := Option.some.inj readAgain
      exact ⟨q.name, found, whole.symm⟩

end Setting

namespace World

/-- What a new child subscription at `p` leaves behind, when it has been told of these children. -/
structure Begun (w w' : World (Backstage τ)) (p : Path) (l : Listener) (childData : Bool)
    (told : List (String × Data)) : Prop where
  nodes : w'.outside.service.nodes = w.outside.service.nodes
  /-- Nothing is left to a worker. -/
  dispatcher : w'.coordinator.dispatcher = w.coordinator.dispatcher
  registered : ∃ known, w'.coordinator.children.get? p =
      some ⟨w.coordinator.nextId, l, childData, known⟩ ∧ known.keys = told.map Prod.fst
  armed : w'.outside.service.armed p .children = true
  watched : childData = true → ∀ n ∈ told.map Prod.fst,
    (∃ id, w'.coordinator.data.get? (p.child n) = some ⟨id, l, some w.coordinator.nextId⟩) ∧
      w'.outside.service.armed (p.child n) .data = true
  /-- Of data, whatever is subscribed to or watched was so before. -/
  unwatched : childData = false →
    (∀ q e, w'.coordinator.data.get? q = some e → w.coordinator.data.get? q = some e) ∧
      ∀ q, w'.outside.service.armed q .data = true → w.outside.service.armed q .data = true

variable {p : Path} {childData : Bool} {new : NewChildren} {w w' : World (Backstage τ)}

theorem begun_of_passed (sane : w.outside.service.Sane)
    (passed : Passed w.setting w'.setting (w.coordinator.addChildren p l childData) p
      (w.coordinator.freshChildren l childData) .inline new) :
    Begun w w' p l childData new.found := by
  have names : new.found.map Prod.fst = w.outside.service.childNames p :=
    passed.names_found sane rfl
  have unknown (n : String) : (w.coordinator.freshChildren l childData).known.contains n = false :=
    rfl
  refine
    { nodes := passed.looked.nodes
      dispatcher := ?_
      registered := ?_
      armed := (passed.looked.armed p .children).2 (.inr (.inl ⟨rfl, rfl⟩))
      watched := fun watches n told => ⟨?_, ?_⟩
      unwatched := fun plain => ⟨fun q e found => ?_, fun q armed => ?_⟩ }
  · rw [show w'.coordinator = _ from passed.coordinator]
    exact congrArg (fun rest => rest.2.2.1) (aside_absorb _ p _ .inline _ new)
  · have there := passed.children p
    rw [if_pos rfl] at there
    refine ⟨_, there, ?_⟩
    rw [names]
    refine (Table.keys_pairwise _).eq_of_mem_iff (sane.childNames_pairwise p) fun n => ?_
    rw [Table.mem_keys]
    exact passed.known n
  · rw [names] at told
    rcases passed.entry (p.child n) with
      ⟨-, -, id, -, entered⟩ | ⟨-, ⟨m, known, -⟩, -⟩ | ⟨-, kept⟩
    · exact ⟨id, entered⟩
    · rw [unknown m] at known
      cases known
    · have known := (kept watches n rfl).2 told
      rw [unknown n] at known
      cases known
  · rw [names] at told
    exact (passed.looked.armed (p.child n) .data).2
      (.inr (.inr ⟨watches, rfl, n, ChildDiff.mem_created.2 ⟨told, unknown n⟩, rfl⟩))
  · rcases passed.entry q with ⟨watches, -⟩ | ⟨watches, -⟩ | ⟨same, -⟩
    · cases plain.symm.trans watches
    · cases plain.symm.trans watches
    · rw [show w'.coordinator.data.get? q = w.coordinator.data.get? q from same] at found
      exact found
  · rcases (passed.looked.armed q .data).1 armed with before | ⟨-, other⟩ | ⟨watches, -⟩
    · exact before
    · cases other
    · cases plain.symm.trans watches

/-- What the listener does leaves behind what the pass has. -/
theorem Begun.of_setting {w'' : World (Backstage τ)} {told : List (String × Data)}
    (begun : Begun w w' p l childData told) (same : w''.setting = w'.setting) :
    Begun w w'' p l childData told := by
  have coordinator : w''.coordinator = w'.coordinator := congrArg Setting.coordinator same
  have service : w''.outside.service = w'.outside.service := congrArg Setting.service same
  exact
    { nodes := service ▸ begun.nodes
      dispatcher := coordinator ▸ begun.dispatcher
      registered := coordinator ▸ begun.registered
      armed := service ▸ begun.armed
      watched := coordinator ▸ service ▸ begun.watched
      unwatched := coordinator ▸ service ▸ begun.unwatched }

/-- To register is to be told, and to have the subscription. -/
theorem register_children_told (records : audience.Records l heard)
    (sane : w.outside.service.Sane) (alive : w.outside.service.alive = true)
    (there : w.outside.service.nodes.contains p = true) (childData : Bool) :
    ∃ told w', register (memoryClient.facing audience) p l (.children childData) w = (.ok (), w') ∧
      heard w'.outside.rest =
        heard w.outside.rest ++ told.map (fun e => ⟨p.child e.1, .created e.2⟩) ∧
      w.outside.service.Lists p told ∧ Begun w w' p l childData told := by
  obtain ⟨new, w₁, passed, rest, registering⟩ :=
    register_children_found audience l childData sane alive there
  have own : ∀ r ∈ (w.coordinator.freshChildren l childData).createdReports p .inline new.found,
      r.listener = l := by
    intro r hr
    obtain ⟨e, -, rfl⟩ := List.mem_map.1 hr
    rfl
  obtain ⟨w₂, told, same, all⟩ := tellAll_recorded records own w₁
  have begun : Begun w w₁ p l childData new.found := begun_of_passed sane passed
  refine ⟨new.found, w₂, ?_, ?_, passed.lists sane rfl, begun.of_setting same⟩
  · rw [registering, deliver, told]
    rfl
  · rw [all, rest, ChildSubscription.createdReports, List.map_map]
    rfl

/-- Whoever subscribes to the children of a node in a session that is alive has been told of all of
them when the call returns. -/
theorem children_told_on_subscription
    (tame : Tame memoryClient (MemoryStep .any) audience) {w₀ w : World (Backstage τ)}
    (isNew : w₀.IsNew)
    (run : Relation.ReflTransGen (MemoryStep .any (memoryClient.facing audience)) w₀ w)
    (alive : w.outside.service.alive = true) {p : Path}
    (there : w.outside.service.nodes.contains p = true) (records : audience.Records l heard)
    {children childData : Bool} (wanted : (children || childData) = true) :
    ∃ told w', listen (memoryClient.facing audience) p l (.ofFlags children childData) w =
        (.ok (), w') ∧
      heard w'.outside.rest =
        heard w.outside.rest ++ told.map (fun e => ⟨p.child e.1, .created e.2⟩) ∧
      w.outside.service.Lists p told ∧ Begun w w' p l childData told := by
  have sane : w.outside.service.Sane :=
    (memory_run_turns (memory_tame_routine tame) run isNew.sane).1
  rw [Flavour.ofFlags, if_pos wanted, listen_of_there audience l _ alive there]
  -- to ask whether the node is there leaves no trace but in the list of requests
  obtain ⟨told, w', done, all, lists, nodes, dispatcher, registered, armed, watched, unwatched⟩ :=
    register_children_told (w := w.noting w.outside.service (.existence p) true) records sane alive
      there childData
  exact ⟨told, w', done, all, lists, nodes, dispatcher, registered, armed, watched, unwatched⟩

/-- A child that the first listener knows is among those that the second one is told of. -/
theorem known_child_told_again :
    let start : World (Backstage (List Event)) := ⟨.new (.ofSize 1) false, ⟨.new, [], []⟩⟩
    let host := memoryClient.facing writing
    let w := (((start.changed (.create "/a" .empty)).changed (.create "/a/c" .empty)).perform host
      (.listen "/a" "old" (.children false))).changed (.create "/a/b" .empty)
    let again := listen host "/a" "new" (.ofFlags false true) w
    w.outside.service.alive = true ∧ w.outside.service.nodes.contains "/a" = true ∧
      w.outside.rest = [⟨"/a/c", .created .empty⟩] ∧ again.1 = .ok () ∧
      again.2.outside.rest =
        w.outside.rest ++ [⟨"/a/b", .created .empty⟩, ⟨"/a/c", .created .empty⟩] ∧
      ∃ told, w.outside.service.Lists "/a" told ∧ Begun w again.2 "/a" "new" true told := by
  intro start host w again
  have isNew : start.IsNew := ⟨⟨_, _, rfl⟩, rfl, rfl⟩
  have run : Relation.ReflTransGen (MemoryStep .any host) start w :=
    .head (.change _ _) (.head (.change _ _) (.head (.command _ _ trivial)
      (.single (.change _ _))))
  have alive : w.outside.service.alive = true := by decide
  have there : w.outside.service.nodes.contains "/a" = true := by decide
  have wanted : (false || true) = true := rfl
  obtain ⟨told, w', done, -, lists, begun⟩ := children_told_on_subscription (writing_tame .any)
    isNew run alive there (writing_records "new") wanted
  have after : again = (.ok (), w') := done
  exact ⟨alive, there, by decide, congrArg Prod.fst after, by decide, told, lists, after ▸ begun⟩

/-- A child may have a data subscription of its own, whether the data of children is wanted or not.
-/
theorem own_data_subscription_of_child :
    let w := blank.play [.change (.create "/a" .empty), .change (.create "/a/c" .empty),
      .command (.listen "/a/c" "own" .data)]
    let withData := false
    let done := listen (memoryClient.facing .silent) "/a" "l" (.ofFlags true withData) w
    w.outside.service.alive = true ∧ w.outside.service.nodes.contains "/a" = true ∧
      done.1 = .ok () ∧ done.2.outside.service.childNames "/a" = ["c"] ∧
      ¬(withData = true ↔ ∀ n ∈ done.2.outside.service.childNames "/a",
        done.2.coordinator.data.contains (Path.child "/a" n) = true ∧
          done.2.outside.service.armed (Path.child "/a" n) .data = true) := by
  decide

end World

end DurableWatch
