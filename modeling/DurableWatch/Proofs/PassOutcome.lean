import DurableWatch.Proofs.Dialogue

/-!
# The outcome of one pass

A pass over a child list reads every new name once. Whatever comes of these readings, the outcome is
determined: which names are known afterwards, which data subscriptions come and go, and which events
are produced, in which order and on which way.
-/
namespace DurableWatch

open World

/-- The new names are those not known, each at its first appearance. -/
theorem ChildDiff.newNames_eq_eraseDups (known : TextSet) (names : List String) :
    newNames known names = (names.filter fun n => !known.contains n).eraseDups := by
  induction names generalizing known with
  | nil => rfl
  | cons m ms ih =>
    by_cases hm : known.contains m = true
    · rw [newNames, if_pos hm, ih, List.filter_cons_of_neg (by simp [hm])]
    · have rest : (ms.filter fun n => !(TextSet.insert known m).contains n) =
          (ms.filter fun n => !known.contains n).filter fun n => !n == m := by
        rw [List.filter_filter]
        exact List.filter_congr fun n _ => by
          simp [TextSet.contains_insert, Bool.beq_eq_decide_eq]
      rw [newNames, if_neg hm, ih, List.filter_cons_of_pos (by simp [hm]), List.eraseDups_cons,
        rest]

/-- The names that a pass reads, if this is what it finds listed. -/
def ChildSubscription.toRead (s : ChildSubscription) (snapshot : List String) : List String :=
  (snapshot.filter fun n => !s.known.contains n).eraseDups

theorem ChildSubscription.created_between (s : ChildSubscription) (snapshot : List String) :
    (ChildDiff.between s.known snapshot).created = s.toRead snapshot :=
  ChildDiff.newNames_eq_eraseDups s.known snapshot

theorem ChildSubscription.mem_toRead {s : ChildSubscription} {snapshot : List String} {n : String} :
    n ∈ s.toRead snapshot ↔ n ∈ snapshot ∧ s.known.contains n = false := by
  rw [← created_between]
  exact ChildDiff.mem_created

/-- What is said of the children that could be read. -/
theorem ChildSubscription.createdReports_ofAnswers (s : ChildSubscription) (p : Path)
    (delivery : Delivery) (answers : String → Except Error Data) (names : List String) :
    s.createdReports p delivery (NewChildren.ofAnswers answers names).found =
      names.filterMap fun n => (answers n).toOption.map fun d =>
        s.report delivery ⟨p.child n, .created d⟩ := by
  simp [createdReports, NewChildren.ofAnswers, List.map_filterMap, Function.comp_def]

theorem ChildSubscription.deletedReports_children (s : ChildSubscription) (p : Path)
    (names : List String) :
    s.deletedReports (names.map p.child) =
      names.map fun n => s.report .dispatched ⟨p.child n, .deleted⟩ := by
  simp [deletedReports]

namespace Coordinator

/-- All that is neither a pool of subscriptions nor about them. -/
def aside (c : Coordinator) : Table Data × StateListeners × Dispatcher × Bool :=
  (c.stubborn, c.states, c.dispatcher, c.failFast)

theorem aside_absorb (c : Coordinator) (p : Path) (s : ChildSubscription) (delivery : Delivery)
    (diff : ChildDiff) (new : NewChildren) : (c.absorb p s delivery diff new).aside = c.aside := by
  have added : (c.addFound p s new.found).aside = c.aside :=
    addFound_of_step c p s new.found aside fun _ _ _ _ => rfl
  have settled (c : Coordinator) (known : TextSet) : (c.settle p s known).aside = c.aside := by
    unfold settle
    split <;> rfl
  have removed (c : Coordinator) (qs : List Path) : (c.removeDataAll qs).aside = c.aside :=
    removeDataAll_of_step aside (fun _ _ => rfl) c qs
  have recorded (c : Coordinator) (rs : List Report) : (c.record rs).aside = c.aside := rfl
  unfold absorb
  dsimp only
  split
  · rw [recorded, removed, settled, added]
  · rw [recorded, settled, added]

/-- The registries after a pass of `s` over `p` that was answered `snapshot`. The names in `created`
are new, and those of them that could be read have data for an answer; those in `gone` are known
and not listed. -/
structure Revised (c c' : Coordinator) (p : Path) (s : ChildSubscription) (snapshot : List String)
    (answers : String → Except Error Data) (created gone : List String) : Prop where
  children : ∃ known, c'.children = c.children.insert p { s with known := known } ∧
    ∀ n, known.contains n = true ↔
      n ∈ snapshot ∧ (s.known.contains n = true ∨ ∃ d, answers n = .ok d)
  entered : s.watchesChildData = true → ∀ n ∈ created, ∀ d, answers n = .ok d →
    ∃ id, c.nextId ≤ id ∧ c'.data.get? (p.child n) = some ⟨id, s.listener, some s.id⟩
  left : s.watchesChildData = true → ∀ n ∈ gone, c'.data.get? (p.child n) = none
  kept : ∀ q, (s.watchesChildData = true → ∀ n, q = p.child n →
      n ∉ gone ∧ (n ∈ created → ∀ d, answers n ≠ .ok d)) → c'.data.get? q = c.data.get? q
  aside : c'.aside = c.aside

theorem revised_absorb {c : Coordinator} {p : Path} {s : ChildSubscription}
    (registered : c.children.get? p = some s) (delivery : Delivery) (snapshot : List String)
    (answers : String → Except Error Data) :
    let diff := ChildDiff.between s.known snapshot
    c.Revised (c.absorb p s delivery diff (.ofAnswers answers diff.created)) p s snapshot answers
      diff.created diff.deleted := by
  intro diff
  have foundAt (n : String) (d : Data) :
      (n, d) ∈ (NewChildren.ofAnswers answers diff.created).found ↔
        n ∈ diff.created ∧ answers n = .ok d := NewChildren.mem_found
  have goneAt (n : String) : p.child n ∈ diff.deleted.map p.child ↔ n ∈ diff.deleted :=
    List.mem_map_of_injective (Path.child_injective p)
  have added := data_addFound c p s (NewChildren.ofAnswers answers diff.created).found
  refine ⟨⟨knownAfter s.known diff (.ofAnswers answers diff.created), ?_, fun n => ?_⟩, ?_, ?_, ?_,
    aside_absorb c p s delivery diff _⟩
  · refine Table.ext_get? fun q => ?_
    rw [children_absorb registered, Table.get?_insert]
  · rw [contains_knownAfter, NewChildren.mem_unreadable, ChildDiff.mem_created]
    refine and_congr_right fun listed => ?_
    rw [← Bool.not_eq_true, not_and_or, not_forall]
    simp [listed]
  · intro watches n new d answer
    have present : n ∉ diff.deleted := fun gone => by
      have known := (ChildDiff.mem_deleted.1 gone).1
      rw [(ChildDiff.mem_created.1 new).2] at known
      cases known
    rw [data_absorb, if_neg (by simp [goneAt, present])]
    rcases added (p.child n) with ⟨-, absent⟩ | ⟨-, -, id, isNew, -, there⟩
    · exact absurd rfl (absent watches (n, d) ((foundAt n d).2 ⟨new, answer⟩))
    · exact ⟨id, isNew, there⟩
  · intro watches n gone
    rw [data_absorb, if_pos ⟨watches, (goneAt n).2 gone⟩]
  · intro q spared
    rw [data_absorb, if_neg]
    · rcases added q with ⟨same, -⟩ | ⟨watches, ⟨⟨n, d⟩, found, hq⟩, -⟩
      · exact same
      · obtain ⟨new, answer⟩ := (foundAt n d).1 found
        exact absurd answer ((spared watches n hq).2 new d)
    · rintro ⟨watches, gone⟩
      obtain ⟨n, hn, hq⟩ := List.mem_map.1 gone
      exact (spared watches n hq.symm).1 hn

/-- A new name that could not be read is read again by the next pass that finds it listed. -/
theorem Revised.read_again {c c' : Coordinator} {p : Path} {s s' : ChildSubscription}
    {snapshot snapshot' : List String} {answers : String → Except Error Data} {gone : List String}
    (revised : c.Revised c' p s snapshot answers (s.toRead snapshot) gone) {n : String}
    (new : n ∈ s.toRead snapshot) (unread : ∀ d, answers n ≠ .ok d)
    (there : c'.children.get? p = some s') (listed : n ∈ snapshot') : n ∈ s'.toRead snapshot' := by
  obtain ⟨known, children, contains⟩ := revised.children
  obtain rfl : { s with known := known } = s' := by simpa [children] using there
  refine ChildSubscription.mem_toRead.2 ⟨listed, Bool.eq_false_iff.2 fun kept => ?_⟩
  rcases ((contains n).1 kept).2 with old | ⟨d, read⟩
  · rw [(ChildSubscription.mem_toRead.1 new).2] at old
    cases old
  · exact unread d read

end Coordinator

variable {σ : Type}

/-- Listeners that neither crash nor change the coordinator. -/
structure Audience.Calm (audience : Audience σ) : Prop where
  hear_coordinator : ∀ l event w, (audience.hear l event w).2.coordinator = w.coordinator
  hear_ne_crashed : ∀ l event w reason, (audience.hear l event w).1 ≠ .crashed reason

theorem World.tellAll_calm {audience : Audience σ} (calm : audience.Calm) (host : Host σ)
    (rs : List Report) (w : World σ) :
    ∃ w', tellAll (host.facing audience) rs w = (.ok (), w') ∧ w'.coordinator = w.coordinator := by
  induction rs generalizing w with
  | nil => exact ⟨w, rfl, rfl⟩
  | cons r rs ih =>
    obtain ⟨w', told, kept⟩ := ih (audience.hear r.listener r.event w).2
    refine ⟨w', ?_, kept.trans (calm.hear_coordinator r.listener r.event w)⟩
    unfold tellAll
    split
    · next reason _ heard =>
      exact absurd (congrArg Prod.fst heard) (calm.hear_ne_crashed r.listener r.event w reason)
    · next w₁ _ heard =>
      have left : (audience.hear r.listener r.event w).2 = w₁ := congrArg Prod.snd heard
      rw [← left]
      exact told

/-- The outcome of a pass whose list is answered. In the world `w₁` the registries are revised and
the events produced; what follows is their delivery. -/
theorem World.pass_outcome (client : Client σ) (audience : Audience (Dialogue σ)) {p : Path}
    {s : ChildSubscription} {w : World (Dialogue σ)}
    (registered : w.coordinator.children.get? p = some s) (initial : Bool)
    {snapshot : List String} {state : σ}
    (listed : client.ask (.listChildren p true) w.outside.client = (.ok snapshot, state)) :
    let host := client.host.facing audience
    let pass := childChange host p (.forPass initial) w
    let created := s.toRead snapshot
    ∃ (answers : String → Except Error Data) (gone : List String) (w₁ : World (Dialogue σ)),
      let told := created.filterMap fun n => (answers n).toOption.map fun d =>
        s.report (.forPass initial) ⟨p.child n, .created d⟩
      let ended := gone.map fun n => s.report .dispatched ⟨p.child n, .deleted⟩
      (created.Nodup ∧ gone.Pairwise (· < ·) ∧
        ∀ n, n ∈ gone ↔ s.known.contains n = true ∧ n ∉ snapshot) ∧
      w₁.outside.log = w.outside.log ++ ⟨.listChildren p true, .ok snapshot⟩ ::
        created.map (childReading p s.watchesChildData answers) ∧
      w.coordinator.Revised w₁.coordinator p s snapshot answers created gone ∧
      (∀ n ∈ created, (∀ d, answers n ≠ .ok d) → ∀ s', w₁.coordinator.children.get? p = some s' →
        ∀ snapshot', n ∈ snapshot' → n ∈ s'.toRead snapshot') ∧
      w₁.coordinator.journal = w.coordinator.journal ++ (told ++ ended) ∧
      (initial = false → pass = (.ok (), w₁.update (·.submitAll (told ++ ended)))) ∧
      (initial = true → pass = match tellAll host told w₁ with
        | (.ok (), w₂) => (.ok (), w₂.update (·.submitAll ended))
        | (.error stop, w₂) => (.error stop, w₂)) ∧
      (audience.Calm → ∃ w₂, pass = (.ok (), w₂) ∧
        w₂.coordinator = w₁.coordinator.submitAll (if initial then ended else told ++ ended)) := by
  intro host pass created
  have new : (ChildDiff.between s.known snapshot).created = created := s.created_between snapshot
  obtain ⟨answers, state', -, passed⟩ := childPass_asked audience s (.forPass initial) listed
  let w₁ : World (Dialogue σ) := (w.exchanged state' (passExchanges p s snapshot answers)).update
    (·.absorb p s (.forPass initial) (ChildDiff.between s.known snapshot)
      (.ofAnswers answers created))
  refine ⟨answers, (ChildDiff.between s.known snapshot).deleted, w₁, ?_⟩
  intro told ended
  have made : s.createdReports p (.forPass initial) (NewChildren.ofAnswers answers created).found =
      told := s.createdReports_ofAnswers p _ answers created
  have missed : s.deletedReports ((ChildDiff.between s.known snapshot).deleted.map p.child) =
      ended := s.deletedReports_children p _
  rw [new, made, missed] at passed
  have ran : pass = deliver host (.forPass initial) told ended w₁ := by
    rw [← passed]
    simp only [pass, childChange, registered]
    rfl
  have revised : w.coordinator.Revised w₁.coordinator p s snapshot answers created
      (ChildDiff.between s.known snapshot).deleted := by
    have absorbed := Coordinator.revised_absorb registered (.forPass initial) snapshot answers
    dsimp only at absorbed
    rwa [new] at absorbed
  have dispatched (late : initial = false) :
      pass = (.ok (), w₁.update (·.submitAll (told ++ ended))) := by
    rw [ran, late]
    rfl
  have inline (early : initial = true) : pass = match tellAll host told w₁ with
      | (.ok (), w₂) => (.ok (), w₂.update (·.submitAll ended))
      | (.error stop, w₂) => (.error stop, w₂) := by
    rw [ran, early]
    unfold deliver
    dsimp only [Delivery.forPass]
    rcases tellAll host told w₁ with ⟨_ | ⟨⟨⟩⟩, w₂⟩
    · rfl
    · rfl
  refine ⟨⟨?_, ?_, fun n => ChildDiff.mem_deleted⟩, ?_, revised, ?_, ?_, dispatched, inline, ?_⟩
  · rw [← new]
    exact ChildDiff.created_nodup s.known snapshot
  · exact s.known.keys_pairwise.filter _
  · rw [← new]
    rfl
  · intro n hn unread s' there snapshot' relisted
    exact revised.read_again hn unread there relisted
  · rw [← made, ← missed]
    exact Coordinator.journal_absorb _ _ _
  · intro calm
    cases initial with
    | false => exact ⟨_, dispatched rfl, rfl⟩
    | true =>
      obtain ⟨w₂, heard, same⟩ := tellAll_calm calm client.host told w₁
      rw [inline rfl, heard]
      exact ⟨_, rfl, by simp [same]⟩

/-- Every node has these children, and that of the path `/p/x` cannot be read. -/
def Client.patchy : Client (List String) where
  isAlive names := (true, names)
  ask
    | .existence _, names => (.ok true, names)
    | .readData p _, names =>
      (if p = "/p/x" then .error (.invalidArgument "broken") else .ok .empty, names)
    | .listChildren _ _, names => (.ok names, names)
    | .create p _ _, names => (.ok p, names)
    | .writeData _ _, names | .delete _, names | .cancelDataWatch _, names | .reconnect, names =>
      (.ok (), names)

/-- The children `a` and `z` are known; then `z` goes, and `b` and `x` come. -/
def World.patched : World (Dialogue (List String)) :=
  { perform Client.patchy.host ⟨.new (.ofSize 1) false, ⟨["a", "z"], []⟩⟩
      (.listen "/p" "l" (.children true)) with
    outside := ⟨["b", "x", "a", "b"], []⟩ }

/-- What cannot be read is not known afterwards. -/
theorem World.pass_outcome_patched :
    let pass := childChange (Client.patchy.host.facing .silent) "/p" .dispatched patched
    pass.1 = .ok () ∧
      pass.2.outside.log.map (·.request) =
        [.listChildren "/p" true, .readData "/p/b" true, .readData "/p/x" true] ∧
      pass.2.coordinator.knownChildren? "/p" = some ["a", "b"] := by
  let s : ChildSubscription := ⟨0, "l", true, .ofList ["a", "z"]⟩
  have registered : patched.coordinator.children.get? "/p" = some s := by decide
  have listed : Client.patchy.ask (.listChildren "/p" true) patched.outside.client =
      (.ok ["b", "x", "a", "b"], patched.outside.client) := rfl
  have reads : s.toRead ["b", "x", "a", "b"] = ["b", "x"] := by decide
  obtain ⟨answers, gone, w₁, -, log, -, -, -, late, -, -⟩ :=
    pass_outcome Client.patchy .silent registered false listed
  have passed : childChange (Client.patchy.host.facing .silent) "/p" .dispatched patched = _ :=
    late rfl
  refine ⟨by rw [passed], ?_, by decide⟩
  rw [passed, outside_update, log, reads]
  rfl

end DurableWatch
