import DurableWatch.Proofs.Lookup
import DurableWatch.Proofs.PathParts
import DurableWatch.Proofs.Runs

/-!
# What a pass does to the coordinator

A pass over a child list changes the coordinator in one go, before any listener is called: this is
`absorb`, a function of what the client answered. The lemmas below read its result through
look-ups, and `childPass_listed` says that a pass is `absorb` followed by the delivery.
-/
namespace DurableWatch

namespace World.NewChildren

/-- Each of the names was read once, and either found or not. -/
structure Covers (new : NewChildren) (names : List String) : Prop where
  finished : new.crash? = none
  found : new.found.map Prod.fst = names.filter fun n => !new.unreadable.contains n
  unreadable : ∀ n ∈ new.unreadable, n ∈ names

theorem Covers.mem_found {new : NewChildren} {names : List String} (covers : new.Covers names)
    {n : String} : n ∈ new.found.map Prod.fst ↔ n ∈ names ∧ n ∉ new.unreadable := by
  rw [covers.found]
  simp

theorem Covers.found_nodup {new : NewChildren} {names : List String} (covers : new.Covers names)
    (h : names.Nodup) : (new.found.map Prod.fst).Nodup := by
  rw [covers.found]
  exact h.filter _

end World.NewChildren

open World

namespace Coordinator

/-- Gives each child that was found a data subscription, if `s` watches the data of children. -/
def addFound (c : Coordinator) (p : Path) (s : ChildSubscription)
    (found : List (String × Data)) : Coordinator :=
  if s.watchesChildData then
    found.foldl (fun c e => c.addData (p.child e.1) s.listener (some s.id)) c
  else c

/-- The coordinator after a pass of `s` over `p`, when the events are produced and not yet
delivered. -/
def absorb (c : Coordinator) (p : Path) (s : ChildSubscription) (delivery : Delivery)
    (diff : ChildDiff) (new : NewChildren) : Coordinator :=
  let gone := diff.deleted.map p.child
  let c := (c.addFound p s new.found).settle p s (knownAfter s.known diff new)
  let c := if s.watchesChildData then c.removeDataAll gone else c
  c.record (s.createdReports p delivery new.found ++ s.deletedReports gone)

theorem addFound_cons (c : Coordinator) (p : Path) (s : ChildSubscription) (e : String × Data)
    (found : List (String × Data)) :
    c.addFound p s (e :: found) =
      (if s.watchesChildData then c.addData (p.child e.1) s.listener (some s.id)
        else c).addFound p s found := by
  by_cases watches : s.watchesChildData = true <;> simp [addFound, watches]

section addFound

variable (c : Coordinator) (p : Path) (s : ChildSubscription) (found : List (String × Data))

/-- What a new data subscription leaves alone, all of them together leave alone. -/
theorem addFound_of_step {β : Type} (view : Coordinator → β)
    (step : ∀ c q l owner?, view (addData c q l owner?) = view c) :
    view (c.addFound p s found) = view c := by
  unfold addFound
  split
  · induction found generalizing c with
    | nil => rfl
    | cons e found ih =>
      exact (ih (c.addData (p.child e.1) s.listener (some s.id))).trans (step c _ _ _)
  · rfl

@[simp] theorem children_addFound : (c.addFound p s found).children = c.children :=
  addFound_of_step c p s found children fun _ _ _ _ => rfl

@[simp] theorem failFast_addFound : (c.addFound p s found).failFast = c.failFast :=
  addFound_of_step c p s found failFast fun _ _ _ _ => rfl

@[simp] theorem journal_addFound : (c.addFound p s found).journal = c.journal :=
  addFound_of_step c p s found journal fun _ _ _ _ => rfl

@[simp] theorem stubborn_addFound : (c.addFound p s found).stubborn = c.stubborn :=
  addFound_of_step c p s found stubborn fun _ _ _ _ => rfl

theorem nextId_le_addFound : c.nextId ≤ (c.addFound p s found).nextId := by
  unfold addFound
  split
  · induction found generalizing c with
    | nil => exact le_rfl
    | cons e found ih =>
      exact (Nat.le_succ _).trans (ih (c.addData (p.child e.1) s.listener (some s.id)))
  · exact le_rfl

/-- The subscription of a child that was found is a new one, and all others stay. -/
theorem data_addFound (q : Path) :
    (c.addFound p s found).data.get? q = c.data.get? q ∧
        (s.watchesChildData = true → ∀ e ∈ found, q ≠ p.child e.1) ∨
      s.watchesChildData = true ∧ (∃ e ∈ found, q = p.child e.1) ∧
        ∃ id, c.nextId ≤ id ∧ id < (c.addFound p s found).nextId ∧
          (c.addFound p s found).data.get? q = some ⟨id, s.listener, some s.id⟩ := by
  by_cases watches : s.watchesChildData = true
  · simp only [addFound, watches, if_true, true_and, forall_const]
    induction found generalizing c with
    | nil => exact .inl ⟨rfl, by simp⟩
    | cons e found ih =>
      rcases ih (c.addData (p.child e.1) s.listener (some s.id)) with ⟨same, absent⟩ | ⟨hit, fresh⟩
      · by_cases hq : q = p.child e.1
        · refine .inr ⟨⟨e, by simp, hq⟩, c.nextId, le_rfl, ?_, ?_⟩
          · have grows :=
              nextId_le_addFound (c.addData (p.child e.1) s.listener (some s.id)) p s found
            simp only [addFound, watches, if_true] at grows
            exact Nat.lt_of_lt_of_le (Nat.lt_succ_self _) grows
          · rw [List.foldl_cons, same]
            simp [addData, freshData, hq]
        · refine .inl ⟨?_, ?_⟩
          · rw [List.foldl_cons, same]
            simp [addData, hq]
          · intro d hd
            rcases List.mem_cons.1 hd with rfl | hd
            · exact hq
            · exact absent d hd
      · obtain ⟨d, hd, hq⟩ := hit
        obtain ⟨id, low, high, hget⟩ := fresh
        exact .inr ⟨⟨d, List.mem_cons_of_mem e hd, hq⟩, id, (Nat.le_succ _).trans low, high, hget⟩
  · simp [addFound, watches]

end addFound

@[simp] theorem removeDataAll_cons (c : Coordinator) (q : Path) (qs : List Path) :
    c.removeDataAll (q :: qs) = (c.removeData q).removeDataAll qs := rfl

theorem removeDataAll_of_step {β : Type} (view : Coordinator → β)
    (step : ∀ c q, view (removeData c q) = view c) (c : Coordinator) (qs : List Path) :
    view (c.removeDataAll qs) = view c := by
  induction qs generalizing c with
  | nil => rfl
  | cons q qs ih => exact (ih (c.removeData q)).trans (step c q)

@[simp] theorem children_removeDataAll (c : Coordinator) (qs : List Path) :
    (c.removeDataAll qs).children = c.children :=
  removeDataAll_of_step children (fun _ _ => rfl) c qs

@[simp] theorem failFast_removeDataAll (c : Coordinator) (qs : List Path) :
    (c.removeDataAll qs).failFast = c.failFast :=
  removeDataAll_of_step failFast (fun _ _ => rfl) c qs

@[simp] theorem journal_removeDataAll (c : Coordinator) (qs : List Path) :
    (c.removeDataAll qs).journal = c.journal :=
  removeDataAll_of_step journal (fun _ _ => rfl) c qs

@[simp] theorem stubborn_removeDataAll (c : Coordinator) (qs : List Path) :
    (c.removeDataAll qs).stubborn = c.stubborn :=
  removeDataAll_of_step stubborn (fun _ _ => rfl) c qs

@[simp] theorem nextId_removeDataAll (c : Coordinator) (qs : List Path) :
    (c.removeDataAll qs).nextId = c.nextId :=
  removeDataAll_of_step nextId (fun _ _ => rfl) c qs

theorem data_removeDataAll (c : Coordinator) (qs : List Path) (q : Path) :
    (c.removeDataAll qs).data.get? q = if q ∈ qs then none else c.data.get? q := by
  induction qs generalizing c with
  | nil => rfl
  | cons r qs ih =>
    rw [removeDataAll_cons, ih]
    by_cases hq : q = r <;> simp [removeData, hq]

section settle

variable (c : Coordinator) (p : Path) (s : ChildSubscription) (known : TextSet)

theorem children_settle (there : c.hasChildren p s.id = true) :
    (c.settle p s known).children = c.children.insert p { s with known := known } := by
  rw [settle, if_pos there]

@[simp] theorem data_settle : (c.settle p s known).data = c.data := by
  unfold settle
  split <;> rfl

@[simp] theorem failFast_settle : (c.settle p s known).failFast = c.failFast := by
  unfold settle
  split <;> rfl

@[simp] theorem nextId_settle : (c.settle p s known).nextId = c.nextId := by
  unfold settle
  split <;> rfl

@[simp] theorem stubborn_settle : (c.settle p s known).stubborn = c.stubborn := by
  unfold settle
  split <;> rfl

@[simp] theorem journal_settle : (c.settle p s known).journal = c.journal := by
  unfold settle
  split <;> rfl

end settle

section absorb

variable {c : Coordinator} {p : Path} {s : ChildSubscription}

theorem hasChildren_of_get? (registered : c.children.get? p = some s) :
    c.hasChildren p s.id = true := by simp [hasChildren, registered]

theorem removeDataIf_of_get? {q : Path} {e : DataSubscription}
    (registered : c.data.get? q = some e) : c.removeDataIf q e.id = c.removeData q := by
  simp [removeDataIf, hasData, registered]

/-- The known set is written back, because the subscription is still there. -/
theorem children_absorb (registered : c.children.get? p = some s) (delivery : Delivery)
    (diff : ChildDiff) (new : NewChildren) (q : Path) :
    (c.absorb p s delivery diff new).children.get? q =
      if q = p then some { s with known := knownAfter s.known diff new }
      else c.children.get? q := by
  have there : (c.addFound p s new.found).hasChildren p s.id = true := by
    refine hasChildren_of_get? ?_
    rw [children_addFound]
    exact registered
  unfold absorb
  simp only [record]
  split <;> simp [children_settle _ _ _ _ there]

theorem data_absorb (delivery : Delivery) (diff : ChildDiff) (new : NewChildren) (q : Path) :
    (c.absorb p s delivery diff new).data.get? q =
      if s.watchesChildData = true ∧ q ∈ diff.deleted.map p.child then none
      else (c.addFound p s new.found).data.get? q := by
  unfold absorb
  simp only [record]
  split
  · next watches => simp only [data_removeDataAll, data_settle, watches, true_and]
  · next watches => simp [watches]

theorem failFast_absorb (delivery : Delivery) (diff : ChildDiff) (new : NewChildren) :
    (c.absorb p s delivery diff new).failFast = c.failFast := by
  unfold absorb
  simp only [record]
  split <;> simp

theorem stubborn_absorb (delivery : Delivery) (diff : ChildDiff) (new : NewChildren) :
    (c.absorb p s delivery diff new).stubborn = c.stubborn := by
  unfold absorb
  simp only [record]
  split <;> simp

theorem nextId_absorb (delivery : Delivery) (diff : ChildDiff) (new : NewChildren) :
    (c.absorb p s delivery diff new).nextId = (c.addFound p s new.found).nextId := by
  unfold absorb
  simp only [record]
  split <;> simp

theorem nextId_le_absorb (delivery : Delivery) (diff : ChildDiff) (new : NewChildren) :
    c.nextId ≤ (c.absorb p s delivery diff new).nextId := by
  rw [nextId_absorb]
  exact nextId_le_addFound c p s new.found

theorem journal_absorb (delivery : Delivery) (diff : ChildDiff) (new : NewChildren) :
    (c.absorb p s delivery diff new).journal =
      c.journal ++ (s.createdReports p delivery new.found ++
        s.deletedReports (diff.deleted.map p.child)) := by
  unfold absorb
  simp only [record]
  split <;> simp

end absorb

end Coordinator

namespace World

/-- Known after a pass are the names listed, but for those that could not be read. -/
theorem contains_knownAfter (known : TextSet) (snapshot : List String) (new : NewChildren)
    (n : String) :
    (knownAfter known (ChildDiff.between known snapshot) new).contains n = true ↔
      n ∈ snapshot ∧ n ∉ new.unreadable := by
  simp [knownAfter, ChildDiff.contains_applyTo]

variable {σ : Type} {host : Host σ}

/-- Listeners may crash, but a delivery does not fail. -/
theorem deliver_not_failed (host : Host σ) (delivery : Delivery) (created deleted : List Report)
    (w : World σ) (e : Error) :
    (deliver host delivery created deleted w).1 ≠ .error (.failed e) := by
  have told (rs : List Report) (w : World σ) : (tellAll host rs w).1 ≠ .error (.failed e) := by
    induction rs generalizing w with
    | nil => simp [tellAll]
    | cons r rs ih =>
      unfold tellAll
      split
      · simp
      · exact ih _
  unfold deliver
  split
  · simp
  · have h := told created w
    split
    · next heq => rw [heq] at h; simpa using h
    · simp

theorem readNew_covers (orderly : host.Orderly) (p : Path) (s : ChildSubscription)
    {ns : List String} (distinct : ns.Nodup) (w : World σ) :
    (readNew host p s ns w).1.Covers ns := by
  induction ns generalizing w with
  | nil => exact ⟨rfl, rfl, by simp [readNew]⟩
  | cons n ns ih =>
    obtain ⟨hn, hns⟩ := List.nodup_cons.1 distinct
    unfold readNew
    split
    · next asked => exact (orderly.not_crashed asked).elim
    · next e w₁ h =>
      have covers := ih hns w₁
      refine ⟨covers.finished, ?_, ?_⟩
      · rw [List.filter_cons_of_neg (by simp), covers.found]
        refine List.filter_congr fun m hm => ?_
        have hne : m ≠ n := fun he => hn (he ▸ hm)
        simp [hne]
      · intro m hm
        rcases List.mem_cons.1 hm with rfl | hm
        · exact List.mem_cons_self
        · exact List.mem_cons_of_mem n (covers.unreadable m hm)
    · next d w₁ h =>
      have covers := ih hns (if s.watchesChildData
        then w₁.update (·.addData (p.child n) s.listener (some s.id)) else w₁)
      have readable : n ∉ (readNew host p s ns (if s.watchesChildData
          then w₁.update (·.addData (p.child n) s.listener (some s.id)) else w₁)).1.unreadable :=
        fun hm => hn (covers.unreadable n hm)
      refine ⟨covers.finished, ?_, fun m hm => List.mem_cons_of_mem n (covers.unreadable m hm)⟩
      · simp only [List.map_cons, covers.found]
        rw [List.filter_cons_of_pos (by simpa using readable)]

theorem coordinator_readNew (orderly : host.Orderly) (p : Path) (s : ChildSubscription)
    (ns : List String) (w : World σ) :
    (readNew host p s ns w).2.coordinator =
      w.coordinator.addFound p s (readNew host p s ns w).1.found := by
  induction ns generalizing w with
  | nil =>
    unfold readNew Coordinator.addFound
    split <;> rfl
  | cons n ns ih =>
    unfold readNew
    split
    · next asked => exact (orderly.not_crashed asked).elim
    · next asked => simp only [ih, orderly.coordinator_of_ask asked]
    · next asked =>
      simp only [ih]
      by_cases watches : s.watchesChildData = true
      · simp [Coordinator.addFound, watches, orderly.coordinator_of_ask asked]
      · simp [Coordinator.addFound, watches, orderly.coordinator_of_ask asked]

/-- A pass whose list was answered is `absorb` and the delivery of what it reports. -/
theorem childPass_listed (orderly : host.Orderly) (p : Path) (s : ChildSubscription)
    (delivery : Delivery) {w w₁ : World σ} {snapshot : List String}
    (listed : host.ask (.listChildren p true) w = (.ok snapshot, w₁)) :
    let diff := ChildDiff.between s.known snapshot
    let read := readNew host p s diff.created w₁
    childPass host p s delivery w =
      deliver host delivery (s.createdReports p delivery read.1.found)
        (s.deletedReports (diff.deleted.map p.child))
        { read.2 with coordinator := w.coordinator.absorb p s delivery diff read.1 } := by
  intro diff read
  have covers : read.1.Covers diff.created :=
    readNew_covers orderly p s (ChildDiff.created_nodup _ _) w₁
  have hc : read.2.coordinator = w.coordinator.addFound p s read.1.found := by
    rw [← orderly.coordinator_of_ask listed]
    exact coordinator_readNew orderly p s diff.created w₁
  have finished : (readNew host p s (ChildDiff.between s.known snapshot).created w₁).1.crash? =
      none := covers.finished
  unfold childPass
  rw [listed]
  simp only [finished, tellChanges]
  congr 1
  by_cases watches : s.watchesChildData = true <;>
    simp [World.update, Coordinator.absorb, watches, hc, diff, read]

end World

end DurableWatch
