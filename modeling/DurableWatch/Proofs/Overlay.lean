import DurableWatch.Config.Loading
import DurableWatch.Proofs.LayerLaws

/-!
# Merging trees of settings

A source is laid over a tree leaf by leaf: each of its values goes to the place that its keys lead
to. The setting of a section then is the last value that the source has for its place, and what it
was before if the source has none, whatever the source has for other places. No index that is
neither negative nor too large keeps a source from being laid over a tree.
-/
namespace DurableWatch.Config

/-! ### Leaves -/

/-- The leaf as it is seen from further up. -/
def Leaf.under {V : Type} (above : List KeyStep) (l : Leaf V) : Leaf V := (above ++ l.1, l.2)

/-- Keys are compared in lower case. -/
def KeyStep.lower : KeyStep → KeyStep
  | .field key => .field (Text.lower key)
  | .item i => .item i

/-- The place that a key and the steps behind it lead to. -/
def placeOf (first : String) (steps : List KeyStep) : List KeyStep :=
  .field (Text.lower first) :: steps.map KeyStep.lower

mutual

/-- The values in a tree, with their places in it. A table without entries is a value itself. -/
def Tree.leaves : Tree → List (Leaf Tree)
  | .table entries origin =>
    if entries.isEmpty then [([], .table entries origin)] else entryLeaves entries
  | t => [([], t)]

def entryLeaves : List (String × Tree) → List (Leaf Tree)
  | [] => []
  | (key, t) :: rest => t.leaves.map (Leaf.under [.field (Text.lower key)]) ++ entryLeaves rest

end

/-- The values of a source, whose keys may be paths. -/
def sourceLeaves (source : List (String × Tree)) : List (Leaf Tree) :=
  source.flatMap fun (key, t) => t.leaves.map (Leaf.under (placeOf (keyPath key).1 (keyPath key).2))

def Tree.IsTable : Tree → Prop
  | .table _ _ => True
  | _ => False

instance : DecidablePred Tree.IsTable
  | .table _ _ => .isTrue trivial
  | .absent | .leaf _ _ | .list _ _ => .isFalse id

section under

variable {V : Type} {isTable : V → Prop} {above place : List KeyStep} {ls : List (Leaf V)}

theorem latest_under (above place : List KeyStep) (ls : List (Leaf V)) :
    latest (above ++ place) (ls.map (Leaf.under above)) = latest place ls := by
  induction ls with
  | nil => rfl
  | cons l ls ih => simp [Leaf.under, ih]

theorem latest_under_other {k j : String} (other : k ≠ j) (above place : List KeyStep)
    (ls : List (Leaf V)) :
    latest (.field k :: place) (ls.map (Leaf.under (.field j :: above))) = none := by
  refine latest_eq_none fun l hl => ?_
  obtain ⟨l', -, rfl⟩ := List.mem_map.1 hl
  simp [Leaf.under, Ne.symm other]

theorem map_under_cons (step : KeyStep) (above : List KeyStep) (ls : List (Leaf V)) :
    ls.map (Leaf.under (step :: above)) = (ls.map (Leaf.under above)).map (Leaf.under [step]) := by
  simp [Leaf.under]

theorem Single.of_under (single : Single isTable (above ++ place) (ls.map (Leaf.under above))) :
    Single isTable place ls := by
  intro l hl below
  have alone := single _ (List.mem_map_of_mem hl) (List.prefix_append_right_inj above |>.2 below)
  exact ⟨List.append_cancel_left alone.1, alone.2⟩

end under

/-! ### Trees -/

namespace Tree

variable {t t' : Tree} {header k key : String}

theorem leaves_of_not_isTable {v : Tree} (plain : ¬v.IsTable) : v.leaves = [([], v)] := by
  cases v with
  | table entries origin => exact absurd trivial plain
  | _ => simp [leaves]

theorem leaves_table_nil (origin : Origin) :
    (table [] origin).leaves = [([], table [] origin)] := by
  simp [leaves]

theorem leaves_table_cons (e : String × Tree) (entries : List (String × Tree)) (origin : Origin) :
    (table (e :: entries) origin).leaves = entryLeaves (e :: entries) := by
  simp [leaves]

mutual

theorem leaves_ne_nil : ∀ t : Tree, t.leaves ≠ []
  | .table [] origin => by simp [leaves_table_nil]
  | .table (e :: entries) origin => by
    rw [leaves_table_cons]
    exact entryLeaves_cons_ne_nil e entries
  | .absent | .leaf _ _ | .list _ _ => by simp [leaves]

theorem entryLeaves_cons_ne_nil : ∀ (e : String × Tree) (entries : List (String × Tree)),
    entryLeaves (e :: entries) ≠ []
  | (key, t), entries => by simp [entryLeaves, leaves_ne_nil t]

end

theorem exists_leaf (t : Tree) : ∃ l, l ∈ t.leaves := List.exists_mem_of_ne_nil _ (leaves_ne_nil t)

theorem lookup_setKey (key k : String) (v : Tree) (entries : List (String × Tree)) :
    (setKey key v entries).lookup k = if k = key then some v else entries.lookup k := by
  induction entries with
  | nil => exact lookup_cons_ite k key v []
  | cons e entries ih =>
    obtain ⟨j, old⟩ := e
    unfold setKey
    split
    · next same => simp only [lookup_cons_ite, same]; split <;> rfl
    · next other =>
      simp only [lookup_cons_ite, ih]
      by_cases here : k = j
      · simp [here, other]
      · simp [here]

theorem lookup_asTable (t : Tree) (k : String) : t.asTable.1.lookup k = t.field? k := by
  cases t <;> rfl

theorem field?_setField (t : Tree) (key k : String) (v : Tree) :
    (t.setField key v).field? k = if k = Text.lower key then some v else t.field? k := by
  rw [← lookup_asTable t]
  exact lookup_setKey _ k v _

theorem fieldAt_eq (t : Tree) (key : String) :
    t.fieldAt key = (t.field? (Text.lower key)).getD .absent := by
  rw [fieldAt, lookup_asTable]

theorem put_of_not_isTable {v : Tree} (plain : ¬v.IsTable) (t : Tree) (key : String) :
    t.put key v = t.setField key v := by
  cases v with
  | table entries origin => exact absurd trivial plain
  | _ => rw [put]; simp

theorem put_table (t : Tree) (key : String) (incoming : List (String × Tree)) (origin : Origin) :
    t.put key (.table incoming origin) =
      t.setField key (((t.field? (Text.lower key)).getD emptyTable).putAll incoming) := by
  rw [put, ← lookup_asTable]
  rfl

theorem field?_put_other (other : k ≠ Text.lower key) (t v : Tree) :
    (t.put key v).field? k = t.field? k := by
  cases v with
  | table incoming origin => rw [put_table, field?_setField, if_neg other]
  | _ => rw [put_of_not_isTable (by exact id), field?_setField, if_neg other]

theorem place_of_mem_entryLeaves {entries : List (String × Tree)} {l : Leaf Tree}
    (hl : l ∈ entryLeaves entries) : ∃ key below, l.1 = .field key :: below := by
  induction entries with
  | nil => simp [entryLeaves] at hl
  | cons e entries ih =>
    obtain ⟨key, t⟩ := e
    rw [entryLeaves, List.mem_append] at hl
    rcases hl with here | hl
    · obtain ⟨l', -, rfl⟩ := List.mem_map.1 here
      exact ⟨_, _, rfl⟩
    · exact ih hl

/-- The values in a table are for its entries, but if it has none. -/
theorem leaf_of_isTable {v : Tree} (table : v.IsTable) {l : Leaf Tree} (hl : l ∈ v.leaves) :
    l.1 ≠ [] ∨ l.2.IsTable := by
  match v with
  | .table [] origin =>
    rw [leaves_table_nil, List.mem_singleton] at hl
    rw [hl]
    exact .inr trivial
  | .table (e :: entries) origin =>
    rw [leaves_table_cons] at hl
    obtain ⟨key, below, place⟩ := place_of_mem_entryLeaves hl
    exact .inl (by simp [place])

/-- The entry for `k` becomes the value, if one is laid there. -/
theorem field?_put {v : Tree} (t : Tree)
    (single : Single IsTable [.field k] (v.leaves.map (Leaf.under [.field (Text.lower key)]))) :
    (t.put key v).field? k =
      (latest [.field k] (v.leaves.map (Leaf.under [.field (Text.lower key)]))).or
        (t.field? k) := by
  by_cases here : k = Text.lower key
  · -- What is in a table would be for places below the entry.
    have plain : ¬v.IsTable := by
      intro table
      obtain ⟨l, hl⟩ := exists_leaf v
      have alone := single _ (List.mem_map_of_mem hl) (by simp [Leaf.under, here])
      rcases leaf_of_isTable table hl with below | table
      · exact below (by simpa [Leaf.under, here] using alone.1)
      · exact alone.2 table
    simp [put_of_not_isTable plain, field?_setField, leaves_of_not_isTable plain, Leaf.under, here]
  · rw [field?_put_other here, latest_under_other here, Option.none_or]

theorem field?_putAll {incoming : List (String × Tree)} (t : Tree)
    (single : Single IsTable [.field k] (entryLeaves incoming)) :
    (t.putAll incoming).field? k =
      (latest [.field k] (entryLeaves incoming)).or (t.field? k) := by
  induction incoming generalizing t with
  | nil => simp [putAll, entryLeaves]
  | cons e incoming ih =>
    obtain ⟨key, v⟩ := e
    rw [entryLeaves] at single ⊢
    have here : Single IsTable [.field k] (v.leaves.map (Leaf.under [.field (Text.lower key)])) :=
      single.mono fun l hl => List.mem_append_left _ hl
    rw [putAll, ih _ (single.mono fun l hl => List.mem_append_right _ hl), field?_put t here,
      latest_append, Option.or_assoc]

/-! ### Keys that are paths -/

/-- The value of a section's setting. -/
def setting? (t : Tree) (header key : String) : Option Tree :=
  (t.field? header).bind fun sub => sub.field? key

theorem updateField_eq_ok {change : Tree → Except BadIndex Tree} :
    t.updateField key change = .ok t' ↔
      ∃ v, change (t.fieldAt key) = .ok v ∧ t' = t.setField key v := by
  unfold updateField
  cases change (t.fieldAt key) <;> simp [Except.map, eq_comm]

/-- What the last step of a path does to the tree that it is taken from. -/
def layAt (last : KeyStep) (v : Tree) (parent : Tree) : Except BadIndex Tree :=
  match last with
  | .field key => .ok (parent.put key v)
  | .item i => parent.updateItem i fun _ => .ok v

theorem putAt_nil (t : Tree) (first : String) (v : Tree) :
    t.putAt first [] v = .ok (t.put first v) := rfl

theorem putAt_concat (t : Tree) (first : String) (steps : List KeyStep) (last : KeyStep)
    (v : Tree) : t.putAt first (steps ++ [last]) v =
      t.updateField first fun sub => sub.updateAt (layAt last v) steps := by
  simp only [putAt, List.getLast?_concat, List.dropLast_concat]
  rfl

theorem field?_updateField_other {change : Tree → Except BadIndex Tree}
    (other : k ≠ Text.lower key) (updated : t.updateField key change = .ok t') :
    t'.field? k = t.field? k := by
  obtain ⟨v, -, rfl⟩ := updateField_eq_ok.1 updated
  rw [field?_setField, if_neg other]

theorem setting?_setField (here : header = Text.lower key) (t sub : Tree) (k : String) :
    (t.setField key sub).setting? header k = sub.field? k := by
  simp [setting?, field?_setField, here]

/-- Where there is no section there is nothing for its settings. -/
theorem setting?_eq_field? (t other : Tree) (bare : other.field? k = none) :
    t.setting? header k = ((t.field? header).getD other).field? k := by
  cases section? : t.field? header <;> simp [setting?, section?, bare]

/-- What a path of keys leads to in a table becomes the entry for `k` if it leads to that entry. -/
theorem field?_updateAt {sub sub' v : Tree} {front : List KeyStep} {last : KeyStep}
    (named : ∀ i rest, front ++ [last] ≠ .item i :: rest)
    (single : Single IsTable [.field k]
      (v.leaves.map (Leaf.under ((front ++ [last]).map KeyStep.lower))))
    (laid : sub.updateAt (layAt last v) front = .ok sub') :
    sub'.field? k = (latest [.field k]
      (v.leaves.map (Leaf.under ((front ++ [last]).map KeyStep.lower)))).or (sub.field? k) := by
  cases front with
  | nil =>
    cases last with
    | item i => exact absurd rfl (named i [])
    | field key =>
      obtain rfl : sub.put key v = sub' := Except.ok.inj laid
      exact field?_put sub single
  | cons step front =>
    cases step with
    | item i => exact absurd rfl (named i (front ++ [last]))
    | field key =>
      -- The path goes on below the field, so the field is not the entry for `k`.
      obtain ⟨l, hl⟩ := exists_leaf v
      have other : k ≠ Text.lower key := by
        intro here
        have alone := single _ (List.mem_map_of_mem hl) (by simp [Leaf.under, KeyStep.lower, here])
        simp [Leaf.under, KeyStep.lower] at alone
      have elsewhere := latest_under_other other ((front ++ [last]).map KeyStep.lower) [] v.leaves
      simp only [List.cons_append, List.map_cons, KeyStep.lower]
      rw [field?_updateField_other other laid, elsewhere, Option.none_or]

/-- The entries of the table are laid over those of the section. -/
theorem setting?_put {v : Tree} (t : Tree) (table : v.IsTable)
    (single : Single IsTable [.field k] v.leaves) (here : header = Text.lower key) :
    (t.put key v).setting? header k =
      (latest [.field k] v.leaves).or (t.setting? header k) := by
  cases v with
  | table incoming origin =>
    rw [put_table, ← here, setting?_setField here, setting?_eq_field? t emptyTable rfl]
    cases incoming with
    | nil => simp [leaves_table_nil, putAll]
    | cons e incoming =>
      rw [leaves_table_cons] at single ⊢
      exact field?_putAll _ single
  | _ => exact table.elim

theorem setting?_putAt_other {first : String} {steps : List KeyStep} {v : Tree}
    (other : header ≠ Text.lower first) (laid : t.putAt first steps v = .ok t') :
    t'.setting? header k = t.setting? header k := by
  rw [setting?, setting?]
  rcases List.eq_nil_or_concat steps with rfl | ⟨front, last, rfl⟩
  · rw [putAt_nil] at laid
    rw [← Except.ok.inj laid, field?_put_other other]
  · rw [List.concat_eq_append, putAt_concat] at laid
    rw [field?_updateField_other other laid]

theorem setting?_putAt_here {first : String} {steps : List KeyStep} {v : Tree}
    (here : header = Text.lower first)
    (tabular : ∀ l ∈ v.leaves.map (Leaf.under (steps.map KeyStep.lower)), Tabular IsTable l)
    (single : Single IsTable [.field k] (v.leaves.map (Leaf.under (steps.map KeyStep.lower))))
    (laid : t.putAt first steps v = .ok t') :
    t'.setting? header k = (latest [.field k]
      (v.leaves.map (Leaf.under (steps.map KeyStep.lower)))).or (t.setting? header k) := by
  rcases List.eq_nil_or_concat steps with rfl | ⟨front, last, rfl⟩
  · -- The value is for the whole section, so it is a table.
    have top : v.leaves.map (Leaf.under ([].map KeyStep.lower)) = v.leaves :=
      List.map_id _
    rw [top] at tabular single ⊢
    have table : v.IsTable := by
      by_contra plain
      have alone := tabular ([], v) (by simp [leaves_of_not_isTable plain])
      simp [Tabular, plain] at alone
    obtain rfl : t.put first v = t' := Except.ok.inj laid
    exact setting?_put t table single here
  · rw [List.concat_eq_append] at tabular single laid ⊢
    rw [putAt_concat] at laid
    obtain ⟨sub', below, rfl⟩ := updateField_eq_ok.1 laid
    rw [fieldAt_eq, ← here] at below
    rw [setting?_setField here, setting?_eq_field? t .absent rfl]
    refine field?_updateAt ?_ single below
    intro i rest path
    obtain ⟨l, hl⟩ := exists_leaf v
    have first := tabular _ (List.mem_map_of_mem hl)
    simp [path, Leaf.under, Tabular, KeyStep.lower] at first

/-- A value that is laid at the place of a setting becomes the setting. -/
theorem setting?_putAt {first : String} {steps : List KeyStep} {v : Tree}
    (sectioned : Sectioned IsTable header (v.leaves.map (Leaf.under (placeOf first steps))))
    (single : Single IsTable [.field header, .field k]
      (v.leaves.map (Leaf.under (placeOf first steps))))
    (laid : t.putAt first steps v = .ok t') :
    t'.setting? header k = (latest [.field header, .field k]
      (v.leaves.map (Leaf.under (placeOf first steps)))).or (t.setting? header k) := by
  rw [placeOf, map_under_cons] at sectioned single ⊢
  by_cases here : header = Text.lower first
  · rw [← here] at sectioned single ⊢
    have below := setting?_putAt_here here
      (fun l hl => sectioned _ (List.mem_map_of_mem hl) l.1 rfl) single.of_under laid
    rw [below, ← latest_under [.field header]]
    rfl
  · rw [setting?_putAt_other here laid, latest_under_other here, Option.none_or]

theorem overlay_cons_eq_ok {e : String × Tree} {source : List (String × Tree)} :
    t.overlay (e :: source) = .ok t' ↔
      ∃ t₁, t.putAt (keyPath e.1).1 (keyPath e.1).2 e.2 = .ok t₁ ∧ t₁.overlay source = .ok t' := by
  simp only [overlay, List.foldlM_cons, bind, Except.bind]
  cases t.putAt (keyPath e.1).1 (keyPath e.1).2 e.2 <;> simp

/-- The setting of a section is the last one in the source that has been laid over the tree, or as
it was if the source has none. -/
theorem setting?_overlay {source : List (String × Tree)}
    (sectioned : Sectioned IsTable header (sourceLeaves source))
    (single : Single IsTable [.field header, .field k] (sourceLeaves source))
    (laid : t.overlay source = .ok t') :
    t'.setting? header k =
      (latest [.field header, .field k] (sourceLeaves source)).or (t.setting? header k) := by
  induction source generalizing t with
  | nil =>
    obtain rfl : t = t' := Except.ok.inj laid
    simp [sourceLeaves]
  | cons e source ih =>
    obtain ⟨t₁, first, rest⟩ := overlay_cons_eq_ok.1 laid
    rw [sourceLeaves, List.flatMap_cons, ← sourceLeaves] at sectioned single ⊢
    have here := setting?_putAt (sectioned.mono fun l hl => List.mem_append_left _ hl)
      (single.mono fun l hl => List.mem_append_left _ hl) first
    rw [ih (sectioned.mono fun l hl => List.mem_append_right _ hl)
      (single.mono fun l hl => List.mem_append_right _ hl) rest, here, latest_append,
      Option.or_assoc]

/-! ### Indices -/

/-- The indices among the steps count from the start of a list, and the list can be that long. -/
def Indexable (steps : List KeyStep) : Prop := ∀ i : Int, .item i ∈ steps → 0 ≤ i ∧ i < maxItems

instance (steps : List KeyStep) : Decidable (Indexable steps) :=
  decidable_of_iff
    (steps.all fun | .field _ => true | .item i => decide (0 ≤ i ∧ i < maxItems)) <| by
    rw [List.all_eq_true]
    refine ⟨fun fits i hi => by simpa using fits _ hi, fun fits step hi => ?_⟩
    cases step with
    | field key => rfl
    | item i => simpa using fits i hi

theorem updateField_isOk {change : Tree → Except BadIndex Tree}
    (changes : ∀ sub, ∃ r, change sub = .ok r) (t : Tree) (key : String) :
    ∃ r, t.updateField key change = .ok r := by
  obtain ⟨v, hv⟩ := changes (t.fieldAt key)
  exact ⟨_, updateField_eq_ok.2 ⟨v, hv, rfl⟩⟩

theorem updateItem_isOk {change : Tree → Except BadIndex Tree}
    (changes : ∀ sub, ∃ r, change sub = .ok r) (t : Tree) {i : Int} (low : 0 ≤ i)
    (high : i < maxItems) : ∃ r, t.updateItem i change = .ok r := by
  have found (length : Nat) : place length i = .ok i.toNat := by
    rw [place, if_neg (not_le.2 high), if_pos low]
  rcases list : t.asList with ⟨items, origin⟩
  let filled := items ++ List.replicate (i.toNat + 1 - items.length) absent
  obtain ⟨item, changed⟩ := changes (filled.getD i.toNat absent)
  refine ⟨.list (filled.set i.toNat item) origin, ?_⟩
  simp only [updateItem, list, found, bind, Except.bind]
  rw [changed]
  rfl

theorem updateAt_isOk {change : Tree → Except BadIndex Tree}
    (changes : ∀ sub, ∃ r, change sub = .ok r) {steps : List KeyStep} (indexable : Indexable steps)
    (t : Tree) : ∃ r, t.updateAt change steps = .ok r := by
  induction steps generalizing t with
  | nil => exact changes t
  | cons step steps ih =>
    have below := ih fun i hi => indexable i (List.mem_cons_of_mem step hi)
    cases step with
    | field key => exact updateField_isOk below t key
    | item i =>
      obtain ⟨low, high⟩ := indexable i List.mem_cons_self
      exact updateItem_isOk below t low high

theorem putAt_isOk {steps : List KeyStep} (indexable : Indexable steps) (t : Tree)
    (first : String) (v : Tree) : ∃ r, t.putAt first steps v = .ok r := by
  rcases List.eq_nil_or_concat steps with rfl | ⟨front, last, rfl⟩
  · exact ⟨_, rfl⟩
  · rw [List.concat_eq_append] at indexable ⊢
    rw [putAt_concat]
    refine updateField_isOk (fun sub => updateAt_isOk (fun parent => ?_)
      (fun i hi => indexable i (List.mem_append_left _ hi)) sub) t first
    cases last with
    | field key => exact ⟨_, rfl⟩
    | item i =>
      obtain ⟨low, high⟩ := indexable i (by simp)
      exact updateItem_isOk (fun _ => ⟨v, rfl⟩) parent low high

theorem overlay_isOk {source : List (String × Tree)}
    (indexable : ∀ e ∈ source, Indexable (keyPath e.1).2) (t : Tree) :
    ∃ r, t.overlay source = .ok r := by
  induction source generalizing t with
  | nil => exact ⟨t, rfl⟩
  | cons e source ih =>
    obtain ⟨here, rest⟩ := List.forall_mem_cons.1 indexable
    obtain ⟨t₁, first⟩ := putAt_isOk here t (keyPath e.1).1 e.2
    obtain ⟨r, laid⟩ := ih rest t₁
    exact ⟨r, overlay_cons_eq_ok.2 ⟨t₁, first, laid⟩⟩

end Tree

end DurableWatch.Config
