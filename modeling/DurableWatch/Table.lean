/-!
# Tables in ascending key order

A finite table from texts to values, kept as its entries in strictly ascending key order. Because
the order is part of the type, a table is determined by its look-ups, and listing it needs no
sorting. A set of texts is a table of units.
-/
namespace DurableWatch

structure Table (α : Type) where
  entries : List (String × α)
  ascending : entries.Pairwise fun a b => a.1 < b.1
  deriving DecidableEq

namespace Table

variable {α β : Type}

def empty : Table α := ⟨[], .nil⟩

instance : EmptyCollection (Table α) := ⟨empty⟩

instance : Inhabited (Table α) := ⟨empty⟩

def keys (t : Table α) : List String := t.entries.map Prod.fst

def size (t : Table α) : Nat := t.entries.length

/-- The value of the first entry with key `k`. -/
def findEntry (k : String) : List (String × α) → Option α
  | [] => none
  | e :: es => if e.1 = k then some e.2 else findEntry k es

def get? (t : Table α) (k : String) : Option α := findEntry k t.entries

def contains (t : Table α) (k : String) : Bool := (t.get? k).isSome

/-- Places an entry in front of the first larger key; an entry of the same key is replaced. -/
def placeEntry (k : String) (v : α) : List (String × α) → List (String × α)
  | [] => [(k, v)]
  | e :: es =>
    if k < e.1 then (k, v) :: e :: es
    else if k = e.1 then (k, v) :: es
    else e :: placeEntry k v es

theorem mem_placeEntry {k : String} {v : α} {es : List (String × α)} {e : String × α}
    (h : e ∈ placeEntry k v es) : e = (k, v) ∨ e ∈ es := by
  induction es with
  | nil => simp_all [placeEntry]
  | cons d ds ih =>
    simp only [placeEntry] at h
    split at h
    · simpa using h
    · split at h <;> grind

theorem pairwise_placeEntry (k : String) (v : α) {es : List (String × α)}
    (h : es.Pairwise fun a b => a.1 < b.1) :
    (placeEntry k v es).Pairwise fun a b => a.1 < b.1 := by
  induction es with
  | nil => simp [placeEntry]
  | cons d ds ih =>
    obtain ⟨hd, hds⟩ := List.pairwise_cons.1 h
    simp only [placeEntry]
    split
    · next hlt =>
      refine List.pairwise_cons.2 ⟨fun e he => ?_, h⟩
      rcases List.mem_cons.1 he with rfl | he
      · exact hlt
      · exact String.lt_trans hlt (hd e he)
    · next hlt =>
      split
      · next heq => exact List.pairwise_cons.2 ⟨fun e he => heq ▸ hd e he, hds⟩
      · next hne =>
        refine List.pairwise_cons.2 ⟨fun e he => ?_, ih hds⟩
        rcases mem_placeEntry he with rfl | he
        · exact Decidable.byContradiction fun hn =>
            hne (String.le_antisymm (String.not_lt.1 hn) (String.not_lt.1 hlt))
        · exact hd e he

def insert (t : Table α) (k : String) (v : α) : Table α :=
  ⟨placeEntry k v t.entries, pairwise_placeEntry k v t.ascending⟩

def erase (t : Table α) (k : String) : Table α :=
  ⟨t.entries.filter (·.1 ≠ k), t.ascending.filter _⟩

/-- The entries whose key and value pass the test. -/
def filter (t : Table α) (keep : String → α → Bool) : Table α :=
  ⟨t.entries.filter fun e => keep e.1 e.2, t.ascending.filter _⟩

theorem findEntry_placeEntry (k j : String) (v : α) (es : List (String × α)) :
    findEntry j (placeEntry k v es) = if j = k then some v else findEntry j es := by
  induction es with
  | nil => grind [placeEntry, findEntry]
  | cons d ds ih => grind [placeEntry, findEntry]

@[simp] theorem get?_insert (t : Table α) (k j : String) (v : α) :
    (t.insert k v).get? j = if j = k then some v else t.get? j :=
  findEntry_placeEntry k j v t.entries

theorem findEntry_filter_ne (k j : String) (es : List (String × α)) :
    findEntry j (es.filter (·.1 ≠ k)) = if j = k then none else findEntry j es := by
  induction es with
  | nil => simp [findEntry]
  | cons d ds ih => grind [findEntry]

@[simp] theorem get?_erase (t : Table α) (k j : String) :
    (t.erase k).get? j = if j = k then none else t.get? j :=
  findEntry_filter_ne k j t.entries

end Table

/-- A set of texts, listed in ascending order by `keys`. -/
abbrev TextSet := Table Unit

namespace TextSet

def insert (s : TextSet) (n : String) : TextSet := Table.insert s n ()

def insertAll (s : TextSet) (names : List String) : TextSet := names.foldl insert s

def ofList (names : List String) : TextSet := insertAll ∅ names

/-- The texts that are not among `names`. -/
def without (s : TextSet) (names : List String) : TextSet := s.filter fun n _ => !names.contains n

end TextSet

end DurableWatch
