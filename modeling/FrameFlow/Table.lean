/-! Tables from names to values in the order in which the names first came in. Writing a
known name replaces its value in place, a new name goes to the end. -/
namespace FrameFlow

variable {α : Type}

/-- Replaces the value of a known key in place, or adds the key at the end. -/
def putEntry (key : String) (value : α) : List (String × α) → List (String × α)
  | [] => [(key, value)]
  | (k, v) :: rest => if k = key then (key, value) :: rest else (k, v) :: putEntry key value rest

theorem keys_putEntry (key : String) (value : α) (entries : List (String × α)) :
    (putEntry key value entries).map Prod.fst =
      if key ∈ entries.map Prod.fst then entries.map Prod.fst
      else entries.map Prod.fst ++ [key] := by
  induction entries with
  | nil => rfl
  | cons entry rest ih =>
    obtain ⟨k, v⟩ := entry
    by_cases same : k = key
    · simp [putEntry, same]
    · have other : ¬key = k := fun h => same h.symm
      simp only [putEntry, if_neg same, List.map_cons, ih, List.mem_cons, other, false_or]
      split <;> rfl

theorem putEntry_of_fresh {key : String} {entries : List (String × α)} (value : α)
    (fresh : key ∉ entries.map Prod.fst) : putEntry key value entries = entries ++ [(key, value)] := by
  induction entries with
  | nil => rfl
  | cons entry rest ih =>
    obtain ⟨k, v⟩ := entry
    rw [List.map_cons, List.mem_cons, not_or] at fresh
    rw [putEntry, if_neg (Ne.symm fresh.1), ih fresh.2]
    rfl

/-- A table holds each name once. -/
structure Table (α : Type) where
  entries : List (String × α)
  distinct : (entries.map Prod.fst).Nodup
deriving DecidableEq, Repr

namespace Table

def empty : Table α := ⟨[], .nil⟩

instance : Inhabited (Table α) := ⟨empty⟩

def keys (t : Table α) : List String := t.entries.map Prod.fst

def get? (t : Table α) (key : String) : Option α :=
  (t.entries.find? (·.1 == key)).map Prod.snd

def contains (t : Table α) (key : String) : Bool := (t.get? key).isSome

def size (t : Table α) : Nat := t.entries.length

def isEmpty (t : Table α) : Bool := t.entries.isEmpty

def put (t : Table α) (key : String) (value : α) : Table α :=
  ⟨putEntry key value t.entries, by
    rw [keys_putEntry]
    split
    · exact t.distinct
    · next fresh =>
      refine List.nodup_append.2 ⟨t.distinct, by simp, ?_⟩
      intro a ha b hb same
      rw [List.mem_singleton] at hb
      exact fresh (hb ▸ same ▸ ha)⟩

def ofList (entries : List (String × α)) : Table α :=
  entries.foldl (fun t (key, value) => t.put key value) empty

/-- The same names with other values. -/
def map {β : Type} (f : α → β) (t : Table α) : Table β :=
  ⟨t.entries.map fun (key, value) => (key, f value), by
    simpa [List.map_map, Function.comp_def] using t.distinct⟩

@[simp] theorem keys_empty : (empty : Table α).keys = [] := rfl

@[simp] theorem get?_empty (key : String) : (empty : Table α).get? key = none := rfl

theorem keys_put (t : Table α) (key : String) (value : α) :
    (t.put key value).keys = if key ∈ t.keys then t.keys else t.keys ++ [key] :=
  keys_putEntry key value t.entries

theorem find?_putEntry (key other : String) (value : α) (entries : List (String × α)) :
    ((putEntry key value entries).find? (·.1 == other)).map Prod.snd =
      if other = key then some value else (entries.find? (·.1 == other)).map Prod.snd := by
  induction entries with
  | nil =>
    by_cases same : other = key
    · simp [putEntry, same]
    · have : ¬key = other := fun h => same h.symm
      simp [putEntry, same, this]
  | cons entry rest ih =>
    obtain ⟨k, v⟩ := entry
    by_cases same : k = key
    · by_cases asked : other = key
      · simp [putEntry, same, asked]
      · have : ¬key = other := fun h => asked h.symm
        simp [putEntry, same, asked, this]
    · by_cases here : k = other
      · have : ¬other = key := fun h => same (here.trans h)
        simp [putEntry, here, this]
      · simp [putEntry, same, here, ih]

theorem get?_put (t : Table α) (key other : String) (value : α) :
    (t.put key value).get? other = if other = key then some value else t.get? other :=
  find?_putEntry key other value t.entries

theorem get?_eq_some_iff {t : Table α} {key : String} {value : α} :
    t.get? key = some value ↔ (key, value) ∈ t.entries := by
  obtain ⟨entries, distinct⟩ := t
  simp only [get?]
  induction entries with
  | nil => simp
  | cons entry rest ih =>
    obtain ⟨k, v⟩ := entry
    rw [List.map_cons, List.nodup_cons] at distinct
    by_cases same : k = key
    · subst same
      have later : (k, value) ∉ rest := fun mem => distinct.1 (List.mem_map.2 ⟨_, mem, rfl⟩)
      simp [later, eq_comm]
    · simp [same, Ne.symm same, ih distinct.2]

theorem get?_map {β : Type} (f : α → β) (t : Table α) (key : String) :
    (t.map f).get? key = (t.get? key).map f := by
  simp [get?, map, List.find?_map, Function.comp_def]

theorem contains_iff {t : Table α} {key : String} : t.contains key ↔ key ∈ t.keys := by
  simp [contains, Option.isSome_iff_exists, get?_eq_some_iff, keys]

theorem ext {t u : Table α} (same : t.entries = u.entries) : t = u := by
  cases t
  cases u
  exact (mk.injEq ..).mpr same

/-- Entries that are put into a table under new names stay as they are. -/
theorem entries_foldl_put (t : Table α) (entries : List (String × α))
    (fresh : ((t.entries ++ entries).map Prod.fst).Nodup) :
    (entries.foldl (fun t (key, value) => t.put key value) t).entries = t.entries ++ entries := by
  induction entries generalizing t with
  | nil => simp
  | cons entry rest ih =>
    obtain ⟨key, value⟩ := entry
    have new : key ∉ t.entries.map Prod.fst := by
      rw [List.map_append, List.nodup_append] at fresh
      exact fun mem => fresh.2.2 key mem key (by simp) rfl
    have put : (t.put key value).entries = t.entries ++ [(key, value)] :=
      putEntry_of_fresh value new
    rw [List.foldl_cons, ih _ (by simpa [put] using fresh), put]
    simp

theorem ofList_entries (t : Table α) : ofList t.entries = t :=
  ext (entries_foldl_put empty t.entries t.distinct)

end Table
end FrameFlow
