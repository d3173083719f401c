import FrameFlow.Registry
import Mathlib.Data.List.Induction
import Mathlib.Data.List.Nodup

/-! What a registry holds. The kinds that were registered over the built-in ones go through two tables, in
both of which a name keeps its place and its last kind wins. The two come to one table, filled with the
built-in kinds and then with the others. -/
namespace FrameFlow

variable {α σ : Type}

theorem putEntry_putEntry (key : String) (first last : α) (entries : List (String × α)) :
    putEntry key last (putEntry key first entries) = putEntry key last entries := by
  induction entries with
  | nil => simp [putEntry]
  | cons entry rest ih =>
    obtain ⟨k, v⟩ := entry
    by_cases same : k = key
    · simp [putEntry, same]
    · simp [putEntry, same, ih]

/-- Only where one of two names is new does it matter which of them is written first. -/
theorem putEntry_comm {key other : String} {entries : List (String × α)}
    (known : key ∈ entries.map Prod.fst) (apart : other ≠ key) (value last : α) :
    putEntry key last (putEntry other value entries) =
      putEntry other value (putEntry key last entries) := by
  induction entries with
  | nil => simp at known
  | cons entry rest ih =>
    obtain ⟨k, v⟩ := entry
    by_cases here : k = key
    · simp [putEntry, here, Ne.symm apart]
    · have later : key ∈ rest.map Prod.fst := by
        simpa [Ne.symm here] using known
      by_cases there : k = other
      · simp [putEntry, there, apart]
      · simp [putEntry, here, there, ih later]

namespace Registry

variable {r : Registry σ} {k : Kind σ} {kinds : List (Kind σ)}

theorem register_register {first : Kind σ} (same : first.name = k.name) :
    (r.register first).register k = r.register k := by
  apply Table.ext
  show putEntry k.name k (putEntry first.name first r.entries) = putEntry k.name k r.entries
  rw [same, putEntry_putEntry]

theorem keys_register (r : Registry σ) (k : Kind σ) :
    (r.register k).keys = if k.name ∈ r.keys then r.keys else r.keys ++ [k.name] :=
  Table.keys_put r k.name k

theorem mem_keys_register : k.name ∈ (r.register k).keys := by
  rw [keys_register]
  split
  · assumption
  · simp

/-- A known name may as well be given its new kind before other names are written. -/
theorem foldl_register_comm (known : k.name ∈ r.keys) (apart : k.name ∉ kinds.map Kind.name) :
    (kinds.foldl register r).register k = kinds.foldl register (r.register k) := by
  induction kinds generalizing r with
  | nil => rfl
  | cons other rest ih =>
    rw [List.map_cons, List.mem_cons, not_or] at apart
    have swapped : (r.register other).register k = (r.register k).register other :=
      Table.ext (putEntry_comm known (Ne.symm apart.1) other k)
    have still : k.name ∈ (r.register other).keys := by
      rw [keys_register]
      split
      · exact known
      · simp [known]
    rw [List.foldl_cons, List.foldl_cons, ih still apart.2, swapped]

theorem foldl_register_putEntry {entries : List (String × Kind σ)}
    (named : ∀ entry ∈ entries, entry.2.name = entry.1) (distinct : (entries.map Prod.fst).Nodup)
    (r : Registry σ) (k : Kind σ) :
    ((putEntry k.name k entries).map Prod.snd).foldl register r =
      ((entries.map Prod.snd).foldl register r).register k := by
  induction entries generalizing r with
  | nil => rfl
  | cons entry rest ih =>
    obtain ⟨name, first⟩ := entry
    obtain ⟨fresh, distinct⟩ := List.nodup_cons.1 distinct
    obtain ⟨own, named⟩ := List.forall_mem_cons.1 named
    by_cases same : name = k.name
    · have names : (rest.map Prod.snd).map Kind.name = rest.map Prod.fst := by
        rw [List.map_map]
        exact List.map_congr_left named
      have apart : k.name ∉ (rest.map Prod.snd).map Kind.name := by
        rwa [names, ← same]
      have shared : first.name = k.name := own.trans same
      have known : k.name ∈ (r.register first).keys := shared ▸ mem_keys_register
      simp only [putEntry, if_pos same, List.map_cons, List.foldl_cons]
      rw [foldl_register_comm known apart, register_register shared]
    · simp only [putEntry, if_neg same, List.map_cons, List.foldl_cons]
      exact ih named distinct _

theorem ofKinds_concat (kinds : List (Kind σ)) (k : Kind σ) :
    ofKinds (kinds ++ [k]) = (ofKinds kinds).register k := by
  rw [ofKinds, List.foldl_append, List.foldl_cons, List.foldl_nil, ofKinds]

theorem keys_ofKinds (kinds : List (Kind σ)) :
    (ofKinds kinds).keys = (kinds.map Kind.name).eraseDups := by
  induction kinds using List.reverseRecOn with
  | nil => rfl
  | append_singleton kinds k ih =>
    rw [ofKinds_concat, keys_register, ih, List.map_append, List.eraseDups_append]
    generalize kinds.map Kind.name = names
    by_cases known : k.name ∈ names
    · simp [known, List.cons_removeAll]
    · simp [known, List.cons_removeAll, List.eraseDups_cons]

theorem get?_ofKinds (kinds : List (Kind σ)) (name : String) :
    (ofKinds kinds).get? name = kinds.reverse.find? (·.name == name) := by
  induction kinds using List.reverseRecOn with
  | nil => rfl
  | append_singleton kinds k ih =>
    rw [ofKinds_concat, register, Table.get?_put, ih, List.reverse_append]
    by_cases same : name = k.name
    · simp [same]
    · simp [same, Ne.symm same]

theorem name_of_mem_ofKinds : ∀ entry ∈ (ofKinds kinds).entries, entry.2.name = entry.1 := by
  rintro ⟨name, k⟩ there
  have found := Table.get?_eq_some_iff.2 there
  rw [get?_ofKinds] at found
  have own := List.find?_some found
  exact eq_of_beq own

/-- Two layers of replacement come to one. -/
theorem assemble_eq (builtIns custom : List (Kind σ)) :
    assemble builtIns custom = ofKinds (builtIns ++ custom) := by
  induction custom using List.reverseRecOn with
  | nil =>
    rw [List.append_nil]
    rfl
  | append_singleton custom k ih =>
    rw [← List.append_assoc, ofKinds_concat, ← ih, assemble, ofKinds_concat]
    exact foldl_register_putEntry name_of_mem_ofKinds (ofKinds custom).distinct _ k

theorem namesWhere_sublist (r : Registry σ) (test : String → Kind σ → Bool) :
    (r.namesWhere test).Sublist r.keys :=
  List.filter_sublist.map Prod.fst

theorem mem_namesWhere {test : String → Kind σ → Bool} {name : String} :
    name ∈ r.namesWhere test ↔ ∃ k, r.get? name = some k ∧ test name k := by
  simp [namesWhere, Table.get?_eq_some_iff]

theorem eraseDups_of_nodup {names : List String} (distinct : names.Nodup) : names.eraseDups = names := by
  induction names with
  | nil => rfl
  | cons name rest ih =>
    obtain ⟨fresh, distinct⟩ := List.nodup_cons.1 distinct
    have kept : rest.filter (fun other => !other == name) = rest := by
      simp only [List.filter_eq_self, Bool.not_eq_eq_eq_not, Bool.not_true, beq_eq_false_iff_ne]
      exact fun other there same => fresh (same ▸ there)
    rw [List.eraseDups_cons, kept, ih distinct]

/-- The kind that counts under a name: the custom one that was registered last, or else the built-in one. -/
def current (builtIns custom : List (Kind σ)) (name : String) : Option (Kind σ) :=
  (custom.reverse.find? (·.name == name)).or (builtIns.find? (·.name == name))

theorem find?_reverse_of_nodup (distinct : (kinds.map Kind.name).Nodup) (name : String) :
    kinds.reverse.find? (·.name == name) = kinds.find? (·.name == name) := by
  induction kinds with
  | nil => rfl
  | cons k rest ih =>
    obtain ⟨fresh, distinct⟩ := List.nodup_cons.1 distinct
    rw [List.reverse_cons, List.find?_append, ih distinct]
    by_cases same : k.name = name
    · have later : rest.find? (·.name == name) = none := by
        simp only [List.find?_eq_none, beq_iff_eq]
        exact fun other there own => fresh (List.mem_map.2 ⟨other, there, own.trans same.symm⟩)
      simp [same, later]
    · simp [same]

theorem get?_assemble {builtIns : List (Kind σ)} (distinct : (builtIns.map Kind.name).Nodup)
    (custom : List (Kind σ)) (name : String) :
    (assemble builtIns custom).get? name = current builtIns custom name := by
  rw [assemble_eq, get?_ofKinds, List.reverse_append, List.find?_append,
    find?_reverse_of_nodup distinct, current]

theorem keys_assemble {builtIns : List (Kind σ)} (distinct : (builtIns.map Kind.name).Nodup)
    (custom : List (Kind σ)) :
    (assemble builtIns custom).keys = builtIns.map Kind.name ++
      ((custom.map Kind.name).removeAll (builtIns.map Kind.name)).eraseDups := by
  rw [assemble_eq, keys_ofKinds, List.map_append, List.eraseDups_append, eraseDups_of_nodup distinct]

theorem mem_keys_assemble {builtIns custom : List (Kind σ)} {name : String} :
    name ∈ (assemble builtIns custom).keys ↔ name ∈ (builtIns ++ custom).map Kind.name := by
  rw [assemble_eq, keys_ofKinds, List.mem_eraseDups]

/-- The built-in kinds that a registry starts with, where it starts with them at all. -/
def builtInsIf (included : Bool) (f : BuiltIn → σ) : List (Kind σ) :=
  if included then BuiltIn.kinds.map (Kind.map f) else []

theorem nodup_builtInsIf (included : Bool) (f : BuiltIn → σ) :
    ((builtInsIf included f).map Kind.name).Nodup := by
  cases included with
  | false => exact .nil
  | true =>
    have names : (BuiltIn.kinds.map (Kind.map f)).map Kind.name = BuiltIn.kinds.map Kind.name :=
      List.map_map
    have distinct : (BuiltIn.kinds.map Kind.name).Nodup := by decide
    rw [builtInsIf, if_pos rfl, names]
    exact distinct

/-- Each name is listed once, the built-in ones first and the others as they first came in. What it stands
for is the whole of its kind, the filter of new nodes as well as all that is told about it, and the names
found by role or by a text are those whose kind now fits, in the order of the list. -/
theorem assemble_contents (included : Bool) (f : BuiltIn → σ) (custom : List (Kind σ)) :
    let builtIns := builtInsIf included f
    let r := assemble builtIns custom
    (∀ name, r.keys.count name = if name ∈ (builtIns ++ custom).map Kind.name then 1 else 0) ∧
      r.keys = builtIns.map Kind.name ++
        ((custom.map Kind.name).removeAll (builtIns.map Kind.name)).eraseDups ∧
      (∀ name, r.get? name = current builtIns custom name) ∧
      r.size = r.keys.length ∧
      (∀ role, (r.namesByRole role).Sublist r.keys ∧
        ∀ name, name ∈ r.namesByRole role ↔
          ∃ k, current builtIns custom name = some k ∧ k.role = role) ∧
      ∀ query, (r.search query).Sublist r.keys ∧
        ∀ name, name ∈ r.search query ↔ ∃ k, current builtIns custom name = some k ∧
          ((Text.lower query).toList <:+: (Text.lower name).toList ∨
            (Text.lower query).toList <:+: (Text.lower k.description).toList) := by
  intro builtIns r
  have distinct : (builtIns.map Kind.name).Nodup := nodup_builtInsIf included f
  have looked := get?_assemble distinct custom
  have found (test : String → Kind σ → Bool) (name : String) :
      name ∈ r.namesWhere test ↔ ∃ k, current builtIns custom name = some k ∧ test name k := by
    rw [← looked, mem_namesWhere]
  refine ⟨fun name => ?_, keys_assemble distinct custom, looked, (List.length_map _).symm,
    fun role => ⟨namesWhere_sublist r _, fun name => ?_⟩, fun query => ⟨?_, fun name => ?_⟩⟩
  · exact (List.Nodup.count r.distinct).trans (if_congr mem_keys_assemble rfl rfl)
  · rw [namesByRole, found]
    simp only [beq_iff_eq]
  · rw [search]
    exact namesWhere_sublist r _
  · rw [search, found]
    simp only [Bool.or_eq_true, Text.occursIn_iff]

example :
    let gate : Kind BuiltIn := { Head.kind.map .head with name := "gate" }
    let loud : Kind BuiltIn := { Head.kind.map .head with name := "volume" }
    let r := assemble BuiltIn.kinds [gate, loud, { gate with role := .sink }]
    r.keys = BuiltIn.kinds.map Kind.name ++ ["gate"] ∧ r.namesByRole .sink = ["buffersink", "gate"] := by
  decide

end Registry
end FrameFlow
