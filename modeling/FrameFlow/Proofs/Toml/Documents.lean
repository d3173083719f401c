import FrameFlow.Proofs.Toml.Lines

/-! The statements of a TOML document build up the tables that its sections stand for. The table that
the lines of a section go into is always the last one at the end of its path. -/
namespace FrameFlow.Toml

namespace Members

variable {key : String} {item : Item} {ms : Members}

theorem get?_of_fresh (fresh : key ∉ ms.map Prod.fst) : get? ms key = none := by
  rw [get?, Option.map_eq_none_iff, List.find?_eq_none]
  intro member mem same
  exact fresh (List.mem_map.2 ⟨member, mem, beq_iff_eq.1 same⟩)

theorem get?_last (fresh : key ∉ ms.map Prod.fst) : get? (ms ++ [(key, item)]) key = some item := by
  have none := Option.map_eq_none_iff.1 (get?_of_fresh fresh)
  simp [get?, List.find?_append, none]

theorem replace_last (fresh : key ∉ ms.map Prod.fst) (new : Item) :
    replace (ms ++ [(key, item)]) key new = ms ++ [(key, new)] := by
  have kept : replace ms key new = ms := by
    refine (List.map_congr_left fun (k, v) mem => ?_).trans (List.map_id ms)
    exact if_neg fun same => fresh (List.mem_map.2 ⟨_, mem, same⟩)
  rw [replace, List.map_append]
  change replace ms key new ++ _ = _
  simp [kept]

/-- What is around the table at the end of a path, if every table on the way is the last member of the
one around it. -/
inductive Around : List String → (Members → Members) → Prop where
  | here : Around [] fun ms => ms
  | table {key path fill base} (fresh : key ∉ List.map Prod.fst base) (inner : Around path fill) :
      Around (key :: path) fun ms => base ++ [(key, .table .header (fill ms))]
  | tables {key path fill base} (fresh : key ∉ List.map Prod.fst base) (items : List Members)
      (inner : Around path fill) :
      Around (key :: path) fun ms => base ++ [(key, .tables (items ++ [fill ms]))]

/-- A change at the end of a path changes nothing around it. -/
theorem byHeader_around {path : List String} {fill : Members → Members} (around : Around path fill)
    (change : Origin → Members → Option Members) (ms : Members) :
    byHeader change path .header (fill ms) = (change .header ms).map fill := by
  induction around with
  | here => simp [byHeader, within]
  | table fresh inner ih =>
    rw [byHeader] at ih ⊢
    rw [within, get?_last fresh]
    simp only [ih, replace_last fresh]
    cases change .header ms <;> rfl
  | tables fresh items inner ih =>
    rw [byHeader] at ih ⊢
    rw [within, get?_last fresh]
    simp only [List.getLast?_concat, List.dropLast_concat, ih, replace_last fresh]
    cases change .header ms <;> rfl

theorem addKey_fresh (fresh : key ∉ ms.map Prod.fst) :
    addKey [] key item .header ms = some (ms ++ [(key, item)]) := by
  simp [addKey, byDots, within, get?_of_fresh fresh]

end Members

open Members (Around)

/-- What entries read back as. -/
def membersOf (entries : List (String × Scalar)) : Members :=
  entries.map fun (key, value) => (key, value.item)

/-- The entries of a section go into the current table. -/
theorem foldlM_entries {path : List String} {fill : Members → Members} (around : Around path fill)
    (ms : Members) (entries : List (String × Scalar))
    (distinct : (ms.map Prod.fst ++ entries.map Prod.fst).Nodup) :
    (entryStatements entries).foldlM Document.add ⟨fill ms, path⟩ =
      some ⟨fill (ms ++ membersOf entries), path⟩ := by
  induction entries generalizing ms with
  | nil => simp [entryStatements, membersOf]
  | cons entry entries ih =>
    obtain ⟨key, value⟩ := entry
    have fresh : key ∉ ms.map Prod.fst := by
      rw [List.nodup_append] at distinct
      exact fun mem => distinct.2.2 key mem key (by simp) rfl
    have added : Document.add ⟨fill ms, path⟩ (.entry [] key value.item) =
        some ⟨fill (ms ++ [(key, value.item)]), path⟩ := by
      rw [Document.add, Members.byHeader_around around, Members.addKey_fresh fresh]
      rfl
    rw [entryStatements, List.map_cons, List.foldlM_cons, added]
    simpa [entryStatements, membersOf] using ih (ms ++ [(key, value.item)]) (by simpa using distinct)

/-- The tables of an array as members of a document; without any there is no member. -/
def tablesOf (key : String) (items : List Members) : Members :=
  if items.isEmpty then [] else [(key, .tables items)]

@[simp] theorem tablesOf_nil (key : String) : tablesOf key [] = [] := rfl

theorem tablesOf_append (key : String) (items : List Members) (last : Members) :
    tablesOf key (items ++ [last]) = [(key, .tables (items ++ [last]))] := by
  simp [tablesOf]

/-- Statements that change the members of a document, wherever its entries went before. -/
def Builds (ts : List Statement) (before after : Members) : Prop :=
  ∀ current, ∃ current', ts.foldlM Document.add ⟨before, current⟩ = some ⟨after, current'⟩

namespace Builds

variable {ts us : List Statement} {ms ms' ms'' : Members}

protected theorem nil : Builds [] ms ms := fun current => ⟨current, rfl⟩

theorem append (first : Builds ts ms ms') (second : Builds us ms' ms'') : Builds (ts ++ us) ms ms'' := by
  intro current
  obtain ⟨middle, first⟩ := first current
  obtain ⟨last, second⟩ := second middle
  exact ⟨last, by rw [List.foldlM_append, first]; exact second⟩

/-- A line that opens an empty table, and entries that go into it. -/
theorem opened {path : List String} {fill : Members → Members} {t : Statement}
    {entries : List (String × Scalar)} (around : Around path fill)
    (distinct : (entries.map Prod.fst).Nodup)
    (opens : ∀ current, Document.add ⟨ms, current⟩ t = some ⟨fill [], path⟩) :
    Builds (t :: entryStatements entries) ms (fill (membersOf entries)) := by
  intro current
  refine ⟨path, ?_⟩
  rw [List.foldlM_cons, opens current]
  exact foldlM_entries around [] entries (by simpa using distinct)

variable {key sub : String} {base last : Members} {entries : List (String × Scalar)}

/-- A section with a table of its own. -/
theorem table (fresh : key ∉ base.map Prod.fst) (distinct : (entries.map Prod.fst).Nodup) :
    Builds (Section.statements ⟨.table [key], entries⟩) base
      (base ++ [(key, .table .header (membersOf entries))]) := by
  refine opened (.table fresh .here) distinct fun current => ?_
  simp [Document.add, Members.openTable, Members.byHeader, Members.within, Members.get?_of_fresh fresh]

/-- A section with an item of an array of tables. -/
theorem item (fresh : key ∉ base.map Prod.fst) (items : List Members)
    (distinct : (entries.map Prod.fst).Nodup) :
    Builds (Section.statements ⟨.item [key], entries⟩) (base ++ tablesOf key items)
      (base ++ tablesOf key (items ++ [membersOf entries])) := by
  rw [tablesOf_append]
  refine opened (.tables fresh items .here) distinct fun current => ?_
  by_cases first : items = []
  · subst first
    simp [tablesOf, Document.add, Members.openItem, Members.byHeader, Members.within,
      Members.get?_of_fresh fresh]
  · simp [tablesOf, first, Document.add, Members.openItem, Members.byHeader, Members.within,
      Members.get?_last fresh, Members.replace_last fresh]

/-- A section with a table inside the last item of an array of tables. -/
theorem subtable (fresh : key ∉ base.map Prod.fst) (items : List Members)
    (new : sub ∉ last.map Prod.fst) (distinct : (entries.map Prod.fst).Nodup) :
    Builds (Section.statements ⟨.table [key, sub], entries⟩) (base ++ tablesOf key (items ++ [last]))
      (base ++ tablesOf key (items ++ [last ++ [(sub, .table .header (membersOf entries))]])) := by
  have opens : Members.openTable [key] sub (base ++ [(key, .tables (items ++ [last]))]) =
      some (base ++ [(key, .tables (items ++ [last ++ [(sub, .table .header [])]]))]) := by
    refine (Members.byHeader_around (.tables fresh items .here) _ last).trans ?_
    simp [Members.get?_of_fresh new]
  rw [tablesOf_append, tablesOf_append]
  refine opened (.tables fresh items (.table new .here)) distinct fun current => ?_
  simp [Document.add, opens]

end Builds

/-- A document that starts with entries before all headers. -/
theorem ofStatements?_eq {entries : List (String × Scalar)} {ts : List Statement} {ms : Members}
    (distinct : (entries.map Prod.fst).Nodup) (builds : Builds ts (membersOf entries) ms) :
    Document.ofStatements? (entryStatements entries ++ ts) = some ms := by
  have first := foldlM_entries .here [] entries (by simpa using distinct)
  obtain ⟨current, rest⟩ := builds []
  have whole : (entryStatements entries ++ ts).foldlM Document.add ⟨[], []⟩ = some ⟨ms, current⟩ := by
    rw [List.foldlM_append, first]
    exact rest
  rw [Document.ofStatements?, whole]
  rfl

end FrameFlow.Toml
