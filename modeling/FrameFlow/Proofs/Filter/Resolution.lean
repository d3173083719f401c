import FrameFlow.Proofs.Filter.Options

/-! What a schema makes of texts. Texts are resolved where each is meant for an option and read by it, and
then every option has a value: that of its text, or else its default. -/
namespace FrameFlow.Setting

/-- What a text gives an option: it is read as the option's kind, and the value meets the constraints. -/
def Definition.Takes (d : Definition) (raw : String) (v : Value) : Prop :=
  d.kind.read? raw = some v ∧ ∀ c ∈ d.constraints, c.allows v

theorem check_eq_ok_of_allows {c : Constraint} {v : Value} (allowed : c.allows v) : c.check v = .ok () :=
  guard_eq_ok_iff.2 allowed

theorem forM_check_eq_ok {constraints : List Constraint} {v : Value}
    (allowed : ∀ c ∈ constraints, c.allows v) : constraints.forM (fun c => c.check v) = .ok () := by
  induction constraints with
  | nil => rfl
  | cons c rest ih =>
    obtain ⟨here, later⟩ := List.forall_mem_cons.1 allowed
    exact bind_eq_ok_iff.2 ⟨(), check_eq_ok_of_allows here, ih later⟩

theorem Kind.read_eq_ok_iff {kind : Kind} {raw : String} {v : Value} :
    kind.read raw = .ok v ↔ kind.read? raw = some v := by
  unfold Kind.read
  cases kind.read? raw <;> simp

theorem Definition.read_eq_ok_iff {d : Definition} {raw : String} {v : Value} :
    d.read raw = .ok v ↔ d.Takes raw v := by
  unfold Definition.read
  simp only [mapError_eq_ok_iff, bind_eq_ok_iff, pure_eq_ok_iff, Kind.read_eq_ok_iff]
  constructor
  · rintro ⟨_, read, _, checked, rfl⟩
    exact ⟨read, allows_of_forM checked⟩
  · rintro ⟨read, allowed⟩
    exact ⟨v, read, (), forM_check_eq_ok allowed, rfl⟩

theorem Definition.Takes.kind_eq {d : Definition} {raw : String} {v : Value} (takes : d.Takes raw v) :
    v.kind = d.kind :=
  kind_of_read? takes.1

namespace Schema

variable {schema : Schema} {staged : Table String} {values : Values} {d : Definition} {name : String}

/-- Each text is meant for an option, which takes it. -/
def Accepts (schema : Schema) (text : String → Option String) : Prop :=
  ∀ ⦃name raw : String⦄, text name = some raw → ∃ d ∈ schema, d.name = name ∧ ∃ v, d.Takes raw v

/-- Each option and no other has a value, of its kind: what its text gives it, or else its default. -/
structure Assigns (schema : Schema) (text : String → Option String) (values : Values) : Prop where
  names : values.keys.Perm (schema.map Definition.name)
  value : ∀ d ∈ schema, ∃ v, values.get? d.name = some v ∧ v.kind = d.kind ∧
    (text d.name).elim (v = d.default) fun raw => d.Takes raw v

theorem find?_eq_some_iff (distinct : (schema.map Definition.name).Nodup) :
    schema.find? name = some d ↔ d ∈ schema ∧ d.name = name := by
  constructor
  · intro found
    exact ⟨List.mem_of_find?_eq_some found, by simpa using List.find?_some found⟩
  · rintro ⟨member, rfl⟩
    induction schema with
    | nil => simp at member
    | cons first rest ih =>
      rw [List.map_cons, List.nodup_cons] at distinct
      rcases List.mem_cons.1 member with rfl | later
      · simp [find?]
      · have apart : first.name ≠ d.name := fun same => distinct.1 (same ▸ List.mem_map_of_mem later)
        rw [find?, List.find?_cons_of_neg (by simpa using apart)]
        exact ih distinct.2 later

theorem exists_readStaged_iff :
    (∃ values, schema.readStaged staged = .ok values) ↔
      ∀ entry ∈ staged.entries, ∃ d, schema.find? entry.1 = some d ∧ ∃ v, d.Takes entry.2 v := by
  refine exists_foldlM_ok_iff (fun before entry => ?_) staged.entries Table.empty
  dsimp only
  cases found : schema.find? entry.1 with
  | none => simp
  | some d =>
    simp only [map_eq_ok_iff, Definition.read_eq_ok_iff, Option.some.injEq, exists_eq_left']
    constructor
    · rintro ⟨_, v, takes, _⟩
      exact ⟨v, takes⟩
    · rintro ⟨v, takes⟩
      exact ⟨_, v, takes, rfl⟩

/-- Texts are resolved where each is meant for an option and taken by it. -/
theorem exists_resolve_iff (distinct : (schema.map Definition.name).Nodup) :
    (∃ values, schema.resolve staged = .ok values) ↔ schema.Accepts staged.get? := by
  have read : (∃ values, schema.resolve staged = .ok values) ↔
      ∃ values, schema.readStaged staged = .ok values := by
    simp [resolve]
  rw [read, exists_readStaged_iff]
  constructor
  · intro each name raw given
    obtain ⟨d, found, takes⟩ := each _ (Table.get?_eq_some_iff.1 given)
    obtain ⟨member, same⟩ := (find?_eq_some_iff distinct).1 found
    exact ⟨d, member, same, takes⟩
  · intro accepts entry member
    obtain ⟨d, option, same, takes⟩ := accepts (Table.get?_eq_some_iff.2 member)
    exact ⟨d, (find?_eq_some_iff distinct).2 ⟨option, same⟩, takes⟩

/-- Where texts were read, every option has a value, of its kind and permitted. -/
theorem exists_value (ok : schema.resolve staged = .ok values) (found : schema.find? name = some d) :
    ∃ v, values.get? name = some v ∧ v.kind = d.kind ∧
      (staged.get? name).elim (v = d.default) fun raw => d.Takes raw v := by
  obtain ⟨read, staged_ok, rfl⟩ := map_eq_ok_iff.1 ok
  rw [get?_complete]
  obtain ⟨unstaged, unread⟩ | ⟨raw, d', v, given, found', value, there⟩ := get?_of_readStaged staged_ok name
  · exact ⟨d.default, by simp [unread, found], rfl, by simp [unstaged]⟩
  · obtain rfl : d = d' := Option.some.inj (found.symm.trans found')
    have takes := Definition.read_eq_ok_iff.1 value
    exact ⟨v, by simp [there], takes.kind_eq, by simpa [given] using takes⟩

theorem mem_keys_iff (distinct : (schema.map Definition.name).Nodup)
    (ok : schema.resolve staged = .ok values) : name ∈ values.keys ↔ name ∈ schema.map Definition.name := by
  rw [← Table.contains_iff, Table.contains, Option.isSome_iff_exists, List.mem_map]
  constructor
  · rintro ⟨v, there⟩
    obtain ⟨d, member, same, _⟩ := permits_of_resolve ok there
    exact ⟨d, member, same⟩
  · rintro ⟨d, member, same⟩
    obtain ⟨v, there, _⟩ := exists_value ok ((find?_eq_some_iff distinct).2 ⟨member, same⟩)
    exact ⟨v, there⟩

theorem assigns_of_resolve (distinct : (schema.map Definition.name).Nodup)
    (ok : schema.resolve staged = .ok values) : schema.Assigns staged.get? values where
  names := (List.perm_ext_iff_of_nodup values.distinct distinct).2 fun _ => mem_keys_iff distinct ok
  value := by
    intro d member
    exact exists_value ok ((find?_eq_some_iff distinct).2 ⟨member, rfl⟩)

end Schema
end FrameFlow.Setting
