import FrameFlow.Filter.BuiltIn
import FrameFlow.Proofs.Outcome

/-! The options that filters are set up with. Each value is the default of its option or met the
constraints on it, and the built-in filters keep the formats that they read from theirs. -/
namespace FrameFlow

namespace Setting

/-- What an option may be: its default, or a value that meets the constraints. -/
def Definition.Permits (d : Definition) (v : Value) : Prop :=
  v = d.default ∨ ∀ c ∈ d.constraints, c.allows v

/-- Every value belongs to an option of the schema, which permits it. -/
def Schema.Permits (schema : Schema) (values : Values) : Prop :=
  ∀ ⦃name : String⦄ ⦃v : Value⦄, values.get? name = some v →
    ∃ d ∈ schema, d.name = name ∧ d.Permits v

/-- What each step keeps, a checked fold keeps. -/
theorem foldlM_induction {ε α β : Type} {P : β → Prop} {f : β → α → Except ε β} {all : List α}
    (step : ∀ (b : β) (a : α), a ∈ all → P b → ∀ b', f b a = .ok b' → P b') {before after : β}
    (start : P before) (ok : all.foldlM f before = .ok after) : P after := by
  induction all generalizing before with
  | nil => exact Except.ok.inj ok ▸ start
  | cons a rest ih =>
    obtain ⟨b, here, later⟩ := bind_eq_ok_iff.1 (List.foldlM_cons.symm.trans ok)
    exact ih (fun b a member => step b a (List.mem_cons_of_mem _ member))
      (step before a List.mem_cons_self start b here) later

theorem allows_of_check {c : Constraint} {v : Value} {u : Unit} (ok : c.check v = .ok u) :
    c.allows v :=
  guard_eq_ok_iff.1 ok

theorem allows_of_forM {constraints : List Constraint} {v : Value} {u : Unit}
    (ok : constraints.forM (fun c => c.check v) = .ok u) : ∀ c ∈ constraints, c.allows v := by
  induction constraints with
  | nil => simp
  | cons c rest ih =>
    obtain ⟨_, here, later⟩ := bind_eq_ok_iff.1 (List.forM_cons.symm.trans ok)
    exact List.forall_mem_cons.2 ⟨allows_of_check here, ih later⟩

theorem Definition.permits_of_read {d : Definition} {raw : String} {v : Value}
    (ok : d.read raw = .ok v) : d.Permits v := by
  unfold Definition.read at ok
  simp only [mapError_eq_ok_iff, bind_eq_ok_iff, pure_eq_ok_iff] at ok
  obtain ⟨value, _, _, checked, rfl⟩ := ok
  exact .inr (allows_of_forM checked)

namespace Schema

variable {schema : Schema} {values : Values} {d : Definition} {v : Value}

theorem permits_empty (schema : Schema) : schema.Permits .empty := by
  intro name v there
  simp at there

theorem Permits.put (permits : schema.Permits values) (member : d ∈ schema)
    (permitted : d.Permits v) : schema.Permits (values.put d.name v) := by
  intro name w there
  rw [Table.get?_put] at there
  split at there
  · next same =>
    obtain rfl := Option.some.inj there
    exact ⟨d, member, same.symm, permitted⟩
  · exact permits there

theorem permits_of_readStaged {staged : Table String}
    (ok : schema.readStaged staged = .ok values) : schema.Permits values := by
  refine foldlM_induction (fun before entry _ permits after read => ?_) (permits_empty schema) ok
  dsimp only at read
  split at read
  · simp at read
  · next d found =>
    obtain ⟨v, value, rfl⟩ := map_eq_ok_iff.1 read
    have name : d.name = entry.1 := by simpa using List.find?_some found
    exact name ▸ permits.put (List.mem_of_find?_eq_some found) (Definition.permits_of_read value)

theorem Permits.complete (permits : schema.Permits values) :
    schema.Permits (schema.complete values) := by
  refine List.foldlRecOn schema _ permits fun before permits d member => ?_
  split
  · exact permits
  · exact permits.put member (.inl rfl)

/-- Options are only ever taken with values that are permitted. -/
theorem permits_of_resolve {staged : Table String} (ok : schema.resolve staged = .ok values) :
    schema.Permits values := by
  obtain ⟨read, staged, rfl⟩ := map_eq_ok_iff.1 ok
  exact (permits_of_readStaged staged).complete

/-- Where texts were read, each gave its option a value, and nothing else has one. -/
theorem get?_of_readStaged {staged : Table String} (ok : schema.readStaged staged = .ok values)
    (name : String) :
    (staged.get? name = none ∧ values.get? name = none) ∨
      ∃ raw d v, staged.get? name = some raw ∧ schema.find? name = some d ∧ d.read raw = .ok v ∧
        values.get? name = some v := by
  obtain ⟨entries, distinct⟩ := staged
  unfold readStaged at ok
  simp only [Table.get?]
  induction entries using List.reverseRecOn generalizing values with
  | nil =>
    obtain rfl := pure_eq_ok_iff.1 ok
    exact .inl ⟨rfl, rfl⟩
  | append_singleton entries entry ih =>
    obtain ⟨key, raw⟩ := entry
    rw [List.map_append, List.nodup_append] at distinct
    obtain ⟨distinct, -, apart⟩ := distinct
    rw [List.foldlM_append] at ok
    obtain ⟨before, first, last⟩ := bind_eq_ok_iff.1 ok
    simp only [List.foldlM_cons, List.foldlM_nil, bind_pure] at last
    cases found : schema.find? key with
    | none => simp [found] at last
    | some d =>
      simp only [found] at last
      obtain ⟨v, read, rfl⟩ := map_eq_ok_iff.1 last
      have put := Table.get?_put before key name v
      rw [Table.get?] at put
      rw [put, List.find?_append]
      by_cases same : name = key
      · subst same
        have new : entries.find? (·.1 == name) = none := by
          refine List.find?_eq_none.2 fun entry mem => ?_
          simpa using apart entry.1 (List.mem_map_of_mem mem) name (by simp)
        exact .inr ⟨raw, d, v, by simp [new], found, read, by simp⟩
      · simpa [same, Ne.symm same, Table.get?] using ih distinct first

theorem get?_complete (schema : Schema) (values : Values) (name : String) :
    (schema.complete values).get? name =
      (values.get? name).or ((schema.find? name).map Definition.default) := by
  unfold complete
  induction schema generalizing values with
  | nil => simp [find?]
  | cons d rest ih =>
    rw [List.foldl_cons, ih]
    by_cases same : d.name = name
    · subst same
      cases there : values.get? d.name with
      | none => simp [find?, Table.contains, there, Table.get?_put]
      | some v => simp [find?, Table.contains, there]
    · have unchanged : (if values.contains d.name then values
          else values.put d.name d.default).get? name = values.get? name := by
        split
        · rfl
        · rw [Table.get?_put, if_neg (Ne.symm same)]
      simp [find?, same, unchanged]

/-- An option has the value that its text gives it, or else its default; no other name has a value. -/
theorem get?_of_resolve {staged : Table String} (ok : schema.resolve staged = .ok values)
    (name : String) :
    values.get? name = (schema.find? name).bind fun d =>
      (staged.get? name).elim (some d.default) fun raw => (d.read raw).toOption := by
  obtain ⟨read, staged_ok, rfl⟩ := map_eq_ok_iff.1 ok
  rw [get?_complete]
  obtain ⟨unstaged, unread⟩ | ⟨raw, d, v, given, found, value, there⟩ :=
    get?_of_readStaged staged_ok name
  · cases schema.find? name <;> simp [unstaged, unread]
  · simp [given, found, value, there, Except.toOption]

end Schema

theorem get?_of_integer {values : Values} {name : String} {n : Int64}
    (ok : values.integer name = .ok n) : values.get? name = some (.integer n) := by
  unfold Values.integer Values.requireAs Values.require at ok
  obtain ⟨v, found, read⟩ := bind_eq_ok_iff.1 ok
  split at found
  · next v' there =>
    obtain rfl := Except.ok.inj found
    cases v' with
    | integer m =>
      obtain rfl : m = n := by simpa [Value.integer?] using read
      exact there
    | _ => simp [Value.integer?, throw, throwThe, MonadExceptOf.throw] at read
  · simp at found

/-- The value of an integer option, zero where there is none. -/
def Values.count (values : Values) (name : String) : Int :=
  match values.integer name with
  | .ok n => n.toInt
  | .error _ => 0

end Setting

open Setting (Values)

/-- The sample rate and the number of channels. -/
def Format.numbers (f : Format) : Int × Int := (f.rate.toNat, f.channels.toNat)

theorem Format.numbers_inj {f f' : Format} : f.numbers = f'.numbers ↔ f = f' := by
  constructor
  · intro same
    obtain ⟨rate, channels⟩ := Prod.mk.inj same
    cases f
    cases f'
    exact Format.mk.injEq .. ▸ ⟨UInt32.toNat_inj.1 (Int.ofNat.inj rate),
      UInt16.toNat_inj.1 (Int.ofNat.inj channels)⟩
  · rintro rfl
    rfl

/-- The sample rate and the number of channels among options. -/
def Setting.Values.numbers (values : Values) : Int × Int :=
  (values.count "sample_rate", values.count "channels")

/-- A format has the numbers that were read for it. -/
theorem Format.numbers_of_ofValues {values : Values} {f : Format}
    (ok : Format.ofValues values = .ok f) : f.numbers = values.numbers := by
  unfold Format.ofValues at ok
  obtain ⟨rate, rate_read, ok⟩ := bind_eq_ok_iff.1 ok
  obtain ⟨channels, channels_read, ok⟩ := bind_eq_ok_iff.1 ok
  simp only [check_eq_ok_iff, pure_eq_ok_iff] at ok
  obtain ⟨rate_fits, channels_fit, rfl⟩ := ok
  simp only [numbers, Setting.Values.numbers, Setting.Values.count, rate_read, channels_read,
    UInt32.toNat_ofNat', UInt16.toNat_ofNat', Prod.mk.injEq]
  omega

/-- Numbers that are as asked for, where zero asks for nothing. -/
def Meets (asked given : Int × Int) : Prop :=
  (asked.1 ≠ 0 → given.1 = asked.1) ∧ (asked.2 ≠ 0 → given.2 = asked.2)

theorem meets_numbers_iff {required f : Format} : Meets required.numbers f.numbers ↔
    (required.rate ≠ 0 → f.rate = required.rate) ∧
      (required.channels ≠ 0 → f.channels = required.channels) := by
  simp only [Meets, Format.numbers, ne_eq, Int.natCast_inj, Int.natCast_eq_zero,
    ← UInt32.toNat_inj, ← UInt16.toNat_inj, UInt32.toNat_zero, UInt16.toNat_zero]

namespace BuiltIn

/-- What setting up makes of the filters of each kind. -/
inductive Made (values : Values) : Kind BuiltIn → BuiltIn → Prop where
  | buffer {format : Format} (read : Format.ofValues values = .ok format) :
      Made values (Buffer.kind.map .buffer) (.buffer ⟨format, none⟩)
  | sink {required : Format} (read : Format.ofValues values = .ok required) :
      Made values (Sink.kind.map .sink) (.sink ⟨required, .empty, false⟩)
  | passThrough : Made values (PassThrough.kind.map .passThrough) (.passThrough {})
  | volume (v : Volume) : Made values (Volume.kind.map .volume) (.volume v)
  | head (h : Head) : Made values (Head.kind.map .head) (.head h)
  | split (s : Split) : Made values (Split.kind.map .split) (.split s)
  | mixer {m : Mixer} {lanes : Nat} (read : padCount values "inputs" = .ok lanes)
      (idle : m.lanes = Mixer.idle lanes) : Made values (Mixer.kind.map .mixer) (.mixer m)

theorem made_of_setUp {values : Values} {kind : Kind BuiltIn} {f : BuiltIn} (member : kind ∈ kinds)
    (set : Filter.setUp kind.initial values = .ok f) : Made values kind f := by
  simp only [kinds, List.mem_cons, List.not_mem_nil, or_false] at member
  rcases member with rfl | rfl | rfl | rfl | rfl | rfl | rfl
  · obtain ⟨b, made, rfl⟩ := map_eq_ok_iff (f := BuiltIn.buffer).1 set
    obtain ⟨format, read, rfl⟩ := map_eq_ok_iff.1 made
    exact .buffer read
  · obtain ⟨s, made, rfl⟩ := map_eq_ok_iff (f := BuiltIn.sink).1 set
    obtain ⟨required, read, rfl⟩ := map_eq_ok_iff.1 made
    exact .sink read
  · obtain rfl : BuiltIn.passThrough {} = f := Except.ok.inj set
    exact .passThrough
  · obtain ⟨v, _, rfl⟩ := map_eq_ok_iff (f := BuiltIn.volume).1 set
    exact .volume v
  · obtain ⟨h, _, rfl⟩ := map_eq_ok_iff (f := BuiltIn.head).1 set
    exact .head h
  · obtain ⟨s, _, rfl⟩ := map_eq_ok_iff (f := BuiltIn.split).1 set
    exact .split s
  · obtain ⟨m, made, rfl⟩ := map_eq_ok_iff (f := BuiltIn.mixer).1 set
    replace made : Mixer.setUp values = .ok m := made
    unfold Mixer.setUp at made
    simp only [bind_eq_ok_iff, pure_eq_ok_iff] at made
    obtain ⟨lanes, read, _, _, _, _, rfl⟩ := made
    exact .mixer read rfl

/-- A mixer is never set up without an input. -/
theorem lanes_ne_zero {values : Values} {lanes : Nat}
    (permits : Mixer.kind.options.Permits values) (read : padCount values "inputs" = .ok lanes) :
    lanes ≠ 0 := by
  unfold padCount at read
  obtain ⟨count, found, read⟩ := bind_eq_ok_iff.1 read
  rw [check_eq_ok_iff, pure_eq_ok_iff] at read
  obtain ⟨positive, rfl⟩ := read
  obtain ⟨d, member, name, permitted⟩ := permits (Setting.get?_of_integer found)
  intro none
  have zero : count = 0 := Int64.toInt_inj.1 (by simp; omega)
  subst zero
  simp only [Mixer.kind, List.mem_cons, List.not_mem_nil, or_false] at member
  rcases member with rfl | rfl | rfl
  · rcases permitted with default | allowed
    · exact absurd (Setting.Value.integer.inj default) (by decide)
    · have refused : (Setting.Constraint.range 2 16).allows (.integer 0) = false := by
        decide +kernel
      simp [refused] at allowed
  · simp at name
  · simp at name

end BuiltIn
end FrameFlow
