import FrameFlow.Proofs.Diagnosis.Plan
import FrameFlow.Proofs.Filter.Options

/-! How built-in filters negotiate. Whatever a filter does with frames, it has one format on all its
pads; a buffer brings its own, a sink may ask for certain numbers, and the others take any. -/
namespace FrameFlow

variable {formats answer : List Format}

theorem forward_eq_ok_iff {outputs : Nat} : forward outputs formats = .ok answer ↔
    ∃ f rest, formats = f :: rest ∧ answer = List.replicate outputs f := by
  cases formats with
  | nil => simp [forward]
  | cons f rest => simp [forward, eq_comm]

theorem Mixer.accept_eq_ok_iff : accept formats = .ok answer ↔
    ∃ f rest, formats = f :: rest ∧ (∀ x ∈ rest, x = f) ∧ answer = [f] := by
  cases formats with
  | nil => simp [accept]
  | cons f rest =>
    have same : ((f :: rest).zipIdx.find? fun entry => entry.1 ≠ f) = none ↔ ∀ x ∈ rest, x = f := by
      rw [List.find?_eq_none]
      constructor
      · intro none x member
        obtain ⟨pad, there⟩ := List.mem_iff_getElem?.1 (List.mem_cons_of_mem f member)
        simpa using none (x, pad) (List.mem_zipIdx_iff_getElem?.2 there)
      · rintro every ⟨x, pad⟩ member
        rcases List.mem_cons.1 (List.fst_mem_of_mem_zipIdx member) with rfl | member
        · simp
        · simp [every x member]
    unfold accept
    simp only [List.cons.injEq]
    split
    · next other found =>
      simp only [reduceCtorEq, false_iff]
      rintro ⟨f', rest', ⟨rfl, rfl⟩, every, -⟩
      exact Option.some_ne_none _ (found.symm.trans (same.2 every))
    · next found =>
      have every := same.1 found
      simp only [Except.ok.injEq]
      constructor
      · rintro rfl
        exact ⟨f, rest, ⟨rfl, rfl⟩, every, rfl⟩
      · rintro ⟨f', rest', ⟨rfl, rfl⟩, -, rfl⟩
        rfl

theorem Sink.accept_eq_ok_iff {s : Sink} : s.accept formats = .ok answer ↔
    ∃ f rest, formats = f :: rest ∧ Meets s.required.numbers f.numbers ∧ answer = [] := by
  cases formats with
  | nil => simp [accept]
  | cons f rest =>
    have met : (∃ f' rest', f :: rest = f' :: rest' ∧ Meets s.required.numbers f'.numbers ∧
        answer = []) ↔ Meets s.required.numbers f.numbers ∧ answer = [] := by
      constructor
      · rintro ⟨f', rest', same, meets⟩
        obtain ⟨rfl, rfl⟩ := List.cons.inj same
        exact meets
      · exact fun meets => ⟨f, rest, rfl, meets⟩
    rw [met, meets_numbers_iff]
    dsimp only [accept]
    by_cases rate : s.required.rate ≠ 0 ∧ f.rate ≠ s.required.rate
    · simp [rate]
    · by_cases channels : s.required.channels ≠ 0 ∧ f.channels ≠ s.required.channels
      · simp [rate, channels]
      · rw [if_neg rate, if_neg channels]
        simp only [not_and, not_not] at rate channels
        simp only [Except.ok.injEq]
        exact ⟨fun none => ⟨⟨rate, channels⟩, none.symm⟩, fun h => h.2.symm⟩

namespace BuiltIn

/-- What a filter makes of a format on its pads. -/
def Suits (format : Format) : BuiltIn → Prop
  | buffer b => b.format = format
  | sink s => Meets s.required.numbers format.numbers
  | _ => True

/-- No filter answers more or fewer formats than it has outputs. -/
theorem length_of_negotiate {f : BuiltIn} (ok : Filter.negotiate f formats = .ok answer) :
    answer.length = (Filter.outputs f).length := by
  have forwarded : ∀ {outputs : Nat}, forward outputs formats = .ok answer →
      answer.length = outputs := by
    intro outputs ok
    obtain ⟨f, rest, rfl, rfl⟩ := forward_eq_ok_iff.1 ok
    exact List.length_replicate
  cases f with
  | buffer b =>
    obtain rfl : [b.format] = answer := Except.ok.inj ok
    rfl
  | sink s =>
    obtain ⟨f, rest, rfl, _, rfl⟩ := Sink.accept_eq_ok_iff.1 ok
    rfl
  | passThrough p => exact forwarded ok
  | volume v => exact forwarded ok
  | head h => exact forwarded ok
  | split s => exact forwarded ok
  | mixer m =>
    obtain ⟨f, rest, rfl, _, rfl⟩ := Mixer.accept_eq_ok_iff.1 ok
    rfl

/-- A filter agrees to formats on its inputs just where they are all one format that suits it, and
then answers the same format for each output. -/
theorem negotiate_eq_ok_iff {f : BuiltIn} (count : formats.length = (Filter.inputs f).length)
    (fed : Filter.inputs f = [] → ∃ b, f = .buffer b) :
    Filter.negotiate f formats = .ok answer ↔ ∃ format, (∀ x ∈ formats, x = format) ∧
      f.Suits format ∧ answer = List.replicate (Filter.outputs f).length format := by
  have one : ∀ {pad : Pad}, Filter.inputs f = [pad] → ∃ x, formats = [x] := fun inputs =>
    List.length_eq_one_iff.1 (count.trans (congrArg List.length inputs))
  have forwarded : ∀ {pad : Pad}, Filter.inputs f = [pad] → (∀ format, f.Suits format) →
      (forward (Filter.outputs f).length formats = .ok answer ↔ ∃ format, (∀ x ∈ formats, x = format) ∧
        f.Suits format ∧ answer = List.replicate (Filter.outputs f).length format) := by
    intro pad inputs any
    obtain ⟨x, rfl⟩ := one inputs
    simp [forward_eq_ok_iff, any]
  cases f with
  | buffer b =>
    obtain rfl : formats = [] := List.length_eq_zero_iff.1 count
    show Except.ok [b.format] = .ok answer ↔ ∃ format, _ ∧ b.format = format ∧ answer = [format]
    simp [eq_comm]
  | sink s =>
    obtain ⟨x, rfl⟩ := one rfl
    show s.accept [x] = .ok answer ↔
      ∃ format : Format, _ ∧ Meets s.required.numbers format.numbers ∧ answer = []
    rw [Sink.accept_eq_ok_iff]
    simp
  | passThrough p => exact forwarded rfl fun _ => trivial
  | volume v => exact forwarded rfl fun _ => trivial
  | head h => exact forwarded rfl fun _ => trivial
  | split s => exact forwarded rfl fun _ => trivial
  | mixer m =>
    show Mixer.accept formats = .ok answer ↔ ∃ format, _ ∧ True ∧ answer = [format]
    rw [Mixer.accept_eq_ok_iff]
    cases formats with
    | nil =>
      obtain ⟨b, other⟩ := fed (List.length_eq_zero_iff.1 count.symm)
      simp at other
    | cons f rest => simp

namespace Made

variable {values : Setting.Values} {kind : Kind BuiltIn} {f : BuiltIn}

/-- Only a buffer is set up without inputs. -/
theorem exists_buffer (made : Made values kind f) (permits : kind.options.Permits values)
    (unfed : Filter.inputs f = []) : kind.name = "buffer" ∧ ∃ b, f = .buffer b := by
  cases made with
  | buffer => exact ⟨rfl, _, rfl⟩
  | sink => simp [Filter.inputs, inputs] at unfed
  | passThrough => simp [Filter.inputs, inputs] at unfed
  | volume => simp [Filter.inputs, inputs] at unfed
  | head => simp [Filter.inputs, inputs] at unfed
  | split => simp [Filter.inputs, inputs] at unfed
  | @mixer m lanes read idle =>
    have none : (Pad.numbered "input" m.lanes.length).length = 0 := congrArg List.length unfed
    rw [Pad.length_numbered, idle, Mixer.idle, List.length_replicate] at none
    exact absurd none (lanes_ne_zero permits read)

/-- Only a buffer is a source. -/
theorem outputs_ne_nil (made : Made values kind f) (source : kind.role = .source) :
    Filter.outputs f ≠ [] := by
  cases made with
  | buffer => simp [Filter.outputs, outputs]
  | _ => exact absurd source (by decide)

theorem exists_sink (made : Made values kind f) (sink : kind.role = .sink) :
    kind.name = "buffersink" ∧ ∃ s, f = .sink s := by
  cases made with
  | sink => exact ⟨rfl, _, rfl⟩
  | _ => exact absurd sink (by decide)

/-- Whether a format suits a filter depends on its options alone. -/
theorem suits_iff (made : Made values kind f) {format : Format} : f.Suits format ↔
    (kind.name = "buffer" → format.numbers = values.numbers) ∧
      (kind.name = "buffersink" → Meets values.numbers format.numbers) := by
  cases made with
  | @buffer own read =>
    rw [← Format.numbers_of_ofValues read, Format.numbers_inj]
    simp [Suits, Kind.map, Buffer.kind, eq_comm]
  | @sink required read =>
    rw [← Format.numbers_of_ofValues read]
    simp [Suits, Kind.map, Sink.kind]
  | passThrough => simp [Suits, Kind.map, PassThrough.kind]
  | volume => simp [Suits, Kind.map, Volume.kind]
  | head => simp [Suits, Kind.map, Head.kind]
  | split => simp [Suits, Kind.map, Split.kind]
  | mixer => simp [Suits, Kind.map, Mixer.kind]

end Made

end BuiltIn

namespace Node

variable {n : Node BuiltIn}

theorem IsSetUp.made (setUp : n.IsSetUp) (kind : n.kind ∈ BuiltIn.kinds) :
    BuiltIn.Made n.applied n.kind n.filter :=
  BuiltIn.made_of_setUp kind setUp.filter

theorem IsSetUp.permits (setUp : n.IsSetUp) : n.kind.options.Permits n.applied := by
  obtain ⟨staged, resolved⟩ := setUp.resolved
  exact Setting.Schema.permits_of_resolve resolved

theorem mem_formatsIn_iff {formats : Nat → Format} {format : Format} :
    format ∈ n.formatsIn formats ↔ ∃ pad k, n.link? .input pad = some k ∧ formats k = format := by
  simp only [formatsIn, List.mem_filterMap, Option.map_eq_some_iff, link?, Option.bind_eq_some_iff]
  constructor
  · rintro ⟨p, member, k, noted, same⟩
    obtain ⟨pad, at_pad⟩ := List.mem_iff_getElem?.1 member
    exact ⟨pad, k, ⟨p, at_pad, noted⟩, same⟩
  · rintro ⟨pad, k, ⟨p, at_pad, noted⟩, same⟩
    exact ⟨p, List.mem_of_getElem? at_pad, k, noted, same⟩

theorem IsLinked.length_formatsIn (linked : n.IsLinked) (formats : Nat → Format) :
    (n.formatsIn formats).length = n.inputs.length := by
  refine List.filterMap_length_eq_length.2 fun p member => ?_
  obtain ⟨pad, at_pad⟩ := List.mem_iff_getElem?.1 member
  have noted := linked .input pad (List.getElem?_eq_some_iff.1 at_pad).1
  simpa [link?, at_pad] using noted

/-- Formats are as a linked node answers just where its links carry one format that suits its
filter. -/
theorem IsSetUp.answers_iff (setUp : n.IsSetUp) (live : n.isLive) (kind : n.kind ∈ BuiltIn.kinds)
    (linked : n.IsLinked) {formats : Nat → Format} : n.Answers formats ↔
      ∃ format, (∀ d pad k, n.link? d pad = some k → formats k = format) ∧
        n.filter.Suits format := by
  have made := setUp.made kind
  have answered : ∀ answer, n.negotiate (n.formatsIn formats) = .ok answer ↔ ∃ format,
      (∀ x ∈ n.formatsIn formats, x = format) ∧ n.filter.Suits format ∧
        answer = List.replicate n.outputs.length format := by
    intro answer
    rw [negotiate, if_pos live, setUp.outputs_length]
    exact BuiltIn.negotiate_eq_ok_iff ((linked.length_formatsIn formats).trans setUp.inputs_length)
      fun unfed => (made.exists_buffer setUp.permits unfed).2
  constructor
  · rintro ⟨answer, ok, _, out⟩
    obtain ⟨format, same, suits, rfl⟩ := (answered answer).1 ok
    refine ⟨format, fun d pad k noted => ?_, suits⟩
    cases d with
    | input => exact same _ (mem_formatsIn_iff.2 ⟨pad, k, noted, rfl⟩)
    | output => exact List.eq_of_mem_replicate (List.mem_of_getElem? (out pad k noted))
  · rintro ⟨format, same, suits⟩
    refine ⟨List.replicate n.outputs.length format, (answered _).2 ⟨format, ?_, suits, rfl⟩,
      List.length_replicate, fun pad k noted => ?_⟩
    · intro x member
      obtain ⟨pad, k, noted, rfl⟩ := mem_formatsIn_iff.1 member
      exact same .input pad k noted
    · obtain ⟨p, outlet, _⟩ := Option.bind_eq_some_iff.1 noted
      rw [same .output pad k noted,
        List.getElem?_replicate_of_lt (List.getElem?_eq_some_iff.1 outlet).1]

end Node
end FrameFlow
