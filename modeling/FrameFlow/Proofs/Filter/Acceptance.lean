import FrameFlow.Proofs.Binary64.Whole
import FrameFlow.Proofs.Filter.Resolution

/-! Built-in filters take what their schemas accept. A schema compares a whole number as a binary64, which
may be rounded, and a filter puts it into fewer bits. Both have the same bounds, except that no schema keeps
a sample rate from being too large for a format. -/
namespace FrameFlow

namespace Setting

section Bounds

variable {n : Int64} {low high : Nat}

theorem natAbs_toInt_lt (n : Int64) : n.toInt.natAbs < 2 ^ 64 := by
  have := n.le_toInt
  have := n.toInt_lt
  omega

theorem allows_range_iff (low_few : low < 2 ^ 53) (high_few : high < 2 ^ 53) :
    (Constraint.range (.ofNat low) (.ofNat high)).allows (.integer n) ↔ low ≤ n.toInt ∧ n.toInt ≤ high := by
  have below := Binary64.ofInt_lt_ofInt_iff (b := low) (natAbs_toInt_lt n) (by omega)
  have above := Binary64.lt_ofInt_iff (b := high) (natAbs_toInt_lt n) (by omega)
  show (!(decide (Float.ofInt n.toInt < Float.ofInt low) ||
    decide (Float.ofInt high < Float.ofInt n.toInt)) && true) = true ↔ _
  simp [below, above]

theorem allows_positive_iff : Constraint.positive.allows (.integer n) ↔ 0 < n.toInt := by
  have above := Binary64.ofInt_le_ofInt_iff (b := 0) (natAbs_toInt_lt n) (by omega)
  show (!decide (Float.ofInt n.toInt ≤ Float.ofInt 0) && true) = true ↔ _
  simp [above]

theorem allows_nonNegative_iff : Constraint.nonNegative.allows (.integer n) ↔ 0 ≤ n.toInt := by
  have below := Binary64.ofInt_lt_ofInt_iff (b := 0) (natAbs_toInt_lt n) (by omega)
  show (!decide (Float.ofInt n.toInt < Float.ofInt 0) && true) = true ↔ _
  simp [below]

end Bounds

theorem Values.requireAs_eq {values : Values} {α : Type} {kind : Kind} {view : Value → Option α}
    {name : String} {v : Value} {a : α} (there : values.get? name = some v) (seen : view v = some a) :
    values.requireAs kind view name = .ok a := by
  simp only [Values.requireAs, Values.require, there, ok_bind, seen]
  rfl

/-- The value of a whole number's option. -/
def Values.Asks (values : Values) (name : String) (n : Int64) : Prop :=
  values.get? name = some (.integer n)

theorem Values.Asks.integer_eq {values : Values} {name : String} {n : Int64} (asks : values.Asks name n) :
    values.integer name = .ok n :=
  requireAs_eq asks rfl

theorem Values.Asks.unique {values : Values} {name : String} {n m : Int64} (asks : values.Asks name n)
    (other : values.Asks name m) : n = m :=
  Value.integer.inj (Option.some.inj (asks.symm.trans other))

theorem Values.Asks.exists_iff {values : Values} {name : String} {n : Int64} (asks : values.Asks name n)
    {P : Int64 → Prop} : (∃ m, values.Asks name m ∧ P m) ↔ P n := by
  constructor
  · rintro ⟨m, other, holds⟩
    exact asks.unique other ▸ holds
  · exact fun holds => ⟨n, asks, holds⟩

/-- As many pads as an option asks for, from `low` to `high`. -/
def Values.Counts (values : Values) (name : String) (low high : Nat) (pads : List Pad) : Prop :=
  ∃ n, values.Asks name n ∧ pads.length = n.toInt ∧ low ≤ pads.length ∧ pads.length ≤ high

end Setting

open Setting (Values)

section SettingUp

variable {values : Values} {name : String} {n rate channels : Int64}

theorem padCount_eq (asks : values.Asks name n) (counts : 0 ≤ n.toInt) :
    padCount values name = .ok n.toInt.toNat := by
  rw [padCount, asks.integer_eq, ok_bind, if_neg (by omega)]
  rfl

theorem Head.setUp_eq (asks : values.Asks "frames" n) (counts : 0 ≤ n.toInt) :
    Head.setUp values = .ok ⟨n.toInt.toNat⟩ := by
  rw [Head.setUp, asks.integer_eq, ok_bind, if_neg (by omega)]
  rfl

theorem Format.ofValues_of_overrun (rated : values.Asks "sample_rate" rate) (fast : 2 ^ 32 ≤ rate.toInt)
    (shaped : values.Asks "channels" channels) :
    Format.ofValues values =
      .error (.invalidOption "sample_rate" s!"{rate.toInt} does not fit a sample rate") := by
  rw [Format.ofValues, rated.integer_eq, shaped.integer_eq, ok_bind, ok_bind, if_pos (by omega)]
  rfl

theorem Format.exists_ofValues (rated : values.Asks "sample_rate" rate) (runs : 0 ≤ rate.toInt)
    (slow : rate.toInt < 2 ^ 32) (shaped : values.Asks "channels" channels) (sounds : 0 ≤ channels.toInt)
    (few : channels.toInt ≤ 64) :
    ∃ format, Format.ofValues values = .ok format ∧ format.rate.toNat = rate.toInt ∧
      format.channels.toNat = channels.toInt := by
  refine ⟨⟨.ofNat rate.toInt.toNat, .ofNat channels.toInt.toNat⟩, ?_, ?_, ?_⟩
  · rw [Format.ofValues, rated.integer_eq, shaped.integer_eq, ok_bind, ok_bind, if_neg (by omega),
      if_neg (by omega)]
    rfl
  · rw [UInt32.toNat_ofNat']
    omega
  · rw [UInt16.toNat_ofNat']
    omega

end SettingUp

namespace BuiltIn

open Setting (Values Definition Constraint)

/-- Every default meets the constraints on its option. -/
theorem default_allowed : ∀ kind ∈ kinds, ∀ d ∈ kind.options, ∀ c ∈ d.constraints, c.allows d.default := by
  decide +kernel

section Values

variable {kind : Kind BuiltIn} {staged : Table String} {values : Values} {d : Definition} (name : String)

/-- Where texts were read, every option has a value that meets the constraints on it. -/
theorem exists_allowed (member : kind ∈ kinds) (resolved : kind.options.resolve staged = .ok values)
    (found : kind.options.find? name = some d) :
    ∃ v, values.get? name = some v ∧ v.kind = d.kind ∧ ∀ c ∈ d.constraints, c.allows v := by
  obtain ⟨v, there, same, given⟩ := Setting.Schema.exists_value resolved found
  refine ⟨v, there, same, ?_⟩
  cases staged : staged.get? name with
  | none =>
    obtain rfl : v = d.default := by simpa [staged] using given
    exact default_allowed kind member d (List.mem_of_find?_eq_some found)
  | some raw =>
    have takes : d.Takes raw v := by simpa [staged] using given
    exact takes.2

theorem exists_integer (member : kind ∈ kinds) (resolved : kind.options.resolve staged = .ok values)
    (found : kind.options.find? name = some d) (whole : d.kind = .integer) :
    ∃ n, values.Asks name n ∧ ∀ c ∈ d.constraints, c.allows (.integer n) := by
  obtain ⟨v, there, same, allowed⟩ := exists_allowed name member resolved found
  cases v with
  | integer n => exact ⟨n, there, allowed⟩
  | _ => cases same.trans whole

theorem exists_within (low high : Nat) {default : Int64} {description : String} (member : kind ∈ kinds)
    (resolved : kind.options.resolve staged = .ok values)
    (found : kind.options.find? name =
      some ⟨name, .integer default, description, [.range (.ofNat low) (.ofNat high)]⟩)
    (low_few : low < 2 ^ 53) (high_few : high < 2 ^ 53) :
    ∃ n, values.Asks name n ∧ low ≤ n.toInt ∧ n.toInt ≤ high := by
  obtain ⟨n, asks, allowed⟩ := exists_integer name member resolved found rfl
  exact ⟨n, asks, (Setting.allows_range_iff low_few high_few).1 (allowed _ (List.mem_singleton_self _))⟩

end Values

/-- Whether a filter is asked for a sample rate that no format holds. -/
def Overruns (kind : Kind BuiltIn) (values : Values) (rate : Int64) : Prop :=
  (kind.name = "buffer" ∨ kind.name = "buffersink") ∧ values.Asks "sample_rate" rate ∧ 2 ^ 32 ≤ rate.toInt

/-- A filter of a kind with the format and as many pads as were asked for. -/
inductive Fits (values : Values) : Kind BuiltIn → BuiltIn → Prop where
  | buffer {format : Format} (numbers : format.numbers = values.numbers) (runs : 1 ≤ format.rate.toNat)
      (sounds : 1 ≤ format.channels.toNat) (few : format.channels.toNat ≤ 64) :
      Fits values (Buffer.kind.map .buffer) (.buffer ⟨format, none⟩)
  | sink {required : Format} (numbers : required.numbers = values.numbers)
      (few : required.channels.toNat ≤ 64) :
      Fits values (Sink.kind.map .sink) (.sink ⟨required, .empty, false⟩)
  | passThrough : Fits values (PassThrough.kind.map .passThrough) (.passThrough {})
  | volume {gain : Float} (asked : values.get? "volume" = some (.float gain)) :
      Fits values (Volume.kind.map .volume) (.volume ⟨gain.toFloat32⟩)
  | head {h : Head} {frames : Int64} (asked : values.Asks "frames" frames)
      (same : h.remaining = frames.toInt) :
      Fits values (Head.kind.map .head) (.head h)
  | split {s : Split} (one : (Filter.inputs (split s)).length = 1)
      (outputs : values.Counts "outputs" 1 16 (Filter.outputs (split s))) :
      Fits values (Split.kind.map .split) (.split s)
  | mixer {m : Mixer} (inputs : values.Counts "inputs" 2 16 (Filter.inputs (mixer m)))
      (one : (Filter.outputs (mixer m)).length = 1) : Fits values (Mixer.kind.map .mixer) (.mixer m)

/-- What setting up may come to. -/
inductive SetsUp (kind : Kind BuiltIn) (values : Values) : Except Fault BuiltIn → Prop where
  | made {f : BuiltIn} (within : ∀ rate, ¬Overruns kind values rate) (fits : Fits values kind f) :
      SetsUp kind values (.ok f)
  | refused {rate : Int64} (overruns : Overruns kind values rate) :
      SetsUp kind values
        (.error (.invalidOption "sample_rate" s!"{rate.toInt} does not fit a sample rate"))

section Kinds

variable {kind : Kind BuiltIn} {staged : Table String} {values : Values}

theorem not_overruns (apart : kind.name ≠ "buffer" ∧ kind.name ≠ "buffersink") (rate : Int64) :
    ¬Overruns kind values rate :=
  fun overruns => overruns.1.elim apart.1 apart.2

/-- The filters that are set up from a format. -/
theorem setsUp_ofFormat {σ : Type} {settle : Format → σ} {make : σ → BuiltIn} {rate channels : Int64}
    (named : kind.name = "buffer" ∨ kind.name = "buffersink") (rated : values.Asks "sample_rate" rate)
    (runs : 0 ≤ rate.toInt) (shaped : values.Asks "channels" channels) (sounds : 0 ≤ channels.toInt)
    (few : channels.toInt ≤ 64)
    (fits : ∀ {format : Format}, format.numbers = values.numbers → format.rate.toNat = rate.toInt →
      format.channels.toNat = channels.toInt → Fits values kind (make (settle format))) :
    SetsUp kind values (((Format.ofValues values).map settle).map make) := by
  rcases Int.lt_or_le rate.toInt (2 ^ 32) with slow | fast
  · obtain ⟨format, made, same_rate, same_channels⟩ :=
      Format.exists_ofValues rated runs slow shaped sounds few
    rw [made]
    refine .made (fun other overruns => ?_) (fits (Format.numbers_of_ofValues made) same_rate same_channels)
    have beyond := overruns.2.2
    rw [← rated.unique overruns.2.1] at beyond
    omega
  · rw [Format.ofValues_of_overrun rated fast shaped]
    exact .refused ⟨named, rated, fast⟩

theorem setsUp_buffer (resolved : (Buffer.kind.map buffer).options.resolve staged = .ok values) :
    SetsUp (Buffer.kind.map .buffer) values (Filter.setUp (Buffer.kind.map buffer).initial values) := by
  have member : Buffer.kind.map buffer ∈ kinds := by simp [kinds]
  obtain ⟨rate, rated, allowed⟩ := exists_integer "sample_rate" member resolved rfl rfl
  obtain ⟨channels, shaped, sounds, few⟩ :=
    exists_within "channels" 1 64 member resolved rfl (by decide) (by decide)
  have runs := Setting.allows_positive_iff.1 (allowed _ (List.mem_singleton_self _))
  refine setsUp_ofFormat (.inl rfl) rated (by omega) shaped (by omega) (by omega) ?_
  intro format numbers same_rate same_channels
  exact .buffer numbers (by omega) (by omega) (by omega)

theorem setsUp_sink (resolved : (Sink.kind.map sink).options.resolve staged = .ok values) :
    SetsUp (Sink.kind.map .sink) values (Filter.setUp (Sink.kind.map sink).initial values) := by
  have member : Sink.kind.map sink ∈ kinds := by simp [kinds]
  obtain ⟨rate, rated, allowed⟩ := exists_integer "sample_rate" member resolved rfl rfl
  obtain ⟨channels, shaped, sounds, few⟩ :=
    exists_within "channels" 0 64 member resolved rfl (by decide) (by decide)
  have runs := Setting.allows_nonNegative_iff.1 (allowed _ (List.mem_singleton_self _))
  refine setsUp_ofFormat (.inr rfl) rated runs shaped (by omega) (by omega) ?_
  intro format numbers same_rate same_channels
  exact .sink numbers (by omega)

theorem exists_volume (resolved : (Volume.kind.map volume).options.resolve staged = .ok values) :
    ∃ gain, values.get? "volume" = some (.float gain) ∧
      Filter.setUp (Volume.kind.map volume).initial values = .ok (volume ⟨gain.toFloat32⟩) := by
  obtain ⟨v, there, same, _⟩ := exists_allowed "volume" (by simp [kinds]) resolved rfl
  cases v with
  | float gain =>
    have read : values.number "volume" = .ok gain := Values.requireAs_eq there rfl
    refine ⟨gain, there, ?_⟩
    show ((values.number "volume").map _).map _ = _
    rw [read]
    rfl
  | _ => cases same

theorem setsUp_volume (resolved : (Volume.kind.map volume).options.resolve staged = .ok values) :
    SetsUp (Volume.kind.map .volume) values (Filter.setUp (Volume.kind.map volume).initial values) := by
  obtain ⟨gain, there, set⟩ := exists_volume resolved
  rw [set]
  exact .made (not_overruns (by decide)) (.volume there)

theorem exists_head (resolved : (Head.kind.map head).options.resolve staged = .ok values) :
    ∃ frames, values.Asks "frames" frames ∧ 0 ≤ frames.toInt ∧
      Filter.setUp (Head.kind.map head).initial values = .ok (head ⟨frames.toInt.toNat⟩) := by
  obtain ⟨frames, asks, allowed⟩ := exists_integer "frames" (by simp [kinds]) resolved rfl rfl
  have counts := Setting.allows_nonNegative_iff.1 (allowed _ (List.mem_singleton_self _))
  refine ⟨frames, asks, counts, ?_⟩
  show (Head.setUp values).map _ = _
  rw [Head.setUp_eq asks counts]
  rfl

theorem setsUp_head (resolved : (Head.kind.map head).options.resolve staged = .ok values) :
    SetsUp (Head.kind.map .head) values (Filter.setUp (Head.kind.map head).initial values) := by
  obtain ⟨frames, asks, counts, set⟩ := exists_head resolved
  rw [set]
  exact .made (not_overruns (by decide)) (.head asks (Int.toNat_of_nonneg counts))

theorem setsUp_split (resolved : (Split.kind.map split).options.resolve staged = .ok values) :
    SetsUp (Split.kind.map .split) values (Filter.setUp (Split.kind.map split).initial values) := by
  obtain ⟨n, asks, low, high⟩ :=
    exists_within "outputs" 1 16 (by simp [kinds]) resolved rfl (by decide)
      (by decide)
  show SetsUp _ _ (((padCount values "outputs").map _).map _)
  rw [padCount_eq asks (by omega)]
  refine .made (not_overruns (by decide)) (.split rfl ⟨n, asks, ?_⟩)
  have count : (Filter.outputs (split ⟨n.toInt.toNat⟩)).length = n.toInt.toNat := Pad.length_numbered ..
  omega

/-- A mixer has as many lanes as were asked for, and mixes how and for as long as it was asked to. -/
theorem exists_mixer (resolved : (Mixer.kind.map mixer).options.resolve staged = .ok values) :
    ∃ n word normalize, (values.Asks "inputs" n ∧ 2 ≤ n.toInt ∧ n.toInt ≤ 16) ∧
      values.get? "duration" = some (.text word) ∧ values.get? "normalize" = some (.boolean normalize) ∧
      Filter.setUp (Mixer.kind.map mixer).initial values =
        .ok (mixer ⟨if word = "shortest" then .shortest else .longest, normalize,
          Mixer.idle n.toInt.toNat⟩) := by
  have member : Mixer.kind.map mixer ∈ kinds := by simp [kinds]
  obtain ⟨n, asks, low, high⟩ :=
    exists_within "inputs" 2 16 member resolved rfl (by decide) (by decide)
  obtain ⟨v, there, same, _⟩ := exists_allowed "duration" member resolved rfl
  obtain ⟨v', there', same', _⟩ := exists_allowed "normalize" member resolved rfl
  obtain ⟨word, rfl⟩ : ∃ word, v = .text word := by
    cases v with
    | text word => exact ⟨word, rfl⟩
    | _ => cases same
  obtain ⟨normalize, rfl⟩ : ∃ normalize, v' = .boolean normalize := by
    cases v' with
    | boolean normalize => exact ⟨normalize, rfl⟩
    | _ => cases same'
  refine ⟨n, word, normalize, ⟨asks, low, high⟩, there, there', ?_⟩
  show (Mixer.setUp values).map _ = _
  rw [Mixer.setUp, padCount_eq asks (by omega), ok_bind]
  have read : values.text "duration" = .ok word := Values.requireAs_eq there rfl
  have read' : values.boolean "normalize" = .ok normalize := Values.requireAs_eq there' rfl
  rw [read, ok_bind, read', ok_bind]
  rfl

theorem setsUp_mixer (resolved : (Mixer.kind.map mixer).options.resolve staged = .ok values) :
    SetsUp (Mixer.kind.map .mixer) values (Filter.setUp (Mixer.kind.map mixer).initial values) := by
  obtain ⟨n, word, normalize, ⟨asks, low, high⟩, _, _, set⟩ := exists_mixer resolved
  rw [set]
  refine .made (not_overruns (by decide)) (.mixer ⟨n, asks, ?_⟩ rfl)
  have pads (duration : MixDuration) :
      (Filter.inputs (mixer ⟨duration, normalize, Mixer.idle n.toInt.toNat⟩)).length = n.toInt.toNat :=
    (Pad.length_numbered ..).trans List.length_replicate
  rw [pads]
  omega

/-- Built-in filters are set up from every set of options that their schema accepts, with as many pads
as were asked for. Only a sample rate may be refused, by the two kinds that have one. -/
theorem setUp_of_resolve (member : kind ∈ kinds) (resolved : kind.options.resolve staged = .ok values) :
    SetsUp kind values (Filter.setUp kind.initial values) := by
  simp only [kinds, List.mem_cons, List.not_mem_nil, or_false] at member
  rcases member with rfl | rfl | rfl | rfl | rfl | rfl | rfl
  · exact setsUp_buffer resolved
  · exact setsUp_sink resolved
  · exact .made (not_overruns (by decide)) .passThrough
  · exact setsUp_volume resolved
  · exact setsUp_head resolved
  · exact setsUp_split resolved
  · exact setsUp_mixer resolved

/-- A sample rate one too large for a format, with blanks, a sign and a leading zero. -/
def pastRates : Table String := .ofList [("sample_rate", " +4294967296 "), ("channels", "064")]

theorem refused_of_pastRates : ∃ values, Buffer.kind.map buffer ∈ kinds ∧
    (Buffer.kind.map buffer).options.resolve pastRates = .ok values ∧
    SetsUp (Buffer.kind.map buffer) values (Filter.setUp (Buffer.kind.map buffer).initial values) ∧
    Overruns (Buffer.kind.map buffer) values 4294967296 := by
  have member : Buffer.kind.map buffer ∈ kinds := by simp [kinds]
  have read : ((Buffer.kind.map buffer).options.resolve pastRates >>= fun values =>
      values.integer "sample_rate") = .ok 4294967296 := by
    decide +kernel
  obtain ⟨values, resolved, rate⟩ := bind_eq_ok_iff.1 read
  exact ⟨values, member, resolved, setUp_of_resolve member resolved, .inl rfl,
    Setting.get?_of_integer rate, by decide⟩

end Kinds

end BuiltIn
end FrameFlow
