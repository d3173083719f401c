import FrameFlow.Proofs.Filter.Acceptance
import FrameFlow.Proofs.Filter.Timestamps
import FrameFlow.Proofs.Mixer.Pairing
import FrameFlow.Proofs.Stream.Network

/-! What a node makes of streams, said of its options alone. A source stamps, `volume` multiplies sample by
sample, `head` stops after so many frames, `amix` sums place by place, and the others pass on. Filters that
were set up from these options answer with the same streams. -/
namespace FrameFlow

open Setting (Values)

theorem TimeAfter.unique {frames : List Frame} {s t : Int} (after : TimeAfter frames s)
    (after' : TimeAfter frames t) : s = t := by
  cases after with
  | sinceZero unstamped =>
    cases after' with
    | sinceZero _ => rfl
    | since brings _ => simp [unstamped _ (List.mem_append_right _ List.mem_cons_self)] at brings
  | @since earlier later last s brings unstamped =>
    generalize split : earlier ++ last :: later = frames at after'
    cases after' with
    | sinceZero none =>
      have member : last ∈ frames := split ▸ List.mem_append_right _ List.mem_cons_self
      simp [none last member] at brings
    | @since earlier' later' last' t brings' unstamped' =>
      -- the last frame that brings a timestamp is the same in both splits
      rcases List.append_eq_append_iff.1 split with ⟨between, _, rest⟩ | ⟨between, _, rest⟩
      · cases between with
        | nil =>
          obtain ⟨rfl, rfl⟩ := List.cons.inj rest
          rw [Option.some.inj (brings.symm.trans brings')]
        | cons _ between =>
          have member : last' ∈ later := (List.cons.inj rest).2 ▸ by simp
          simp [unstamped last' member] at brings'
      · cases between with
        | nil =>
          obtain ⟨rfl, rfl⟩ := List.cons.inj rest
          rw [Option.some.inj (brings.symm.trans brings')]
        | cons _ between =>
          have member : last ∈ later' := (List.cons.inj rest).2 ▸ by simp
          simp [unstamped' last member] at brings

theorem IsStamp.unique {before : List Frame} {frame : Frame} {s t : Int64} (is : IsStamp before frame s)
    (is' : IsStamp before frame t) : s = t := by
  cases brought : frame.pts with
  | some own => rw [is.own own brought, is'.own own brought]
  | none =>
    obtain ⟨time, after, counted⟩ := is.counted brought
    obtain ⟨time', after', counted'⟩ := is'.counted brought
    obtain rfl := after.unique after'
    exact Int64.toInt_inj.1 (counted.trans counted'.symm)

namespace Buffer

/-- The same frames, each with its timestamp. -/
structure IsStamping (frames sent : List Frame) : Prop where
  length : sent.length = frames.length
  stamps : ∀ {k : Nat} {frame : Frame}, frames[k]? = some frame →
    ∃ t, sent[k]? = some { frame with pts := some t } ∧ IsStamp (frames.take k) frame t

variable {b : Buffer} {frames sent sent' : List Frame}

theorem isStamping_stampAll (fresh : b.previous = none) (frames : List Frame) :
    IsStamping frames (b.stampAll frames).1 where
  length := length_stampAll b frames
  stamps {k frame} there := by
    refine ⟨_, ?_, isStamp_timeOf fresh (frames.take k) frame⟩
    rw [getElem?_stampAll, there, Option.map_some]

theorem IsStamping.unique (stamping : IsStamping frames sent) (stamping' : IsStamping frames sent') :
    sent = sent' := by
  refine List.ext_getElem? fun k => ?_
  cases there : frames[k]? with
  | some frame =>
    obtain ⟨s, one, is⟩ := stamping.stamps there
    obtain ⟨t, other, is'⟩ := stamping'.stamps there
    rw [one, other, is.unique is']
  | none =>
    have beyond := List.getElem?_eq_none_iff.1 there
    rw [List.getElem?_eq_none (by rw [stamping.length]; exact beyond),
      List.getElem?_eq_none (by rw [stamping'.length]; exact beyond)]

theorem isStamping_iff (fresh : b.previous = none) : IsStamping frames sent ↔ sent = (b.stampAll frames).1 :=
  ⟨fun stamping => stamping.unique (isStamping_stampAll fresh frames),
    fun same => same ▸ isStamping_stampAll fresh frames⟩

end Buffer

namespace Volume

/-- A frame with every sample multiplied by a gain, except that a gain of one leaves it as it is. -/
structure IsAmplified (gain : Float32) (frame amplified : Frame) : Prop where
  format : amplified.format = frame.format
  pts : amplified.pts = frame.pts
  samples : ∀ j : Nat, amplified.samples.toList[j]? =
    frame.samples.toList[j]?.map fun x => if gain == 1 then x else x * gain

theorem isAmplified_apply (v : Volume) (frame : Frame) : IsAmplified v.gain frame (v.apply frame) := by
  unfold apply
  split
  · next one => exact ⟨rfl, rfl, fun j => by simp [one]⟩
  · next other => exact ⟨rfl, rfl, fun j => by simp [other]⟩

theorem IsAmplified.unique {gain : Float32} {frame amplified amplified' : Frame}
    (is : IsAmplified gain frame amplified) (is' : IsAmplified gain frame amplified') :
    amplified = amplified' := by
  obtain ⟨format, pts, samples⟩ := amplified
  obtain ⟨format', pts', samples'⟩ := amplified'
  obtain rfl : format = format' := is.format.trans is'.format.symm
  obtain rfl : pts = pts' := is.pts.trans is'.pts.symm
  have same : samples = samples' :=
    Samples.ext (List.ext_getElem? fun j => (is.samples j).trans (is'.samples j).symm)
  rw [same]

theorem forall₂_isAmplified_iff {v : Volume} {frames sent : List Frame} :
    List.Forall₂ (IsAmplified v.gain) frames sent ↔ sent = frames.map v.apply := by
  constructor
  · intro amplified
    induction amplified with
    | nil => rfl
    | cons is _ ih => rw [List.map_cons, is.unique (isAmplified_apply v _), ih]
  · rintro rfl
    exact List.forall₂_map_right_iff.2 (List.forall₂_same.2 fun frame _ => isAmplified_apply v frame)

end Volume

namespace Mixer

/-- The mixes of the frames at each place, as far as nothing more can come there and something has. -/
def IsMixing (normalize : Bool) (inputs : List Stream) (sent : List Frame) : Prop :=
  ∀ (i : Nat) (mixed : Frame), sent[i]? = some mixed ↔
    settledAt inputs i ∧ IsMixOf normalize (headsAt inputs i) mixed

variable {normalize : Bool} {inputs : List Stream}

theorem isMixing_mixFrom : IsMixing normalize inputs (mixFrom normalize inputs 0) := by
  intro i mixed
  rw [getElem?_mixFrom_eq_some_iff, Nat.zero_add]
  constructor
  · rintro ⟨settled, head, others, heads, rfl⟩
    exact ⟨settled, heads ▸ isMixOf_mix normalize head others⟩
  · rintro ⟨settled, is⟩
    cases heads : headsAt inputs i with
    | nil => cases (heads ▸ is).format
    | cons head others => exact ⟨settled, head, others, rfl, (heads ▸ is).unique (isMixOf_mix ..)⟩

theorem isMixing_iff {sent : List Frame} :
    IsMixing normalize inputs sent ↔ sent = mixFrom normalize inputs 0 := by
  constructor
  · intro mixing
    refine List.ext_getElem? fun i => Option.ext fun mixed => ?_
    exact (mixing i mixed).trans (isMixing_mixFrom i mixed).symm
  · rintro rfl
    exact isMixing_mixFrom

end Mixer

namespace Node

/-- The frames that a node sends over each of its outputs. -/
@[mk_iff] structure Sends (n : Node BuiltIn) (inputs : List Stream) (sent : List Frame) : Prop where
  buffer : n.kind.name = "buffer" → Buffer.IsStamping (Stream.first inputs).frames sent
  passed : n.kind.name = "anull" ∨ n.kind.name = "asplit" → sent = (Stream.first inputs).frames
  volume : n.kind.name = "volume" → ∃ gain, n.applied.get? "volume" = some (.float gain) ∧
    List.Forall₂ (Volume.IsAmplified gain.toFloat32) (Stream.first inputs).frames sent
  head : n.kind.name = "head" → ∃ count, n.applied.Asks "frames" count ∧
    sent = (Stream.first inputs).frames.take count.toInt.toNat
  mixer : n.kind.name = "amix" → ∃ normalize, n.applied.get? "normalize" = some (.boolean normalize) ∧
    Mixer.IsMixing normalize inputs sent

/-- Whether a node has all the frames that it wants. One that wants none notices with the first frame. -/
def HasEnough (n : Node BuiltIn) (inputs : List Stream) : Prop :=
  n.kind.name = "head" ∧ ∃ count, n.applied.Asks "frames" count ∧
    max count.toInt 1 ≤ (Stream.first inputs).frames.length

/-- The stream that a node sends over each of its outputs. -/
structure Makes (n : Node BuiltIn) (inputs : List Stream) (made : Stream) : Prop where
  sends : n.Sends inputs made.frames
  ended : made.ended ↔ (∀ s ∈ inputs, s.ended) ∨ n.HasEnough inputs

variable {n : Node BuiltIn} {inputs : List Stream} {made : Stream}

theorem makes_iff_of_filter (sends : n.Sends inputs made.frames ↔ made.frames = n.filter.frames inputs)
    (enough : n.HasEnough inputs ↔ n.filter.endsEarly inputs) :
    n.Makes inputs made ↔ made = n.filter.answer inputs := by
  obtain ⟨frames, ended⟩ := made
  have ends : (ended ↔ (∀ s ∈ inputs, s.ended) ∨ n.HasEnough inputs) ↔
      ended = (inputs.all Stream.ended || n.filter.endsEarly inputs) := by
    refine (Bool.eq_iff_iff.trans ?_).symm
    rw [enough, Bool.or_eq_true, List.all_eq_true]
  rw [BuiltIn.answer, Stream.mk.injEq, ← sends, ← ends]
  exact ⟨fun makes => ⟨makes.sends, makes.ended⟩, fun made => ⟨made.1, made.2⟩⟩

theorem IsSetUp.buffer (setUp : n.IsSetUp) (kind : n.kind = Buffer.kind.map .buffer) :
    ∃ format, n.filter = .buffer ⟨format, none⟩ := by
  have set := setUp.filter
  rw [kind] at set
  obtain ⟨b, made, filter⟩ := map_eq_ok_iff (f := BuiltIn.buffer).1 set
  obtain ⟨format, _, rfl⟩ := map_eq_ok_iff.1 made
  exact ⟨format, filter.symm⟩

theorem IsSetUp.volume (setUp : n.IsSetUp) (kind : n.kind = Volume.kind.map .volume) :
    ∃ gain, n.applied.get? "volume" = some (.float gain) ∧ n.filter = .volume ⟨gain.toFloat32⟩ := by
  obtain ⟨staged, resolved⟩ := setUp.resolved
  have set := setUp.filter
  rw [kind] at resolved set
  obtain ⟨gain, asked, made⟩ := BuiltIn.exists_volume resolved
  exact ⟨gain, asked, Except.ok.inj (set.symm.trans made)⟩

theorem IsSetUp.head (setUp : n.IsSetUp) (kind : n.kind = Head.kind.map .head) :
    ∃ count, n.applied.Asks "frames" count ∧ 0 ≤ count.toInt ∧
      n.filter = .head ⟨count.toInt.toNat⟩ := by
  obtain ⟨staged, resolved⟩ := setUp.resolved
  have set := setUp.filter
  rw [kind] at resolved set
  obtain ⟨count, asks, counts, made⟩ := BuiltIn.exists_head resolved
  exact ⟨count, asks, counts, Except.ok.inj (set.symm.trans made)⟩

theorem IsSetUp.mixer (setUp : n.IsSetUp) (kind : n.kind = Mixer.kind.map .mixer) :
    ∃ word normalize lanes, n.applied.get? "duration" = some (.text word) ∧
      n.applied.get? "normalize" = some (.boolean normalize) ∧
      n.filter = .mixer ⟨if word = "shortest" then .shortest else .longest, normalize, lanes⟩ := by
  obtain ⟨staged, resolved⟩ := setUp.resolved
  have set := setUp.filter
  rw [kind] at resolved set
  obtain ⟨_, word, normalize, _, lasts, asked, made⟩ := BuiltIn.exists_mixer resolved
  exact ⟨word, normalize, _, lasts, asked, Except.ok.inj (set.symm.trans made)⟩

/-- A node of a built-in kind that was set up and has outputs answers with what it is to make. -/
theorem IsSetUp.makes_iff (setUp : n.IsSetUp) (kind : n.kind ∈ BuiltIn.kinds) (sending : n.outputs ≠ []) :
    n.Makes inputs made ↔ made = n.filter.answer inputs := by
  have set := setUp.filter
  simp only [BuiltIn.kinds, List.mem_cons, List.not_mem_nil, or_false] at kind
  rcases kind with kind | kind | kind | kind | kind | kind | kind
  · have name : n.kind.name = "buffer" := congrArg Kind.name kind
    obtain ⟨format, filter⟩ := setUp.buffer kind
    apply makes_iff_of_filter
    · simpa [sends_iff, name, filter, BuiltIn.frames] using Buffer.isStamping_iff (by rfl)
    · simp [HasEnough, name, filter, BuiltIn.endsEarly]
  · rw [kind] at set
    obtain ⟨s, _, filter⟩ := map_eq_ok_iff (f := BuiltIn.sink).1 set
    have none : n.outputs.length = 0 := by
      rw [setUp.outputs_length, ← filter]
      rfl
    exact absurd (List.length_eq_zero_iff.1 none) sending
  · have name : n.kind.name = "anull" := congrArg Kind.name kind
    rw [kind] at set
    have filter : BuiltIn.passThrough {} = n.filter := Except.ok.inj set
    apply makes_iff_of_filter
    · simp [sends_iff, name, ← filter, BuiltIn.frames]
    · simp [HasEnough, name, ← filter, BuiltIn.endsEarly]
  · have name : n.kind.name = "volume" := congrArg Kind.name kind
    obtain ⟨gain, asked, filter⟩ := setUp.volume kind
    apply makes_iff_of_filter
    · simpa [sends_iff, name, asked, filter, BuiltIn.frames] using
        Volume.forall₂_isAmplified_iff (v := ⟨gain.toFloat32⟩)
    · simp [HasEnough, name, filter, BuiltIn.endsEarly]
  · have name : n.kind.name = "head" := congrArg Kind.name kind
    obtain ⟨count, asks, counts, filter⟩ := setUp.head kind
    apply makes_iff_of_filter
    · simp [sends_iff, name, asks.exists_iff, filter, BuiltIn.frames]
    · simp only [HasEnough, name, asks.exists_iff, filter, BuiltIn.endsEarly, decide_eq_true_eq,
        true_and]
      omega
  · have name : n.kind.name = "asplit" := congrArg Kind.name kind
    rw [kind] at set
    obtain ⟨s, _, filter⟩ := map_eq_ok_iff (f := BuiltIn.split).1 set
    apply makes_iff_of_filter
    · simp [sends_iff, name, ← filter, BuiltIn.frames]
    · simp [HasEnough, name, ← filter, BuiltIn.endsEarly]
  · have name : n.kind.name = "amix" := congrArg Kind.name kind
    obtain ⟨_, normalize, _, _, asked, filter⟩ := setUp.mixer kind
    apply makes_iff_of_filter
    · simpa [sends_iff, name, asked, filter, BuiltIn.frames] using Mixer.isMixing_iff
    · simp [HasEnough, name, filter, BuiltIn.endsEarly]

/-- A mixer that is asked to go on until the last of its inputs ends does so. -/
theorem IsSetUp.mixesLongest (setUp : n.IsSetUp) (kind : n.kind ∈ BuiltIn.kinds)
    (asked : n.kind.name = "amix" → n.applied.get? "duration" = some (.text "longest")) :
    n.filter.MixesLongest := by
  intro m filter
  have isMixer : n.kind = Mixer.kind.map .mixer := by
    have made := BuiltIn.made_of_setUp kind setUp.filter
    rw [filter] at made
    generalize n.kind = k at made ⊢
    cases made with
    | mixer => rfl
  obtain ⟨word, _, _, lasts, _, made⟩ := setUp.mixer isMixer
  obtain rfl : word = "longest" := by
    simpa [lasts] using asked (congrArg Kind.name isMixer)
  rw [BuiltIn.mixer.inj (filter.symm.trans made)]
  rfl

end Node

namespace Graph

/-- All nodes are of built-in kinds, and mixers are asked to mix until the last of their inputs ends. -/
def OfBuiltIns (g : Graph BuiltIn) : Prop :=
  ∀ ⦃i : Nat⦄ ⦃n : Node BuiltIn⦄, g.nodes[i]? = some n → n.isLive → n.kind ∈ BuiltIn.kinds ∧
    (n.kind.name = "amix" → n.applied.get? "duration" = some (.text "longest"))

/-- Streams on all links, given what is fed into the sources: each link carries what the node upstream
makes of the streams on its inputs. -/
def Carries (g : Graph BuiltIn) (fed on : Nat → Stream) : Prop :=
  ∀ ⦃k : Nat⦄ ⦃l : Link⦄ ⦃n : Node BuiltIn⦄, g.links[k]? = some l →
    g.nodes[l.source.node]? = some n → n.Makes (n.inflow (fed l.source.node) on) (on k)

/-- The answers of the filters are what the nodes are to make. -/
theorem Ready.carries_iff {g : Graph BuiltIn} (ready : g.Ready) (builtIn : g.OfBuiltIns)
    {fed on : Nat → Stream} : g.Carries fed on ↔ g.Flows fed on := by
  have answers : ∀ {k : Nat} {l : Link} {n : Node BuiltIn} {inputs : List Stream} {made : Stream},
      g.links[k]? = some l → g.nodes[l.source.node]? = some n →
      (n.Makes inputs made ↔ made = n.filter.answer inputs) := by
    intro k l n inputs made link there
    obtain ⟨m, there', noted⟩ := ready.wired.node_at_end link .output
    obtain rfl : n = m := Option.some.inj (there.symm.trans there')
    have live := ready.wired.live there noted
    obtain ⟨p, outlet, _⟩ := Option.bind_eq_some_iff.1 noted
    exact (ready.isSetUp there live).makes_iff (builtIn there live).1
      (List.ne_nil_of_mem (List.mem_of_getElem? outlet))
  exact ⟨fun carries k l n link there => (answers link there).1 (carries link there),
    fun flows k l n link there => (answers link there).2 (flows link there)⟩

end Graph
end FrameFlow
