import FrameFlow.Proofs.Flow.Running
import FrameFlow.Proofs.Stream.Follow

/-! What events tell of streams: which frames went over a link, were handed to a filter, were pushed
into a source or pulled out of a sink. With the marks of a node they say what its filter was
given. -/
namespace FrameFlow

variable {σ : Type}

namespace Event

/-- The frame, if any, that a source works off. -/
def worksOff (i : Nat) : Event σ → List Frame
  | .invoked c => if c.index = i ∧ c.node.role = .source then c.work.handedOn 0 else []
  | _ => []

/-- The frame, if any, that is pushed into a source. -/
def feeds (i : Nat) : Event σ → List Frame
  | .pushed j frame => if j = i then [frame] else []
  | _ => []

def endsFeed (i : Nat) : Event σ → Bool
  | .ended j => j == i
  | _ => false

/-- The frame, if any, that a sink hands out. -/
def handsOut (i : Nat) : Event σ → List Frame
  | .asked j offer => if j = i then offered offer else []
  | _ => []

/-- The node at which an event happens. -/
def place : Event σ → Nat
  | .pushed i _ | .ended i | .asked i _ => i
  | .invoked c => c.index

section Elsewhere

variable {i : Nat} (e : Event σ) (other : e.place ≠ i)

include other

theorem handedAt_elsewhere (pad : Nat) : e.handedAt ⟨i, pad⟩ = [] := by
  cases e with
  | invoked c => exact if_neg fun both => other both.1
  | _ => rfl

theorem worksOff_elsewhere : e.worksOff i = [] := by
  cases e with
  | invoked c => exact if_neg fun both => other both.1
  | _ => rfl

theorem feeds_elsewhere : e.feeds i = [] := by
  cases e with
  | pushed j frame => exact if_neg other
  | _ => rfl

theorem endsFeed_elsewhere : e.endsFeed i = false := by
  cases e with
  | ended j => exact beq_eq_false_iff_ne.2 other
  | _ => rfl

theorem handsOut_elsewhere : e.handsOut i = [] := by
  cases e with
  | asked j offer => exact if_neg other
  | _ => rfl

/-- Other nodes only get what comes over their links. -/
theorem effect_elsewhere [Filter σ] (n : Node σ) :
    ∃ sent ends, e.effect i n = n.receive sent ends := by
  have apart : i ≠ e.place := Ne.symm other
  cases e with
  | invoked c => exact ⟨c.sent, c.ends, congrArg (Node.receive _ _) (if_neg apart)⟩
  | _ => exact ⟨[], [], (if_neg apart).trans n.receive_nil.symm⟩

end Elsewhere
end Event

/-- The frames that went over a link. -/
def carried (k : Nat) (es : List (Event σ)) : List Frame := es.flatMap (Event.sentOn k)

/-- The frames that were handed on from an inlet. -/
def handed (a : Endpoint) (es : List (Event σ)) : List Frame := es.flatMap (Event.handedAt a)

/-- The frames that a source has worked off. -/
def workedOff (i : Nat) (es : List (Event σ)) : List Frame := es.flatMap (Event.worksOff i)

/-- What was pushed into a source and accepted. -/
def accepted (i : Nat) (es : List (Event σ)) : Stream :=
  ⟨es.flatMap (Event.feeds i), es.any (Event.endsFeed i)⟩

/-- The frames that a sink has handed out. -/
def handedOut (i : Nat) (es : List (Event σ)) : List Frame := es.flatMap (Event.handsOut i)

section Concat

variable (es : List (Event σ)) (e : Event σ) (i k : Nat) (a : Endpoint)

@[simp] theorem carried_concat : carried k (es ++ [e]) = carried k es ++ e.sentOn k := by
  simp [carried]

@[simp] theorem handed_concat : handed a (es ++ [e]) = handed a es ++ e.handedAt a := by
  simp [handed]

@[simp] theorem workedOff_concat : workedOff i (es ++ [e]) = workedOff i es ++ e.worksOff i := by
  simp [workedOff]

@[simp] theorem accepted_concat : accepted i (es ++ [e]) =
    ⟨(accepted i es).frames ++ e.feeds i, (accepted i es).ended || e.endsFeed i⟩ := by
  simp [accepted]

@[simp] theorem handedOut_concat : handedOut i (es ++ [e]) = handedOut i es ++ e.handsOut i := by
  simp [handedOut]

end Concat

namespace Node

/-- What a filter was given so far. A source was given its feed, and any other node what came on
each input. -/
def intake (n : Node σ) (i : Nat) (es : List (Event σ)) : List Stream :=
  if n.role = .source then [⟨workedOff i es, n.flushed⟩]
  else n.inputs.mapIdx fun pad q => ⟨handed ⟨i, pad⟩ es, q.told⟩

variable {n m : Node σ} {i : Nat} {es : List (Event σ)} {e : Event σ}

theorem intake_source (source : n.role = .source) :
    n.intake i es = [⟨workedOff i es, n.flushed⟩] := if_pos source

theorem intake_inner (inner : n.role ≠ .source) :
    n.intake i es = n.inputs.mapIdx fun pad q => ⟨handed ⟨i, pad⟩ es, q.told⟩ := if_neg inner

/-- Frames and ends that come in are not given to the filter yet. -/
theorem intake_receive (sent : List (Nat × Frame)) (ends : List Nat) :
    (n.receive sent ends).intake i es = n.intake i es := by
  by_cases source : n.role = .source
  · have still : (n.receive sent ends).role = .source := source
    rw [intake_source source, intake_source still]
    rfl
  · have still : (n.receive sent ends).role ≠ .source := source
    rw [intake_inner source, intake_inner still]
    apply List.ext_getElem?
    intro pad
    simp [receive, List.getElem?_mapIdx, Function.comp_def]

/-- Events that give the filter nothing. -/
theorem intake_concat_of_idle (unhanded : ∀ pad, e.handedAt ⟨i, pad⟩ = [])
    (unworked : e.worksOff i = []) : n.intake i (es ++ [e]) = n.intake i es := by
  simp only [intake, workedOff_concat, handed_concat, unhanded, unworked, List.append_nil]

end Node

theorem Node.Takes.exhausted {n m : Node σ} {work : Work} (takes : n.Takes work m) :
    m.exhausted = n.exhausted := by
  cases takes <;> rfl

/-- A source takes the first frame of its feed, or it is flushed. -/
theorem Node.Takes.feed {n m : Node σ} {work : Work} (takes : n.Takes work m)
    (source : n.role = .source) :
    work.handedOn 0 ++ m.feed.toList = n.feed.toList ∧ m.feedEnded = n.feedEnded := by
  cases takes with
  | fed _ first => exact ⟨first.symm, rfl⟩
  | feedOver _ _ _ _ => exact ⟨rfl, rfl⟩
  | frame inner _ _ => exact absurd source inner
  | endOfInput inner _ _ _ _ => exact absurd source inner
  | flush inner _ _ _ _ => exact absurd source inner

theorem Node.Takes.told_of_flush {n m : Node σ} (takes : n.Takes .flush m)
    (inner : n.role ≠ .source) : ∀ q ∈ n.inputs, q.told := by
  cases takes with
  | feedOver source _ _ _ => exact absurd source inner
  | flush _ _ _ told _ => exact told

/-- What a call gives to a filter. A flush comes after all ends. -/
theorem Node.Takes.intake {c : Invocation σ} {es : List (Event σ)}
    (takes : c.node.Takes c.work c.rest) :
    c.rest.intake c.index (es ++ [.invoked c]) = c.work.onto (c.node.intake c.index es) := by
  obtain ⟨i, n, work, m, turn⟩ := c
  dsimp only at takes ⊢
  by_cases source : n.role = .source
  · rw [Node.intake_source source, Node.intake_source (takes.role.trans source)]
    cases takes with
    | fed _ _ => simp [Event.worksOff, source, Work.handedOn, Work.onto, Stream.push]
    | feedOver _ _ _ _ => simp [Event.worksOff, Work.handedOn, Work.onto, Stream.finish]
    | frame inner _ _ => exact absurd source inner
    | endOfInput inner _ _ _ _ => exact absurd source inner
    | flush inner _ _ _ _ => exact absurd source inner
  · rw [Node.intake_inner source, Node.intake_inner (takes.role.trans_ne source)]
    apply List.ext_getElem?
    intro pad
    cases inlet : n.inputs[pad]? with
    | none =>
      have outside : n.inputs.length ≤ pad := List.getElem?_eq_none_iff.1 inlet
      cases work <;> simp [Work.onto, takes.inputs_length, outside]
    | some q =>
      obtain ⟨q', inlet', _, _, _, told⟩ := takes.inlet inlet
      have given : (Event.invoked ⟨i, n, work, m, turn⟩).handedAt ⟨i, pad⟩ = work.handedOn pad :=
        if_pos ⟨rfl, source⟩
      simp only [List.getElem?_mapIdx, inlet', Option.map_some, handed_concat, given, told]
      cases work with
      | frame p f =>
        by_cases here : p = pad <;>
          simp [Work.onto, Work.handedOn, inlet, here, Stream.push]
      | endOfInput p =>
        by_cases here : p = pad <;>
          simp [Work.onto, Work.handedOn, inlet, here, Stream.finish]
      | flush =>
        have before := takes.told_of_flush source q (List.mem_of_getElem? inlet)
        simp [Work.onto, Work.handedOn, inlet, before, Stream.finish]

end FrameFlow
