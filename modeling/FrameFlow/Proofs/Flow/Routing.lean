import FrameFlow.Proofs.Flow.Run

/-! What an event does to every node. Where pads and links refer to each other, a frame sent over a
link arrives at the one inlet that notes it, so an event changes each node by itself. -/
namespace FrameFlow

variable {σ : Type}

/-- The frames that go over one link, among all that are sent. -/
def sentOver (link : Option Nat) (sent : List (Nat × Frame)) : List Frame :=
  sent.filterMap fun (k, frame) => if link = some k then some frame else none

@[simp] theorem sentOver_nil (link : Option Nat) : sentOver link [] = [] := rfl

theorem sentOver_cons (link : Option Nat) (k : Nat) (frame : Frame) (rest : List (Nat × Frame)) :
    sentOver link ((k, frame) :: rest) =
      if link = some k then frame :: sentOver link rest else sentOver link rest := by
  by_cases here : link = some k <;> simp [sentOver, here]

/-- An inlet after frames were sent over links and some links ended. -/
def Inlet.receive (sent : List (Nat × Frame)) (ends : List Nat) (p : Inlet) : Inlet :=
  { p with
    queue := .ofList (p.queue.toList ++ sentOver p.link sent)
    ended := p.ended || p.link.any fun k => ends.contains k }

def Node.receive (sent : List (Nat × Frame)) (ends : List Nat) (n : Node σ) : Node σ :=
  { n with inputs := n.inputs.map (Inlet.receive sent ends) }

namespace Inlet

variable {sent : List (Nat × Frame)} {ends : List Nat} {p : Inlet}

@[simp] theorem receive_nil (p : Inlet) : p.receive [] [] = p := by
  cases p with
  | mk pad link queue ended told => cases link <;> simp [receive]

@[simp] theorem link_receive : (p.receive sent ends).link = p.link := rfl

@[simp] theorem told_receive : (p.receive sent ends).told = p.told := rfl

@[simp] theorem toList_queue_receive :
    (p.receive sent ends).queue.toList = p.queue.toList ++ sentOver p.link sent := by
  simp [receive]

theorem receive_receive (more : List (Nat × Frame)) (later : List Nat) :
    (p.receive sent ends).receive more later = p.receive (sent ++ more) (ends ++ later) := by
  cases p with
  | mk pad link queue ended told =>
    cases link <;> simp [receive, sentOver, Bool.or_assoc]

end Inlet

@[simp] theorem Node.receive_nil (n : Node σ) : n.receive [] [] = n := by
  have same : n.inputs.map (Inlet.receive [] []) = n.inputs :=
    List.map_id'' Inlet.receive_nil n.inputs
  simp only [Node.receive, same]

theorem Node.receive_receive (n : Node σ) (sent more : List (Nat × Frame)) (ends later : List Nat) :
    (n.receive sent ends).receive more later = n.receive (sent ++ more) (ends ++ later) := by
  simp [Node.receive, Function.comp_def, Inlet.receive_receive]

namespace Graph

variable {g : Graph σ} {i k pad : Nat} {n : Node σ}

theorem Wired.inlet_link_iff (h : g.Wired) {p : Inlet} (there : g.nodes[i]? = some n)
    (at_pad : n.inputs[pad]? = some p) :
    p.link = some k ↔ ∃ l, g.links[k]? = some l ∧ l.target = ⟨i, pad⟩ := by
  have noted : g.linkAt .input ⟨i, pad⟩ = p.link := by simp [linkAt, there, Node.link?, at_pad]
  rw [← noted]
  exact h.linkAt_iff

theorem Wired.outlet_link_iff (h : g.Wired) {p : Outlet} (there : g.nodes[i]? = some n)
    (at_pad : n.outputs[pad]? = some p) :
    p.link = some k ↔ ∃ l, g.links[k]? = some l ∧ l.source = ⟨i, pad⟩ := by
  have noted : g.linkAt .output ⟨i, pad⟩ = p.link := by simp [linkAt, there, Node.link?, at_pad]
  rw [← noted]
  exact h.linkAt_iff

/-- A graph after frames were sent over links and some links ended. -/
def receive (g : Graph σ) (sent : List (Nat × Frame)) (ends : List Nat) : Graph σ :=
  { g with nodes := g.nodes.map (Node.receive sent ends) }

theorem nodes_receive (g : Graph σ) (sent : List (Nat × Frame)) (ends : List Nat) (j : Nat) :
    (g.receive sent ends).nodes[j]? = g.nodes[j]?.map (Node.receive sent ends) := by
  simp [receive]

theorem receive_nil (g : Graph σ) : g.receive [] [] = g := by
  have same : g.nodes.map (Node.receive [] []) = g.nodes :=
    Array.map_id'' Node.receive_nil g.nodes
  simp only [receive, same]

theorem receive_receive (g : Graph σ) (sent more : List (Nat × Frame)) (ends later : List Nat) :
    (g.receive sent ends).receive more later = g.receive (sent ++ more) (ends ++ later) := by
  simp [receive, Function.comp_def, Node.receive_receive]

theorem evolves_receive (g : Graph σ) (sent : List (Nat × Frame)) (ends : List Nat) :
    g.Evolves (g.receive sent ends) := by
  refine ⟨rfl, rfl, rfl, rfl, rfl, rfl, by simp [receive], fun {i n} there => ?_⟩
  refine ⟨n.receive sent ends, by simp [receive, there], rfl, rfl, rfl, ?_, rfl, .inl rfl⟩
  simp only [Node.receive, List.map_map]
  rfl

/-- A change at the inlets that note a link. -/
def changeNoted (k : Nat) (f : Inlet → Inlet) (p : Inlet) : Inlet :=
  if p.link = some k then f p else p

/-- A link that does not lead to a node is noted at none of its inlets. -/
theorem Wired.map_changeNoted_of_apart (h : g.Wired) {f : Inlet → Inlet} {j : Nat} {m : Node σ}
    (there : g.nodes[j]? = some m) (apart : ∀ l, g.links[k]? = some l → l.target.node ≠ j) :
    m.inputs.map (changeNoted k f) = m.inputs := by
  have same : ∀ p ∈ m.inputs, changeNoted k f p = p := by
    intro p member
    obtain ⟨pad, at_pad⟩ := List.mem_iff_getElem?.1 member
    have unrelated : p.link ≠ some k := by
      intro noted
      obtain ⟨l, link, target⟩ := (h.inlet_link_iff there at_pad).1 noted
      exact apart l link (congrArg Endpoint.node target)
    exact if_neg unrelated
  exact (List.map_congr_left same).trans (List.map_id' _)

/-- The link to a pad is noted there and at no other inlet of the node. -/
theorem Wired.map_changeNoted (h : g.Wired) {f : Inlet → Inlet} {l : Link} {m : Node σ}
    (link : g.links[k]? = some l) (there : g.nodes[l.target.node]? = some m) :
    m.inputs.map (changeNoted k f) = m.inputs.modify l.target.pad f := by
  refine List.ext_getElem? fun pad => ?_
  rw [List.getElem?_modify, List.getElem?_map]
  cases at_pad : m.inputs[pad]? with
  | none => rfl
  | some p =>
    have noted : p.link = some k ↔ l.target.pad = pad := by
      rw [h.inlet_link_iff there at_pad]
      constructor
      · rintro ⟨l', link', target⟩
        obtain rfl := Option.some.inj (link.symm.trans link')
        exact congrArg Endpoint.pad target
      · rintro rfl
        exact ⟨l, link, rfl⟩
    by_cases place : l.target.pad = pad <;> simp [changeNoted, noted, place]

/-- A change at the target of a link is one at all inlets that note the link. -/
theorem Wired.atTarget_eq (h : g.Wired) {f : Inlet → Inlet} {change : Node σ → Node σ}
    (changes : ∀ n, change n = { n with inputs := n.inputs.map (changeNoted k f) }) :
    g.atTarget k f = { g with nodes := g.nodes.map change } := by
  unfold atTarget
  split
  · next l link =>
    congr 1
    refine Array.ext_getElem? fun j => ?_
    rw [Array.getElem?_modify, Array.getElem?_map]
    cases there : g.nodes[j]? with
    | none => simp
    | some m =>
      by_cases here : l.target.node = j
      · subst here
        simp only [if_true, Option.map_some, changes, h.map_changeNoted link there]
      · have apart : ∀ l', g.links[k]? = some l' → l'.target.node ≠ j := by
          intro l' link'
          obtain rfl := Option.some.inj (link.symm.trans link')
          exact here
        simp only [if_neg here, Option.map_some, changes, h.map_changeNoted_of_apart there apart]
  · next none =>
    have same : g.nodes.map change = g.nodes := by
      refine Array.ext_getElem? fun j => ?_
      rw [Array.getElem?_map]
      cases there : g.nodes[j]? with
      | none => rfl
      | some m =>
        have apart : ∀ l, g.links[k]? = some l → l.target.node ≠ j := by
          intro l link
          simp [none] at link
        rw [Option.map_some, changes, h.map_changeNoted_of_apart there apart]
    rw [same]

theorem Wired.deliver_eq (h : g.Wired) (k : Nat) (frame : Frame) :
    g.deliver k frame = g.receive [(k, frame)] [] := by
  refine h.atTarget_eq fun n => ?_
  have one : Inlet.receive [(k, frame)] [] =
      changeNoted k fun p => { p with queue := p.queue.push frame } := by
    funext p
    obtain ⟨pad, link, queue, ended, told⟩ := p
    have pushed : Queue.ofList (queue.toList ++ [frame]) = queue.push frame := Queue.ext (by simp)
    by_cases here : link = some k
    · simp [Inlet.receive, changeNoted, sentOver_cons, here, pushed]
    · cases link <;> simp_all [Inlet.receive, changeNoted, sentOver_cons]
  simp only [Node.receive, one]

theorem Wired.endLink_eq (h : g.Wired) (k : Nat) : g.endLink k = g.receive [] [k] := by
  refine h.atTarget_eq fun n => ?_
  have one : Inlet.receive [] [k] = changeNoted k fun p => { p with ended := true } := by
    funext p
    obtain ⟨pad, link, queue, ended, told⟩ := p
    cases link with
    | none => simp [Inlet.receive, changeNoted]
    | some j => by_cases here : j = k <;> simp [Inlet.receive, changeNoted, here]
  simp only [Node.receive, one]

/-- Everything that a call leaves on its tray arrives at once. -/
theorem Wired.route_eq [Filter σ] (h : g.Wired) (outputs : List Outlet) (tray : Tray) :
    g.route outputs tray =
      g.receive (deliveries outputs tray.frames.toList) (endings outputs tray.closed) := by
  have frames : ∀ (sent : List (Nat × Frame)) (g : Graph σ), g.Wired →
      sent.foldl (fun g (link, frame) => g.deliver link frame) g = g.receive sent [] := by
    intro sent
    induction sent with
    | nil => exact fun g _ => g.receive_nil.symm
    | cons p rest ih =>
      intro g wired
      obtain ⟨k, frame⟩ := p
      show rest.foldl _ (g.deliver k frame) = _
      rw [wired.deliver_eq, ih _ ((evolves_receive g _ _).wired wired),
        receive_receive]
      rfl
  have ends : ∀ (links : List Nat) (g : Graph σ), g.Wired →
      links.foldl endLink g = g.receive [] links := by
    intro links
    induction links with
    | nil => exact fun g _ => g.receive_nil.symm
    | cons k rest ih =>
      intro g wired
      rw [List.foldl_cons, wired.endLink_eq, ih _ ((evolves_receive g _ _).wired wired),
        receive_receive]
      rfl
  unfold route
  dsimp only
  rw [frames _ g h, ends _ _ ((evolves_receive g _ _).wired h), receive_receive]
  simp

end Graph

namespace Invocation

/-- The frames that a call sent, with the links that they went over. -/
def sent (c : Invocation σ) : List (Nat × Frame) :=
  if c.turn.fault.isNone then Graph.deliveries c.rest.outputs c.turn.tray.frames.toList else []

/-- The links that a call has ended. -/
def ends (c : Invocation σ) : List Nat :=
  if c.turn.fault.isNone then Graph.endings c.rest.outputs c.turn.tray.closed else []

/-- The node that was called, after the call. -/
def left (c : Invocation σ) : Node σ :=
  if c.turn.fault.isNone then
    { c.rest with filter := c.turn.state }.closeOutputs c.turn.tray.closed
  else { c.rest with filter := c.turn.state, life := .failed }

end Invocation

/-- A sink after it was asked for a frame. -/
def Node.asked [Filter σ] (n : Node σ) (offer : Except Fault Offer) : Node σ :=
  { n with
    filter := (Filter.take n.filter).1
    hasSlot := true
    exhausted := n.exhausted || offer matches .ok .ended }

/-- What an event makes of the node with some index. -/
def Event.effect [Filter σ] (e : Event σ) (i : Nat) (n : Node σ) : Node σ :=
  match e with
  | .pushed j frame => if i = j then { n with feed := n.feed.push frame } else n
  | .ended j => if i = j then { n with feedEnded := true } else n
  | .asked j offer => if i = j then n.asked offer else n
  | .invoked c => (if i = c.index then c.left else n).receive c.sent c.ends

namespace Graph

variable {g h : Graph σ}

theorem handleWork_eq [Filter σ] (wired : g.Wired) {i : Nat} {n m : Node σ} {work : Work}
    (there : g.nodes[i]? = some n) (took : n.Evolves m) :
    let c : Invocation σ := ⟨i, n, work, m, m.invoke work (.start m.closedOutputs)⟩
    (g.handleWork i m work).1.nodes = ((g.setNode i c.left).receive c.sent c.ends).nodes := by
  intro c
  unfold handleWork
  dsimp only
  cases fault : (m.invoke work (.start m.closedOutputs)).fault with
  | some fault =>
    simp only [c, Invocation.left, Invocation.sent, Invocation.ends, fault, Option.isNone_some,
      Bool.false_eq_true, if_false, receive_nil]
    rfl
  | none =>
    have called : m.Evolves { m with filter := (m.invoke work (.start m.closedOutputs)).state } :=
      ⟨rfl, rfl, rfl, rfl, rfl, .inl rfl⟩
    have settled := took.trans (called.trans (Node.evolves_closeOutputs _
      (m.invoke work (.start m.closedOutputs)).tray.closed))
    have still := ((evolves_setNode there settled).trans (evolves_countStep _
      (droppedCount m.outputs (m.invoke work (.start m.closedOutputs)).tray.frames.toList))).wired
      wired
    simp only [c, Invocation.left, Invocation.sent, Invocation.ends, fault, Option.isNone_none,
      if_true]
    rw [still.route_eq]
    rfl

theorem nodes_countOffer (g : Graph σ) (offer : Except Fault Offer) :
    (g.countOffer offer).nodes = g.nodes := by
  unfold countOffer
  split <;> rfl

/-- A change of one node. -/
theorem nodes_setNode_map {i j : Nat} {n : Node σ} (there : g.nodes[i]? = some n)
    (change : Node σ → Node σ) :
    (g.setNode i (change n)).nodes[j]? =
      g.nodes[j]?.map fun m => if j = i then change m else m := by
  rw [nodes_setNode there]
  by_cases here : i = j
  · subst here
    simp [there]
  · simp [here, Ne.symm here]

theorem nodes_askSink [Filter σ] {i j : Nat} {n : Node σ} {asked : Graph σ}
    {offer : Except Fault Offer} (there : g.nodes[i]? = some n)
    (asking : g.askSink i n = (asked, offer)) :
    asked.nodes[j]? = g.nodes[j]?.map fun m => if j = i then m.asked offer else m := by
  obtain ⟨rfl, rfl⟩ := Prod.mk.inj asking
  exact nodes_setNode_map there fun m => m.asked (Filter.take n.filter).2

/-- Every event changes each node by itself. -/
theorem Happens.nodes [Filter σ] (wired : g.Wired) {e : Event σ} (event : g.Happens e h) (j : Nat) :
    h.nodes[j]? = g.nodes[j]?.map (e.effect j) := by
  cases event with
  | @pushed id frame _ accepted =>
    obtain ⟨n, source, _, _, rfl⟩ := push_some_eq_ok_iff.1 accepted
    obtain ⟨_, _, there, _⟩ := running_eq_ok_iff.1 source
    exact nodes_setNode_map there fun n => { n with feed := n.feed.push frame }
  | ended accepted =>
    obtain ⟨n, source, _, rfl⟩ := push_none_eq_ok_iff.1 accepted
    obtain ⟨_, _, there, _⟩ := running_eq_ok_iff.1 source
    exact nodes_setNode_map there fun n => { n with feedEnded := true }
  | @asked id n asked offer sink asking =>
    obtain ⟨_, _, there, _⟩ := running_eq_ok_iff.1 sink
    rw [nodes_countOffer]
    exact nodes_askSink there asking
  | @invoked i n m work _ first _ taken =>
    obtain ⟨_, there⟩ := nextToWork_eq_some_iff.1 first
    let c : Invocation σ := ⟨i, n, work, m, m.invoke work (.start m.closedOutputs)⟩
    rw [handleWork_eq wired there (Node.evolves_takeWork taken), nodes_receive,
      nodes_setNode_map there fun _ => c.left, Option.map_map]
    rfl

end Graph

/-- The frames on one pad, among all that a call emits. -/
def emittedOn (pad : Nat) (frames : List (Nat × Frame)) : List Frame :=
  frames.filterMap fun (p, frame) => if p = pad then some frame else none

/-- What goes over a link was emitted on an open pad with that link. -/
theorem sentOver_deliveries (outputs : List Outlet) (frames : List (Nat × Frame)) (k : Nat) :
    sentOver (some k) (Graph.deliveries outputs frames) = frames.filterMap fun (pad, frame) =>
      if Graph.outLink outputs pad = some k ∧ outputs[pad]?.any (!·.closed) then some frame
      else none := by
  simp only [sentOver, Graph.deliveries, List.filterMap_filterMap, Graph.outLink]
  refine List.filterMap_congr fun (pad, frame) _ => ?_
  dsimp only
  obtain outlet | ⟨p, outlet⟩ := outputs[pad]?.eq_none_or_eq_some
  · simp [outlet]
  · cases closed : p.closed with
    | true => simp [outlet, closed]
    | false =>
      cases noted : p.link with
      | none => simp [outlet, closed, noted]
      | some j => simp [outlet, closed, noted, eq_comm]

theorem mem_endings_iff {outputs : List Outlet} {closed : List Bool} {k : Nat} :
    k ∈ Graph.endings outputs closed ↔ ∃ pad p, outputs[pad]? = some p ∧ p.link = some k ∧
      p.closed = false ∧ closed.getD pad false := by
  simp only [Graph.endings, List.mem_filterMap, Prod.exists, List.mem_zipIdx_iff_getElem?]
  constructor
  · rintro ⟨p, pad, outlet, found⟩
    split at found
    · next closes =>
      simp only [Bool.and_eq_true, Bool.not_eq_true'] at closes
      exact ⟨pad, p, outlet, found, closes⟩
    · simp at found
  · rintro ⟨pad, p, outlet, noted, closes⟩
    have fires : (!p.closed && closed.getD pad false) = true := by
      rw [closes.1, closes.2]
      rfl
    exact ⟨p, pad, outlet, by rw [if_pos fires, noted]⟩

namespace Invocation

theorem evolves_left (c : Invocation σ) : c.rest.Evolves c.left := by
  unfold left
  split
  · have called : c.rest.Evolves { c.rest with filter := c.turn.state } :=
      ⟨rfl, rfl, rfl, rfl, rfl, .inl rfl⟩
    exact called.trans (Node.evolves_closeOutputs _ _)
  · exact ⟨rfl, rfl, rfl, rfl, rfl, .inr rfl⟩

variable {g : Graph σ} {c : Invocation σ} {n : Node σ} {k pad : Nat} {l : Link} {p : Outlet}
  (wired : g.Wired) (there : g.nodes[c.index]? = some n) (outputs : c.rest.outputs = n.outputs)
  (link : g.links[k]? = some l)

include wired there outputs link

theorem outLink_eq_iff : Graph.outLink c.rest.outputs pad = some k ↔ l.source = ⟨c.index, pad⟩ := by
  unfold Graph.outLink
  rw [outputs]
  cases outlet : n.outputs[pad]? with
  | none =>
    simp only [Option.bind_none, reduceCtorEq, false_iff]
    intro source
    obtain ⟨m, there', noted⟩ := wired.node_at_end link .output
    simp only [Link.endAt, source] at there' noted
    obtain rfl := Option.some.inj (there.symm.trans there')
    simp [Node.link?, outlet] at noted
  | some p =>
    rw [Option.bind_some, wired.outlet_link_iff there outlet]
    constructor
    · rintro ⟨l', link', source⟩
      exact Option.some.inj (link.symm.trans link') ▸ source
    · exact fun source => ⟨l, link, source⟩

/-- A call sends nothing over the links of other nodes. -/
theorem sentOver_of_other (other : l.source.node ≠ c.index) : sentOver (some k) c.sent = [] := by
  unfold sent
  split
  · rw [sentOver_deliveries]
    refine List.filterMap_eq_nil_iff.2 fun (pad, frame) _ => ?_
    have apart : Graph.outLink c.rest.outputs pad ≠ some k := fun noted =>
      other (congrArg Endpoint.node ((outLink_eq_iff wired there outputs link).1 noted))
    simp [apart]
  · rfl

/-- Over its own links a call sends what it emits on their pads, unless they were closed. -/
theorem sentOver_eq (source : l.source = ⟨c.index, pad⟩) (outlet : c.rest.outputs[pad]? = some p) :
    sentOver (some k) c.sent =
      if c.turn.fault.isNone && !p.closed then emittedOn pad c.turn.tray.frames.toList else [] := by
  have at_pad : ∀ pad', Graph.outLink c.rest.outputs pad' = some k ↔ pad' = pad := by
    intro pad'
    rw [outLink_eq_iff wired there outputs link, source]
    simp [eq_comm]
  unfold sent
  split
  · next fine =>
    rw [sentOver_deliveries]
    cases closed : p.closed with
    | true =>
      simp only [Bool.not_true, Bool.and_false, Bool.false_eq_true, if_false]
      refine List.filterMap_eq_nil_iff.2 fun (pad', frame) _ => ?_
      simp only [at_pad]
      by_cases here : pad' = pad
      · simp [here, outlet, closed]
      · simp [here]
    | false =>
      simp only [fine, Bool.not_false, Bool.and_true, if_true, emittedOn]
      refine List.filterMap_congr fun (pad', frame) _ => ?_
      simp only [at_pad]
      by_cases here : pad' = pad
      · simp [here, outlet, closed]
      · simp [here]
  · next failed => simp [failed]

/-- A call only ends links of its own node. -/
theorem not_mem_ends (other : l.source.node ≠ c.index) : k ∉ c.ends := by
  unfold ends
  split
  · intro ended
    obtain ⟨pad, p, outlet, noted, _⟩ := mem_endings_iff.1 ended
    have source : l.source = ⟨c.index, pad⟩ := (outLink_eq_iff wired there outputs link).1
      (by simp [Graph.outLink, outlet, noted])
    exact other (congrArg Endpoint.node source)
  · simp

/-- The end of a link is sent just when its pad is closed. -/
theorem closed_left (source : l.source = ⟨c.index, pad⟩) (outlet : c.rest.outputs[pad]? = some p) :
    ∃ p', c.left.outputs[pad]? = some p' ∧ p'.closed = (p.closed || decide (k ∈ c.ends)) := by
  have noted : p.link = some k := by
    have := (outLink_eq_iff wired there outputs link).2 source
    simpa [Graph.outLink, outlet] using this
  have at_pad : ∀ pad' p', c.rest.outputs[pad']? = some p' → p'.link = some k → pad' = pad := by
    intro pad' p' outlet' noted'
    have source' : l.source = ⟨c.index, pad'⟩ := (outLink_eq_iff wired there outputs link).1
      (by simp [Graph.outLink, outlet', noted'])
    exact congrArg Endpoint.pad (source'.symm.trans source)
  unfold left ends
  split
  · refine ⟨{ p with closed := p.closed || c.turn.tray.closed.getD pad false }, ?_, ?_⟩
    · simp [Node.closeOutputs, List.getElem?_zipIdx, outlet]
    · have ended : k ∈ Graph.endings c.rest.outputs c.turn.tray.closed ↔
          p.closed = false ∧ c.turn.tray.closed.getD pad false := by
        rw [mem_endings_iff]
        constructor
        · rintro ⟨pad', p', outlet', noted', closes⟩
          obtain rfl := at_pad pad' p' outlet' noted'
          obtain rfl := Option.some.inj (outlet.symm.trans outlet')
          exact closes
        · exact fun closes => ⟨pad, p, outlet, noted, closes⟩
      cases closed : p.closed
      · simp [ended, closed]
      · rfl
  · exact ⟨p, outlet, by simp⟩

omit link in
/-- Nothing of a call arrives at a node that the node called does not feed. -/
theorem receive_of_unfed {j : Nat} {m m' : Node σ} (at_node : g.nodes[j]? = some m)
    (via : m.Evolves m') (unfed : ¬g.Feeds c.index j) : m'.receive c.sent c.ends = m' := by
  have same : m'.inputs.map (Inlet.receive c.sent c.ends) = m'.inputs := by
    refine (List.map_congr_left fun q member => ?_).trans m'.inputs.map_id
    obtain ⟨pad, inlet⟩ := List.mem_iff_getElem?.1 member
    have nothing : sentOver q.link c.sent = [] ∧ (q.link.any fun k => c.ends.contains k) = false := by
      cases noted : q.link with
      | none => simp [sentOver]
      | some k =>
        have at_pad : g.linkAt .input ⟨j, pad⟩ = some k := by
          rw [Graph.linkAt, at_node, Option.bind_some, ← via.link?_eq]
          simp [Node.link?, inlet, noted]
        obtain ⟨l, link, target⟩ := wired.linkAt_iff.1 at_pad
        have other : l.source.node ≠ c.index := fun source =>
          unfed ⟨l, Array.mem_iff_getElem?.2 ⟨k, link⟩, source, congrArg Endpoint.node target⟩
        have unended := not_mem_ends wired there outputs link other
        exact ⟨sentOver_of_other wired there outputs link other, by simpa using unended⟩
    simp only [Inlet.receive, nothing.1, nothing.2, List.append_nil, Queue.ofList_toList,
      Bool.or_false, id_eq]
  simp only [Node.receive, same]

end Invocation
end FrameFlow
