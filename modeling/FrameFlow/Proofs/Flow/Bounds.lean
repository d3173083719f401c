import FrameFlow.Proofs.Diagnosis.Negotiation
import FrameFlow.Proofs.Filter.Lawful
import FrameFlow.Proofs.Flow.Routing
import FrameFlow.Proofs.Flow.Work

/-! The numbers that are looked up while a graph is configured, fed and pulled. The checked functions here
do what the unchecked ones do, and give nothing where a node, a link, a pad or a mark that they look up is
not there. Where pads and links refer to each other, they give what the unchecked ones do, except for a step
whose call leaves a tray with frames or marks for pads that its node has not. -/
namespace FrameFlow

variable {σ : Type}

theorem findM?_eq_some {test : Nat → Option Bool} {p : Nat → Bool} {all : List Nat}
    (agree : ∀ i ∈ all, test i = some (p i)) : all.findM? test = some (all.find? p) := by
  induction all with
  | nil => rfl
  | cons i rest ih =>
    have later := ih fun j member => agree j (List.mem_cons_of_mem _ member)
    have now := agree i List.mem_cons_self
    cases found : p i <;> simp [List.findM?, now, found, later]

/-- A checked fold agrees if each step from a good state agrees and leads to a good state. -/
theorem foldlM_eq_some {α β : Type} {f : β → α → Option β} {g : β → α → β} {P : β → Prop}
    {all : List α} (agree : ∀ s, P s → ∀ a ∈ all, f s a = some (g s a) ∧ P (g s a)) {s : β}
    (good : P s) : all.foldlM f s = some (all.foldl g s) ∧ P (all.foldl g s) := by
  induction all generalizing s with
  | nil => exact ⟨rfl, good⟩
  | cons a rest ih =>
    obtain ⟨now, next⟩ := agree s good a List.mem_cons_self
    rw [List.foldlM_cons, now]
    exact ih (fun s good b member => agree s good b (List.mem_cons_of_mem _ member)) next

theorem mapM_eq_some {α β : Type} {f : α → Option β} {all : List α}
    (found : ∀ a ∈ all, (f a).isSome) : all.mapM f = some (all.filterMap f) := by
  induction all with
  | nil => rfl
  | cons a rest ih =>
    obtain ⟨b, now⟩ := Option.isSome_iff_exists.1 (found a List.mem_cons_self)
    rw [List.mapM_cons, ih fun c member => found c (List.mem_cons_of_mem _ member)]
    simp [now]

/-- A walk that asks for the next nodes of every node it comes across. -/
def Walk.visitChecked (next : Nat → Option (List Nat)) : Nat → Walk → Nat → Option Walk
  | 0, w, i => (next i).map fun _ => w
  | depth + 1, w, i => do
    let onward ← next i
    if i ∈ w.seen then some w
    else
      let below ← onward.foldlM (visitChecked next depth) { w with seen := w.seen.push i }
      some { below with left := i :: below.left }

theorem Walk.visitChecked_eq {next : Nat → List Nat} {checked : Nat → Option (List Nat)} {size : Nat}
    (agree : ∀ i < size, checked i = some (next i)) (within : ∀ i < size, ∀ j ∈ next i, j < size)
    (depth : Nat) (w : Walk) {i : Nat} (inside : i < size) :
    visitChecked checked depth w i = some (visit next depth w i) := by
  induction depth generalizing w i with
  | zero => simp [visitChecked, visit, agree i inside]
  | succ depth ih =>
    have below := (foldlM_eq_some (P := fun _ => True) (s := { w with seen := w.seen.push i })
      fun w _ j member => ⟨ih w (within i inside j member), trivial⟩) trivial
    by_cases seen : i ∈ w.seen <;> simp [visitChecked, visit, agree i inside, seen, below.1]

namespace Graph

section Negotiation

variable {formats : LinkFormats} {n : Node σ} {g : Graph σ} {i : Nat}

def inputFormatChecked (formats : LinkFormats) (p : Inlet) : Option (Option Format) :=
  match p.link with
  | none => some none
  | some k => formats[k]?

def inputFormatsChecked (formats : LinkFormats) :
    Nat → List Inlet → Option (Except Nat (List Format))
  | _, [] => some (.ok [])
  | pad, p :: rest => do
    match ← inputFormatChecked formats p with
    | none => some (.error pad)
    | some f =>
      let later ← inputFormatsChecked formats (pad + 1) rest
      some (later.map (f :: ·))

def fixFormatsChecked (formats : LinkFormats) : List (Outlet × Format) → Option LinkFormats
  | [] => some formats
  | (p, f) :: rest =>
    match p.link with
    | some k => if k < formats.length then fixFormatsChecked (formats.set k (some f)) rest else none
    | none => fixFormatsChecked formats rest

/-- Refusals are those of the unchecked function, which looks up no more for them. -/
def negotiateNodeChecked [Filter σ] (g : Graph σ) (formats : LinkFormats) (i : Nat) :
    Option (Except Defect LinkFormats) := do
  let n ← g.nodes[i]?
  match ← inputFormatsChecked formats 0 n.inputs with
  | .error _ => some (g.negotiateNode formats i)
  | .ok inputs =>
    match n.negotiate inputs with
    | .error _ => some (g.negotiateNode formats i)
    | .ok answer =>
      if answer.length = n.outputs.length then
        (fixFormatsChecked formats (n.outputs.zip answer)).map .ok
      else some (g.negotiateNode formats i)

def negotiateAllChecked [Filter σ] (g : Graph σ) :
    LinkFormats → List Nat → Option (Except Defect LinkFormats)
  | formats, [] => some (.ok formats)
  | formats, i :: rest => do
    match ← g.negotiateNodeChecked formats i with
    | .error defect => some (.error defect)
    | .ok formats => g.negotiateAllChecked formats rest

def negotiateChecked [Filter σ] (g : Graph σ) (order : List Nat) :
    Option (Except Defect (List Format)) := do
  let formats ← g.negotiateAllChecked (g.links.toList.map fun _ => none) order
  some (formats.bind (allFixed 0))

theorem inputFormatsChecked_eq {inlets : List Inlet}
    (noted : ∀ p ∈ inlets, ∀ k, p.link = some k → k < formats.length) (pad : Nat) :
    inputFormatsChecked formats pad inlets = some (inputFormats formats pad inlets) := by
  induction inlets generalizing pad with
  | nil => rfl
  | cons p rest ih =>
    have later := ih (fun q member => noted q (List.mem_cons_of_mem _ member)) (pad + 1)
    have now : inputFormatChecked formats p = some (inputFormat formats p) := by
      unfold inputFormatChecked inputFormat
      cases link : p.link with
      | none => rfl
      | some k =>
        have inside := noted p List.mem_cons_self k link
        simp [List.getElem?_eq_getElem inside]
    unfold inputFormatsChecked inputFormats
    rw [now]
    cases inputFormat formats p <;> simp [later]

theorem fixFormatsChecked_eq {pairs : List (Outlet × Format)}
    (noted : ∀ p ∈ pairs, ∀ k, p.1.link = some k → k < formats.length) :
    fixFormatsChecked formats pairs = some (fixFormats formats pairs) := by
  induction pairs generalizing formats with
  | nil => rfl
  | cons p rest ih =>
    unfold fixFormatsChecked fixFormats
    cases link : p.1.link with
    | none => exact ih fun q member => noted q (List.mem_cons_of_mem _ member)
    | some k =>
      have inside := noted p List.mem_cons_self k link
      simp only [inside, if_true]
      exact ih fun q member => by simpa using noted q (List.mem_cons_of_mem _ member)

theorem length_negotiateNode [Filter σ] {fixed : LinkFormats}
    (ok : g.negotiateNode formats i = .ok fixed) : fixed.length = formats.length := by
  unfold negotiateNode at ok
  dsimp only at ok
  split at ok
  · exact congrArg List.length (Except.ok.inj ok).symm
  · split at ok
    · simp at ok
    · split at ok
      · simp at ok
      · split at ok
        · exact Except.ok.inj ok ▸ length_fixFormats _ _
        · simp at ok

theorem Wired.lt_size_of_link? (wired : g.Wired) {d : Direction} {pad k : Nat}
    (there : g.nodes[i]? = some n) (noted : n.link? d pad = some k) : k < g.links.size := by
  obtain ⟨_, link, _⟩ := wired.end_of_link? there noted
  exact (Array.getElem?_eq_some_iff.1 link).1

theorem Wired.lt_size_of_inlet (wired : g.Wired) (there : g.nodes[i]? = some n) {p : Inlet}
    (member : p ∈ n.inputs) {k : Nat} (noted : p.link = some k) : k < g.links.size := by
  obtain ⟨pad, at_pad⟩ := List.mem_iff_getElem?.1 member
  have here : n.link? .input pad = some k := by simp [Node.link?, at_pad, noted]
  exact wired.lt_size_of_link? there here

theorem Wired.lt_size_of_outlet (wired : g.Wired) (there : g.nodes[i]? = some n) {p : Outlet}
    (member : p ∈ n.outputs) {k : Nat} (noted : p.link = some k) : k < g.links.size := by
  obtain ⟨pad, at_pad⟩ := List.mem_iff_getElem?.1 member
  have here : n.link? .output pad = some k := by simp [Node.link?, at_pad, noted]
  exact wired.lt_size_of_link? there here

variable [Filter σ]

theorem negotiateNodeChecked_eq (wired : g.Wired) (inside : i < g.nodes.size)
    (size : formats.length = g.links.size) :
    g.negotiateNodeChecked formats i = some (g.negotiateNode formats i) := by
  have there := Array.getElem?_eq_getElem inside
  have inputs : inputFormatsChecked formats 0 g.nodes[i].inputs =
      some (inputFormats formats 0 g.nodes[i].inputs) :=
    inputFormatsChecked_eq (fun p member k noted => size ▸ wired.lt_size_of_inlet there member noted) 0
  unfold negotiateNodeChecked
  rw [there, Option.bind_eq_bind, Option.bind_some, inputs, Option.bind_eq_bind, Option.bind_some]
  cases known : inputFormats formats 0 g.nodes[i].inputs with
  | error pad => rfl
  | ok known_formats =>
    cases answered : g.nodes[i].negotiate known_formats with
    | error fault => simp only [answered]
    | ok answer =>
      simp only [answered]
      split
      · next fits =>
        rw [fixFormatsChecked_eq fun p member k noted => size ▸ wired.lt_size_of_outlet there
          (List.of_mem_zip member).1 noted]
        simp only [negotiateNode, there, known, answered, fits, if_true, Option.map_some]
      · rfl

theorem negotiateAllChecked_eq (wired : g.Wired) {order : List Nat}
    (inside : ∀ i ∈ order, i < g.nodes.size) (size : formats.length = g.links.size) :
    g.negotiateAllChecked formats order = some (order.foldlM g.negotiateNode formats) := by
  induction order generalizing formats with
  | nil => rfl
  | cons i rest ih =>
    have now := negotiateNodeChecked_eq wired (inside i List.mem_cons_self) size
    rw [negotiateAllChecked, now, List.foldlM_cons, Option.bind_eq_bind, Option.bind_some]
    cases ok : g.negotiateNode formats i with
    | error defect => rfl
    | ok fixed =>
      exact ih (fun j member => inside j (List.mem_cons_of_mem _ member))
        ((length_negotiateNode ok).trans size)

theorem negotiateChecked_eq (wired : g.Wired) {order : List Nat}
    (inside : ∀ i ∈ order, i < g.nodes.size) :
    g.negotiateChecked order = some (g.negotiate order) := by
  rw [negotiateChecked, negotiateAllChecked_eq wired inside (by simp)]
  rfl

end Negotiation

section Feeding

variable {g : Graph σ} {i : Nat} {n : Node σ}

def feedFormatChecked (g : Graph σ) (n : Node σ) : Option (Option Format) :=
  match n.outputs.head?.bind Outlet.link with
  | none => some none
  | some k => g.links[k]?.map Link.format

theorem feedFormatChecked_eq (wired : g.Wired) (there : g.nodes[i]? = some n) :
    g.feedFormatChecked n = some (g.feedFormat n) := by
  unfold feedFormatChecked feedFormat
  cases first : n.outputs.head? with
  | none => rfl
  | some p =>
    cases noted : p.link with
    | none => simp [noted]
    | some k =>
      have inside := wired.lt_size_of_outlet there (List.mem_of_mem_head? first) noted
      simp [noted, Array.getElem?_eq_getElem inside]

def feedersChecked (g : Graph σ) (i : Nat) : Option (List Nat) := do
  let n ← g.nodes[i]?
  (n.inputs.reverse.filterMap Inlet.link).mapM fun k => g.links[k]?.map fun l => l.source.node

theorem feedersChecked_eq (wired : g.Wired) (inside : i < g.nodes.size) :
    g.feedersChecked i = some (g.feeders i) := by
  have there := Array.getElem?_eq_getElem inside
  unfold feedersChecked feeders
  rw [there, Option.bind_eq_bind, Option.bind_some]
  apply mapM_eq_some
  intro k noted
  obtain ⟨p, member, noted⟩ := List.mem_filterMap.1 noted
  have inside := wired.lt_size_of_inlet there (List.mem_reverse.1 member) noted
  simp [Array.getElem?_eq_getElem inside]

def failedFeederChecked (g : Graph σ) (i : Nat) : Option (Option Nat) := do
  let w ← Walk.visitChecked g.feedersChecked g.nodes.size .start i
  w.seen.toList.reverse.findM? fun j => g.nodes[j]?.map fun n => n.life == .failed

theorem failedFeederChecked_eq (wired : g.Wired) (inside : i < g.nodes.size) :
    g.failedFeederChecked i = some (g.failedFeeder i) := by
  have walk := Walk.visitChecked_eq (fun j inside => feedersChecked_eq wired inside)
    (fun j _ k member => wired.lt_size_of_feeds (wired.mem_feeders_iff.1 member)) g.nodes.size .start
    inside
  rw [failedFeederChecked, walk, Option.bind_eq_bind, Option.bind_some]
  apply findM?_eq_some
  intro j member
  have within : j < g.nodes.size := by
    rcases ((wired.mem_reachedFrom_feeders_iff inside).1 member).cases_head with rfl | ⟨k, feeds, _⟩
    · exact inside
    · exact wired.lt_size_of_feeds feeds
  simp [hasFailed, Array.getElem?_eq_getElem within]

end Feeding

section Step

variable {g : Graph σ} {i k : Nat} {n : Node σ}

/-- Frames emitted on pads that were open before the call, with the links they go over. -/
def deliveriesChecked (outputs : List Outlet) : List (Nat × Frame) → Option (List (Nat × Frame))
  | [] => some []
  | (pad, frame) :: rest => do
    let p ← outputs[pad]?
    let later ← deliveriesChecked outputs rest
    some (if p.closed then later else (p.link.map (·, frame)).toList ++ later)

/-- Links of the pads that a call has closed, from its marks with their pads. -/
def endingsChecked (outputs : List Outlet) : List (Bool × Nat) → Option (List Nat)
  | [] => some []
  | (false, _) :: rest => endingsChecked outputs rest
  | (true, pad) :: rest => do
    let p ← outputs[pad]?
    let later ← endingsChecked outputs rest
    some (if p.closed then later else p.link.toList ++ later)

def atTargetChecked (g : Graph σ) (link : Nat) (f : Inlet → Inlet) : Option (Graph σ) := do
  let l ← g.links[link]?
  let n ← g.nodes[l.target.node]?
  let p ← n.inputs[l.target.pad]?
  some (g.setNode l.target.node { n with inputs := n.inputs.set l.target.pad (f p) })

def routeChecked (g : Graph σ) (sent : List (Nat × Frame)) (ends : List Nat) : Option (Graph σ) := do
  let delivered ← sent.foldlM (fun g (link, frame) =>
    g.atTargetChecked link fun p => { p with queue := p.queue.push frame }) g
  ends.foldlM (fun g link => g.atTargetChecked link fun p => { p with ended := true }) delivered

/-- Nothing is looked up where the call fails. -/
def handleWorkChecked [Filter σ] (g : Graph σ) (i : Nat) (n : Node σ) (work : Work) :
    Option (Graph σ × Except GraphError Unit) :=
  let turn := n.invoke work (.start n.closedOutputs)
  match turn.fault with
  | some _ => some (g.handleWork i n work)
  | none => do
    let sent ← deliveriesChecked n.outputs turn.tray.frames.toList
    let ends ← endingsChecked n.outputs turn.tray.closed.zipIdx
    let after := { n with filter := turn.state }
    let done := (g.setNode i (after.closeOutputs turn.tray.closed)).countStep
      (droppedCount n.outputs turn.tray.frames.toList)
    let routed ← done.routeChecked sent ends
    some (routed, .ok ())

def stepChecked [Filter σ] (g : Graph σ) : Option (Option (Graph σ × Except GraphError Unit)) := do
  match ← g.schedule.findM? fun i => g.nodes[i]?.map Node.hasWork with
  | none => some none
  | some i =>
    let n ← g.nodes[i]?
    if n.life = .failed then
      some (some (g, .error (.invalidOperation (g.handle i) .failedEarlier)))
    else match n.takeWork with
      | none => some none
      | some (work, n) => (g.handleWorkChecked i n work).map some

theorem deliveriesChecked_eq {outputs : List Outlet} {frames : List (Nat × Frame)}
    (fits : ∀ f ∈ frames, f.1 < outputs.length) :
    deliveriesChecked outputs frames = some (deliveries outputs frames) := by
  induction frames with
  | nil => rfl
  | cons f rest ih =>
    have later := ih fun f member => fits f (List.mem_cons_of_mem _ member)
    have inside := fits f List.mem_cons_self
    have there := List.getElem?_eq_getElem inside
    simp only [deliveriesChecked, there, later, deliveries, List.filterMap_cons, Option.bind_eq_bind,
      Option.bind_some, Option.some.injEq]
    cases outputs[f.1].closed with
    | true => rfl
    | false => cases outputs[f.1].link <;> rfl

theorem isSome_deliveriesChecked {outputs : List Outlet} {frames : List (Nat × Frame)} :
    (deliveriesChecked outputs frames).isSome ↔ ∀ f ∈ frames, f.1 < outputs.length := by
  induction frames with
  | nil => simp [deliveriesChecked]
  | cons f rest ih =>
    rw [List.forall_mem_cons, ← ih]
    cases there : outputs[f.1]? with
    | none =>
      have outside := Nat.not_lt.2 (List.getElem?_eq_none_iff.1 there)
      simp [deliveriesChecked, outside]
    | some p =>
      have inside := (List.getElem?_eq_some_iff.1 there).1
      cases later : deliveriesChecked outputs rest <;> simp [deliveriesChecked, later, inside]

theorem isSome_endingsChecked {outputs : List Outlet} {marks : List (Bool × Nat)} :
    (endingsChecked outputs marks).isSome ↔ ∀ m ∈ marks, m.1 → m.2 < outputs.length := by
  induction marks with
  | nil => simp [endingsChecked]
  | cons m rest ih =>
    obtain ⟨mark, pad⟩ := m
    rw [List.forall_mem_cons, ← ih]
    cases mark with
    | false => simp [endingsChecked]
    | true =>
      cases there : outputs[pad]? with
      | none =>
        have outside := Nat.not_lt.2 (List.getElem?_eq_none_iff.1 there)
        simp [endingsChecked, outside]
      | some p =>
        have inside := (List.getElem?_eq_some_iff.1 there).1
        cases later : endingsChecked outputs rest <;> simp [endingsChecked, later, inside]

theorem zipIdx_drop {α : Type} (l : List α) (i : Nat) : (l.drop i).zipIdx i =
    (l[i]?.map (·, i)).toList ++ (l.drop (i + 1)).zipIdx (i + 1) := by
  rcases Nat.lt_or_ge i l.length with inside | outside
  · rw [List.drop_eq_getElem_cons inside, List.zipIdx_cons, List.getElem?_eq_getElem inside]
    rfl
  · rw [List.drop_eq_nil_of_le outside, List.drop_eq_nil_of_le (by omega),
      List.getElem?_eq_none outside]
    rfl

theorem endingsChecked_eq {outputs : List Outlet} {closed : List Bool}
    (fits : ∀ pad, closed[pad]? = some true → pad < outputs.length) :
    endingsChecked outputs closed.zipIdx = some (endings outputs closed) := by
  -- the marks and the pads that are still to be looked at, from the last one on
  suffices rest : ∀ count pad, max outputs.length closed.length ≤ pad + count →
      endingsChecked outputs ((closed.drop pad).zipIdx pad) =
        some (((outputs.drop pad).zipIdx pad).filterMap fun at_pad =>
          if !at_pad.1.closed && closed.getD at_pad.2 false then at_pad.1.link else none) from
    rest (max outputs.length closed.length) 0 (Nat.le_add_left _ _)
  intro count
  induction count with
  | zero =>
    intro pad all
    have no_marks : closed.drop pad = [] := List.drop_eq_nil_of_le (by omega)
    have no_pads : outputs.drop pad = [] := List.drop_eq_nil_of_le (by omega)
    rw [no_marks, no_pads]
    rfl
  | succ count ih =>
    intro pad all
    have later := ih (pad + 1) (by omega)
    rw [zipIdx_drop closed, zipIdx_drop outputs, List.filterMap_append]
    cases there : outputs[pad]? with
    | none =>
      have outside := List.getElem?_eq_none_iff.1 there
      rcases marked : closed[pad]? with _ | _ | _
      · simpa using later
      · simpa [endingsChecked] using later
      · exact absurd (fits pad marked) (Nat.not_lt.2 outside)
    | some p =>
      rcases marked : closed[pad]? with _ | _ | _
      · simpa [marked] using later
      · simpa [endingsChecked, marked] using later
      · cases shut : p.closed <;> cases link : p.link <;>
          simp [endingsChecked, marked, there, later, shut, link]

theorem atTargetChecked_eq (wired : g.Wired) (inside : k < g.links.size) (f : Inlet → Inlet) :
    g.atTargetChecked k f = some (g.atTarget k f) := by
  obtain ⟨l, link⟩ : ∃ l, g.links[k]? = some l := ⟨_, Array.getElem?_eq_getElem inside⟩
  obtain ⟨n, there, noted⟩ := wired.node_at_end link .input
  obtain ⟨p, inlet, _⟩ := Option.bind_eq_some_iff.1 noted
  simp only [Link.endAt] at there inlet
  have inlets : n.inputs.modify l.target.pad f = n.inputs.set l.target.pad (f p) := by
    rw [List.modify_eq_set_getElem?, inlet]
    rfl
  simp only [atTargetChecked, atTarget, link, there, inlet, Option.bind_eq_bind, Option.bind_some,
    Option.some.injEq, setNode]
  congr 1
  refine Array.ext_getElem? fun j => ?_
  simp only [Array.getElem?_setIfInBounds, Array.getElem?_modify]
  split
  · next here =>
    rw [← here, there, if_pos (Array.getElem?_eq_some_iff.1 there).1, Option.map_some, inlets]
  · rfl

theorem exists_outlet_of_mem_deliveries {outputs : List Outlet} {frames : List (Nat × Frame)}
    {s : Nat × Frame} (member : s ∈ deliveries outputs frames) :
    ∃ p ∈ outputs, p.link = some s.1 := by
  obtain ⟨⟨pad, frame⟩, _, sent⟩ := List.mem_filterMap.1 member
  dsimp only at sent
  split at sent
  · next p outlet =>
    split at sent
    · simp at sent
    · obtain ⟨k, noted, rfl⟩ := Option.map_eq_some_iff.1 sent
      exact ⟨p, List.mem_of_getElem? outlet, noted⟩
  · simp at sent

/-- Where a call sends something over links that there are, each link has an inlet at its end. -/
theorem routeChecked_eq (wired : g.Wired) {outputs : List Outlet}
    (noted : ∀ p ∈ outputs, ∀ k, p.link = some k → k < g.links.size) (tray : Tray) :
    g.routeChecked (deliveries outputs tray.frames.toList) (endings outputs tray.closed) =
      some (g.route outputs tray) := by
  have still : ∀ h : Graph σ, g.Evolves h → ∀ k < g.links.size, ∀ f : Inlet → Inlet,
      (∀ p, (f p).end? = p.end?) →
      h.atTargetChecked k f = some (h.atTarget k f) ∧ g.Evolves (h.atTarget k f) := by
    intro h via k inside f keeps
    exact ⟨atTargetChecked_eq (via.wired wired) (via.links ▸ inside) f,
      via.trans (h.evolves_atTarget k keeps)⟩
  have sent : ∀ s ∈ deliveries outputs tray.frames.toList, s.1 < g.links.size := by
    intro s member
    obtain ⟨p, outlet, link⟩ := exists_outlet_of_mem_deliveries member
    exact noted p outlet s.1 link
  have ended : ∀ k ∈ endings outputs tray.closed, k < g.links.size := by
    intro k member
    obtain ⟨pad, p, outlet, link, _⟩ := mem_endings_iff.1 member
    exact noted p (List.mem_of_getElem? outlet) k link
  obtain ⟨delivered, via⟩ := foldlM_eq_some (P := g.Evolves)
    (f := fun (g : Graph σ) (s : Nat × Frame) =>
      g.atTargetChecked s.1 fun p => { p with queue := p.queue.push s.2 })
    (fun h via s member => still h via s.1 (sent s member) _ fun _ => rfl) (.refl g)
  obtain ⟨done, _⟩ := foldlM_eq_some (P := g.Evolves)
    (fun h via k member => still h via k (ended k member) (fun p => { p with ended := true })
      fun _ => rfl) via
  rw [routeChecked, delivered, Option.bind_eq_bind, Option.bind_some, done]
  rfl

theorem within_iff {outputs : List Outlet} {tray : Tray} : tray.Within outputs.length ↔
    (deliveriesChecked outputs tray.frames.toList).isSome ∧
      (endingsChecked outputs tray.closed.zipIdx).isSome := by
  have marks : (endingsChecked outputs tray.closed.zipIdx).isSome ↔
      ∀ pad, tray.closed[pad]? = some true → pad < outputs.length := by
    rw [isSome_endingsChecked]
    constructor
    · exact fun fits pad marked => fits (true, pad) (List.mem_zipIdx_iff_getElem?.2 marked) rfl
    · rintro fits ⟨_, pad⟩ member rfl
      exact fits pad (List.mem_zipIdx_iff_getElem?.1 member)
  rw [isSome_deliveriesChecked, marks]
  exact ⟨fun within => ⟨within.frames, within.closed⟩, fun fits => ⟨fits.1, fits.2⟩⟩

variable [Filter σ] {m : Node σ} {work : Work}

/-- What a call leaves is handled just where its tray has frames and marks only for pads of the node. -/
theorem handleWorkChecked_eq_iff (wired : g.Wired) (there : g.nodes[i]? = some n)
    (taken : n.takeWork = some (work, m)) :
    g.handleWorkChecked i m work = some (g.handleWork i m work) ↔
      ((m.invoke work (.start m.closedOutputs)).fault = none →
        (m.invoke work (.start m.closedOutputs)).tray.Within m.outputs.length) := by
  have noted : ∀ p ∈ m.outputs, ∀ k, p.link = some k → k < g.links.size := by
    rw [(Node.takes_of_takeWork taken).outputs]
    exact fun p member k => wired.lt_size_of_outlet there member
  unfold handleWorkChecked handleWork
  cases fault : (m.invoke work (.start m.closedOutputs)).fault with
  | some fault => simp only [fault, reduceCtorEq, false_imp_iff]
  | none =>
    simp only [fault, true_imp_iff]
    constructor
    · intro handled
      refine within_iff.2 ⟨Option.isSome_iff_ne_none.2 fun none => ?_,
        Option.isSome_iff_ne_none.2 fun none => ?_⟩
      · simp [none] at handled
      · simp [none] at handled
    · intro within
      have via := evolves_done there taken (m.invoke work (.start m.closedOutputs)).state
        (m.invoke work (.start m.closedOutputs)).tray.closed
        (droppedCount m.outputs (m.invoke work (.start m.closedOutputs)).tray.frames.toList)
      simp only [deliveriesChecked_eq within.frames, endingsChecked_eq within.closed,
        Option.bind_eq_bind, Option.bind_some]
      rw [routeChecked_eq (via.wired wired) (via.links ▸ noted)]
      rfl

/-- A step finds all that it looks up just where the call that it makes, if it goes well, leaves frames and
marks only for pads of the node. -/
theorem stepChecked_eq_iff (wired : g.Wired) (inside : ∀ i ∈ g.schedule, i < g.nodes.size) :
    g.stepChecked = some g.step ↔ ∀ c, g.stepEvents = [.invoked c] → c.turn.fault = none →
      c.turn.tray.Within c.node.outputs.length := by
  have first : (g.schedule.findM? fun i => g.nodes[i]?.map Node.hasWork) =
      some (g.schedule.find? g.hasWorkAt) :=
    findM?_eq_some fun i member => by
      simp [hasWorkAt, Array.getElem?_eq_getElem (inside i member)]
  unfold stepChecked step stepEvents nextToWork
  rw [first, Option.bind_eq_bind, Option.bind_some]
  cases found : g.schedule.find? g.hasWorkAt with
  | none => simp
  | some i =>
    have within := inside i (List.mem_of_find?_eq_some found)
    have there := Array.getElem?_eq_getElem within
    simp only [there, Option.bind_eq_bind, Option.bind_some]
    split
    · simp
    · cases taken : g.nodes[i].takeWork with
      | none => simp
      | some taken_work =>
        obtain ⟨work, m⟩ := taken_work
        have handled := handleWorkChecked_eq_iff wired there taken
        rw [(Node.takes_of_takeWork taken).outputs] at handled
        simpa using handled

/-- Filters that only emit frames and close outputs on the trays that they are given leave no others. -/
theorem stepChecked_eq [LawfulFilter σ] (wired : g.Wired) (inside : ∀ i ∈ g.schedule, i < g.nodes.size) :
    g.stepChecked = some g.step := by
  refine (stepChecked_eq_iff wired inside).2 fun c one _ => ?_
  obtain ⟨_, taken, turn⟩ := invoked_of_stepEvents one
  rw [turn, ← (Node.takes_of_takeWork taken).outputs]
  exact c.rest.within_invoke c.work

end Step
end Graph
end FrameFlow
