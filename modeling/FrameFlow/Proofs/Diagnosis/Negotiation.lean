import FrameFlow.Diagnosis.Negotiation
import FrameFlow.Proofs.Graph.Arena
import FrameFlow.Proofs.Outcome

/-! What negotiation finds. Nodes that are asked in the order of a schedule see the formats of all
their inputs, so negotiation goes well just where some formats suit every node, and there is then
only one choice of formats. -/
namespace FrameFlow

variable {σ : Type}

/-- The formats on the inputs of a node, if its links carry certain formats. -/
def Node.formatsIn (n : Node σ) (formats : Nat → Format) : List Format :=
  n.inputs.filterMap fun p => p.link.map formats

/-- The filter of a node answers the formats on its inputs with one format for each output, and
these are the formats there. -/
def Node.Answers [Filter σ] (n : Node σ) (formats : Nat → Format) : Prop :=
  ∃ answer, n.negotiate (n.formatsIn formats) = .ok answer ∧ answer.length = n.outputs.length ∧
    ∀ pad k, n.link? .output pad = some k → answer[pad]? = some (formats k)

/-- Every pad of a node is linked. -/
def Node.IsLinked (n : Node σ) : Prop := ∀ d pad, pad < n.padCount d → (n.link? d pad).isSome

namespace Node

variable {n : Node σ} {formats formats' : Nat → Format}

theorem formatsIn_congr (same : ∀ pad k, n.link? .input pad = some k → formats k = formats' k) :
    n.formatsIn formats = n.formatsIn formats' := by
  refine List.filterMap_congr fun p member => ?_
  obtain ⟨pad, at_pad⟩ := List.mem_iff_getElem?.1 member
  cases noted : p.link with
  | none => rfl
  | some k => simp [same pad k (by simp [link?, at_pad, noted])]

theorem Answers.congr [Filter σ] (same : ∀ d pad k, n.link? d pad = some k → formats k = formats' k)
    (h : n.Answers formats) : n.Answers formats' := by
  obtain ⟨answer, answered, count, outputs⟩ := h
  refine ⟨answer, ?_, count, fun pad k noted => ?_⟩
  · rw [← formatsIn_congr (same .input)]
    exact answered
  · rw [← same .output pad k noted]
    exact outputs pad k noted

end Node

namespace Graph

/-- An order in which nodes can work: every live node once, and each after those that feed it. -/
structure Schedules (g : Graph σ) (order : List Nat) : Prop where
  nodup : order.Nodup
  mem_iff : ∀ i, i ∈ order ↔ g.isLiveAt i
  ordered : ∀ l ∈ g.links, Earlier order l.source.node l.target.node

/-- The nodes of a schedule in another order that suits the links. -/
theorem Schedules.of_perm {g : Graph σ} {order order' : List Nat} (h : g.Schedules order)
    (perm : order.Perm order')
    (ordered : ∀ l ∈ g.links, Earlier order' l.source.node l.target.node) : g.Schedules order' where
  nodup := perm.nodup_iff.1 h.nodup
  mem_iff i := perm.mem_iff.symm.trans (h.mem_iff i)
  ordered := ordered

/-- No live node has a pad without a link. -/
def FullyLinked (g : Graph σ) : Prop :=
  ∀ ⦃i : Nat⦄ ⦃n : Node σ⦄, g.nodes[i]? = some n → n.isLive → n.IsLinked

/-- Formats that suit every node. -/
def Agrees [Filter σ] (g : Graph σ) (formats : Nat → Format) : Prop :=
  ∀ ⦃i : Nat⦄ ⦃n : Node σ⦄, g.nodes[i]? = some n → n.isLive → n.Answers formats

/-- What is found after some nodes were asked: the formats on the links that start from them. -/
structure Fixed (g : Graph σ) (asked : List Nat) (formats : Nat → Format) (found : LinkFormats) :
    Prop where
  size : found.length = g.links.size
  known : ∀ {k : Nat} {l : Link}, g.links[k]? = some l →
    found[k]? = some (if l.source.node ∈ asked then some (formats k) else none)

theorem not_mem_of_nodup {before after : List Nat} {i : Nat}
    (nodup : (before ++ i :: after).Nodup) : i ∉ before := by
  intro member
  exact (List.nodup_append.1 nodup).2.2 i member i List.mem_cons_self rfl

theorem mem_of_earlier {before after : List Nat} {i j : Nat} (nodup : (before ++ i :: after).Nodup)
    (earlier : Earlier (before ++ i :: after) j i) : j ∈ before := by
  have apart := not_mem_of_nodup nodup
  by_contra outside
  simp only [Earlier, List.idxOf_append_of_notMem apart, List.idxOf_append_of_notMem outside,
    List.idxOf_cons_self] at earlier
  omega

theorem Schedules.mem_of_feeds {g : Graph σ} {before after : List Nat} {i j : Nat}
    (h : g.Schedules (before ++ after)) (member : i ∈ before) (feeds : g.Feeds j i) :
    j ∈ before := by
  obtain ⟨l, link, rfl, rfl⟩ := feeds
  obtain ⟨first, rest, rfl⟩ := List.append_of_mem member
  have split : first ++ l.target.node :: rest ++ after =
      first ++ l.target.node :: (rest ++ after) := by simp
  rw [split] at h
  exact List.mem_append_left _ (mem_of_earlier h.nodup (h.ordered l link))

theorem Schedules.mem_of_feeds_next {g : Graph σ} {before after : List Nat} {i j : Nat}
    (h : g.Schedules (before ++ i :: after)) (feeds : g.Feeds j i) : j ∈ before := by
  obtain ⟨l, link, rfl, rfl⟩ := feeds
  exact mem_of_earlier h.nodup (h.ordered l link)

section Asking

variable {found : LinkFormats} {formats : Nat → Format} {pairs : List (Outlet × Format)} {k : Nat}

theorem inputFormats_eq {inlets : List Inlet} (known : ∀ p ∈ inlets, ∃ k, p.link = some k ∧
    found[k]? = some (some (formats k))) (pad : Nat) :
    inputFormats found pad inlets = .ok (inlets.filterMap fun p => p.link.map formats) := by
  induction inlets generalizing pad with
  | nil => rfl
  | cons p rest ih =>
    obtain ⟨k, noted, here⟩ := known p List.mem_cons_self
    have others := ih (fun q member => known q (List.mem_cons_of_mem _ member)) (pad + 1)
    simp [inputFormats, inputFormat, noted, here, others, Except.map]

@[simp] theorem length_fixFormats (found : LinkFormats) (pairs : List (Outlet × Format)) :
    (fixFormats found pairs).length = found.length := by
  induction pairs generalizing found with
  | nil => rfl
  | cons p rest ih =>
    unfold fixFormats
    split
    · rw [ih, List.length_set]
    · exact ih found

theorem getElem?_fixFormats_of_ne (other : ∀ p ∈ pairs, p.1.link ≠ some k) :
    (fixFormats found pairs)[k]? = found[k]? := by
  induction pairs generalizing found with
  | nil => rfl
  | cons p rest ih =>
    have others := fun q member => other q (List.mem_cons_of_mem p member)
    unfold fixFormats
    split
    · next l noted =>
      have apart : l ≠ k := fun same => other p List.mem_cons_self (same ▸ noted)
      rw [ih others, List.getElem?_set_ne apart]
    · exact ih others

theorem getElem?_fixFormats {f : Format} (inside : k < found.length)
    (same : ∀ p ∈ pairs, p.1.link = some k → p.2 = f) (there : ∃ p ∈ pairs, p.1.link = some k) :
    (fixFormats found pairs)[k]? = some (some f) := by
  induction pairs generalizing found with
  | nil => simp at there
  | cons p rest ih =>
    have later := fun q member => same q (List.mem_cons_of_mem p member)
    by_cases again : ∃ q ∈ rest, q.1.link = some k
    · unfold fixFormats
      split
      · exact ih (by simpa using inside) later again
      · exact ih inside later again
    · obtain ⟨q, member, noted⟩ := there
      obtain rfl : q = p := (List.mem_cons.1 member).resolve_right fun h => again ⟨q, h, noted⟩
      have others : ∀ q ∈ rest, q.1.link ≠ some k := fun q member h => again ⟨q, member, h⟩
      simp only [fixFormats, noted]
      rw [getElem?_fixFormats_of_ne others, List.getElem?_set_self inside,
        same q List.mem_cons_self noted]

end Asking

variable {g : Graph σ} {asked : List Nat} {formats formats' : Nat → Format}
  {found : LinkFormats} {i : Nat} {n : Node σ} {answer : List Format}

/-- An answer fixes the formats on the links that start from a node, and no others. -/
theorem Fixed.ask (wired : g.Wired) (fixed : g.Fixed asked formats found)
    (there : g.nodes[i]? = some n)
    (others : ∀ k l, g.links[k]? = some l → l.source.node ≠ i → formats' k = formats k)
    (answered : ∀ pad k, n.link? .output pad = some k → answer[pad]? = some (formats' k)) :
    g.Fixed (asked ++ [i]) formats' (fixFormats found (n.outputs.zip answer)) where
  size := by rw [length_fixFormats, fixed.size]
  known := by
    intro k l link
    have of_pair : ∀ p ∈ n.outputs.zip answer, p.1.link = some k →
        ∃ pad, n.link? .output pad = some k ∧ answer[pad]? = some p.2 := by
      intro p member noted
      obtain ⟨pad, at_pad⟩ := List.mem_iff_getElem?.1 member
      obtain ⟨outlet, format⟩ := List.getElem?_zip_eq_some.1 at_pad
      exact ⟨pad, by simpa [Node.link?, outlet] using noted, format⟩
    by_cases here : l.source.node = i
    · obtain ⟨m, there', noted⟩ := wired.node_at_end link .output
      obtain rfl := Option.some.inj (there.symm.trans (here ▸ there'))
      obtain ⟨p, outlet, noted'⟩ := Option.bind_eq_some_iff.1 noted
      have format := answered _ k noted
      rw [if_pos (by simp [here])]
      refine getElem?_fixFormats (fixed.size ▸ (Array.getElem?_eq_some_iff.1 link).1) ?_ ?_
      · intro q member linked
        obtain ⟨pad, at_pad, given⟩ := of_pair q member linked
        exact Option.some.inj (given.symm.trans (answered pad k at_pad))
      · exact ⟨(p, formats' k), List.mem_iff_getElem?.2 ⟨_, List.getElem?_zip_eq_some.2
          ⟨outlet, format⟩⟩, noted'⟩
    · rw [getElem?_fixFormats_of_ne, fixed.known link, others k l link here]
      · simp [here]
      · intro q member linked
        obtain ⟨pad, at_pad, _⟩ := of_pair q member linked
        obtain ⟨l', link', ends⟩ := wired.end_of_link? there at_pad
        obtain rfl := Option.some.inj (link.symm.trans link')
        exact here (congrArg Endpoint.node ends)

/-- A node that is asked after all that feed it sees the formats on its inputs. -/
theorem Fixed.inputFormats_eq (wired : g.Wired) (fixed : g.Fixed asked formats found)
    (there : g.nodes[i]? = some n) (linked : n.IsLinked) (upstream : ∀ j, g.Feeds j i → j ∈ asked) :
    inputFormats found 0 n.inputs = .ok (n.formatsIn formats) := by
  refine Graph.inputFormats_eq (fun p member => ?_) 0
  obtain ⟨pad, at_pad⟩ := List.mem_iff_getElem?.1 member
  obtain ⟨k, noted⟩ := Option.isSome_iff_exists.1
    (linked .input pad (List.getElem?_eq_some_iff.1 at_pad).1)
  obtain ⟨l, link, ends⟩ := wired.end_of_link? there noted
  have before := upstream _ ⟨l, Array.mem_of_getElem? link, rfl, congrArg Endpoint.node ends⟩
  refine ⟨k, by simpa [Node.link?, at_pad] using noted, ?_⟩
  rw [fixed.known link, if_pos before]

theorem negotiateNode_eq_ok_iff [Filter σ] (wired : g.Wired) (fixed : g.Fixed asked formats found)
    (there : g.nodes[i]? = some n) (linked : n.IsLinked) (upstream : ∀ j, g.Feeds j i → j ∈ asked)
    {after : LinkFormats} :
    g.negotiateNode found i = .ok after ↔ ∃ answer, n.negotiate (n.formatsIn formats) = .ok answer ∧
      answer.length = n.outputs.length ∧ fixFormats found (n.outputs.zip answer) = after := by
  unfold negotiateNode
  simp only [there, fixed.inputFormats_eq wired there linked upstream]
  cases answered : n.negotiate (n.formatsIn formats) with
  | error fault => simp
  | ok answer =>
    simp only [Except.ok.injEq]
    by_cases count : answer.length = n.outputs.length
    · simp [count]
    · simp [count]

/-- Formats with those that a node answered on the links that start from it. -/
def withAnswer (g : Graph σ) (i : Nat) (answer : List Format) (formats : Nat → Format) (k : Nat) :
    Format :=
  match g.links[k]? with
  | some l => if l.source.node = i then (answer[l.source.pad]?).getD default else formats k
  | none => formats k

theorem withAnswer_of_ne {k : Nat} {l : Link} (link : g.links[k]? = some l)
    (other : l.source.node ≠ i) : g.withAnswer i answer formats k = formats k := by
  simp [withAnswer, link, other]

theorem getElem?_answer (wired : g.Wired) (there : g.nodes[i]? = some n)
    (count : answer.length = n.outputs.length) {pad k : Nat} (noted : n.link? .output pad = some k) :
    answer[pad]? = some (g.withAnswer i answer formats k) := by
  obtain ⟨l, link, ends⟩ := wired.end_of_link? there noted
  have source : l.source = ⟨i, pad⟩ := ends
  obtain ⟨p, outlet, _⟩ := Option.bind_eq_some_iff.1 noted
  have inside : pad < answer.length := count ▸ (List.getElem?_eq_some_iff.1 outlet).1
  simp [withAnswer, link, source, inside]

section Order

variable [Filter σ] {order rest unasked : List Nat} {final : LinkFormats}

omit [Filter σ] in
/-- An answer changes no format that a node asked before has seen or answered. -/
theorem withAnswer_of_asked (wired : g.Wired) (schedules : g.Schedules (asked ++ i :: rest))
    {j : Nat} (member : j ∈ asked) (there : g.nodes[j]? = some n) {d : Direction} {pad k : Nat}
    (noted : n.link? d pad = some k) : g.withAnswer i answer formats k = formats k := by
  obtain ⟨l, link, ends⟩ := wired.end_of_link? there noted
  apply withAnswer_of_ne link
  intro here
  apply not_mem_of_nodup schedules.nodup
  cases d with
  | output => exact here ▸ (congrArg Endpoint.node ends : l.source.node = j) ▸ member
  | input =>
    exact here ▸ schedules.mem_of_feeds member
      ⟨l, Array.mem_of_getElem? link, rfl, congrArg Endpoint.node ends⟩

omit [Filter σ] in
/-- An answer changes no format on the inputs of the node that gives it. -/
theorem withAnswer_of_inlet (wired : g.Wired) (schedules : g.Schedules (asked ++ i :: rest))
    (there : g.nodes[i]? = some n) {pad k : Nat} (noted : n.link? .input pad = some k) :
    g.withAnswer i answer formats k = formats k := by
  obtain ⟨l, link, ends⟩ := wired.end_of_link? there noted
  have feeds : g.Feeds l.source.node i :=
    ⟨l, Array.mem_of_getElem? link, rfl, congrArg Endpoint.node ends⟩
  apply withAnswer_of_ne link
  intro here
  apply not_mem_of_nodup schedules.nodup
  exact here ▸ schedules.mem_of_feeds_next feeds

/-- Where negotiation goes well, the formats found suit all nodes that were asked. The induction is
on the nodes still to be asked; what was found before stays. -/
theorem exists_formats_of_foldlM (wired : g.Wired)
    (schedules : g.Schedules (asked ++ (rest ++ unasked))) (linked : g.FullyLinked)
    (fixed : g.Fixed asked formats found)
    (suits : ∀ i ∈ asked, ∀ n, g.nodes[i]? = some n → n.Answers formats)
    (ok : rest.foldlM g.negotiateNode found = .ok final) :
    ∃ formats', g.Fixed (asked ++ rest) formats' final ∧
      ∀ i ∈ asked ++ rest, ∀ n, g.nodes[i]? = some n → n.Answers formats' := by
  induction rest generalizing asked formats found with
  | nil =>
    obtain rfl := Except.ok.inj ok
    exact ⟨formats, by simpa using fixed, by simpa using suits⟩
  | cons i later ih =>
    obtain ⟨after, asking, ok⟩ := bind_eq_ok_iff.1 ok
    obtain ⟨n, there, live⟩ := isLiveAt_iff.1 ((schedules.mem_iff i).1 (by simp))
    obtain ⟨answer, answered, count, rfl⟩ := (negotiateNode_eq_ok_iff wired fixed there
      (linked there live) fun j feeds => schedules.mem_of_feeds_next feeds).1 asking
    have old : ∀ j ∈ asked, ∀ m, g.nodes[j]? = some m →
        m.Answers (g.withAnswer i answer formats) := by
      intro j member m there'
      refine Node.Answers.congr (fun d pad k noted => ?_) (suits j member m there')
      exact (withAnswer_of_asked wired schedules member there' noted).symm
    have new : n.Answers (g.withAnswer i answer formats) := by
      refine ⟨answer, ?_, count, fun pad k => getElem?_answer wired there count⟩
      rw [← answered]
      refine congrArg n.negotiate (Node.formatsIn_congr fun pad k noted => ?_)
      exact withAnswer_of_inlet wired schedules there noted
    have known := fixed.ask wired there (fun k l => withAnswer_of_ne)
      (fun pad k => getElem?_answer wired there count)
    have onward := ih (by simpa using schedules) known (fun j member m there' => ?_) ok
    · simpa using onward
    · rcases List.mem_append.1 member with before | here
      · exact old j before m there'
      · obtain rfl := List.mem_singleton.1 here
        exact Option.some.inj (there.symm.trans there') ▸ new

/-- Formats that suit the nodes still to be asked are found. -/
theorem foldlM_of_answers (wired : g.Wired)
    (schedules : g.Schedules (asked ++ (rest ++ unasked))) (linked : g.FullyLinked)
    (suits : ∀ i ∈ rest, ∀ n, g.nodes[i]? = some n → n.Answers formats)
    (fixed : g.Fixed asked formats found) :
    ∃ final, rest.foldlM g.negotiateNode found = .ok final ∧
      g.Fixed (asked ++ rest) formats final := by
  induction rest generalizing asked found with
  | nil => exact ⟨found, rfl, by simpa using fixed⟩
  | cons i later ih =>
    obtain ⟨n, there, live⟩ := isLiveAt_iff.1 ((schedules.mem_iff i).1 (by simp))
    obtain ⟨answer, answered, count, outputs⟩ := suits i List.mem_cons_self n there
    have asking := (negotiateNode_eq_ok_iff wired fixed there (linked there live)
      fun j feeds => schedules.mem_of_feeds_next feeds).2 ⟨answer, answered, count, rfl⟩
    obtain ⟨final, ok, all⟩ := ih (by simpa using schedules)
      (fun j member => suits j (List.mem_cons_of_mem i member))
      (fixed.ask wired there (fun _ _ _ _ => rfl) outputs)
    exact ⟨final, bind_eq_ok_iff.2 ⟨_, asking, ok⟩, by simpa using all⟩

omit [Filter σ] in
theorem allFixed_eq_ok_iff {k : Nat} {fs : List Format} :
    allFixed k found = .ok fs ↔ found = fs.map some := by
  induction found generalizing k fs with
  | nil =>
    cases fs with
    | nil => simp [allFixed]
    | cons f rest => simp [allFixed]
  | cons known later ih =>
    cases known with
    | none => cases fs <;> simp [allFixed]
    | some f =>
      rw [allFixed, map_eq_ok_iff]
      cases fs with
      | nil => simp
      | cons f' rest =>
        simp only [List.cons.injEq, List.map_cons, Option.some.injEq]
        constructor
        · rintro ⟨fs, all, rfl, rfl⟩
          exact ⟨rfl, ih.1 all⟩
        · rintro ⟨rfl, all⟩
          exact ⟨rest, ih.2 all, rfl, rfl⟩

omit [Filter σ] in
/-- Once every node was asked, every link has its format. -/
theorem Fixed.eq_map (wired : g.Wired) (schedules : g.Schedules order)
    (fixed : g.Fixed order formats final) :
    final = ((List.range g.links.size).map formats).map some := by
  refine List.ext_getElem? fun k => ?_
  cases link : g.links[k]? with
  | none =>
    have outside := Array.getElem?_eq_none_iff.1 link
    rw [List.getElem?_eq_none (fixed.size ▸ outside), List.getElem?_eq_none (by simpa using outside)]
  | some l =>
    have inside := (Array.getElem?_eq_some_iff.1 link).1
    have asked : l.source.node ∈ order := (schedules.mem_iff _).2 (wired.isLiveAt_end link .output)
    rw [fixed.known link, if_pos asked]
    simp [inside]

omit [Filter σ] in
/-- Before any node is asked no format is fixed. -/
theorem fixed_nil (g : Graph σ) (formats : Nat → Format) :
    g.Fixed [] formats (g.links.toList.map fun _ => none) := by
  refine ⟨by simp, fun {k l} link => ?_⟩
  have inside := (Array.getElem?_eq_some_iff.1 link).1
  simp [inside]

/-- Where the first nodes of a schedule were asked without a failure, some formats suit them. -/
theorem exists_formats_of_asked (wired : g.Wired) (schedules : g.Schedules (asked ++ unasked))
    (linked : g.FullyLinked)
    (ok : asked.foldlM g.negotiateNode (g.links.toList.map fun _ => none) = .ok found) :
    ∃ formats, g.Fixed asked formats found ∧
      ∀ i ∈ asked, ∀ n, g.nodes[i]? = some n → n.Answers formats :=
  have whole : g.Schedules ([] ++ (asked ++ unasked)) := schedules
  exists_formats_of_foldlM wired whole linked (g.fixed_nil fun _ => default) (by simp) ok

/-- Where some formats suit the first nodes of a schedule, these are asked without a failure. -/
theorem asked_of_answers (wired : g.Wired) (schedules : g.Schedules (asked ++ unasked))
    (linked : g.FullyLinked)
    (suits : ∀ i ∈ asked, ∀ n, g.nodes[i]? = some n → n.Answers formats) :
    ∃ found, asked.foldlM g.negotiateNode (g.links.toList.map fun _ => none) = .ok found ∧
      g.Fixed asked formats found :=
  have whole : g.Schedules ([] ++ (asked ++ unasked)) := schedules
  foldlM_of_answers wired whole linked suits (g.fixed_nil formats)

/-- Negotiation along a schedule finds just the formats that suit every node. -/
theorem negotiate_eq_ok_iff (wired : g.Wired) (schedules : g.Schedules order)
    (linked : g.FullyLinked) {fs : List Format} :
    g.negotiate order = .ok fs ↔
      ∃ formats, g.Agrees formats ∧ fs = (List.range g.links.size).map formats := by
  have whole : g.Schedules (order ++ []) := by simpa using schedules
  simp only [negotiate, bind_eq_ok_iff, allFixed_eq_ok_iff]
  constructor
  · rintro ⟨final, ok, all⟩
    obtain ⟨formats, fixed, suits⟩ := exists_formats_of_asked wired whole linked ok
    refine ⟨formats, fun {i n} there live => ?_, ?_⟩
    · exact suits i ((schedules.mem_iff i).2 (isLiveAt_iff.2 ⟨n, there, live⟩)) n there
    · rw [fixed.eq_map wired schedules] at all
      exact (List.map_injective_iff.2 (fun _ _ => Option.some.inj) all).symm
  · rintro ⟨formats, agrees, rfl⟩
    have suits : ∀ i ∈ order, ∀ n, g.nodes[i]? = some n → n.Answers formats := by
      intro i member n there
      obtain ⟨m, there', live⟩ := isLiveAt_iff.1 ((schedules.mem_iff i).1 member)
      obtain rfl := Option.some.inj (there'.symm.trans there)
      exact agrees there live
    obtain ⟨final, ok, fixed⟩ := asked_of_answers wired whole linked suits
    exact ⟨final, ok, fixed.eq_map wired schedules⟩

end Order
end Graph
end FrameFlow
