import FrameFlow.Blueprint.Toml
import FrameFlow.Proofs.Blueprint.Datum
import FrameFlow.Proofs.Toml.Documents

/-! Blueprints read back from the TOML that they are written as. -/
namespace FrameFlow
open Toml (Scalar Section Members Builds membersOf tablesOf tablesOf_nil)

namespace Datum

theorem membersOfToml_eq (ms : Members) :
    membersOfToml ms = ms.map fun (key, item) => (some key, ofToml item) := by
  induction ms with
  | nil => rfl
  | cons member rest ih => rw [membersOfToml, ih]; rfl

theorem tablesOfToml_eq (tables : List Members) :
    tablesOfToml tables = tables.map fun ms => .record (membersOfToml ms) := by
  induction tables with
  | nil => rfl
  | cons ms rest ih => rw [tablesOfToml, ih]; rfl

end Datum

namespace Literal

theorem isExact_toToml {l : Literal} (exact : l.IsExact) : l.toToml.IsExact := by
  cases l with
  | float x => exact exact.elim
  | _ => trivial

theorem ofToml_toToml (l : Literal) : Datum.ofToml l.toToml.item = l.datum := by
  cases l <;> rfl

end Literal

namespace Blueprint

/-- How a number is written that fits 64 bits with sign. -/
def number (n : Nat) : Scalar := .integer (Int64.ofNat n)

section Numbers

variable {n : Nat}

theorem tomlNumber?_eq (small : n < 0x8000000000000000) : tomlNumber? n = some (number n) :=
  if_pos small

theorem ofToml_number (small : n < 0x8000000000000000) :
    Datum.ofToml (number n).item = .integer n := by
  rw [number, Scalar.item, Datum.ofToml, Int64.toInt_ofNat_of_lt small]

end Numbers

def GraphOptions.entries (o : GraphOptions) : List (String × Scalar) :=
  [("source_queue_capacity", number o.feedCapacity), ("initial_capacity", number o.reserve)]

def Link.entries (l : Link) : List (String × Scalar) :=
  [("from", .text l.source), ("from_pad", number l.output), ("to", .text l.target),
    ("to_pad", number l.input)]

def Node.literals (n : Node) : List (String × Scalar) :=
  n.options.entries.map fun (key, l) => (key, l.toToml)

/-- The members of the table of a node. -/
def Node.members (n : Node) : Members :=
  membersOf [("name", .text n.name), ("kind", .text n.kind)] ++
    if n.options.isEmpty then [] else [("options", .table .header (membersOf n.literals))]

/-- The section before all headers, where it has any entries. -/
def document (b : Blueprint) : List Section :=
  if b.emptyLists.isEmpty then [] else [⟨.document, b.emptyLists⟩]

def sections (b : Blueprint) : List Section :=
  b.document ++ ⟨.table ["options"], GraphOptions.entries b.options⟩ :: b.nodes.flatMap Node.toToml ++
    b.links.map fun l => ⟨.item ["links"], l.entries⟩

theorem Link.toToml?_eq {l : Link} (output : l.output < 0x8000000000000000)
    (input : l.input < 0x8000000000000000) : l.toToml? = some ⟨.item ["links"], l.entries⟩ := by
  simp [toToml?, tomlNumber?_eq output, tomlNumber?_eq input, entries]

theorem toToml?_eq {b : Blueprint} (below : b.NumbersBelow 0x8000000000000000) :
    b.toToml? = some b.sections := by
  have links : b.links.mapM Link.toToml? =
      some (b.links.map fun l => ⟨.item ["links"], l.entries⟩) :=
    mapM_eq_some_map fun l mem => Link.toToml?_eq (below.output l mem) (below.input l mem)
  simp [toToml?, tomlNumber?_eq below.feedCapacity, tomlNumber?_eq below.reserve, links, sections,
    document, GraphOptions.entries]

section Readable

theorem isShort_singleton (key : String) :
    (Toml.Header.table [key]).IsShort ∧ (Toml.Header.item [key]).IsShort :=
  ⟨⟨[], key, rfl, by decide⟩, ⟨[], key, rfl, by decide⟩⟩

theorem Node.isReadable {n : Node} (exact : n.IsExact) : ∀ s ∈ n.toToml, s.IsReadable := by
  have named : Section.IsReadable
      ⟨.item ["nodes"], [("name", .text n.name), ("kind", .text n.kind)]⟩ :=
    ⟨(isShort_singleton "nodes").2, by simp [Scalar.IsExact]⟩
  have literals : Section.IsReadable ⟨.table ["nodes", "options"], n.literals⟩ :=
    ⟨⟨["nodes"], "options", rfl, by decide⟩,
      List.forall_mem_map.2 fun entry mem => Literal.isExact_toToml (exact entry mem)⟩
  rw [toToml]
  split
  · simpa using named
  · simpa using ⟨named, literals⟩

theorem isReadable_document (b : Blueprint) : ∀ s ∈ b.document, s.IsReadable := by
  have exact : ∀ entry ∈ b.emptyLists, entry.2.IsExact := by
    rw [emptyLists]
    split <;> split <;> simp [Scalar.IsExact]
  rw [document]
  split
  · simp
  · simpa using ⟨trivial, exact⟩

theorem isReadable_sections {b : Blueprint} (exact : b.IsExact) :
    ∀ s ∈ b.sections, s.IsReadable := by
  have options : Section.IsReadable ⟨.table ["options"], GraphOptions.entries b.options⟩ :=
    ⟨(isShort_singleton "options").1, by simp [GraphOptions.entries, number, Scalar.IsExact]⟩
  have links : ∀ l : Link, Section.IsReadable ⟨.item ["links"], l.entries⟩ := fun l =>
    ⟨(isShort_singleton "links").2, by simp [Link.entries, number, Scalar.IsExact]⟩
  intro s mem
  simp only [sections, List.mem_append, List.mem_cons, List.mem_flatMap, List.mem_map] at mem
  rcases mem with (mem | rfl | ⟨n, node, mem⟩) | ⟨l, -, rfl⟩
  · exact b.isReadable_document s mem
  · exact options
  · exact Node.isReadable (exact n node) s mem
  · exact links l

end Readable

section Building

variable {base : Members}

theorem Node.builds (n : Node) (fresh : "nodes" ∉ base.map Prod.fst) (items : List Members) :
    Builds (n.toToml.flatMap Section.statements) (base ++ tablesOf "nodes" items)
      (base ++ tablesOf "nodes" (items ++ [n.members])) := by
  have named : Builds
      (Section.statements ⟨.item ["nodes"], [("name", .text n.name), ("kind", .text n.kind)]⟩) _ _ :=
    Builds.item fresh items (by simp)
  rw [toToml, members]
  split
  · simpa using named
  · have distinct : (n.literals.map Prod.fst).Nodup := by
      simpa [Node.literals, List.map_map, Function.comp_def] using n.options.distinct
    have new : "options" ∉
        (membersOf [("name", .text n.name), ("kind", .text n.kind)]).map Prod.fst := by
      simp [membersOf]
    have options : Builds (Section.statements ⟨.table ["nodes", "options"], n.literals⟩) _ _ :=
      Builds.subtable fresh items new distinct
    rw [List.flatMap_cons, List.flatMap_singleton]
    exact named.append options

theorem builds_nodes {nodes : List Node} (fresh : nodes ≠ [] → "nodes" ∉ base.map Prod.fst)
    (items : List Members) :
    Builds ((nodes.flatMap Node.toToml).flatMap Section.statements) (base ++ tablesOf "nodes" items)
      (base ++ tablesOf "nodes" (items ++ nodes.map Node.members)) := by
  induction nodes generalizing items with
  | nil => simpa using Builds.nil
  | cons n nodes ih =>
    have first := n.builds (fresh (List.cons_ne_nil _ _)) items
    have others := ih (fun _ => fresh (List.cons_ne_nil _ _)) (items ++ [n.members])
    simpa using first.append others

theorem builds_links {links : List Link} (fresh : links ≠ [] → "links" ∉ base.map Prod.fst)
    (items : List Members) :
    Builds ((links.map fun l => ⟨.item ["links"], l.entries⟩).flatMap Section.statements)
      (base ++ tablesOf "links" items)
      (base ++ tablesOf "links" (items ++ links.map fun l => membersOf l.entries)) := by
  induction links generalizing items with
  | nil => simpa using Builds.nil
  | cons l links ih =>
    have first : Builds (Section.statements ⟨.item ["links"], l.entries⟩) _ _ :=
      Builds.item (fresh (List.cons_ne_nil _ _)) items (by simp [Link.entries])
    have others := ih (fun _ => fresh (List.cons_ne_nil _ _)) (items ++ [membersOf l.entries])
    simpa using first.append others

/-- The members of the document of a blueprint that come before all arrays of tables. -/
def leading (b : Blueprint) : Members :=
  membersOf b.emptyLists ++ [("options", .table .header (membersOf (GraphOptions.entries b.options)))]

/-- The members of the document of a blueprint. -/
def members (b : Blueprint) : Members :=
  b.leading ++ tablesOf "nodes" (b.nodes.map Node.members) ++
    tablesOf "links" (b.links.map fun l => membersOf l.entries)

theorem statements_document (b : Blueprint) :
    b.document.flatMap Section.statements = Toml.entryStatements b.emptyLists := by
  rw [document]
  split
  · next none =>
    rw [List.isEmpty_iff.1 none]
    rfl
  · simp [Section.statements, Toml.Header.statements]

theorem keys_membersOf (entries : List (String × Scalar)) :
    (membersOf entries).map Prod.fst = entries.map Prod.fst := by
  simp [membersOf, Function.comp_def]

theorem keys_emptyLists (b : Blueprint) :
    b.emptyLists.map Prod.fst =
      (if b.nodes.isEmpty then ["nodes"] else []) ++ (if b.links.isEmpty then ["links"] else []) := by
  rw [emptyLists]
  split <;> split <;> rfl

theorem nodes_fresh {b : Blueprint} (some : b.nodes ≠ []) : "nodes" ∉ b.leading.map Prod.fst := by
  have none : ¬b.nodes.isEmpty := by simpa using some
  rw [leading, List.map_append, keys_membersOf, keys_emptyLists, if_neg none]
  split <;> simp

theorem links_fresh {b : Blueprint} (some : b.links ≠ []) (items : List Members) :
    "links" ∉ (b.leading ++ tablesOf "nodes" items).map Prod.fst := by
  have none : ¬b.links.isEmpty := by simpa using some
  rw [leading, List.map_append, List.map_append, keys_membersOf, keys_emptyLists, if_neg none, tablesOf]
  split <;> split <;> simp

theorem builds_options (b : Blueprint) :
    Builds (Section.statements ⟨.table ["options"], GraphOptions.entries b.options⟩)
      (membersOf b.emptyLists) b.leading := by
  refine Builds.table ?_ (by simp [GraphOptions.entries])
  rw [keys_membersOf, keys_emptyLists]
  split <;> split <;> decide

theorem ofStatements?_sections (b : Blueprint) :
    Toml.Document.ofStatements? (b.sections.flatMap Section.statements) = some b.members := by
  have lists : (b.emptyLists.map Prod.fst).Nodup := by
    rw [keys_emptyLists]
    split <;> split <;> decide
  have nodes := builds_nodes (nodes_fresh (b := b)) []
  have links := builds_links (fun some => links_fresh (b := b) some (b.nodes.map Node.members)) []
  simp only [tablesOf_nil, List.append_nil, List.nil_append] at nodes links
  rw [sections, List.append_assoc, List.flatMap_append, statements_document]
  refine Toml.ofStatements?_eq lists ?_
  rw [List.cons_append, List.flatMap_cons, List.flatMap_append]
  exact b.builds_options.append (nodes.append links)

end Building

section Data

theorem membersOfToml_append (ms ms' : Members) :
    Datum.membersOfToml (ms ++ ms') = Datum.membersOfToml ms ++ Datum.membersOfToml ms' := by
  simp [Datum.membersOfToml_eq]

theorem Node.ofToml_literals (n : Node) :
    Datum.membersOfToml (membersOf n.literals) =
      n.options.entries.map fun (key, l) => (some key, l.datum) := by
  simp [Datum.membersOfToml_eq, membersOf, literals, Literal.ofToml_toToml, Function.comp_def]

theorem Node.ofToml_members (n : Node) : Datum.record (Datum.membersOfToml n.members) = n.datum := by
  rw [members, datum, optionsField, ← n.ofToml_literals, membersOfToml_append]
  split <;> rfl

theorem Link.ofToml_entries {l : Link} (output : l.output < 0x8000000000000000)
    (input : l.input < 0x8000000000000000) :
    Datum.record (Datum.membersOfToml (membersOf l.entries)) = l.datum := by
  have text : ∀ s, Datum.ofToml (Scalar.text s).item = .text s := fun _ => rfl
  simp [membersOf, entries, Datum.membersOfToml_eq, ofToml_number, output, input, text, datum]

theorem GraphOptions.ofToml_entries {o : GraphOptions}
    (feedCapacity : o.feedCapacity < 0x8000000000000000) (reserve : o.reserve < 0x8000000000000000) :
    Datum.ofToml (.table .header (membersOf (GraphOptions.entries o))) = o.datum := by
  simp [membersOf, entries, Datum.membersOfToml_eq, ofToml_number, feedCapacity, reserve,
    FrameFlow.GraphOptions.datum, Datum.ofToml]

theorem membersOfToml_tablesOf (key : String) (items : List Members) :
    Datum.membersOfToml (tablesOf key items) =
      if items.isEmpty then [] else [(some key, .list (Datum.tablesOfToml items))] := by
  rw [tablesOf]
  split <;> rfl

theorem membersOfToml_emptyLists (b : Blueprint) :
    Datum.membersOfToml (membersOf b.emptyLists) =
      (if b.nodes.isEmpty then [(some "nodes", .list [])] else []) ++
        (if b.links.isEmpty then [(some "links", .list [])] else []) := by
  rw [emptyLists]
  split <;> split <;> rfl

/-- The fields of the record of a blueprint; lists without items come first. -/
theorem membersOfToml_members {b : Blueprint} (below : b.NumbersBelow 0x8000000000000000) :
    Datum.membersOfToml b.members =
      (if b.nodes.isEmpty then [(some "nodes", .list [])] else []) ++
        (if b.links.isEmpty then [(some "links", .list [])] else []) ++
        [(some "options", b.options.datum)] ++
        (if b.nodes.isEmpty then [] else [(some "nodes", .list (b.nodes.map Node.datum))]) ++
        (if b.links.isEmpty then [] else [(some "links", .list (b.links.map Link.datum))]) := by
  have options := GraphOptions.ofToml_entries below.feedCapacity below.reserve
  have nodes : Datum.tablesOfToml (b.nodes.map Node.members) = b.nodes.map Node.datum := by
    rw [Datum.tablesOfToml_eq, List.map_map]
    exact List.map_congr_left fun n _ => n.ofToml_members
  have links : Datum.tablesOfToml (b.links.map fun l => membersOf l.entries) =
      b.links.map Link.datum := by
    rw [Datum.tablesOfToml_eq, List.map_map]
    exact List.map_congr_left fun l mem =>
      Link.ofToml_entries (below.output l mem) (below.input l mem)
  rw [members, leading, membersOfToml_append, membersOfToml_append, membersOfToml_append,
    membersOfToml_emptyLists, membersOfToml_tablesOf, membersOfToml_tablesOf, nodes, links,
    Datum.membersOfToml, options]
  simp [Datum.membersOfToml]

theorem describes_ofToml {b : Blueprint} (below : b.NumbersBelow 0x8000000000000000) :
    Datum.Describes (Datum.membersOfToml b.members) b := by
  have fields := membersOfToml_members below
  refine ⟨?_, ?_, ?_, ?_⟩
  · intro field mem
    rw [Datum.membersOfToml_eq] at mem
    obtain ⟨_, _, rfl⟩ := List.mem_map.1 mem
    rfl
  -- A list stands before the options if it has no items and after them if it has some, never twice.
  all_goals
    rw [fields]
    by_cases nodes : b.nodes = [] <;> by_cases links : b.links = [] <;>
      simp [Datum.field?, nodes, links]

end Data

/-- A blueprint without floats whose numbers fit 64 bits with sign has a TOML text, and reads back from
it. -/
theorem exists_writeToml {b : Blueprint} (exact : b.IsExact)
    (below : b.NumbersBelow 0x8000000000000000) :
    ∃ s, b.writeToml = .ok s ∧ readToml s = .ok b := by
  have written : b.writeToml = .ok (Toml.write b.sections) := by rw [writeToml, toToml?_eq below]
  refine ⟨Toml.write b.sections, written, ?_⟩
  rw [readToml, Toml.read?_write (isReadable_sections exact), ofStatements?_sections, Option.bind_some,
    Datum.ofToml, (describes_ofToml below).blueprint?_eq true exact]

end Blueprint
end FrameFlow
