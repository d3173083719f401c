import FrameFlow.Blueprint.Datum

/-! Blueprints as structured data, and that they read back from it. The data says what both text
formats say; the fields of a whole blueprint may stand in any order. -/
namespace FrameFlow

theorem mapM_eq_some_map {α β : Type} {f : α → Option β} {g : α → β} {all : List α}
    (each : ∀ a ∈ all, f a = some (g a)) : all.mapM f = some (all.map g) := by
  induction all with
  | nil => rfl
  | cons a rest ih =>
    obtain ⟨first, others⟩ := List.forall_mem_cons.1 each
    rw [List.mapM_cons, first, ih others]
    rfl

theorem mapM_map_eq_some {α β : Type} (write : α → β) (read : β → Option α) {all : List α}
    (back : ∀ a ∈ all, read (write a) = some a) : (all.map write).mapM read = some all := by
  rw [List.mapM_map]
  exact (mapM_eq_some_map back).trans (congrArg some (List.map_id _))

/-- Whether no rounding can change a literal on its way through a text. -/
def Literal.IsExact : Literal → Prop
  | .float _ => False
  | _ => True

instance (l : Literal) : Decidable l.IsExact :=
  match l with
  | .float _ => isFalse id
  | .boolean _ | .integer _ | .text _ => isTrue trivial

def Literal.datum : Literal → Datum
  | .boolean b => .boolean b
  | .integer n => .integer n.toInt
  | .float x => .float x
  | .text s => .text s

theorem Literal.literal?_datum {l : Literal} (exact : l.IsExact) : l.datum.literal? = some l := by
  cases l with
  | integer n => simp [datum, Datum.literal?, Setting.ofInt?_toInt]
  | float x => exact exact.elim
  | boolean b => rfl
  | text s => rfl

namespace Datum

theorem options?_entries {t : Table Literal} (exact : ∀ entry ∈ t.entries, entry.2.IsExact) :
    options? (.record (t.entries.map fun (key, l) => (some key, l.datum))) = some t := by
  have back : ∀ entry ∈ t.entries,
      (do some (← some entry.1, ← entry.2.datum.literal?)) = some entry := fun entry mem => by
    simp [Literal.literal?_datum (exact entry mem)]
  simp only [options?]
  rw [mapM_map_eq_some _ _ back]
  simp [Table.ofList_entries]

end Datum

namespace Blueprint

def Node.IsExact (n : Node) : Prop := ∀ entry ∈ n.options.entries, entry.2.IsExact

instance (n : Node) : Decidable n.IsExact :=
  inferInstanceAs (Decidable (∀ entry ∈ n.options.entries, entry.2.IsExact))

/-- A blueprint none of whose options is a float. -/
def IsExact (b : Blueprint) : Prop := ∀ n ∈ b.nodes, n.IsExact

instance (b : Blueprint) : Decidable b.IsExact :=
  inferInstanceAs (Decidable (∀ n ∈ b.nodes, n.IsExact))

/-- Whether the numbers of a blueprint are below some bound. -/
structure NumbersBelow (bound : Nat) (b : Blueprint) : Prop where
  feedCapacity : b.options.feedCapacity < bound
  reserve : b.options.reserve < bound
  output : ∀ l ∈ b.links, l.output < bound
  input : ∀ l ∈ b.links, l.input < bound

/-- A node without options has no field for them. -/
def Node.optionsField (n : Node) : List (Option String × Datum) :=
  if n.options.isEmpty then []
  else [(some "options", .record (n.options.entries.map fun (key, l) => (some key, l.datum)))]

def Node.datum (n : Node) : Datum :=
  .record ((some "name", .text n.name) :: (some "kind", .text n.kind) :: n.optionsField)

def Link.datum (l : Link) : Datum :=
  .record [(some "from", .text l.source), (some "from_pad", .integer l.output),
    (some "to", .text l.target), (some "to_pad", .integer l.input)]

end Blueprint

def GraphOptions.datum (o : GraphOptions) : Datum :=
  .record [(some "source_queue_capacity", .integer o.feedCapacity),
    (some "initial_capacity", .integer o.reserve)]

namespace Datum

variable (surplus : Bool)

theorem graphOptions?_datum (o : GraphOptions) : graphOptions? surplus o.datum = some o := by
  simp [graphOptions?, GraphOptions.datum, fields?, field?, optional, natural?]

theorem link?_datum (l : Blueprint.Link) : link? surplus l.datum = some l := by
  simp [link?, Blueprint.Link.datum, fields?, field?, optional, natural?, text?]

theorem node?_datum {n : Blueprint.Node} (exact : n.IsExact) :
    node? surplus n.datum = some n := by
  by_cases none : n.options.isEmpty
  · have same : Table.empty = n.options := Table.ext (List.isEmpty_iff.1 none).symm
    simp [node?, Blueprint.Node.datum, Blueprint.Node.optionsField, none, fields?, field?, optional,
      text?, same]
  · simp [node?, Blueprint.Node.datum, Blueprint.Node.optionsField, none, fields?, field?, optional,
      text?, options?_entries exact]

/-- The fields of a record that describe a blueprint, whatever their order. -/
structure Describes (fields : List (Option String × Datum)) (b : Blueprint) : Prop where
  named : ∀ field ∈ fields, field.1.isSome
  options : field? fields "options" = some (some b.options.datum)
  nodes : field? fields "nodes" = some (some (.list (b.nodes.map Blueprint.Node.datum)))
  links : field? fields "links" = some (some (.list (b.links.map Blueprint.Link.datum)))

theorem Describes.blueprint?_eq {fields : List (Option String × Datum)} {b : Blueprint}
    (describes : Describes fields b) (exact : b.IsExact) :
    blueprint? surplus (.record fields) = some b := by
  have nodes : (b.nodes.map Blueprint.Node.datum).mapM (node? surplus) = some b.nodes :=
    mapM_map_eq_some _ _ fun n mem => node?_datum surplus (exact n mem)
  have links : (b.links.map Blueprint.Link.datum).mapM (link? surplus) = some b.links :=
    mapM_map_eq_some _ _ fun l _ => link?_datum surplus l
  have named : fields.all fun field => field.1.isSome :=
    List.all_eq_true.2 fun field mem => describes.named field mem
  have by_name : fields? surplus ["options", "nodes", "links"] (.record fields) =
      ["options", "nodes", "links"].mapM (field? fields) := if_pos named
  simp [blueprint?, by_name, describes.options, describes.nodes, describes.links, optional,
    graphOptions?_datum, list?, nodes, links]

end Datum
end FrameFlow
