import FrameFlow.Setting.Value
import FrameFlow.Toml.Moment

/-! TOML documents as trees, and the rules by which their lines build one up: where a header or
a dotted key may open a table, and where it would redefine something. -/
namespace FrameFlow.Toml

/-- How a table came about. -/
inductive Origin where
  /-- By a header of its own, as an item of an array of tables, or as the whole document. -/
  | header
  /-- As part of the path of another header. -/
  | implied
  /-- As part of a dotted key. -/
  | dotted
  /-- Between braces. -/
  | inline
deriving DecidableEq, Repr

inductive Item where
  | text (s : String)
  | integer (n : Int64)
  | float (x : Float)
  | boolean (b : Bool)
  | moment (m : Moment)
  | array (items : List Item)
  | table (origin : Origin) (members : List (String × Item))
  /-- An array of tables that headers add to. -/
  | tables (tables : List (List (String × Item)))

abbrev Members := List (String × Item)

namespace Members

def get? (ms : Members) (key : String) : Option Item := (ms.find? (·.1 == key)).map Prod.snd

def replace (ms : Members) (key : String) (item : Item) : Members :=
  ms.map fun (k, v) => if k = key then (k, item) else (k, v)

/-- Changes the table at the end of a path. Tables that are missing on the way come about by
`origin`; the way leads through a table only if `enters` allows it, and through the last item of
an array of tables. -/
def within (origin : Origin) (enters : Origin → Bool)
    (change : Origin → Members → Option Members) :
    List String → Origin → Members → Option Members
  | [], here, ms => change here ms
  | key :: path, _, ms =>
    match ms.get? key with
    | none => do
      let inner ← within origin enters change path origin []
      some (ms ++ [(key, .table origin inner)])
    | some (.table here inner) =>
      if enters here then do
        let inner ← within origin enters change path here inner
        some (ms.replace key (.table here inner))
      else none
    | some (.tables items) =>
      match items.getLast? with
      | none => none
      | some last => do
        let last ← within origin enters change path .header last
        some (ms.replace key (.tables (items.dropLast ++ [last])))
    | some _ => none

def byHeader (change : Origin → Members → Option Members) (path : List String) (here : Origin)
    (ms : Members) : Option Members :=
  within .implied (· != .inline) change path here ms

def byDots (change : Origin → Members → Option Members) (path : List String) (here : Origin)
    (ms : Members) : Option Members :=
  within .dotted (fun o => o == .implied || o == .dotted) change path here ms

/-- Adds a new key. A dotted path has to end in a table that dotted keys brought about. -/
def addKey (path : List String) (key : String) (item : Item) (here : Origin) (ms : Members) :
    Option Members :=
  byDots (fun there ms =>
    if !path.isEmpty && there != .dotted then none
    else if (ms.get? key).isSome then none
    else some (ms ++ [(key, item)])) path here ms

/-- Opens the table that a header names. -/
def openTable (parents : List String) (key : String) (ms : Members) : Option Members :=
  byHeader (fun _ ms =>
    match ms.get? key with
    | none => some (ms ++ [(key, .table .header [])])
    | some (.table .implied inner) => some (ms.replace key (.table .header inner))
    | some _ => none) parents .header ms

/-- Adds an item to the array of tables that a header names. -/
def openItem (parents : List String) (key : String) (ms : Members) : Option Members :=
  byHeader (fun _ ms =>
    match ms.get? key with
    | none => some (ms ++ [(key, .tables [[]])])
    | some (.tables items) => some (ms.replace key (.tables (items ++ [[]])))
    | some _ => none) parents .header ms

end Members

/-- One line of a document. The last key of a path stands apart. -/
inductive Statement where
  | table (parents : List String) (key : String)
  | item (parents : List String) (key : String)
  | entry (path : List String) (key : String) (value : Item)

/-- A document while it is built up, and the path of the table that entries go into. -/
structure Document where
  members : Members
  current : List String

namespace Document

def add (d : Document) : Statement → Option Document
  | .table parents key => (d.members.openTable parents key).map (⟨·, parents ++ [key]⟩)
  | .item parents key => (d.members.openItem parents key).map (⟨·, parents ++ [key]⟩)
  | .entry path key value => do
    let members ← d.members.byHeader (Members.addKey path key value) d.current .header
    some { d with members }

def ofStatements? (statements : List Statement) : Option Members :=
  (statements.foldlM add ⟨[], []⟩).map members

end Document

/-- The members of a table between braces. -/
def inlineMembers? (entries : List (List String × String × Item)) : Option Members :=
  entries.foldlM (fun ms (path, key, item) => ms.addKey path key item .header) []

end FrameFlow.Toml
