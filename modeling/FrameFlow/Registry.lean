import FrameFlow.Filter.BuiltIn
import FrameFlow.Text.LowerCase

/-! Registries of kinds. Kinds keep the order in which their names were first registered,
and a kind registered later under the same name takes the place of the earlier one. -/
namespace FrameFlow

abbrev Registry (σ : Type) := Table (Kind σ)

namespace Registry

variable {σ : Type}

def register (r : Registry σ) (k : Kind σ) : Registry σ := r.put k.name k

def ofKinds (kinds : List (Kind σ)) : Registry σ := kinds.foldl register .empty

/-- Registers all kinds of another registry, in its order. -/
def merge (r custom : Registry σ) : Registry σ :=
  (custom.entries.map Prod.snd).foldl register r

/-- A set of built-in kinds, perhaps none, with custom kinds over them. -/
def assemble (builtIns custom : List (Kind σ)) : Registry σ :=
  merge (ofKinds builtIns) (ofKinds custom)

/-- The names of the kinds that pass a test. -/
def namesWhere (r : Registry σ) (test : String → Kind σ → Bool) : List String :=
  (r.entries.filter fun (name, kind) => test name kind).map Prod.fst

def namesByRole (r : Registry σ) (role : Role) : List String :=
  r.namesWhere fun _ kind => kind.role == role

/-- Kinds with the query in their name or description, in any case. -/
def search (r : Registry σ) (query : String) : List String :=
  let query := (Text.lower query).toList
  r.namesWhere fun name kind =>
    Text.occursIn query (Text.lower name).toList ||
      Text.occursIn query (Text.lower kind.description).toList

end Registry

/-- The built-in kinds in the order in which every registry starts. -/
def builtInRegistry : Registry BuiltIn := .ofKinds BuiltIn.kinds

end FrameFlow
