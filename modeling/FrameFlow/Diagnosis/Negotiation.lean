import FrameFlow.Diagnosis.Report
import FrameFlow.Graph.Basic

/-! Agreement on formats. Nodes are asked in a given order; each one sees the formats already
fixed on its inputs and answers with one format for each of its outputs. -/
namespace FrameFlow.Graph

variable {σ : Type}

/-- The formats fixed so far, by link number. -/
abbrev LinkFormats := List (Option Format)

def inputFormat (formats : LinkFormats) (p : Inlet) : Option Format :=
  p.link.bind fun l => formats[l]?.join

/-- The formats on all inputs of a node, or the first pad that has none. -/
def inputFormats (formats : LinkFormats) : Nat → List Inlet → Except Nat (List Format)
  | _, [] => .ok []
  | pad, p :: rest =>
    match inputFormat formats p with
    | none => .error pad
    | some f => (inputFormats formats (pad + 1) rest).map (f :: ·)

/-- Fixes the formats on the links of outlets. -/
def fixFormats (formats : LinkFormats) : List (Outlet × Format) → LinkFormats
  | [] => formats
  | (p, f) :: rest =>
    match p.link with
    | some l => fixFormats (formats.set l (some f)) rest
    | none => fixFormats formats rest

def negotiateNode [Filter σ] (g : Graph σ) (formats : LinkFormats) (i : Nat) :
    Except Defect LinkFormats :=
  match g.nodes[i]? with
  | none => .ok formats
  | some n =>
    let mismatch reason := Except.error (Defect.formatMismatch (g.handle i) reason)
    match inputFormats formats 0 n.inputs with
    | .error pad => mismatch s!"input pad {pad} has no negotiated format"
    | .ok inputs =>
      match n.negotiate inputs with
      | .error fault => mismatch fault.message
      | .ok answer =>
        if answer.length = n.outputs.length then .ok (fixFormats formats (n.outputs.zip answer))
        else mismatch (s!"{n.kind.name} answered {answer.length} format(s) for " ++
          s!"{n.outputs.length} output pad(s)")

/-- Every link has to have its format in the end. -/
def allFixed : Nat → LinkFormats → Except Defect (List Format)
  | _, [] => .ok []
  | l, some f :: rest => (allFixed (l + 1) rest).map (f :: ·)
  | l, none :: _ => .error (.other s!"{linkName l} was never negotiated")

/-- One format for each link, in link order. -/
def negotiate [Filter σ] (g : Graph σ) (order : List Nat) : Except Defect (List Format) := do
  let formats ← order.foldlM g.negotiateNode (g.links.toList.map fun _ => none)
  allFixed 0 formats

end FrameFlow.Graph
