import FrameFlow.Diagnosis.Negotiation
import FrameFlow.Diagnosis.Stage

/-! Plans for running a graph, and its configuration by one. A graph has a plan if every stage
passes, its nodes can be put in order, and they agree on formats. -/
namespace FrameFlow

variable {σ : Type}

/-- Defects up to and with the first fatal one, and whether there was one. -/
def upToFatal : List Defect → List Defect × Bool
  | [] => ([], false)
  | d :: rest =>
    if d.isFatal then ([d], true)
    else
      let (taken, fatal) := upToFatal rest
      (d :: taken, fatal)

namespace Graph

/-- Goes through stages in order; a fatal defect ends the examination. -/
def examineFrom (g : Graph σ) (report : Report) : List (Stage σ) → Report
  | [] => report
  | stage :: rest =>
    match stage.examine g with
    | .ok warnings => g.examineFrom (report.addWarnings warnings) rest
    | .error defects =>
      let (taken, fatal) := upToFatal defects
      let report := taken.foldl Report.addDefect report
      if fatal then report else g.examineFrom report rest

def examine (g : Graph σ) (stages : List (Stage σ)) : Report := g.examineFrom .empty stages

end Graph

structure Plan where
  order : List Nat
  /-- Formats in link order. -/
  formats : List Format
  report : Report
deriving DecidableEq, Repr

namespace Graph

variable [Filter σ]

def plan (g : Graph σ) (stages : List (Stage σ)) : Except Report Plan :=
  let report := g.examine stages
  if !report.isValid then .error report
  else match g.topologicalOrder with
    | .error nodes => .error (report.addDefect (.cycle (nodes.map g.handle)))
    | .ok order =>
      match g.negotiate order with
      | .error defect => .error (report.addDefect defect)
      | .ok formats => .ok ⟨order, formats, report⟩

def canConfigure (g : Graph σ) (stages : List (Stage σ)) : Bool :=
  match g.plan stages with
  | .ok _ => true
  | .error _ => false

/-- Takes over the order and the formats of a plan. -/
def adopt (g : Graph σ) (p : Plan) : Graph σ :=
  { g with
    links := g.links.zipWith (fun l f => { l with format := some f }) p.formats.toArray
    schedule := p.order
    configured := true }

def configure (g : Graph σ) : Except GraphError (Graph σ) :=
  if g.configured then .error .alreadyConfigured
  else match g.plan Stage.all with
    | .error report => .error (.configuration report)
    | .ok p => .ok (g.adopt p)

end Graph
end FrameFlow
