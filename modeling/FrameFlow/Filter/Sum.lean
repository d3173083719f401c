import FrameFlow.Filter.Basic

/-! Two types of filters side by side. -/
namespace FrameFlow

variable {σ τ : Type} [Filter σ] [Filter τ]

def takeSum : σ ⊕ τ → (σ ⊕ τ) × Except Fault Offer
  | .inl s => ((Filter.take s).1 |> .inl, (Filter.take s).2)
  | .inr t => ((Filter.take t).1 |> .inr, (Filter.take t).2)

def heldSum : σ ⊕ τ → Nat
  | .inl s => Filter.held s
  | .inr t => Filter.held t

theorem heldSum_takeSum {x y : σ ⊕ τ} {frame : Frame}
    (h : takeSum x = (y, .ok (.ready frame))) : heldSum y < heldSum x := by
  cases x with
  | inl s =>
    obtain ⟨rfl, hs⟩ := Prod.mk.inj h
    exact Filter.held_take (Prod.ext rfl hs)
  | inr t =>
    obtain ⟨rfl, ht⟩ := Prod.mk.inj h
    exact Filter.held_take (Prod.ext rfl ht)

instance : Filter (σ ⊕ τ) where
  inputs := Sum.elim Filter.inputs Filter.inputs
  outputs := Sum.elim Filter.outputs Filter.outputs
  setUp x values := x.elim (fun s => (Filter.setUp s values).map .inl)
    (fun t => (Filter.setUp t values).map .inr)
  negotiate := Sum.elim Filter.negotiate Filter.negotiate
  onFrame x pad frame tray := x.elim (fun s => (Filter.onFrame s pad frame tray).map .inl)
    (fun t => (Filter.onFrame t pad frame tray).map .inr)
  onEnd x pad tray := x.elim (fun s => (Filter.onEnd s pad tray).map .inl)
    (fun t => (Filter.onEnd t pad tray).map .inr)
  onFlush x tray := x.elim (fun s => (Filter.onFlush s tray).map .inl)
    (fun t => (Filter.onFlush t tray).map .inr)
  take := takeSum
  held := heldSum
  held_take := heldSum_takeSum

end FrameFlow
