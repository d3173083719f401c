/-! Edges by the node that they start from. The ends are laid out in rows once, so following the
edges of one node does not go through all the others. -/
namespace FrameFlow

structure Adjacency where
  /-- The ends of the edges that start from each node. -/
  rows : Array (List Nat)
deriving DecidableEq, Repr

namespace Adjacency

/-- Rows for all nodes that edges start from. -/
def height (edges : List (Nat × Nat)) : Nat := edges.foldr (fun e n => max (e.1 + 1) n) 0

/-- Puts edges before those that are in the rows. -/
def fill (edges : List (Nat × Nat)) (rows : Array (List Nat)) : Array (List Nat) :=
  edges.foldr (fun e rows => rows.modify e.1 (e.2 :: ·)) rows

def ofEdges (edges : List (Nat × Nat)) : Adjacency :=
  ⟨fill edges (Array.replicate (height edges) [])⟩

/-- Where the edges that start from a node lead, oldest edge first. -/
def next (a : Adjacency) (i : Nat) : List Nat := a.rows[i]?.getD []

theorem lt_height {edges : List (Nat × Nat)} {e : Nat × Nat} (h : e ∈ edges) :
    e.1 < height edges := by
  induction edges with
  | nil => simp at h
  | cons first rest ih =>
    have step : height (first :: rest) = max (first.1 + 1) (height rest) := rfl
    rcases List.mem_cons.1 h with rfl | h
    · omega
    · have := ih h
      omega

@[simp] theorem size_fill (edges : List (Nat × Nat)) (rows : Array (List Nat)) :
    (fill edges rows).size = rows.size := by
  induction edges with
  | nil => rfl
  | cons e rest ih => simpa [fill] using ih

theorem getElem?_fill (edges : List (Nat × Nat)) (rows : Array (List Nat)) (i : Nat) :
    (fill edges rows)[i]? =
      rows[i]?.map ((edges.filter fun e => e.1 == i).map Prod.snd ++ ·) := by
  induction edges with
  | nil => simp [fill]
  | cons e rest ih =>
    have step : fill (e :: rest) rows = (fill rest rows).modify e.1 (e.2 :: ·) := rfl
    rw [step, Array.getElem?_modify, ih]
    by_cases h : e.1 = i
    · simp [h, Option.map_map, Function.comp_def]
    · simp [h]

theorem next_ofEdges (edges : List (Nat × Nat)) (i : Nat) :
    (ofEdges edges).next i = (edges.filter fun e => e.1 == i).map Prod.snd := by
  rw [next, ofEdges, getElem?_fill, Array.getElem?_replicate]
  split
  · simp
  · next high =>
    have none : (edges.filter fun e => e.1 == i) = [] := by
      refine List.filter_eq_nil_iff.2 fun e he hi => high ?_
      rw [← beq_iff_eq.1 hi]
      exact lt_height he
    simp [none]

end Adjacency
end FrameFlow
