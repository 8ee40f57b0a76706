import Mathlib.Data.Fintype.Card
import Mathlib.Logic.Relation

/-!
# Depth-first traversal with a visited list

The visited nodes are kept in the order of their first visit, which is the
depth-first preorder. The recursion is bounded by fuel; on a finite type the
fuel runs out only after every node has been visited, so the traversal visits
exactly the reachable nodes, each once.
-/

namespace IEDSyncTogether.Base

/-- What every single visit keeps, a loop over nodes keeps. -/
theorem foldl_visit_keeps {Node : Type} (keeps : List Node → Prop)
    {visit : Node → List Node → List Node} {nodes visited : List Node}
    (each : ∀ node ∈ nodes, ∀ visited, keeps visited → keeps (visit node visited))
    (start : keeps visited) :
    keeps (nodes.foldl (fun visited node => visit node visited) visited) := by
  induction nodes generalizing visited with
  | nil => exact start
  | cons node nodes ih =>
      refine ih (fun other member => each other (List.mem_cons_of_mem _ member)) ?_
      exact each node List.mem_cons_self visited start

/-- A fresh node can be appended. -/
theorem nodup_append_singleton {Node : Type} {visited : List Node} {node : Node}
    (distinct : visited.Nodup) (fresh : node ∉ visited) : (visited ++ [node]).Nodup := by
  rw [List.nodup_append]
  refine ⟨distinct, List.nodup_singleton node, ?_⟩
  rintro other member last here rfl
  exact fresh (List.mem_singleton.mp here ▸ member)

section Traversal

variable {Node : Type} [DecidableEq Node] (children : Node → List Node)

/-- Visit a node and then its children, unless it has been visited. -/
def depthFirst : Nat → Node → List Node → List Node
  | 0, _, visited => visited
  | fuel + 1, node, visited =>
    if node ∈ visited then visited
    else (children node).foldl (fun visited child => depthFirst fuel child visited)
      (visited ++ [node])

/-- There is an edge from the first node to the second. -/
def Edge (parent child : Node) : Prop := child ∈ children parent

variable {children}

/-- Visits only append. -/
theorem isPrefix_depthFirst (fuel : Nat) (node : Node) (visited : List Node) :
    visited <+: depthFirst children fuel node visited := by
  induction fuel generalizing node visited with
  | zero => exact List.prefix_rfl
  | succ fuel ih =>
      rw [depthFirst]
      split
      · exact List.prefix_rfl
      · refine List.IsPrefix.trans (List.prefix_append visited [node]) ?_
        exact foldl_visit_keeps (visited ++ [node] <+: ·)
          (fun child _ earlier kept => kept.trans (ih child earlier)) List.prefix_rfl

/-- No node is visited twice. -/
theorem nodup_depthFirst (fuel : Nat) {node : Node} {visited : List Node}
    (distinct : visited.Nodup) : (depthFirst children fuel node visited).Nodup := by
  induction fuel generalizing node visited with
  | zero => exact distinct
  | succ fuel ih =>
      rw [depthFirst]
      split
      · exact distinct
      · next fresh =>
          exact foldl_visit_keeps List.Nodup (fun child _ earlier kept => ih kept)
            (nodup_append_singleton distinct fresh)

/-- Only nodes reachable from the start are added. -/
theorem reachable_of_mem_depthFirst (fuel : Nat) {node other : Node} {visited : List Node}
    (member : other ∈ depthFirst children fuel node visited) :
    other ∈ visited ∨ Relation.ReflTransGen (Edge children) node other := by
  induction fuel generalizing node visited other with
  | zero => exact .inl member
  | succ fuel ih =>
      rw [depthFirst] at member
      split at member
      · exact .inl member
      · have sound : ∀ found ∈ (children node).foldl
            (fun visited child => depthFirst children fuel child visited) (visited ++ [node]),
            found ∈ visited ∨ Relation.ReflTransGen (Edge children) node found := by
          apply foldl_visit_keeps fun now => ∀ found ∈ now,
            found ∈ visited ∨ Relation.ReflTransGen (Edge children) node found
          · intro child edge earlier kept found among
            rcases ih among with before | onward
            · exact kept found before
            · exact .inr (.head edge onward)
          · intro found among
            rcases List.mem_append.mp among with before | here
            · exact .inl before
            · rw [List.mem_singleton.mp here]
              exact .inr .refl
        exact sound other member

variable [Fintype Node]

/-- Visited nodes other than the given ones have all their children visited. -/
def ClosedOutside (children : Node → List Node) (given visited : List Node) : Prop :=
  ∀ node ∈ visited, node ∉ given → ∀ child ∈ children node, child ∈ visited

/-- With this fuel, and more of it than unvisited nodes, a visit reaches its node and
closes what it adds. -/
def VisitsCloses (children : Node → List Node) (fuel : Nat) : Prop :=
  ∀ node visited, visited.Nodup → Fintype.card Node < fuel + visited.length →
    node ∈ depthFirst children fuel node visited ∧
      ClosedOutside children visited (depthFirst children fuel node visited)

/-- The loop over the children keeps what is closed and visits every child. -/
theorem VisitsCloses.foldl {fuel : Nat} (visits : VisitsCloses children fuel) {given : List Node}
    (rest : List Node) {current : List Node} (distinct : current.Nodup)
    (enough : Fintype.card Node < fuel + current.length)
    (closed : ClosedOutside children given current) :
    let final := rest.foldl (fun visited child => depthFirst children fuel child visited) current
    current ⊆ final ∧ rest ⊆ final ∧ ClosedOutside children given final := by
  induction rest generalizing current with
  | nil => exact ⟨List.Subset.refl _, List.nil_subset _, closed⟩
  | cons first rest ih =>
      have grown : current <+: depthFirst children fuel first current :=
        isPrefix_depthFirst fuel first current
      obtain ⟨here, closedNew⟩ := visits first current distinct enough
      have longer := grown.length_le
      have closedNext : ClosedOutside children given (depthFirst children fuel first current) := by
        intro node member outside child edge
        by_cases before : node ∈ current
        · exact grown.subset (closed node before outside child edge)
        · exact closedNew node member before child edge
      obtain ⟨kept, passed, closedLast⟩ :=
        ih (nodup_depthFirst fuel distinct) (by omega) closedNext
      exact ⟨List.Subset.trans grown.subset kept, List.cons_subset.mpr ⟨kept here, passed⟩,
        closedLast⟩

/-- Every visit with enough fuel reaches its node and closes what it adds. -/
theorem depthFirst_closed (fuel : Nat) : VisitsCloses children fuel := by
  induction fuel with
  | zero =>
      intro node visited distinct enough
      have bounded := distinct.length_le_card
      omega
  | succ fuel ih =>
      intro node visited distinct enough
      rw [depthFirst]
      split
      · next seen => exact ⟨seen, fun other member fresh => absurd member fresh⟩
      · next fresh =>
          have room : Fintype.card Node < fuel + (visited ++ [node]).length := by
            rw [List.length_append, List.length_singleton]
            omega
          obtain ⟨kept, passed, closed⟩ := ih.foldl (children node)
            (nodup_append_singleton distinct fresh) room
            (fun other member outside => absurd member outside)
          refine ⟨kept (List.mem_append_right _ List.mem_cons_self), ?_⟩
          intro other member outside child edge
          by_cases same : other = node
          · subst same
            exact passed edge
          · exact closed other member (by simp [outside, same]) child edge

/-- A traversal from nothing visits exactly the reachable nodes. -/
theorem mem_depthFirst_iff {fuel : Nat} {root node : Node} (enough : Fintype.card Node < fuel) :
    node ∈ depthFirst children fuel root [] ↔ Relation.ReflTransGen (Edge children) root node := by
  obtain ⟨here, closed⟩ : root ∈ depthFirst children fuel root [] ∧ _ :=
    depthFirst_closed fuel root [] List.nodup_nil (by simpa using enough)
  constructor
  · intro member
    exact (reachable_of_mem_depthFirst fuel member).resolve_left List.not_mem_nil
  · intro reachable
    induction reachable with
    | refl => exact here
    | tail _ edge ih => exact closed _ ih List.not_mem_nil _ edge

end Traversal

end IEDSyncTogether.Base
