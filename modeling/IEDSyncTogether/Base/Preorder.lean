import IEDSyncTogether.Base.Traversal

/-!
# The depth-first preorder

A depth-first walk as a relation: the walk over some nodes returns if it has a finite
derivation, so no fuel is involved. On a finite type every walk returns, and with enough fuel
the traversal computes its result. The order of the first visits is the preorder: the next
node is always the first unvisited child of the latest node that has one.
-/

namespace IEDSyncTogether.Base

/-- The visits of some nodes one after the other return with these nodes visited. -/
inductive Walks {Node : Type} (children : Node → List Node) :
    List Node → List Node → List Node → Prop where
  | done {visited} : Walks children [] visited visited
  | skip {node rest visited final} (seen : node ∈ visited)
      (others : Walks children rest visited final) : Walks children (node :: rest) visited final
  | enter {node rest visited middle final} (fresh : node ∉ visited)
      (below : Walks children (children node) (visited ++ [node]) middle)
      (others : Walks children rest middle final) : Walks children (node :: rest) visited final

variable {Node : Type} {children : Node → List Node} {nodes visited final : List Node}

namespace Walks

/-- A walk only appends. -/
theorem isPrefix (walk : Walks children nodes visited final) : visited <+: final := by
  induction walk with
  | done => exact List.prefix_rfl
  | skip _ _ ih => exact ih
  | enter _ _ _ below others => exact ((List.prefix_append _ _).trans below).trans others

/-- No node is entered twice. -/
theorem nodup (walk : Walks children nodes visited final) (distinct : visited.Nodup) :
    final.Nodup := by
  induction walk with
  | done => exact distinct
  | skip _ _ ih => exact ih distinct
  | enter fresh _ _ below others => exact others (below (nodup_append_singleton distinct fresh))

/-- A walk has one result. -/
theorem unique (walk : Walks children nodes visited final) {other : List Node}
    (again : Walks children nodes visited other) : other = final := by
  induction walk generalizing other with
  | done => cases again; rfl
  | skip seen _ ih =>
      cases again with
      | skip _ others => exact ih others
      | enter fresh _ _ => exact absurd seen fresh
  | enter fresh _ _ ihBelow ihOthers =>
      cases again with
      | skip seen _ => exact absurd seen fresh
      | enter _ below others =>
          obtain rfl := ihBelow below
          exact ihOthers others

variable [DecidableEq Node] [Fintype Node]

/-- Every walk on a finite type returns: entering a node leaves fewer to enter. -/
theorem exists_of_nodup (children : Node → List Node) (nodes : List Node)
    (distinct : visited.Nodup) : ∃ final, Walks children nodes visited final := by
  have bounded : ∀ (room : Nat) (nodes visited : List Node), visited.Nodup →
      Fintype.card Node < room + visited.length → ∃ final, Walks children nodes visited final := by
    intro room
    induction room with
    | zero =>
        intro nodes visited distinct enough
        have most := distinct.length_le_card
        omega
    | succ room ih =>
        intro nodes
        induction nodes with
        | nil => exact fun visited _ _ => ⟨visited, .done⟩
        | cons node rest later =>
            intro visited distinct enough
            by_cases seen : node ∈ visited
            · obtain ⟨final, others⟩ := later visited distinct enough
              exact ⟨final, .skip seen others⟩
            · have next := nodup_append_singleton distinct seen
              obtain ⟨middle, below⟩ := ih (children node) (visited ++ [node]) next
                (by rw [List.length_append, List.length_singleton]; omega)
              have longer := below.isPrefix.length_le
              rw [List.length_append] at longer
              obtain ⟨final, others⟩ := later middle (below.nodup next) (by omega)
              exact ⟨final, .enter seen below others⟩
  exact bounded (Fintype.card Node + 1) nodes visited distinct (by omega)

/-- With more fuel than unvisited nodes the traversal computes the walk. -/
theorem foldl_depthFirst (walk : Walks children nodes visited final) {fuel : Nat}
    (distinct : visited.Nodup) (enough : Fintype.card Node < fuel + visited.length) :
    nodes.foldl (fun visited child => depthFirst children fuel child visited) visited = final := by
  induction walk generalizing fuel with
  | done => rfl
  | @skip node rest visited final seen _ ih =>
      have same : depthFirst children fuel node visited = visited := by
        cases fuel with
        | zero => rfl
        | succ fuel => rw [depthFirst, if_pos seen]
      rw [List.foldl_cons, same, ih distinct enough]
  | @enter node rest visited middle final fresh below _ ihBelow ihOthers =>
      have next := nodup_append_singleton distinct fresh
      have longer := below.isPrefix.length_le
      rw [List.length_append, List.length_singleton] at longer
      cases fuel with
      | zero =>
          have most := distinct.length_le_card
          omega
      | succ fuel =>
          have entered : depthFirst children (fuel + 1) node visited = middle := by
            rw [depthFirst, if_neg fresh]
            exact ihBelow next (by rw [List.length_append, List.length_singleton]; omega)
          rw [List.foldl_cons, entered, ihOthers (below.nodup next) (by omega)]

end Walks

/-! ## The order of the first visits -/

/-- A place of a list lies behind a part of it or in it. -/
theorem next_or_later {whole part front back : List Node} {node : Node} (inside : part <+: whole)
    (shape : whole = front ++ node :: back) :
    part <+: front ∨ ∃ rest, part = front ++ node :: rest := by
  rcases List.prefix_or_prefix_of_prefix inside ⟨node :: back, shape.symm⟩ with before | ⟨rest, rfl⟩
  · exact .inl before
  · cases rest with
    | nil => exact .inl (by rw [List.append_nil])
    | cons other rest =>
        obtain ⟨behind, rfl⟩ := inside
        rw [List.append_assoc] at shape
        obtain rfl := (List.cons.inj (List.append_cancel_left shape)).1
        exact .inr ⟨rest, rfl⟩

/-- A place behind some nodes is the next one or lies behind the next one. -/
theorem next_or_later_start {whole start front back : List Node} {first node : Node}
    (inside : start ++ [first] <+: whole) (shape : whole = front ++ node :: back)
    (behind : start <+: front) : start ++ [first] <+: front ∨ (start = front ∧ first = node) := by
  rcases next_or_later inside shape with later | ⟨rest, same⟩
  · exact .inl later
  · right
    obtain ⟨extra, rfl⟩ := behind
    have sizes := congrArg List.length same
    simp only [List.length_append, List.length_cons, List.length_nil] at sizes
    obtain rfl : extra = [] := List.length_eq_zero_iff.mp (by omega)
    rw [List.append_nil] at same ⊢
    exact ⟨rfl, (List.cons.inj (List.append_cancel_left same)).1⟩

variable [DecidableEq Node]

/-- The first unvisited child of the latest visited node that has one. -/
def nextUnvisited (children : Node → List Node) (visited : List Node) : Option Node :=
  visited.reverse.findSome? fun parent => (children parent).find? (· ∉ visited)

/-- An order of first visits: it starts at the root, goes on to the next unvisited node every
time, and ends when there is none. -/
structure Preorder (children : Node → List Node) (root : Node) (order : List Node) : Prop where
  first : order.head? = some root
  next : ∀ front node back, order = front ++ node :: back → front ≠ [] →
    nextUnvisited children front = some node
  last : nextUnvisited children order = none

/-- The pending nodes are the unvisited children of the visited ones, the latest first, for
whatever is visited in addition. -/
def Pending (children : Node → List Node) (visited pending : List Node) : Prop :=
  ∀ seen : List Node, visited ⊆ seen → pending.find? (· ∉ seen) =
    visited.reverse.findSome? fun parent => (children parent).find? (· ∉ seen)

/-- A node seen before is skipped. -/
theorem Pending.skip {node : Node} {pending : List Node} (seen : node ∈ visited)
    (waiting : Pending children visited (node :: pending)) : Pending children visited pending := by
  intro more inside
  rw [← waiting more inside, List.find?_cons_of_neg (by simpa using inside seen)]

/-- The children of a node that is entered come before the others. -/
theorem Pending.enter {node : Node} {pending : List Node}
    (waiting : Pending children visited (node :: pending)) :
    Pending children (visited ++ [node]) (children node ++ pending) := by
  intro more inside
  have here : node ∈ more := inside (by simp)
  have before := waiting more fun other member => inside (List.mem_append_left _ member)
  rw [List.find?_cons_of_neg (by simpa using here)] at before
  rw [List.find?_append, before, List.reverse_append, List.reverse_singleton,
    List.singleton_append, List.findSome?_cons]
  cases (children node).find? (· ∉ more) <;> rfl

/-- The first pending node is the next one. -/
theorem Pending.nextUnvisited_eq {node : Node} {pending : List Node} (fresh : node ∉ visited)
    (waiting : Pending children visited (node :: pending)) :
    nextUnvisited children visited = some node := by
  rw [nextUnvisited, ← waiting visited (List.Subset.refl _),
    List.find?_cons_of_pos (by simpa using fresh)]

/-- Every node a walk enters is the next one, and what was pending behind its nodes is left. -/
theorem Walks.preorder (walk : Walks children nodes visited final) {pending : List Node}
    (waiting : Pending children visited (nodes ++ pending)) :
    Pending children final pending ∧
      ∀ front node back, final = front ++ node :: back → visited <+: front →
        nextUnvisited children front = some node := by
  induction walk generalizing pending with
  | done =>
      refine ⟨waiting, ?_⟩
      rintro front node back rfl start
      have short := start.length_le
      rw [List.length_append, List.length_cons] at short
      omega
  | skip seen _ ih => exact ih (waiting.skip seen)
  | @enter node rest visited middle final fresh below others ihBelow ihOthers =>
      obtain ⟨waitingOthers, orderBelow⟩ := ihBelow waiting.enter
      obtain ⟨waitingLast, orderOthers⟩ := ihOthers waitingOthers
      refine ⟨waitingLast, ?_⟩
      rintro front next back shape start
      rcases next_or_later others.isPrefix shape with later | ⟨backBelow, inside⟩
      · exact orderOthers front next back shape later
      · rcases next_or_later_start below.isPrefix inside start with later | ⟨rfl, rfl⟩
        · exact orderBelow front next backBelow inside later
        · exact waiting.nextUnvisited_eq fresh

/-- A walk from a root visits in preorder. -/
theorem Walks.preorder_root {root : Node} (walk : Walks children [root] [] final) :
    Preorder children root final := by
  cases walk with
  | skip seen _ => exact absurd seen List.not_mem_nil
  | enter _ below others =>
      cases others
      have waiting : Pending children [root] (children root ++ []) := by
        intro seen _
        rw [List.append_nil, List.reverse_singleton, List.findSome?_singleton]
      obtain ⟨waitingLast, order⟩ := below.preorder waiting
      obtain ⟨rest, rfl⟩ := below.isPrefix
      refine ⟨rfl, ?_, ?_⟩
      · intro front node back shape present
        obtain ⟨first, front, rfl⟩ := List.exists_cons_of_ne_nil present
        obtain ⟨rfl, _⟩ := List.cons.inj shape
        exact order (root :: front) node back shape ⟨front, rfl⟩
      · rw [nextUnvisited, ← waitingLast _ (List.Subset.refl _), List.find?_nil]

end IEDSyncTogether.Base
