import Mathlib.Data.List.Destutter
import Mathlib.Order.Lattice

/-!
# Lists sorted by a key

Sorting by a key and dropping repeated neighbours depends only on the set of items
if different items have different keys. Of items that share a key a stable sort
keeps the one that came first in front, and so does dropping neighbours.
-/

namespace IEDSyncTogether.Base

variable {α κ : Type} [LinearOrder κ] {key : α → κ}

/-- A list is determined by its members and strictly increasing keys. -/
theorem eq_of_strictlySorted {first second : List α}
    (one : first.Pairwise fun a b => key a < key b)
    (two : second.Pairwise fun a b => key a < key b)
    (members : ∀ item, item ∈ first ↔ item ∈ second) : first = second := by
  have distinct {items : List α} (sorted : items.Pairwise fun a b => key a < key b) :
      items.Nodup := sorted.imp fun before same => (same ▸ before).false
  refine ((List.perm_ext_iff_of_nodup (distinct one) (distinct two)).mpr members).eq_of_pairwise
    ?_ one two
  exact fun _ _ _ _ before after => absurd before after.asymm

section Neighbours

variable {kept : α → α → Prop} [DecidableRel kept] {items : List α}

/-- Neighbours in a sorted list that are not kept apart unless their keys differ leave
strictly increasing keys. -/
theorem strictlySorted_destutter (sorted : items.Pairwise fun a b => key a ≤ key b)
    (apart : ∀ a ∈ items, ∀ b ∈ items, kept a b → key a ≠ key b) :
    (items.destutter kept).Pairwise fun a b => key a < key b := by
  have sublist := items.destutter_sublist kept
  have chain : (items.destutter kept).IsChain fun a b => key a < key b := by
    rw [List.isChain_iff_getElem]
    intro index inside
    have related := List.isChain_iff_getElem.mp (items.isChain_destutter kept) index inside
    have ordered := List.pairwise_iff_getElem.mp (sorted.sublist sublist) index (index + 1)
      (by omega) inside (by omega)
    exact lt_of_le_of_ne ordered (apart _ (sublist.subset (List.getElem_mem _)) _
      (sublist.subset (List.getElem_mem _)) related)
  have transitive : IsTrans α fun a b => key a < key b := ⟨fun _ _ _ => lt_trans⟩
  exact List.isChain_iff_pairwise.mp chain

/-- Dropping items like the neighbour before them keeps the first chosen item. -/
theorem find?_destutter (chosen : α → Bool) (dropped : ∀ a b, ¬ kept a b → chosen a = chosen b) :
    (items.destutter kept).find? chosen = items.find? chosen := by
  have after (first : α) (rest : List α) :
      (rest.destutter' kept first).find? chosen = (first :: rest).find? chosen := by
    induction rest generalizing first with
    | nil => rfl
    | cons next rest ih =>
        rw [List.destutter'_cons]
        split
        · simp only [List.find?_cons, ih]
        · next repeated =>
            have same := dropped first next repeated
            rw [ih]
            simp only [List.find?_cons, same]
            split <;> rfl
  cases items with
  | nil => rfl
  | cons first rest => exact after first rest

end Neighbours

/-- A stable sort keeps the first of mutually tied items in front. -/
theorem find?_mergeSort (chosen : α → Bool)
    (tied : ∀ a b, chosen a = true → chosen b = true → key a ≤ key b) (items : List α) :
    (items.mergeSort fun a b => key a ≤ key b).find? chosen = items.find? chosen := by
  have transitive : ∀ a b c, decide (key a ≤ key b) = true → decide (key b ≤ key c) = true →
      decide (key a ≤ key c) = true := by
    simp only [decide_eq_true_eq]
    exact fun a b c => le_trans
  have total : ∀ a b, (decide (key a ≤ key b) || decide (key b ≤ key a)) = true := by
    simp only [Bool.or_eq_true, decide_eq_true_eq]
    exact fun a b => le_total _ _
  have level : (items.filter chosen).Pairwise fun a b => decide (key a ≤ key b) = true := by
    refine List.pairwise_of_forall_mem_list fun a first b second => ?_
    exact decide_eq_true (tied a b (List.mem_filter.mp first).2 (List.mem_filter.mp second).2)
  have inside := (List.sublist_mergeSort transitive total level List.filter_sublist).filter chosen
  rw [List.filter_filter] at inside
  have size := ((items.mergeSort_perm fun a b => decide (key a ≤ key b)).filter chosen).length_eq
  have same := inside.eq_of_length (by simp [size])
  rw [← List.head?_filter, ← List.head?_filter]
  simpa using congrArg List.head? same.symm

/-- The greatest item ends up last. -/
theorem getLast?_mergeSort {le : α → α → Bool}
    (transitive : ∀ a b c, le a b = true → le b c = true → le a c = true)
    (total : ∀ a b, (le a b || le b a) = true) {items : List α} {item : α} (among : item ∈ items)
    (greatest : ∀ other ∈ items, other = item ∨ le item other = false) :
    (items.mergeSort le).getLast? = some item := by
  obtain ⟨front, back, shape⟩ := List.append_of_mem (List.mem_mergeSort.mpr among)
  have sorted := List.pairwise_mergeSort transitive total items
  rw [shape] at sorted
  have above : ∀ other ∈ back, le item other = true :=
    fun _ => List.rel_of_pairwise_cons (List.pairwise_append.mp sorted).2.1
  have same : ∀ other ∈ item :: back, other = item := by
    intro other later
    rcases List.mem_cons.mp later with rfl | later
    · rfl
    · refine (greatest other ?_).resolve_right (by simp [above other later])
      rw [← List.mem_mergeSort, shape]
      exact List.mem_append_right _ (List.mem_cons_of_mem _ later)
  have last := List.getLast_mem (List.cons_ne_nil item back)
  rw [shape, List.getLast?_append_of_ne_nil _ (List.cons_ne_nil item back),
    List.getLast?_eq_some_getLast (List.cons_ne_nil item back), same _ last]

end IEDSyncTogether.Base
