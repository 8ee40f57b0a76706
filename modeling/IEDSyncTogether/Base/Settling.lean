import Mathlib.Data.List.Basic

/-!
# Settling one place for several items

Items look at one place in turn, and an item the place does not fit puts its own
place there. If fitting is mutual, all items fit in the end exactly if at most one
of them had to act.
-/

namespace IEDSyncTogether.Base

variable {Place Item : Type} (fits : Place → Item → Bool) (place : Item → Place)

/-- The place after every item has looked at it. -/
def settle (start : Place) (items : List Item) : Place :=
  items.foldl (fun current item => if fits current item then current else place item) start

/-- The place fits all items, or the first one it does not fit has a place that does. -/
def SettlesAtOnce (start : Place) (items : List Item) : Prop :=
  (∀ item ∈ items, fits start item) ∨
    ∃ first, items.find? (fun item => !fits start item) = some first ∧
      ∀ item ∈ items, fits (place first) item

/-- Any two of the items fit each other's places or neither does. -/
def MutuallyFitting (items : List Item) : Prop :=
  ∀ first ∈ items, ∀ second ∈ items,
    fits (place first) second = true → fits (place second) first = true

variable {fits place}

/-- The first item acts first. -/
theorem settle_cons (start : Place) (item : Item) (items : List Item) :
    settle fits place start (item :: items) =
      settle fits place (if fits start item then start else place item) items := rfl

/-- The items behind act on where those in front leave the place. -/
theorem settle_append (start : Place) (front back : List Item) :
    settle fits place start (front ++ back) =
      settle fits place (settle fits place start front) back :=
  List.foldl_append

/-- A place that fits stays. -/
theorem settle_of_fits {start : Place} {items : List Item}
    (fitting : ∀ item ∈ items, fits start item) : settle fits place start items = start := by
  induction items with
  | nil => rfl
  | cons item items ih =>
      rw [settle_cons, if_pos (fitting item List.mem_cons_self)]
      exact ih fun other member => fitting other (List.mem_cons_of_mem _ member)

/-- Fewer items that fit each other still do. -/
theorem MutuallyFitting.subset {items kept : List Item}
    (mutually : MutuallyFitting fits place items) (among : kept ⊆ items) :
    MutuallyFitting fits place kept :=
  fun first one second two => mutually first (among one) second (among two)

/-- If an item has acted and all fit in the end, no later one acted. -/
theorem settle_place_of_fits {item : Item} {rest : List Item}
    (mutually : MutuallyFitting fits place (item :: rest))
    (fitting : ∀ other ∈ item :: rest, fits (settle fits place (place item) rest) other) :
    settle fits place (place item) rest = place item := by
  induction rest generalizing item with
  | nil => rfl
  | cons next rest ih =>
      rw [settle_cons] at fitting ⊢
      by_cases agrees : fits (place item) next = true
      · rw [if_pos agrees] at fitting ⊢
        have among : item :: rest ⊆ item :: next :: rest :=
          List.cons_subset_cons _ (List.subset_cons_self _ _)
        exact ih (mutually.subset among) fun other member => fitting other (among member)
      · -- `next` acts, but then the last place does not fit `item`
        rw [if_neg agrees] at fitting ⊢
        have among : next :: rest ⊆ item :: next :: rest := List.subset_cons_self _ _
        have last := ih (mutually.subset among) fun other member => fitting other (among member)
        have back := fitting item List.mem_cons_self
        rw [last] at back
        exact absurd (mutually next (by simp) item (by simp) back) agrees

/-- All items fit in the end exactly if the place settles at once. -/
theorem settle_fits_iff {start : Place} {items : List Item}
    (mutually : MutuallyFitting fits place items) :
    (∀ item ∈ items, fits (settle fits place start items) item) ↔
      SettlesAtOnce fits place start items := by
  cases found : items.find? (fun item => !fits start item) with
  | none =>
      have fitting : ∀ item ∈ items, fits start item := by simpa using found
      rw [settle_of_fits fitting]
      exact ⟨fun _ => .inl fitting, fun _ => fitting⟩
  | some first =>
      obtain ⟨off, front, back, rfl, before⟩ := List.find?_eq_some_iff_append.mp found
      have fitting : ∀ item ∈ front, fits start item := by simpa using before
      have misfit : ¬ fits start first = true := by simpa using off
      have acts : settle fits place start (front ++ first :: back) =
          settle fits place (place first) back := by
        rw [settle_append, settle_of_fits fitting, settle_cons, if_neg misfit]
      have among : first :: back ⊆ front ++ first :: back := List.subset_append_right _ _
      rw [acts]
      constructor
      · intro all
        have last := settle_place_of_fits (mutually.subset among)
          fun other member => all other (among member)
        rw [last] at all
        exact .inr ⟨first, found, all⟩
      · rintro (all | ⟨other, again, all⟩)
        · exact absurd (all first (among List.mem_cons_self)) misfit
        · obtain rfl := Option.some.inj (found.symm.trans again)
          rw [settle_of_fits fun item member => all item (among (List.mem_cons_of_mem _ member))]
          exact all

/-- A place settles at once for a single item that fits its own place. -/
theorem settlesAtOnce_of_alone {start : Place} {items : List Item} (alone : items.length ≤ 1)
    (own : ∀ item ∈ items, fits (place item) item) : SettlesAtOnce fits place start items := by
  match items with
  | [] => exact .inl (by simp)
  | [item] =>
      by_cases agrees : fits start item = true
      · exact .inl (by simpa using agrees)
      · exact .inr ⟨item, by simpa using agrees, by simpa using own⟩

end IEDSyncTogether.Base
