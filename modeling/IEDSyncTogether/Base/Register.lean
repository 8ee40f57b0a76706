import Mathlib.Data.List.Induction
import Mathlib.Order.Lattice

/-!
# Registers of the newest version

A register is offered versioned items one by one and keeps an item until one that is not
older is offered.
-/

namespace IEDSyncTogether.Base

variable {Item Version : Type} [LinearOrder Version] (version : Item → Version)

/-- An older item is dropped, any other is held from now on. -/
def offer : Option Item → Item → Option Item
  | none, item => some item
  | some kept, item => if version item < version kept then some kept else some item

/-- What an empty register holds after the items were offered in turn. -/
def newest (items : List Item) : Option Item :=
  items.foldl (offer version) none

variable {version} {item kept next : Item} {items : List Item}

theorem newest_concat (items : List Item) (item : Item) :
    newest version (items ++ [item]) = offer version (newest version items) item :=
  List.foldl_append

/-- A register that was offered something is not empty. -/
theorem newest_eq_none_iff : newest version items = none ↔ items = [] := by
  induction items using List.reverseRecOn with
  | nil => simp [newest]
  | append_singleton items item _ =>
      rw [newest_concat]
      cases newest version items with
      | none => simp [offer]
      | some kept =>
          rw [offer]
          split <;> simp

/-- An offer is held if no newer item is, and else it is dropped. -/
theorem offer_cases {held : Option Item} (offered : offer version held item = some next) :
    (next = item ∧ ∀ kept, held = some kept → version kept ≤ version item) ∨
      (held = some next ∧ version item < version next) := by
  cases held with
  | none =>
      cases offered
      exact .inl ⟨rfl, fun kept known => by cases known⟩
  | some kept =>
      rw [offer] at offered
      split at offered
      · next older =>
          cases offered
          exact .inr ⟨rfl, older⟩
      · next newer =>
          cases offered
          refine .inl ⟨rfl, ?_⟩
          rintro _ ⟨⟩
          exact not_lt.mp newer

/-- The held version never decreases. -/
theorem exists_offer_some (kept item : Item) :
    ∃ next, offer version (some kept) item = some next ∧ version kept ≤ version next := by
  rw [offer]
  split
  · exact ⟨kept, rfl, le_rfl⟩
  · next newer => exact ⟨item, rfl, not_lt.mp newer⟩

/-- The register holds an offered item, and no offered item is newer. -/
theorem newest_spec (held : newest version items = some kept) :
    kept ∈ items ∧ ∀ other ∈ items, version other ≤ version kept := by
  induction items using List.reverseRecOn generalizing kept with
  | nil => cases held
  | append_singleton items item ih =>
      rw [newest_concat] at held
      rcases offer_cases held with ⟨rfl, above⟩ | ⟨before, older⟩
      · refine ⟨by simp, List.forall_mem_append.mpr ⟨?_, List.forall_mem_singleton.mpr le_rfl⟩⟩
        intro other earlier
        cases before : newest version items with
        | none =>
            rw [newest_eq_none_iff.mp before] at earlier
            cases earlier
        | some first => exact le_trans ((ih before).2 other earlier) (above first before)
      · obtain ⟨among, highest⟩ := ih before
        exact ⟨List.mem_append_left _ among,
          List.forall_mem_append.mpr ⟨highest, List.forall_mem_singleton.mpr (le_of_lt older)⟩⟩

end IEDSyncTogether.Base
