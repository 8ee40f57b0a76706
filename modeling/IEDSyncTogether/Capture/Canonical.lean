import IEDSyncTogether.Base.SortedByKey
import IEDSyncTogether.Capture.Probe

/-!
# What the captured list depends on

The capture sorts its objects and drops logically equal neighbours. The comparator
looks at the form, the slot and two node names only; the result is a function of the
set of objects exactly if no two different objects of the set tie.
-/

namespace IEDSyncTogether

open Base

/-- `std::unique` keeps an object unless it equals the kept one before it. -/
theorem unique_eq_destutter (objects : List CapturedIEDObject) :
    unique objects = objects.destutter fun kept object => ¬ sameLogicalObject kept object := by
  have after (kept : CapturedIEDObject) (rest : List CapturedIEDObject) :
      kept :: uniqueAfter kept rest =
        rest.destutter' (fun kept object => ¬ sameLogicalObject kept object) kept := by
    induction rest generalizing kept with
    | nil => rfl
    | cons object rest ih =>
        rw [uniqueAfter, List.destutter'_cons]
        split
        · exact ih kept
        · rw [ih]
  cases objects with
  | nil => rfl
  | cons kept rest => exact after kept rest

theorem sameLogicalObject_self (object : CapturedIEDObject) :
    sameLogicalObject object object = true := by
  simp [sameLogicalObject, sameNumbers]

/-- Logically equal objects tie. -/
theorem captureKey_eq_of_same {lhs rhs : CapturedIEDObject}
    (same : sameLogicalObject lhs rhs = true) : captureKey lhs = captureKey rhs := by
  obtain ⟨_, form, slot, _, object, attachment, _⟩ := of_decide_eq_true same
  rw [captureKey, captureKey, form, slot, object, attachment]

/-- Two objects neither of which comes first have one key. -/
theorem captureKey_eq_iff {lhs rhs : CapturedIEDObject} :
    captureKey lhs = captureKey rhs ↔
      captureBefore lhs rhs = false ∧ captureBefore rhs lhs = false := by
  rw [captureBefore_eq, captureBefore_eq, decide_eq_false_iff_not, decide_eq_false_iff_not, not_lt,
    not_lt]
  exact ⟨fun same => ⟨same.ge, same.le⟩, fun ⟨after, before⟩ => le_antisymm before after⟩

/-- No two different objects tie in the comparator. -/
def Untied (objects : List CapturedIEDObject) : Prop :=
  ∀ lhs ∈ objects, ∀ rhs ∈ objects,
    captureBefore lhs rhs = false → captureBefore rhs lhs = false → lhs = rhs

/-- Whatever the order and the multiplicities of the scanned objects, and whatever the
sort does with ties, the captured list is one list without logically equal objects, so
every slot state is encoded with it in one way. -/
def DependsOnlyOnSet (objects : List CapturedIEDObject) : Prop :=
  ∀ (sorting other : ObjectSort) (scanned rescanned : List CapturedIEDObject),
    (∀ object, object ∈ scanned ↔ object ∈ objects) →
    (∀ object, object ∈ rescanned ↔ object ∈ objects) →
    unique (sorting.sort scanned) = unique (other.sort rescanned) ∧
      ((unique (sorting.sort scanned)).Pairwise fun lhs rhs => ¬ sameLogicalObject lhs rhs) ∧
      ∀ slots, encodeLocalIEDState ⟨slots, unique (sorting.sort scanned)⟩ =
        encodeLocalIEDState ⟨slots, unique (other.sort rescanned)⟩

namespace Untied

variable {objects scanned : List CapturedIEDObject}

theorem of_members (untied : Untied objects)
    (members : ∀ object, object ∈ scanned ↔ object ∈ objects) : Untied scanned :=
  fun lhs one rhs two => untied lhs ((members lhs).mp one) rhs ((members rhs).mp two)

/-- The captured list has strictly increasing keys. -/
theorem strictlySorted (untied : Untied scanned) (sorting : ObjectSort) :
    (unique (sorting.sort scanned)).Pairwise fun lhs rhs => captureKey lhs < captureKey rhs := by
  rw [unique_eq_destutter]
  apply strictlySorted_destutter
  · refine (sorting.ordered scanned).imp fun {lhs rhs} before => ?_
    rwa [captureBefore_eq, decide_eq_false_iff_not, not_lt] at before
  · intro lhs one rhs two apart tie
    obtain ⟨before, after⟩ := captureKey_eq_iff.mp tie
    obtain rfl := untied lhs ((sorting.perm scanned).mem_iff.mp one) rhs
      ((sorting.perm scanned).mem_iff.mp two) before after
    exact apart (sameLogicalObject_self lhs)

/-- The captured list has exactly the scanned objects. -/
theorem mem_iff (untied : Untied scanned) (sorting : ObjectSort) {object : CapturedIEDObject} :
    object ∈ unique (sorting.sort scanned) ↔ object ∈ scanned := by
  rw [← (sorting.perm scanned).mem_iff]
  constructor
  · exact mem_of_mem_unique
  · intro member
    obtain ⟨kept, among, rfl | same⟩ := exists_same_of_mem_unique member
    · exact among
    · obtain ⟨before, after⟩ := captureKey_eq_iff.mp (captureKey_eq_of_same same)
      have listed := (sorting.perm scanned).mem_iff.mp (mem_of_mem_unique among)
      obtain rfl := untied kept listed object ((sorting.perm scanned).mem_iff.mp member) before after
      exact among

/-- Without ties the payload depends on the set of objects alone. -/
theorem dependsOnlyOnSet (untied : Untied objects) : DependsOnlyOnSet objects := by
  intro sorting other scanned rescanned members again
  have one := untied.of_members members
  have two := untied.of_members again
  have same : unique (sorting.sort scanned) = unique (other.sort rescanned) := by
    refine eq_of_strictlySorted (one.strictlySorted sorting) (two.strictlySorted other) ?_
    intro object
    rw [one.mem_iff, two.mem_iff, members, again]
  refine ⟨same, ?_, fun slots => by rw [same]⟩
  exact (one.strictlySorted sorting).imp fun before equal =>
    absurd (captureKey_eq_of_same equal) before.ne

end Untied

/-- The stable sort keeps the first of two tied objects in front. -/
theorem find?_unique_captureSort (objects : List CapturedIEDObject) (object : CapturedIEDObject) :
    (unique (captureSort.sort objects)).find? (fun other => captureKey other = captureKey object) =
      objects.find? fun other => captureKey other = captureKey object := by
  rw [unique_eq_destutter, find?_destutter]
  · refine find?_mergeSort _ ?_ objects
    intro lhs rhs one two
    rw [decide_eq_true_eq] at one two
    rw [one, two]
  · intro lhs rhs dropped
    rw [captureKey_eq_of_same (not_not.mp dropped)]

/-- Two tied objects in either order give different lists. -/
theorem untied_of_dependsOnlyOnSet {objects : List CapturedIEDObject}
    (canonical : DependsOnlyOnSet objects) : Untied objects := by
  intro lhs one rhs two before after
  have tie : captureKey lhs = captureKey rhs := captureKey_eq_iff.mpr ⟨before, after⟩
  have added {first second : CapturedIEDObject} (one : first ∈ objects) (two : second ∈ objects)
      (object : CapturedIEDObject) : object ∈ first :: second :: objects ↔ object ∈ objects := by
    simp only [List.mem_cons]
    constructor
    · rintro (rfl | rfl | member)
      · exact one
      · exact two
      · exact member
    · exact fun member => .inr (.inr member)
  obtain ⟨same, _⟩ := canonical captureSort captureSort _ _ (added one two) (added two one)
  have firsts := congrArg
    (List.find? fun other => decide (captureKey other = captureKey lhs)) same
  simpa [find?_unique_captureSort, List.find?_cons, tie] using firsts

/-- The captured list depends only on the set of objects exactly if no two different
objects of the set tie in the comparator. -/
theorem capture_depends_only_on_set_iff (objects : List CapturedIEDObject) :
    DependsOnlyOnSet objects ↔ Untied objects :=
  ⟨untied_of_dependsOnlyOnSet, Untied.dependsOnlyOnSet⟩

/-- A shown and a hidden helmet on one attachment tie in the comparator, so the scan
order decides which comes first. -/
theorem hidden_helmet_order_matters :
    ¬ DependsOnlyOnSet [waistHelmet, { waistHelmet with visible := false }] := by
  intro canonical
  have same := untied_of_dependsOnlyOnSet canonical waistHelmet (by simp)
    { waistHelmet with visible := false } (by simp) (by decide) (by decide)
  exact absurd (congrArg CapturedIEDObject.visible same) (by decide)

end IEDSyncTogether
