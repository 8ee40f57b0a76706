import Mathlib.Data.List.Nodup

/-!
# Switches and the set of what is on

A record of calls that switch items on and off. The items that are on are those whose last
call switched them on; a holder of that set is balanced if it is exact and no item was
switched on while it was on, or off while it was not.
-/

namespace IEDSyncTogether.Base

variable {α : Type} [DecidableEq α] {calls : List (α × Bool)} {item : α} {items on : List α}

/-- The last switch of an item. -/
def lastToggle (calls : List (α × Bool)) (item : α) : Option Bool :=
  (calls.reverse.find? (·.1 = item)).map (·.2)

@[simp] theorem lastToggle_append (first second : List (α × Bool)) (item : α) :
    lastToggle (first ++ second) item = (lastToggle second item).or (lastToggle first item) := by
  rw [lastToggle, List.reverse_append, List.find?_append, Option.map_or, lastToggle, lastToggle]

theorem lastToggle_singleton (other : α) (switch : Bool) (item : α) :
    lastToggle [(other, switch)] item = if other = item then some switch else none := by
  by_cases same : other = item <;> simp [lastToggle, same]

/-- An item is switched on only if it is not on, and off only if it is. -/
def Alternating (calls : List (α × Bool)) : Prop :=
  ∀ before item switch after, calls = before ++ (item, switch) :: after →
    (lastToggle before item = some true ↔ switch = false)

/-- The last switch of an item is one of its calls. -/
theorem mem_of_lastToggle {switch : Bool} (last : lastToggle calls item = some switch) :
    (item, switch) ∈ calls := by
  obtain ⟨⟨other, _⟩, found, rfl⟩ := Option.map_eq_some_iff.mp last
  have same := List.find?_some found
  rw [decide_eq_true_eq] at same
  subst same
  exact List.mem_reverse.mp (List.mem_of_find?_eq_some found)

/-- Between two equal calls there is the opposite one. -/
theorem Alternating.opposite_between {before between after : List (α × Bool)} {switch : Bool}
    (alternating :
      Alternating (before ++ (item, switch) :: (between ++ (item, switch) :: after))) :
    (item, !switch) ∈ between := by
  have again := alternating (before ++ (item, switch) :: between) item switch after (by simp)
  rw [← List.singleton_append, ← List.append_assoc, lastToggle_append, lastToggle_append,
    lastToggle_singleton, if_pos rfl, Option.some_or] at again
  cases last : lastToggle between item with
  | none => cases switch <;> simp [last] at again
  | some found =>
      have opposite : found = !switch := by
        cases found <;> cases switch <;> simp [last] at again ⊢
      exact opposite ▸ mem_of_lastToggle last

/-- One more call keeps the alternation if it changes its item. -/
theorem Alternating.append_singleton {switch : Bool} (alternating : Alternating calls)
    (changes : lastToggle calls item = some true ↔ switch = false) :
    Alternating (calls ++ [(item, switch)]) := by
  intro before other turned after shape
  rcases List.eq_nil_or_concat after with rfl | ⟨rest, last, rfl⟩
  · obtain ⟨rfl, call⟩ := List.append_inj' shape rfl
    obtain ⟨rfl, rfl⟩ := Prod.mk.inj (List.cons.inj call).1
    exact changes
  · rw [List.concat_eq_append, ← List.cons_append, ← List.append_assoc] at shape
    exact alternating before other turned rest (List.append_inj' shape rfl).1

/-- The set of items that are on, kept beside the calls. -/
structure Balanced (calls : List (α × Bool)) (on : List α) : Prop where
  exact : ∀ item, item ∈ on ↔ lastToggle calls item = some true
  alternating : Alternating calls

theorem balanced_nil : Balanced ([] : List (α × Bool)) [] where
  exact item := by simp [lastToggle]
  alternating before item switch after shape := by simp at shape

/-- The order of the items does not matter. -/
theorem Balanced.of_mem_iff {others : List α} (balanced : Balanced calls on)
    (same : ∀ item, item ∈ others ↔ item ∈ on) : Balanced calls others :=
  ⟨fun item => (same item).trans (balanced.exact item), balanced.alternating⟩

/-- New items are switched on. -/
theorem Balanced.append_on (balanced : Balanced calls on) (new : ∀ item ∈ items, item ∉ on)
    (distinct : items.Nodup) : Balanced (calls ++ items.map (·, true)) (on ++ items) := by
  induction items generalizing calls on with
  | nil => simpa using balanced
  | cons item items ih =>
      obtain ⟨single, rest⟩ := List.nodup_cons.mp distinct
      have off : lastToggle calls item ≠ some true :=
        fun lit => new item List.mem_cons_self ((balanced.exact item).mpr lit)
      have next : Balanced (calls ++ [(item, true)]) (on ++ [item]) := by
        refine ⟨fun other => ?_, balanced.alternating.append_singleton (by simp [off])⟩
        rw [List.mem_append, List.mem_singleton, balanced.exact, lastToggle_append,
          lastToggle_singleton]
        by_cases same : item = other
        · simp [same]
        · simp [same, Ne.symm same]
      have further : ∀ other ∈ items, other ∉ on ++ [item] := by
        intro other member
        rw [List.mem_append, List.mem_singleton, not_or]
        exact ⟨new other (List.mem_cons_of_mem _ member), fun same => single (same ▸ member)⟩
      have all := ih next further rest
      rwa [List.append_assoc, List.append_assoc, List.singleton_append, List.singleton_append] at all

/-- Items that are on are switched off, each once, and the others kept. -/
theorem Balanced.append_off {kept : List α} (balanced : Balanced calls on)
    (lit : ∀ item ∈ items, item ∈ on) (distinct : items.Nodup)
    (rest : ∀ item, item ∈ kept ↔ item ∈ on ∧ item ∉ items) :
    Balanced (calls ++ items.map (·, false)) kept := by
  induction items generalizing calls on with
  | nil =>
      rw [List.map_nil, List.append_nil]
      exact balanced.of_mem_iff fun item => by simp [rest]
  | cons item items ih =>
      obtain ⟨single, others⟩ := List.nodup_cons.mp distinct
      have next : Balanced (calls ++ [(item, false)]) (on.filter (· ≠ item)) := by
        refine ⟨fun other => ?_, balanced.alternating.append_singleton ?_⟩
        · rw [List.mem_filter, balanced.exact, lastToggle_append, lastToggle_singleton]
          by_cases same : item = other
          · simp [same]
          · simp [same, Ne.symm same]
        · exact iff_of_true ((balanced.exact item).mp (lit item List.mem_cons_self)) rfl
      have further : ∀ other ∈ items, other ∈ on.filter (· ≠ item) := by
        intro other member
        rw [List.mem_filter, decide_eq_true_eq]
        exact ⟨lit other (List.mem_cons_of_mem _ member), fun same => single (same ▸ member)⟩
      have all := ih next further others fun other => by
        rw [rest, List.mem_filter, decide_eq_true_eq, List.mem_cons, not_or, and_assoc]
      rwa [List.append_assoc, List.singleton_append] at all

/-- One new item is switched on. -/
theorem Balanced.switch_on (balanced : Balanced calls on) (new : item ∉ on) :
    Balanced (calls ++ [(item, true)]) (item :: on) := by
  have next := balanced.append_on (List.forall_mem_singleton.mpr new) (List.nodup_singleton item)
  exact next.of_mem_iff fun other => by simp [or_comm]

/-- One item is switched off. -/
theorem Balanced.switch_off (balanced : Balanced calls (item :: on)) (single : item ∉ on) :
    Balanced (calls ++ [(item, false)]) on := by
  refine @Balanced.append_off _ _ calls [item] (item :: on) on balanced (by simp)
    (List.nodup_singleton item) fun other => ?_
  rw [List.mem_cons, List.mem_singleton]
  constructor
  · intro kept
    exact ⟨.inr kept, fun same => single (same ▸ kept)⟩
  · rintro ⟨here | kept, other⟩
    · exact absurd here other
    · exact kept

/-! ## Holders -/

/-- The calls of a holder bring what it holds from one list to another, whatever is held besides
that it does not own. -/
def Settles (owns : α → Prop) (held next : List α) (made : List (α × Bool)) : Prop :=
  ∀ calls others, (∀ item ∈ others, ¬ owns item) → Balanced calls (held ++ others) →
    Balanced (calls ++ made) (next ++ others)

section Holders

variable {owns : α → Prop} {held next last : List α} {made more : List (α × Bool)}

/-- Without calls the held items stay. -/
theorem Settles.nothing (owns : α → Prop) (held : List α) : Settles owns held held [] := by
  intro calls others _ balanced
  rwa [List.append_nil]

theorem Settles.trans (first : Settles owns held next made) (second : Settles owns next last more) :
    Settles owns held last (made ++ more) := by
  intro calls others foreign balanced
  rw [← List.append_assoc]
  exact second _ others foreign (first calls others foreign balanced)

/-- A holder acquires an item of its own. -/
theorem Settles.acquire (own : owns item) (new : item ∉ held) :
    Settles owns held (item :: held) [(item, true)] := by
  intro calls others foreign balanced
  refine balanced.switch_on ?_
  rw [List.mem_append, not_or]
  exact ⟨new, fun other => foreign item other own⟩

/-- A holder releases an item of its own. -/
theorem Settles.release (own : owns item) (single : item ∉ held) :
    Settles owns (item :: held) held [(item, false)] := by
  intro calls others foreign balanced
  refine Balanced.switch_off balanced ?_
  rw [List.mem_append, not_or]
  exact ⟨single, fun other => foreign item other own⟩

/-- A second holder stands aside. -/
theorem Settles.beside (settles : Settles owns held next made) {others : List α}
    (foreign : ∀ item ∈ others, ¬ owns item) (balanced : Balanced calls (others ++ held)) :
    Balanced (calls ++ made) (others ++ next) := by
  have swapped (some other : List α) (item : α) : item ∈ some ++ other ↔ item ∈ other ++ some := by
    rw [List.mem_append, List.mem_append, or_comm]
  exact (settles calls others foreign (balanced.of_mem_iff (swapped held others))).of_mem_iff
    (swapped others next)

end Holders

end IEDSyncTogether.Base
