import Mathlib.Data.List.Nodup
import Mathlib.Data.List.Sublists

/-!
# The first item of each key

A loop that keeps an item only if its key is new keeps the first item of every key, in
order. The keys of the kept items are distinct and are all the keys there are.
-/

namespace IEDSyncTogether.Base

variable {α Key : Type} {key : α → Key} {seen : List Key} {items : List α}

/-- Whether a key was seen before or belongs to one of the items. -/
def Known (key : α → Key) (seen : List Key) (items : List α) (wanted : Key) : Prop :=
  wanted ∈ seen ∨ wanted ∈ items.map key

/-- An old key makes no other key known. -/
theorem known_cons_of_mem {value : α} (old : key value ∈ seen) (values : List α) :
    Known key seen (value :: values) = Known key seen values := by
  funext wanted
  rw [eq_iff_iff, Known, Known, List.map_cons, List.mem_cons]
  constructor
  · rintro (before | rfl | later)
    · exact .inl before
    · exact .inl old
    · exact .inr later
  · exact Or.imp_right .inr

/-- A value in front makes its key known. -/
theorem known_cons (value : α) (values : List α) :
    Known key seen (value :: values) = Known key (key value :: seen) values := by
  funext wanted
  rw [eq_iff_iff, Known, Known, List.map_cons, List.mem_cons, List.mem_cons, or_left_comm, or_assoc]

/-- Without values the keys seen are known. -/
theorem known_nil (key : α → Key) (seen : List Key) : Known key seen [] = (· ∈ seen) := by
  funext wanted
  simp [Known]

/-- A partial function whose results keep the keys of their sources drops keys only. -/
theorem map_filterMap_sublist {β : Type} {made : α → Option β} {resultKey : β → Key}
    (kept : ∀ item result, made item = some result → resultKey result = key item)
    (items : List α) : ((items.filterMap made).map resultKey).Sublist (items.map key) := by
  induction items with
  | nil => exact List.Sublist.slnil
  | cons item items ih =>
      rw [List.map_cons]
      cases outcome : made item with
      | none =>
          rw [List.filterMap_cons_none outcome]
          exact ih.cons _
      | some result =>
          rw [List.filterMap_cons_some outcome, List.map_cons, kept item result outcome]
          exact ih.cons_cons _

/-- What only the items of one key contribute comes from a single item. -/
theorem flatMap_eq_of_nodup {β : Type} {contribution : α → List β} {item : α}
    (distinct : (items.map key).Nodup) (member : item ∈ items)
    (silent : ∀ other ∈ items, key other ≠ key item → contribution other = []) :
    items.flatMap contribution = contribution item := by
  obtain ⟨front, back, rfl⟩ := List.append_of_mem member
  rw [List.map_append, List.map_cons, List.nodup_middle, List.nodup_cons] at distinct
  have others : ∀ other ∈ front ++ back, contribution other = [] := by
    intro other inside
    refine silent other (by simp_all [or_left_comm]) fun same => distinct.1 ?_
    rw [← List.map_append, ← same]
    exact List.mem_map_of_mem inside
  have before : front.flatMap contribution = [] :=
    List.flatMap_eq_nil_iff.mpr fun other inside => others other (List.mem_append_left _ inside)
  have behind : back.flatMap contribution = [] :=
    List.flatMap_eq_nil_iff.mpr fun other inside => others other (List.mem_append_right _ inside)
  rw [List.flatMap_append, List.flatMap_cons, before, behind, List.nil_append, List.append_nil]

variable [DecidableEq Key]

instance (key : α → Key) (seen : List Key) (items : List α) (wanted : Key) :
    Decidable (Known key seen items wanted) :=
  inferInstanceAs (Decidable (_ ∨ _))

/-- The items whose keys are new; some keys have been seen before. -/
def distinctFrom (key : α → Key) : List Key → List α → List α
  | _, [] => []
  | seen, item :: items =>
    if key item ∈ seen then distinctFrom key seen items
    else item :: distinctFrom key (key item :: seen) items

/-- An item with a known key is left out. -/
theorem distinctFrom_cons_of_mem {item : α} (known : key item ∈ seen) (items : List α) :
    distinctFrom key seen (item :: items) = distinctFrom key seen items :=
  if_pos known

/-- An item with a new key is kept, and its key is known from then on. -/
theorem distinctFrom_cons_of_not_mem {item : α} (new : key item ∉ seen) (items : List α) :
    distinctFrom key seen (item :: items) = item :: distinctFrom key (key item :: seen) items :=
  if_neg new

/-- The kept keys are the new ones. -/
theorem mem_map_distinctFrom {wanted : Key} :
    wanted ∈ (distinctFrom key seen items).map key ↔ wanted ∉ seen ∧ wanted ∈ items.map key := by
  fun_induction distinctFrom key seen items with
  | case1 => simp
  | case2 seen item items known ih =>
      rw [ih, List.map_cons, List.mem_cons]
      constructor
      · rintro ⟨new, later⟩
        exact ⟨new, .inr later⟩
      · rintro ⟨new, rfl | later⟩
        · exact absurd known new
        · exact ⟨new, later⟩
  | case3 seen item items new ih =>
      rw [List.map_cons, List.mem_cons, ih, List.map_cons, List.mem_cons, List.mem_cons, not_or]
      by_cases here : wanted = key item
      · simp [here, new]
      · simp [here]

/-- The kept items have different keys. -/
theorem nodup_map_distinctFrom (key : α → Key) (seen : List Key) (items : List α) :
    ((distinctFrom key seen items).map key).Nodup := by
  fun_induction distinctFrom key seen items with
  | case1 => exact List.nodup_nil
  | case2 seen item items known ih => exact ih
  | case3 seen item items new ih =>
      rw [List.map_cons, List.nodup_cons, mem_map_distinctFrom]
      exact ⟨fun kept => kept.1 List.mem_cons_self, ih⟩

/-- The kept items stand in their order. -/
theorem distinctFrom_sublist (key : α → Key) (seen : List Key) (items : List α) :
    (distinctFrom key seen items).Sublist items := by
  fun_induction distinctFrom key seen items with
  | case1 => exact .slnil
  | case2 seen item items known ih => exact ih.cons item
  | case3 seen item items new ih => exact ih.cons_cons item

/-- With a key of its own every item is kept. -/
theorem mem_distinctFrom_of_injective (injective : Function.Injective key) {item : α} :
    item ∈ distinctFrom key seen items ↔ key item ∉ seen ∧ item ∈ items := by
  rw [← List.mem_map_of_injective injective, mem_map_distinctFrom,
    List.mem_map_of_injective injective]

/-- Another name for the keys changes nothing. -/
theorem distinctFrom_comp {Name : Type} [DecidableEq Name] {name : Key → Name}
    (injective : Function.Injective name) (key : α → Key) (seen : List Key) (items : List α) :
    distinctFrom (name ∘ key) (seen.map name) items = distinctFrom key seen items := by
  fun_induction distinctFrom key seen items with
  | case1 => rfl
  | case2 seen item items known ih =>
      have renamed : (name ∘ key) item ∈ seen.map name := List.mem_map_of_mem known
      rw [distinctFrom_cons_of_mem renamed, ih]
  | case3 seen item items new ih =>
      have renamed : (name ∘ key) item ∉ seen.map name :=
        fun known => new ((List.mem_map_of_injective injective).mp known)
      rw [distinctFrom_cons_of_not_mem renamed, ← ih]
      rfl

/-- The next item kept is the first one with a new key. -/
theorem distinctFrom_eq_find? (key : α → Key) (seen : List Key) (items : List α) :
    distinctFrom key seen items =
      match items.find? fun item => key item ∉ seen with
      | none => []
      | some item => item :: distinctFrom key (key item :: seen) items := by
  induction items with
  | nil => rfl
  | cons item items ih =>
      by_cases known : key item ∈ seen
      · rw [distinctFrom_cons_of_mem known, List.find?_cons_of_neg (by simpa using known), ih]
        cases items.find? fun item => key item ∉ seen with
        | none => rfl
        | some next =>
            have further : key item ∈ key next :: seen := List.mem_cons_of_mem _ known
            simp only [distinctFrom_cons_of_mem further]
      · rw [distinctFrom_cons_of_not_mem known, List.find?_cons_of_pos (by simpa using known)]
        simp only [distinctFrom_cons_of_mem (List.mem_cons_self (a := key item) (l := seen))]

/-- What is kept starts with the first item with a new key. -/
theorem cons_eq_take_distinctFrom_iff {value : α} {values : List α} {limit : Nat} :
    value :: values = (distinctFrom key seen items).take (limit + 1) ↔
      (items.find? fun item => key item ∉ seen) = some value ∧
        values = (distinctFrom key (key value :: seen) items).take limit := by
  rw [distinctFrom_eq_find? key seen items]
  cases items.find? fun item => key item ∉ seen with
  | none => simp
  | some next =>
      rw [List.take_succ_cons, List.cons.injEq, Option.some.injEq]
      constructor
      · rintro ⟨rfl, rest⟩
        exact ⟨rfl, rest⟩
      · rintro ⟨rfl, rest⟩
        exact ⟨rfl, rest⟩

/-! ## Two readings of one list -/

section Readings

variable {Item : Type} {loose strict : Item → Option α} {limit : Nat} {items : List Item}

/-- Whenever the limit is not reached and only the loose reading takes an item with a new key,
the strict reading takes the same next. -/
def Harmless (key : α → Key) (loose strict : Item → Option α) (limit : Nat) (seen : List Key)
    (items : List Item) : Prop :=
  ∀ before item after, items = before ++ item :: after → strict item = none →
    ∀ value ∈ loose item, ¬ Known key seen (before.filterMap loose) (key value) →
      (distinctFrom key seen (before.filterMap loose)).length < limit →
      (after.filterMap strict).find?
        (fun other => ¬ Known key seen (before.filterMap loose) (key other)) = some value

/-- An item is read in front of the others. -/
theorem harmless_cons {item : Item} :
    Harmless key loose strict limit seen (item :: items) ↔
      (strict item = none → ∀ value ∈ loose item, key value ∉ seen → 0 < limit →
        (items.filterMap strict).find? (fun other => key other ∉ seen) = some value) ∧
      ∀ before next after, items = before ++ next :: after → strict next = none →
        ∀ value ∈ loose next, ¬ Known key seen ((item :: before).filterMap loose) (key value) →
          (distinctFrom key seen ((item :: before).filterMap loose)).length < limit →
          (after.filterMap strict).find?
            (fun other => ¬ Known key seen ((item :: before).filterMap loose) (key other)) =
              some value := by
  constructor
  · intro harmless
    constructor
    · intro refused value taken new positive
      have first := harmless [] item items rfl refused value taken
      simp only [List.filterMap_nil, known_nil] at first
      exact first new positive
    · intro before next after shape
      exact harmless (item :: before) next after (by rw [shape, List.cons_append])
  · rintro ⟨here, later⟩ before next after shape
    cases before with
    | nil =>
        obtain ⟨rfl, rfl⟩ := List.cons.inj shape
        simp only [List.filterMap_nil, known_nil]
        exact here
    | cons first before =>
        obtain ⟨rfl, rest⟩ := List.cons.inj shape
        exact later before next after rest

/-- The two readings give the same first items exactly if the difference is harmless. -/
theorem take_distinctFrom_eq_iff
    (wider : ∀ item value, strict item = some value → loose item = some value) :
    (distinctFrom key seen (items.filterMap loose)).take limit =
        (distinctFrom key seen (items.filterMap strict)).take limit ↔
      Harmless key loose strict limit seen items := by
  induction items generalizing seen limit with
  | nil =>
      refine iff_of_true rfl ?_
      intro before item after shape
      simp at shape
  | cons item items ih =>
      rw [harmless_cons]
      cases taken : loose item with
      | none =>
          have refused : strict item = none := by
            rw [← Option.not_isSome_iff_eq_none, Option.isSome_iff_exists]
            rintro ⟨value, agreed⟩
            rw [wider item value agreed] at taken
            cases taken
          simp only [List.filterMap_cons, taken, refused]
          rw [ih]
          exact (and_iff_right (by simp)).symm
      | some value =>
          by_cases old : key value ∈ seen
          · have same : distinctFrom key seen ((item :: items).filterMap strict) =
                distinctFrom key seen (items.filterMap strict) := by
              cases agreed : strict item with
              | none => rw [List.filterMap_cons_none agreed]
              | some other =>
                  obtain rfl : value = other := Option.some.inj (taken.symm.trans (wider _ _ agreed))
                  rw [List.filterMap_cons_some agreed, distinctFrom_cons_of_mem old]
            simp only [same, List.filterMap_cons_some taken, distinctFrom_cons_of_mem old,
              known_cons_of_mem old]
            rw [ih]
            refine (and_iff_right ?_).symm
            intro _ other here new
            obtain rfl := Option.some.inj here
            exact absurd old new
          · cases limit with
            | zero => simp
            | succ limit =>
                simp only [List.filterMap_cons_some taken, distinctFrom_cons_of_not_mem old,
                  known_cons, List.length_cons, Nat.succ_lt_succ_iff, List.take_succ_cons,
                  cons_eq_take_distinctFrom_iff]
                cases agreed : strict item with
                | some other =>
                    obtain rfl : value = other :=
                      Option.some.inj (taken.symm.trans (wider _ _ agreed))
                    rw [List.filterMap_cons_some agreed, distinctFrom_cons_of_mem List.mem_cons_self,
                      List.find?_cons_of_pos (by simpa using old), ih, eq_self_iff_true, true_and]
                    exact (and_iff_right nofun).symm
                | none =>
                    rw [List.filterMap_cons_none agreed, ih]
                    simp only [Option.mem_some_iff, forall_eq', old, not_false_eq_true,
                      Nat.zero_lt_succ, forall_const]
                    rfl

end Readings

end IEDSyncTogether.Base
