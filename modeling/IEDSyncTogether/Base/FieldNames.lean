import IEDSyncTogether.Base.Fields

/-!
# Fields by their names

The name of a field is the text in front of its first mark. A search of the marked name in
the whole text finds the first field that contains it, whatever stands in front of the name
there; it reads the field with that name unless a longer name or a value shadows it.
-/

namespace IEDSyncTogether.Base

variable {α : Type} [DecidableEq α] {delimiter mark : α} {pattern name : List α}

/-- Whether the text in front of the first mark of a field is the name. -/
def hasName (mark : α) (name field : List α) : Bool :=
  mark ∈ field ∧ field.takeWhile (· ≠ mark) = name

/-- The text behind the first mark of the first field with a name. -/
def firstNamed (mark : α) (name : List α) (fields : List (List α)) : Option (List α) :=
  (fields.find? (hasName mark name)).map fun field => (field.dropWhile (· ≠ mark)).tail

/-- The first field that contains a marked name starts with it, or the first field that starts
with it is the part of that one from its first place on. -/
def Unshadowed (marked : List α) (fields : List (List α)) : Prop :=
  ∀ field ∈ fields.find? fun field => (findText marked field).isSome,
    ∀ position ∈ findText marked field,
      position = 0 ∨ fields.find? marked.isPrefixOf = some (field.drop position)

/-- A field with a name starts with the marked name. -/
theorem hasName_eq (pure : mark ∉ name) (field : List α) :
    hasName mark name field = (name ++ [mark]).isPrefixOf field := by
  rw [Bool.eq_iff_iff, List.isPrefixOf_iff_prefix, hasName, decide_eq_true_eq]
  constructor
  · rintro ⟨marked, rfl⟩
    obtain ⟨front, back, rfl, absent⟩ := List.eq_append_cons_of_mem marked
    rw [takeWhile_append_cons, takeWhile_of_free absent]
    exact ⟨back, by simp⟩
  · rintro ⟨value, rfl⟩
    rw [List.append_assoc, List.singleton_append, takeWhile_append_cons, takeWhile_of_free pure]
    simp

theorem tail_dropWhile_of_name (pure : mark ∉ name) (value : List α) :
    ((name ++ [mark] ++ value).dropWhile (· ≠ mark)).tail = value := by
  rw [List.append_assoc, List.singleton_append, dropWhile_append_cons, dropWhile_of_free pure]
  rfl

/-- The place found starts with the pattern. -/
theorem drop_findText {text : List α} {position : Nat}
    (found : findText pattern text = some position) :
    text.drop position = pattern ++ text.drop (position + pattern.length) := by
  obtain ⟨front, back, rfl, rfl⟩ := exists_of_findText found
  rw [List.drop_length_add_append, List.drop_left, List.drop_left]

/-- The first place of a pattern is the start exactly if the text starts with it. -/
theorem findText_eq_zero_iff {text : List α} :
    findText pattern text = some 0 ↔ pattern.isPrefixOf text = true := by
  cases text with
  | nil => cases pattern <;> simp [findText]
  | cons item text =>
      rw [findText]
      split
      · next here => simp [here]
      · next elsewhere => simp [elsewhere]

section Absent

variable {fields : List (List α)}
  (absent : ∀ field ∈ fields, ¬ (findText pattern field).isSome = true)

include absent

/-- No field starts with a text that none contains. -/
theorem find?_isPrefixOf_of_absent : fields.find? pattern.isPrefixOf = none := by
  rw [List.find?_eq_none]
  intro field member starts
  have missing := absent field member
  rw [findText_eq_zero_iff.mpr starts] at missing
  exact missing rfl

/-- No field has a value behind a text that none contains. -/
theorem findSome?_valueOf_of_absent (delimiter : α) :
    fields.findSome? (valueOf delimiter pattern) = none := by
  rw [List.findSome?_eq_none_iff]
  intro field member
  have missing := absent field member
  simpa [valueOf] using missing

end Absent

/-- The value behind the first place of a marked name is the value of the first field with
that name exactly if nothing shadows it. -/
theorem valueOf_eq_firstNamed_iff {fields : List (List α)} (pure : mark ∉ name)
    (free : FreeOf delimiter fields) :
    fields.findSome? (valueOf delimiter (name ++ [mark])) = firstNamed mark name fields ↔
      Unshadowed (name ++ [mark]) fields := by
  have names : hasName mark name = (name ++ [mark]).isPrefixOf := funext (hasName_eq pure)
  rw [firstNamed, names, Unshadowed]
  cases found : fields.find? fun field => (findText (name ++ [mark]) field).isSome with
  | none =>
      have absent := List.find?_eq_none.mp found
      simp [findSome?_valueOf_of_absent absent delimiter, find?_isPrefixOf_of_absent absent]
  | some field =>
      obtain ⟨holds, front, back, rfl, earlier⟩ := List.find?_eq_some_iff_append.mp found
      obtain ⟨position, place⟩ := Option.isSome_iff_exists.mp holds
      have plain : delimiter ∉ field.drop (position + (name ++ [mark]).length) :=
        fun member => free field (by simp) (List.mem_of_mem_drop member)
      have behind := drop_findText place
      have absent : ∀ other ∈ front, ¬ (findText (name ++ [mark]) other).isSome = true :=
        fun other member => by simpa using earlier other member
      have value : (front ++ field :: back).findSome? (valueOf delimiter (name ++ [mark])) =
          some (field.drop (position + (name ++ [mark]).length)) := by
        rw [List.findSome?_append, findSome?_valueOf_of_absent absent delimiter, Option.none_or,
          List.findSome?_cons, valueOf, place, Option.map_some, takeWhile_of_free plain]
      simp only [value, Option.mem_some_iff, forall_eq', place]
      constructor
      · intro same
        obtain ⟨other, first, rest⟩ := Option.map_eq_some_iff.mp same.symm
        obtain ⟨suffix, rfl⟩ := List.isPrefixOf_iff_prefix.mp (List.find?_some first)
        rw [tail_dropWhile_of_name pure] at rest
        right
        rw [first, behind, rest]
      · rintro (rfl | first)
        · have here : (name ++ [mark]).isPrefixOf field = true := findText_eq_zero_iff.mp place
          rw [List.drop_zero] at behind
          rw [List.find?_append, find?_isPrefixOf_of_absent absent, Option.none_or,
            List.find?_cons_of_pos here, Option.map_some]
          conv_rhs => rw [behind, tail_dropWhile_of_name pure]
        · rw [first, Option.map_some, behind, tail_dropWhile_of_name pure]

end IEDSyncTogether.Base
