import Mathlib.Algebra.GroupWithZero.Nat
import Mathlib.Data.List.Basic

/-!
# Byte strings and their searches

`std::string` and `std::string_view` as lists of bytes. The two searches the
parsers use, `find` and `substr`, are stated over any list with decidable
equality; `splitOn_drop` connects one search step to the core `List.splitOn`.
-/

namespace IEDSyncTogether.Base

/-- The bytes of a `std::string`, a `std::string_view` or a literal. -/
abbrev ByteString := List UInt8

/-- The byte of an ASCII character literal. -/
def byteOf (char : Char) : UInt8 := char.toNat.toUInt8

instance : LawfulBEq ByteString := inferInstance

/-- The bytes of an ASCII string literal. -/
def ascii (text : String) : ByteString :=
  text.toList.map byteOf

@[simp] theorem get_eq_getElem {α : Type} {count : Nat} (values : Vector α count)
    (index : Fin count) : values.get index = getElem values index.val index.isLt := rfl

/-- Fill a fixed-size array entry by entry; one entry without a value fails the
whole array. -/
def collect {α : Type} {count : Nat} (entry : Fin count → Option α) :
    Option (Vector α count) :=
  if every : ∀ index, (entry index).isSome then
    some (Vector.ofFn fun index => (entry index).get (every index))
  else none

/-- An array is collected exactly when every entry is. -/
theorem collect_eq_some_iff {α : Type} {count : Nat} {entry : Fin count → Option α}
    {values : Vector α count} :
    collect entry = some values ↔ ∀ index : Fin count, entry index = some (values.get index) := by
  unfold collect
  constructor
  · intro collected index
    split at collected
    · cases collected
      simp
    · cases collected
  · intro values
    have every : ∀ index, (entry index).isSome := fun index => by simp [values index]
    rw [dif_pos every]
    congr 1
    ext index within
    simp [values ⟨index, within⟩]

/-- A list is read only if every item is. -/
theorem isSome_of_mapM {α β : Type} {read : α → Option β} {items : List α}
    (all : (items.mapM read).isSome) : ∀ item ∈ items, (read item).isSome := by
  induction items with
  | nil => simp
  | cons item items ih =>
      obtain ⟨results, all⟩ := Option.isSome_iff_exists.mp all
      rw [List.mapM_cons] at all
      obtain ⟨first, head, rest⟩ := Option.bind_eq_some_iff.mp all
      obtain ⟨others, tail, _⟩ := Option.bind_eq_some_iff.mp rest
      exact List.forall_mem_cons.mpr
        ⟨Option.isSome_of_eq_some head, ih (Option.isSome_of_eq_some tail)⟩

/-- An item of a joined list comes from the separator or from a part. -/
theorem mem_or_mem_of_mem_intercalate {α : Type} {separator : List α} {parts : List (List α)}
    {item : α} (member : item ∈ separator.intercalate parts) :
    item ∈ separator ∨ ∃ part ∈ parts, item ∈ part := by
  induction parts with
  | nil => simp at member
  | cons part parts ih =>
      by_cases last : parts = []
      · subst last
        rw [List.intercalate_singleton] at member
        exact .inr ⟨part, List.mem_cons_self, member⟩
      · rw [List.intercalate_cons_of_ne_nil last, List.mem_append, List.mem_append] at member
        rcases member with (inside | between) | later
        · exact .inr ⟨part, List.mem_cons_self, inside⟩
        · exact .inl between
        · exact (ih later).imp id fun ⟨other, among, inside⟩ =>
            ⟨other, List.mem_cons_of_mem _ among, inside⟩

/-- Terminating every part is joining the parts with an empty last one. -/
theorem intercalate_append_nil {α : Type} (item : α) (parts : List (List α)) :
    [item].intercalate (parts ++ [[]]) = parts.flatMap (· ++ [item]) := by
  induction parts with
  | nil => simp
  | cons part parts ih =>
      rw [List.cons_append, List.intercalate_cons_of_ne_nil (by simp), ih, List.flatMap_cons]

/-- One separator stands between any two parts. -/
theorem length_intercalate_singleton {α : Type} (item : α) (parts : List (List α)) :
    ([item].intercalate parts).length = (parts.map List.length).sum + (parts.length - 1) := by
  induction parts with
  | nil => rfl
  | cons part parts ih =>
      by_cases last : parts = []
      · simp [last]
      · have further : 0 < parts.length := List.length_pos_iff.mpr last
        rw [List.intercalate_cons_of_ne_nil last, List.length_append, List.length_append, ih]
        simp only [List.map_cons, List.sum_cons, List.length_cons, List.length_nil]
        omega

section Search

variable {α : Type}

/-- `string_view::substr` with its count already limited by the caller. -/
def substr (value : List α) (start count : Nat) : List α :=
  (value.drop start).take count

@[simp] theorem substr_zero_start (value : List α) (count : Nat) :
    substr value 0 count = value.take count := rfl

variable [DecidableEq α]

/-- `string_view::find`: the first position of `item` at or after `start`,
with `none` for `npos`. -/
def find (value : List α) (item : α) (start : Nat) : Option Nat :=
  ((value.drop start).findIdx? (· = item)).map (start + ·)

variable {value : List α} {item : α} {start stop : Nat}

/-- A failed search is the absence of the item from the searched suffix. -/
theorem find_eq_none_iff : find value item start = none ↔ item ∉ value.drop start := by
  simp only [find, Option.map_eq_none_iff, List.findIdx?_eq_none_iff, decide_eq_false_iff_not]
  constructor
  · intro absent member
    exact absent item member rfl
  · rintro absent other member rfl
    exact absent member

/-- A successful search cuts the suffix at the first occurrence. -/
theorem find_some_split (found : find value item start = some stop) :
    item ∉ substr value start (stop - start) ∧
      value.drop start = substr value start (stop - start) ++ item :: value.drop (stop + 1) := by
  simp only [find, Option.map_eq_some_iff, List.findIdx?_eq_some_iff_getElem,
    decide_eq_true_eq] at found
  obtain ⟨offset, ⟨inside, here, earlier⟩, rfl⟩ := found
  simp only [Nat.add_sub_cancel_left, substr]
  constructor
  · intro member
    obtain ⟨index, within, same⟩ := List.mem_take_iff_getElem.mp member
    exact earlier index (by omega) same
  · conv_lhs => rw [← List.take_append_drop offset (value.drop start)]
    rw [List.drop_eq_getElem_cons inside, here, List.drop_drop, Nat.add_assoc]

/-- The position found lies inside the searched part. -/
theorem find_some_bounds (found : find value item start = some stop) :
    start ≤ stop ∧ stop < value.length := by
  simp only [find, Option.map_eq_some_iff, List.findIdx?_eq_some_iff_getElem] at found
  obtain ⟨offset, ⟨inside, _⟩, rfl⟩ := found
  rw [List.length_drop] at inside
  omega

/-- Searching past an item-free front finds the item right behind it. -/
theorem find_append_cons {front : List α} (absent : item ∉ front) (back : List α) :
    find (front ++ item :: back) item 0 = some front.length := by
  have frontMisses : front.findIdx? (· = item) = none := by
    rw [List.findIdx?_eq_none_iff]
    intro other member
    have differs : other ≠ item := fun same => absent (same ▸ member)
    simpa using differs
  simp [find, List.findIdx?_append, frontMisses, List.findIdx?_cons]

/-- One search step computes one step of `List.splitOn` on the rest. -/
theorem splitOn_drop (value : List α) (item : α) (start : Nat) :
    (value.drop start).splitOn item =
      match find value item start with
      | none => [value.drop start]
      | some stop =>
        substr value start (stop - start) :: (value.drop (stop + 1)).splitOn item := by
  cases found : find value item start with
  | none => exact List.splitOn_eq_singleton (find_eq_none_iff.mp found)
  | some stop =>
      obtain ⟨absent, shape⟩ := find_some_split found
      rw [shape, List.splitOn_append_cons_self_of_not_mem absent]

/-- `string::find_first_of`: the first position at or after `start` of an item of the set. -/
def findFirstOf (value set : List α) (start : Nat) : Option Nat :=
  ((value.drop start).findIdx? (· ∈ set)).map (start + ·)

variable {set : List α}

theorem findFirstOf_some_bounds (found : findFirstOf value set start = some stop) :
    start ≤ stop ∧ stop < value.length := by
  simp only [findFirstOf, Option.map_eq_some_iff, List.findIdx?_eq_some_iff_getElem] at found
  obtain ⟨offset, ⟨inside, _⟩, rfl⟩ := found
  rw [List.length_drop] at inside
  omega

/-- One search step computes one step of splitting the rest at the items of the set. -/
theorem splitOnP_drop (value set : List α) (start : Nat) :
    (value.drop start).splitOnP (· ∈ set) =
      match findFirstOf value set start with
      | none => [value.drop start]
      | some stop =>
        substr value start (stop - start) :: (value.drop (stop + 1)).splitOnP (· ∈ set) := by
  cases found : findFirstOf value set start with
  | none =>
      simp only [findFirstOf, Option.map_eq_none_iff, List.findIdx?_eq_none_iff] at found
      exact List.splitOnP_eq_singleton found
  | some stop =>
      simp only [findFirstOf, Option.map_eq_some_iff, List.findIdx?_eq_some_iff_getElem] at found
      obtain ⟨offset, ⟨inside, here, earlier⟩, rfl⟩ := found
      have front : ∀ item ∈ (value.drop start).take offset, decide (item ∈ set) = false := by
        intro item member
        obtain ⟨index, within, rfl⟩ := List.mem_take_iff_getElem.mp member
        simpa using earlier index (by omega)
      have shape : value.drop start = (value.drop start).take offset ++
          (value.drop start)[offset] :: value.drop (start + offset + 1) := by
        conv_lhs => rw [← List.take_append_drop offset (value.drop start)]
        rw [List.drop_eq_getElem_cons inside, List.drop_drop, Nat.add_assoc]
      conv_lhs => rw [shape]
      simp only [List.splitOnP_append_cons_of_forall_mem front _ here, Nat.add_sub_cancel_left,
        substr]

end Search

/-! ## Operations that throw -/

/-- The exception of a string operation whose position lies past the end. -/
inductive StringError where
  | outOfRange
deriving DecidableEq

section Checked

variable {value : ByteString} {position : Nat}

/-- `substr` with a count, or without one up to the end. -/
def substrFrom (value : ByteString) (position : Nat) (count : Option Nat) :
    Except StringError ByteString :=
  if position ≤ value.length then .ok (substr value position (count.getD value.length))
  else .error .outOfRange

/-- `insert` in front of a position. -/
def insertAt (value : ByteString) (position : Nat) (inserted : ByteString) :
    Except StringError ByteString :=
  if position ≤ value.length then .ok (value.take position ++ inserted ++ value.drop position)
  else .error .outOfRange

/-- `replace` of so many bytes from a position. -/
def replaceAt (value : ByteString) (position count : Nat) (replacement : ByteString) :
    Except StringError ByteString :=
  if position ≤ value.length then
    .ok (value.take position ++ replacement ++ value.drop (position + count))
  else .error .outOfRange

/-- `operator[]`; the language leaves an index past the end undefined. -/
def byteAt (value : ByteString) (position : Nat) : Except StringError UInt8 :=
  match value[position]? with
  | some byte => .ok byte
  | none => .error .outOfRange

theorem byteAt_of_lt (inside : position < value.length) :
    byteAt value position = .ok value[position] := by
  rw [byteAt, List.getElem?_eq_getElem inside]

theorem substrFrom_of_le (inside : position ≤ value.length) (count : Option Nat) :
    substrFrom value position count = .ok (substr value position (count.getD value.length)) :=
  if_pos inside

/-- Without a count the rest of the text is taken. -/
theorem substrFrom_none (inside : position ≤ value.length) :
    substrFrom value position none = .ok (value.drop position) := by
  rw [substrFrom_of_le inside, substr, List.take_of_length_le (by simp)]

theorem insertAt_of_le (inside : position ≤ value.length) (inserted : ByteString) :
    insertAt value position inserted =
      .ok (value.take position ++ inserted ++ value.drop position) :=
  if_pos inside

theorem replaceAt_of_le (inside : position ≤ value.length) (count : Nat)
    (replacement : ByteString) :
    replaceAt value position count replacement =
      .ok (value.take position ++ replacement ++ value.drop (position + count)) :=
  if_pos inside

end Checked

end IEDSyncTogether.Base
