import IEDSyncTogether.Base.Bytes
import Mathlib.Data.List.TakeWhile

/-!
# Delimited fields

A text cut by a delimiter is a head and a tail of fields without it. The substring
searches of `std::string` look at the whole text; a pattern without the delimiter is
found inside one field, and a pattern that starts with it is found at the start of a
field of the tail. So reading a value, cutting out the last field with a given start,
and replacing a field are operations on the fields.
-/

namespace IEDSyncTogether.Base

variable {α : Type}

/-- The text of a head and further fields, each behind a delimiter. -/
def joined (delimiter : α) (head : List α) (tail : List (List α)) : List α :=
  head ++ tail.flatMap (delimiter :: ·)

@[simp] theorem joined_nil (delimiter : α) (head : List α) : joined delimiter head [] = head := by
  simp [joined]

@[simp] theorem joined_cons (delimiter : α) (head field : List α) (tail : List (List α)) :
    joined delimiter head (field :: tail) = head ++ delimiter :: joined delimiter field tail := by
  simp [joined]

/-- No field contains the delimiter. -/
def FreeOf (delimiter : α) (fields : List (List α)) : Prop := ∀ field ∈ fields, delimiter ∉ field

/-- Appending to the text appends to the fields. -/
theorem joined_append (delimiter : α) (head : List α) (tail further : List (List α)) :
    joined delimiter head (tail ++ further) =
      joined delimiter head tail ++ further.flatMap (delimiter :: ·) := by
  simp [joined]

/-- Every text is a head and a tail of fields. -/
theorem exists_joined (delimiter : α) (text : List α) :
    ∃ head tail, text = joined delimiter head tail ∧ FreeOf delimiter (head :: tail) := by
  induction text with
  | nil => exact ⟨[], [], rfl, by simp [FreeOf]⟩
  | cons item text ih =>
      obtain ⟨head, tail, rfl, free⟩ := ih
      by_cases cut : item = delimiter
      · refine ⟨[], head :: tail, by simp [cut], ?_⟩
        intro field member
        rcases List.mem_cons.mp member with rfl | later
        · simp
        · exact free field later
      · refine ⟨item :: head, tail, by simp [joined], ?_⟩
        intro field member
        rcases List.mem_cons.mp member with rfl | later
        · rw [List.mem_cons]
          rintro (same | inside)
          · exact cut same.symm
          · exact free head List.mem_cons_self inside
        · exact free field (List.mem_cons_of_mem _ later)

theorem FreeOf.tail {delimiter : α} {head : List α} {fields : List (List α)}
    (free : FreeOf delimiter (head :: fields)) : FreeOf delimiter fields :=
  fun field member => free field (List.mem_cons_of_mem _ member)

theorem FreeOf.head {delimiter : α} {head : List α} {fields : List (List α)}
    (free : FreeOf delimiter (head :: fields)) : delimiter ∉ head :=
  free head List.mem_cons_self

/-- A delimiter splits a text in one way. -/
theorem append_cons_inj {delimiter : α} {first second firstRest secondRest : List α}
    (one : delimiter ∉ first) (two : delimiter ∉ second)
    (same : first ++ delimiter :: firstRest = second ++ delimiter :: secondRest) :
    first = second ∧ firstRest = secondRest := by
  induction first generalizing second with
  | nil =>
      cases second with
      | nil => exact ⟨rfl, (List.cons.inj same).2⟩
      | cons item second =>
          exact absurd ((List.cons.inj same).1 ▸ List.mem_cons_self) two
  | cons item first ih =>
      cases second with
      | nil => exact absurd ((List.cons.inj same).1.symm ▸ List.mem_cons_self) one
      | cons other second =>
          obtain ⟨rfl, rest⟩ := List.cons.inj same
          obtain ⟨rfl, rfl⟩ := ih (fun member => one (List.mem_cons_of_mem _ member))
            (fun member => two (List.mem_cons_of_mem _ member)) rest
          exact ⟨rfl, rfl⟩

/-- The last delimiter splits a text in one way. -/
theorem append_cons_inj_last {delimiter : α} {first second firstRest secondRest : List α}
    (one : delimiter ∉ firstRest) (two : delimiter ∉ secondRest)
    (same : first ++ delimiter :: firstRest = second ++ delimiter :: secondRest) :
    first = second ∧ firstRest = secondRest := by
  have turned := congrArg List.reverse same
  simp only [List.reverse_append, List.reverse_cons, List.append_assoc,
    List.singleton_append] at turned
  obtain ⟨rests, fronts⟩ := append_cons_inj (mt List.mem_reverse.mp one) (mt List.mem_reverse.mp two)
    turned
  exact ⟨List.reverse_injective fronts, List.reverse_injective rests⟩

theorem intercalate_cons (delimiter : α) (head : List α) (tail : List (List α)) :
    [delimiter].intercalate (head :: tail) = joined delimiter head tail := by
  induction tail generalizing head with
  | nil => rw [List.intercalate_singleton, joined_nil]
  | cons field tail ih =>
      rw [List.intercalate_cons_of_ne_nil (List.cons_ne_nil _ _), ih, joined_cons,
        List.append_assoc, List.singleton_append]

/-- One delimiter stands in front of every field of the tail. -/
theorem count_joined [DecidableEq α] {delimiter : α} {head : List α} {tail : List (List α)}
    (free : FreeOf delimiter (head :: tail)) :
    (joined delimiter head tail).count delimiter = tail.length := by
  induction tail generalizing head with
  | nil => rw [joined_nil, List.count_eq_zero_of_not_mem free.head, List.length_nil]
  | cons field tail ih =>
      rw [joined_cons, List.count_append, List.count_eq_zero_of_not_mem free.head,
        List.count_cons_self, ih free.tail, Nat.zero_add, List.length_cons]

/-- Splitting a text gives its fields. -/
theorem splitOn_joined [DecidableEq α] {delimiter : α} {head : List α} {tail : List (List α)}
    (free : FreeOf delimiter (head :: tail)) :
    (joined delimiter head tail).splitOn delimiter = head :: tail := by
  induction tail generalizing head with
  | nil => rw [joined_nil, List.splitOn_eq_singleton free.head]
  | cons field tail ih =>
      rw [joined_cons, List.splitOn_append_cons_self_of_not_mem free.head, ih free.tail]

theorem take_append_cons (delimiter : α) (front back : List α) (count : Nat) :
    (front ++ delimiter :: back).take (front.length + 1 + count) =
      front ++ delimiter :: back.take count := by
  rw [Nat.add_assoc, List.take_length_add_append, Nat.add_comm 1, List.take_succ_cons]

theorem drop_append_cons (delimiter : α) (front back : List α) (count : Nat) :
    (front ++ delimiter :: back).drop (front.length + 1 + count) = back.drop count := by
  rw [Nat.add_assoc, List.drop_length_add_append, Nat.add_comm 1, List.drop_succ_cons]

/-! ## Erasing the last of its kind -/

section Erase

variable {β : Type} {chosen : β → Bool}

/-- Erase the last item with a property. -/
def eraseLast (chosen : β → Bool) : List β → List β
  | [] => []
  | item :: items =>
    if items.any chosen then item :: eraseLast chosen items
    else if chosen item then items
    else item :: items

/-- Nothing is erased without a chosen item. -/
theorem eraseLast_of_any_eq_false {items : List β} (nothing : items.any chosen = false) :
    eraseLast chosen items = items := by
  cases items with
  | nil => rfl
  | cons item items =>
      rw [List.any_cons, Bool.or_eq_false_iff] at nothing
      simp [eraseLast, nothing.1, nothing.2]

theorem eraseLast_cons_of_eq_false {item : β} (other : chosen item = false) (items : List β) :
    eraseLast chosen (item :: items) = item :: eraseLast chosen items := by
  cases later : items.any chosen with
  | true => simp [eraseLast, later]
  | false => simp [eraseLast, later, other, eraseLast_of_any_eq_false later]

theorem eraseLast_sublist (items : List β) : (eraseLast chosen items).Sublist items := by
  induction items with
  | nil => exact List.Sublist.refl []
  | cons item items ih =>
      rw [eraseLast]
      split_ifs
      · exact ih.cons_cons item
      · exact List.sublist_cons_self item items
      · exact List.Sublist.refl _

/-- Nothing is left of a single chosen item only. -/
theorem eraseLast_eq_nil {items : List β} (present : items ≠ []) :
    eraseLast chosen items = [] ↔ ∃ item, items = [item] ∧ chosen item = true := by
  obtain ⟨item, items, rfl⟩ := List.exists_cons_of_ne_nil present
  cases later : items.any chosen with
  | true =>
      have further : items ≠ [] := by
        rintro rfl
        cases later
      simp [eraseLast, later, further]
  | false =>
      cases here : chosen item with
      | true => simp [eraseLast, later, here]
      | false => simp [eraseLast, later, here]

/-- The erased item is in the second part if that has a chosen one. -/
theorem eraseLast_append (front back : List β) :
    eraseLast chosen (front ++ back) =
      if back.any chosen then front ++ eraseLast chosen back
      else eraseLast chosen front ++ back := by
  induction front with
  | nil =>
      cases among : back.any chosen with
      | true => rfl
      | false => exact eraseLast_of_any_eq_false among
  | cons item front ih =>
      simp only [List.cons_append, eraseLast, List.any_append, ih]
      cases among : back.any chosen with
      | true => simp
      | false => cases earlier : front.any chosen <;> cases here : chosen item <;> simp

/-- What is erased around an item that is not chosen does not depend on that item. -/
theorem exists_eraseLast_around (front back : List β) :
    ∃ before after, before.Sublist front ∧ ∀ item, chosen item = false →
      eraseLast chosen (front ++ item :: back) = before ++ item :: after := by
  cases later : back.any chosen with
  | true =>
      refine ⟨front, eraseLast chosen back, List.Sublist.refl _, fun item other => ?_⟩
      simp [eraseLast_append, other, later, eraseLast_cons_of_eq_false other]
  | false =>
      refine ⟨eraseLast chosen front, back, eraseLast_sublist front, fun item other => ?_⟩
      simp [eraseLast_append, other, later]

/-- A chosen item is erased from between the items before it and those behind it. -/
theorem exists_of_any {items : List β} (among : items.any chosen = true) :
    ∃ front item back, items = front ++ item :: back ∧ chosen item = true ∧
      back.any chosen = false ∧ eraseLast chosen items = front ++ back := by
  induction items with
  | nil => cases among
  | cons first items ih =>
      cases later : items.any chosen with
      | true =>
          obtain ⟨front, item, back, rfl, holds, last, erased⟩ := ih later
          exact ⟨first :: front, item, back, rfl, holds, last, by simp [eraseLast, later, erased]⟩
      | false =>
          have here : chosen first = true := by simpa [later] using among
          exact ⟨[], first, items, rfl, here, later, by simp [eraseLast, later, here]⟩

end Erase

/-! ## Searching -/

section Search

variable [DecidableEq α] {delimiter : α} {pattern front back : List α}

/-- `string_view::find` of a text: the first position where the pattern stands. -/
def findText (pattern : List α) : List α → Option Nat
  | [] => if pattern = [] then some 0 else none
  | item :: text =>
    if pattern.isPrefixOf (item :: text) then some 0
    else (findText pattern text).map (· + 1)

/-- `string_view::rfind` of a text: the last position where the pattern stands. -/
def rfindText (pattern : List α) : List α → Option Nat
  | [] => if pattern = [] then some 0 else none
  | item :: text =>
    match rfindText pattern text with
    | some position => some (position + 1)
    | none => if pattern.isPrefixOf (item :: text) then some 0 else none

/-- A pattern stands where it is found. -/
theorem exists_of_findText {text : List α} {position : Nat}
    (found : findText pattern text = some position) :
    ∃ front back, text = front ++ (pattern ++ back) ∧ front.length = position := by
  induction text generalizing position with
  | nil =>
      simp only [findText, Option.ite_none_right_eq_some, Option.some.injEq] at found
      obtain ⟨rfl, rfl⟩ := found
      exact ⟨[], [], rfl, rfl⟩
  | cons item text ih =>
      rw [findText] at found
      split at found
      · next here =>
          cases found
          obtain ⟨back, shape⟩ := List.isPrefixOf_iff_prefix.mp here
          exact ⟨[], back, shape.symm, rfl⟩
      · obtain ⟨later, further, rfl⟩ := Option.map_eq_some_iff.mp found
        obtain ⟨front, back, rfl, rfl⟩ := ih further
        exact ⟨item :: front, back, rfl, List.length_cons⟩

/-- A pattern found lies inside the text. -/
theorem findText_le {text : List α} {position : Nat} (found : findText pattern text = some position) :
    position + pattern.length ≤ text.length := by
  obtain ⟨front, back, rfl, rfl⟩ := exists_of_findText found
  rw [List.length_append, List.length_append]
  omega

/-- A pattern is not found exactly if it stands nowhere in the text. -/
theorem findText_eq_none_iff {text : List α} : findText pattern text = none ↔ ¬ pattern <:+: text := by
  induction text with
  | nil => simp [findText]
  | cons item text ih =>
      rw [findText, List.infix_cons_iff, ← List.isPrefixOf_iff_prefix]
      split
      · next here => simp [here]
      · next elsewhere => simp [elsewhere, ih]

/-- No end of the pattern is a start of it, so that its places in a text do not overlap. -/
def Unbordered (pattern : List α) : Prop :=
  ∀ shift < pattern.length, 0 < shift → ¬ pattern.drop shift <+: pattern

instance (pattern : List α) : Decidable (Unbordered pattern) :=
  inferInstanceAs (Decidable (∀ shift < pattern.length, 0 < shift → ¬ pattern.drop shift <+: pattern))

/-- The first place of a pattern is not behind another one. -/
theorem exists_findText_append (front back : List α) :
    ∃ position ≤ front.length, findText pattern (front ++ (pattern ++ back)) = some position := by
  induction front with
  | nil =>
      refine ⟨0, Nat.le_refl 0, ?_⟩
      cases shape : pattern ++ back with
      | nil => simp [findText, (List.append_eq_nil_iff.mp shape).1]
      | cons item text =>
          have here : pattern <+: item :: text := ⟨back, shape⟩
          rw [List.nil_append, findText, if_pos (List.isPrefixOf_iff_prefix.mpr here)]
  | cons item front ih =>
      obtain ⟨position, within, found⟩ := ih
      rw [List.cons_append, findText]
      split
      · exact ⟨0, Nat.zero_le _, rfl⟩
      · exact ⟨position + 1, Nat.succ_le_succ within, by rw [found, Option.map_some]⟩

/-- The first place of an unbordered pattern is a given one or ends in front of it. -/
theorem findText_of_unbordered (unbordered : Unbordered pattern) {position : Nat}
    (found : findText pattern (front ++ (pattern ++ back)) = some position) :
    position = front.length ∨ position + pattern.length ≤ front.length := by
  obtain ⟨first, within, same⟩ := @exists_findText_append _ _ pattern front back
  cases found.symm.trans same
  by_contra overlapping
  rw [not_or] at overlapping
  obtain ⟨before, after, shape, size⟩ := exists_of_findText found
  obtain ⟨between, rfl⟩ : before <+: front :=
    List.prefix_of_prefix_length_le ⟨_, shape.symm⟩ (List.prefix_append _ _) (by omega)
  rw [List.append_assoc, List.append_cancel_left_eq] at shape
  rw [List.length_append] at overlapping
  obtain ⟨rest, split⟩ : between <+: pattern :=
    List.prefix_of_prefix_length_le ⟨_, shape⟩ (List.prefix_append _ _) (by omega)
  have shifted : pattern ++ back = rest ++ after := by
    nth_rewrite 2 [← split] at shape
    rw [List.append_assoc] at shape
    exact List.append_cancel_left shape
  refine unbordered between.length (by omega) (by omega) ?_
  rw [← split, List.drop_left, split]
  exact List.prefix_of_prefix_length_le ⟨after, shifted.symm⟩ (List.prefix_append _ _)
    (by rw [← split, List.length_append]; omega)

theorem rfindText_le {text : List α} {position : Nat}
    (found : rfindText pattern text = some position) :
    position + pattern.length ≤ text.length := by
  induction text generalizing position with
  | nil =>
      simp only [rfindText, Option.ite_none_right_eq_some, Option.some.injEq] at found
      simp [← found.2, found.1]
  | cons item text ih =>
      rw [rfindText] at found
      split at found
      · next later further =>
          cases found
          have inside := ih further
          rw [List.length_cons]
          omega
      · simp only [Option.ite_none_right_eq_some, Option.some.injEq] at found
        obtain ⟨here, rfl⟩ := found
        simpa using (List.isPrefixOf_iff_prefix.mp here).length_le

/-- A pattern without the delimiter does not reach beyond it. -/
theorem isPrefixOf_append_cons (free : delimiter ∉ pattern) (front back : List α) :
    pattern.isPrefixOf (front ++ delimiter :: back) = pattern.isPrefixOf front := by
  induction pattern generalizing front with
  | nil => simp
  | cons item pattern ih =>
      have other : delimiter ∉ pattern := fun member => free (List.mem_cons_of_mem _ member)
      cases front with
      | nil =>
          have differs : item ≠ delimiter := fun same => free (same ▸ List.mem_cons_self)
          rw [List.nil_append, List.isPrefixOf_cons_cons, beq_eq_false_iff_ne.mpr differs]
          rfl
      | cons first front =>
          rw [List.cons_append, List.isPrefixOf_cons_cons, List.isPrefixOf_cons_cons, ih other]

/-- A field behind a delimiter is the text up to the next one. -/
theorem isPrefixOf_append_delimiter {old field : List α} (free : delimiter ∉ field)
    (pure : delimiter ∉ old) (back : List α) :
    (old ++ [delimiter]).isPrefixOf (field ++ delimiter :: back) = decide (field = old) := by
  rw [Bool.eq_iff_iff, List.isPrefixOf_iff_prefix, decide_eq_true_eq]
  constructor
  · rintro ⟨rest, same⟩
    rw [List.append_assoc, List.singleton_append] at same
    exact (append_cons_inj pure free same).1.symm
  · rintro rfl
    exact ⟨back, by simp⟩

/-- A pattern without the delimiter stands in front of it or behind it. -/
theorem findText_append_cons (free : delimiter ∉ pattern) (nonempty : pattern ≠ [])
    (front back : List α) :
    findText pattern (front ++ delimiter :: back) =
      (findText pattern front).or ((findText pattern back).map (front.length + 1 + ·)) := by
  induction front with
  | nil =>
      have elsewhere : pattern.isPrefixOf (delimiter :: back) = false := by
        rw [show delimiter :: back = [] ++ delimiter :: back from rfl, isPrefixOf_append_cons free]
        cases pattern with
        | nil => exact absurd rfl nonempty
        | cons item pattern => rfl
      simp [findText, elsewhere, nonempty, Nat.add_comm]
  | cons first front ih =>
      have here := isPrefixOf_append_cons free (first :: front) back
      rw [List.cons_append] at here ⊢
      rw [findText, findText, here, ih]
      split
      · rfl
      · cases findText pattern front with
        | some position => rfl
        | none =>
            simp only [Option.none_or, Option.map_none, Option.map_map]
            congr 1
            funext position
            simp only [Function.comp_apply, List.length_cons]
            omega

/-- A pattern that starts with the delimiter is not found without it. -/
theorem findText_cons_of_free (free : delimiter ∉ front) :
    findText (delimiter :: pattern) front = none := by
  induction front with
  | nil => simp [findText]
  | cons first front ih =>
      have differs : delimiter ≠ first := fun same => free (same ▸ List.mem_cons_self)
      rw [findText, ih fun member => free (List.mem_cons_of_mem _ member)]
      simp [differs]

/-- A text without the delimiter has no pattern that starts with it. -/
theorem rfindText_cons_of_free (free : delimiter ∉ front) :
    rfindText (delimiter :: pattern) front = none := by
  induction front with
  | nil => simp [rfindText]
  | cons first front ih =>
      have differs : delimiter ≠ first := fun same => free (same ▸ List.mem_cons_self)
      rw [rfindText, ih fun member => free (List.mem_cons_of_mem _ member)]
      simp [differs]

/-- A pattern that starts with the delimiter stands at the first delimiter or later. -/
theorem findText_cons_append_cons (free : delimiter ∉ front) :
    findText (delimiter :: pattern) (front ++ delimiter :: back) =
      if pattern.isPrefixOf back then some front.length
      else (findText (delimiter :: pattern) back).map (front.length + 1 + ·) := by
  induction front with
  | nil => simp [findText, Nat.add_comm]
  | cons first front ih =>
      have differs : delimiter ≠ first := fun same => free (same ▸ List.mem_cons_self)
      rw [List.cons_append, findText, ih fun member => free (List.mem_cons_of_mem _ member)]
      simp only [List.isPrefixOf_cons_cons, beq_eq_false_iff_ne.mpr differs, Bool.false_and,
        Bool.false_eq_true, if_false]
      split
      · rfl
      · rw [Option.map_map]
        congr 1
        funext position
        simp only [Function.comp_apply, List.length_cons]
        omega

/-- The last place of such a pattern is behind the first delimiter if there is one. -/
theorem rfindText_cons_append_cons (free : delimiter ∉ front) :
    rfindText (delimiter :: pattern) (front ++ delimiter :: back) =
      match rfindText (delimiter :: pattern) back with
      | some position => some (front.length + 1 + position)
      | none => if pattern.isPrefixOf back then some front.length else none := by
  induction front with
  | nil =>
      rw [List.nil_append, rfindText]
      cases rfindText (delimiter :: pattern) back <;> simp [Nat.add_comm]
  | cons first front ih =>
      have differs : delimiter ≠ first := fun same => free (same ▸ List.mem_cons_self)
      rw [List.cons_append, rfindText, ih fun member => free (List.mem_cons_of_mem _ member)]
      cases rfindText (delimiter :: pattern) back with
      | some position =>
          simp only [List.length_cons, Option.some.injEq]
          omega
      | none =>
          simp only [List.isPrefixOf_cons_cons, beq_eq_false_iff_ne.mpr differs, Bool.false_and,
            Bool.false_eq_true, if_false]
          cases pattern.isPrefixOf back <;> rfl

/-! ## Reading a value -/

/-- The text behind the first place of a name, up to the next delimiter. -/
def valueOf (delimiter : α) (name text : List α) : Option (List α) :=
  (findText name text).map fun position =>
    (text.drop (position + name.length)).takeWhile (· ≠ delimiter)

theorem takeWhile_append_cons (delimiter : α) (front back : List α) :
    (front ++ delimiter :: back).takeWhile (· ≠ delimiter) =
      front.takeWhile (· ≠ delimiter) := by
  induction front with
  | nil => simp
  | cons first front ih => simp only [List.cons_append, List.takeWhile_cons, ih]

theorem dropWhile_append_cons (delimiter : α) (front back : List α) :
    (front ++ delimiter :: back).dropWhile (· ≠ delimiter) =
      front.dropWhile (· ≠ delimiter) ++ delimiter :: back := by
  induction front with
  | nil => simp
  | cons first front ih =>
      simp only [List.cons_append, List.dropWhile_cons, ih]
      split <;> rfl

/-- A text without the delimiter is taken whole. -/
theorem takeWhile_of_free {text : List α} (free : delimiter ∉ text) :
    text.takeWhile (· ≠ delimiter) = text := by
  rw [List.takeWhile_eq_self_iff]
  intro item member
  have differs : item ≠ delimiter := fun same => free (same ▸ member)
  simpa using differs

/-- A text without the delimiter is dropped whole. -/
theorem dropWhile_of_free {text : List α} (free : delimiter ∉ text) :
    text.dropWhile (· ≠ delimiter) = [] := by
  rw [List.dropWhile_eq_nil_iff]
  intro item member
  have differs : item ≠ delimiter := fun same => free (same ▸ member)
  simpa using differs

/-- The first field is the text up to the first delimiter. -/
theorem takeWhile_joined {head : List α} (free : delimiter ∉ head) (tail : List (List α)) :
    (joined delimiter head tail).takeWhile (· ≠ delimiter) = head := by
  cases tail with
  | nil => rw [joined_nil, takeWhile_of_free free]
  | cons field tail => rw [joined_cons, takeWhile_append_cons, takeWhile_of_free free]

/-- A value is read from the text in front of a delimiter or from the text behind it. -/
theorem valueOf_append_cons {name : List α} (free : delimiter ∉ name) (nonempty : name ≠ [])
    (front back : List α) :
    valueOf delimiter name (front ++ delimiter :: back) =
      (valueOf delimiter name front).or (valueOf delimiter name back) := by
  rw [valueOf, findText_append_cons free nonempty]
  cases found : findText name front with
  | some position =>
      have inside := findText_le found
      simp only [valueOf, found, Option.some_or, Option.map_some]
      rw [List.drop_append_of_le_length inside, takeWhile_append_cons]
  | none =>
      simp only [valueOf, found, Option.none_or, Option.map_none, Option.map_map]
      congr 1
      funext position
      rw [Function.comp_apply, Nat.add_assoc (front.length + 1), drop_append_cons]

/-- A value is read from the first field with its name. -/
theorem valueOf_joined {name : List α} (free : delimiter ∉ name) (nonempty : name ≠ [])
    (head : List α) (tail : List (List α)) :
    valueOf delimiter name (joined delimiter head tail) =
      (head :: tail).findSome? (valueOf delimiter name) := by
  induction tail generalizing head with
  | nil =>
      rw [joined_nil, List.findSome?_cons, List.findSome?_nil]
      cases valueOf delimiter name head <;> rfl
  | cons field tail ih =>
      rw [joined_cons, valueOf_append_cons free nonempty, ih]
      simp only [List.findSome?_cons]
      cases valueOf delimiter name head <;> rfl

/-- A field without the mark has no name. -/
theorem findText_unmarked {mark : α} {field : List α} (plain : mark ∉ field) (name : List α) :
    findText (name ++ [mark]) field = none := by
  induction field with
  | nil => simp [findText]
  | cons item field ih =>
      have elsewhere : (name ++ [mark]).isPrefixOf (item :: field) = false := by
        rw [Bool.eq_false_iff, ne_eq, List.isPrefixOf_iff_prefix]
        exact fun starts => plain (starts.subset (by simp))
      rw [findText, elsewhere, ih fun member => plain (List.mem_cons_of_mem _ member)]
      rfl

/-- A labelled field is found under the names its label ends with. -/
theorem findText_label {mark : α} {name label value : List α} (pure : mark ∉ name)
    (unmarked : mark ∉ label) (plain : mark ∉ value) :
    findText (name ++ [mark]) (label ++ mark :: value) =
      if name.isSuffixOf label then some (label.length - name.length) else none := by
  have absent := findText_unmarked plain name
  induction label with
  | nil =>
      have here := @isPrefixOf_append_delimiter _ _ mark _ _ unmarked pure value
      rw [List.nil_append] at here ⊢
      rw [findText, here, absent]
      cases name with
      | nil => simp
      | cons item name => simp
  | cons item label ih =>
      have further := ih fun member => unmarked (List.mem_cons_of_mem _ member)
      have here := @isPrefixOf_append_delimiter _ _ mark _ _ unmarked pure value
      rw [List.cons_append] at here ⊢
      rw [findText, here, further]
      by_cases whole : item :: label = name
      · subst whole
        simp
      · have suffix : name.isSuffixOf (item :: label) = name.isSuffixOf label := by
          rw [Bool.eq_iff_iff, List.isSuffixOf_iff_suffix, List.isSuffixOf_iff_suffix,
            List.suffix_cons_iff]
          exact or_iff_right fun same => whole same.symm
        rw [suffix, decide_eq_false whole]
        cases ends : name.isSuffixOf label with
        | true =>
            have size := (List.isSuffixOf_iff_suffix.mp ends).length_le
            simp only [Bool.false_eq_true, if_false, if_true, Option.map_some, List.length_cons,
              Option.some.injEq]
            omega
        | false => simp

/-- The value of a labelled field, read under a name. -/
theorem valueOf_label {mark : α} {name label value : List α} (pure : mark ∉ name)
    (unmarked : mark ∉ label) (plain : mark ∉ value) (whole : delimiter ∉ value) :
    valueOf delimiter (name ++ [mark]) (label ++ mark :: value) =
      if name.isSuffixOf label then some value else none := by
  rw [valueOf, findText_label pure unmarked plain]
  cases ends : name.isSuffixOf label with
  | false => rfl
  | true =>
      have size := (List.isSuffixOf_iff_suffix.mp ends).length_le
      have behind : label.length - name.length + (name ++ [mark]).length =
          label.length + 1 + 0 := by
        rw [List.length_append, List.length_singleton]
        omega
      simp only [if_true, Option.map_some, behind, drop_append_cons, List.drop_zero,
        takeWhile_of_free whole]

/-- A field without the mark has no value. -/
theorem valueOf_unmarked {mark : α} {field : List α} (plain : mark ∉ field) (name : List α) :
    valueOf delimiter (name ++ [mark]) field = none := by
  rw [valueOf, findText_unmarked plain, Option.map_none]

/-! ## Cutting a field out -/

/-- Cut out the last field of the tail that starts with the pattern. -/
def cutLast (delimiter : α) (pattern text : List α) : List α :=
  match rfindText (delimiter :: pattern) text with
  | none => text
  | some position =>
    text.take position ++
      (text.drop (position + (delimiter :: pattern).length)).dropWhile (· ≠ delimiter)

/-- A text starts with what its first field starts with. -/
theorem isPrefixOf_joined (pure : delimiter ∉ pattern) (head : List α) (tail : List (List α)) :
    pattern.isPrefixOf (joined delimiter head tail) = pattern.isPrefixOf head := by
  cases tail with
  | nil => rw [joined_nil]
  | cons next tail => rw [joined_cons, isPrefixOf_append_cons pure]

/-- Whether the tail has a field that starts with the pattern. -/
theorem rfindText_joined_isSome {head : List α} {tail : List (List α)}
    (free : FreeOf delimiter (head :: tail)) (pure : delimiter ∉ pattern) :
    (rfindText (delimiter :: pattern) (joined delimiter head tail)).isSome =
      tail.any pattern.isPrefixOf := by
  induction tail generalizing head with
  | nil => simp [rfindText_cons_of_free free.head]
  | cons field tail ih =>
      rw [joined_cons, rfindText_cons_append_cons free.head, List.any_cons, ← ih free.tail,
        isPrefixOf_joined pure]
      cases rfindText (delimiter :: pattern) (joined delimiter field tail) with
      | some position => simp only [Option.isSome_some, Bool.or_true]
      | none => cases pattern.isPrefixOf field <;> rfl

/-- What follows a part of the first field is the tail. -/
theorem dropWhile_drop_joined {head : List α} {count : Nat} (free : delimiter ∉ head)
    (inside : count ≤ head.length) (tail : List (List α)) :
    ((joined delimiter head tail).drop count).dropWhile (· ≠ delimiter) =
      tail.flatMap (delimiter :: ·) := by
  have passed := dropWhile_of_free fun member => free (@List.mem_of_mem_drop _ _ count _ member)
  rw [joined, List.drop_append_of_le_length inside]
  cases tail with
  | nil => simpa using passed
  | cons field tail =>
      rw [List.flatMap_cons, List.cons_append, dropWhile_append_cons, passed, List.nil_append]

/-- Cutting works on the fields. -/
theorem cutLast_joined {head : List α} {tail : List (List α)}
    (free : FreeOf delimiter (head :: tail)) (pure : delimiter ∉ pattern) :
    cutLast delimiter pattern (joined delimiter head tail) =
      joined delimiter head (eraseLast pattern.isPrefixOf tail) := by
  induction tail generalizing head with
  | nil => simp [cutLast, rfindText_cons_of_free free.head, eraseLast]
  | cons field tail ih =>
      have later := ih free.tail
      have among := rfindText_joined_isSome free.tail pure
      rw [cutLast] at later
      rw [cutLast, joined_cons, rfindText_cons_append_cons free.head, eraseLast, ← among]
      cases found : rfindText (delimiter :: pattern) (joined delimiter field tail) with
      | some position =>
          rw [found] at later
          simp only [Option.isSome_some, if_true, joined_cons, ← later]
          rw [take_append_cons, Nat.add_assoc (head.length + 1), drop_append_cons, List.append_assoc,
            List.cons_append]
      | none =>
          simp only [Option.isSome_none, Bool.false_eq_true, if_false, isPrefixOf_joined pure]
          cases starts : pattern.isPrefixOf field with
          | true =>
              have size := (List.isPrefixOf_iff_prefix.mp starts).length_le
              have behind : head.length + (delimiter :: pattern).length =
                  head.length + 1 + pattern.length := by
                rw [List.length_cons]
                omega
              simp only [if_true, behind, drop_append_cons, List.take_left,
                dropWhile_drop_joined free.tail.head size]
              rfl
          | false => simp only [Bool.false_eq_true, if_false, joined_cons]

/-- The text behind the last field start with the pattern, up to the next delimiter. -/
def lastValue (delimiter : α) (pattern text : List α) : Option (List α) :=
  (rfindText (delimiter :: pattern) text).map fun position =>
    (text.drop (position + (delimiter :: pattern).length)).takeWhile (· ≠ delimiter)

/-- The last value is the rest of the last field with the pattern. -/
theorem lastValue_joined {head : List α} {front back : List (List α)} {value : List α}
    (free : FreeOf delimiter (head :: (front ++ (pattern ++ value) :: back)))
    (last : back.any pattern.isPrefixOf = false) :
    lastValue delimiter pattern
      (joined delimiter head (front ++ (pattern ++ value) :: back)) = some value := by
  induction front generalizing head with
  | nil =>
      have here : delimiter ∉ pattern ++ value := free.tail.head
      have pure : delimiter ∉ pattern := fun member => here (List.mem_append_left _ member)
      have plain : delimiter ∉ value := fun member => here (List.mem_append_right _ member)
      have missing : rfindText (delimiter :: pattern) (joined delimiter (pattern ++ value) back) =
          none := by
        rw [← Option.isNone_iff_eq_none, ← Option.not_isSome, rfindText_joined_isSome free.tail pure,
          last]
        rfl
      have starts : pattern.isPrefixOf (pattern ++ value) = true :=
        List.isPrefixOf_iff_prefix.mpr (List.prefix_append _ _)
      have behind : head.length + (delimiter :: pattern).length =
          head.length + 1 + pattern.length := by
        rw [List.length_cons]
        omega
      have rest : (joined delimiter (pattern ++ value) back).drop pattern.length =
          joined delimiter value back := by
        rw [joined, List.append_assoc, List.drop_left, joined]
      rw [lastValue, List.nil_append, joined_cons, rfindText_cons_append_cons free.head, missing,
        isPrefixOf_joined pure]
      simp only [starts, if_true, Option.map_some, behind, drop_append_cons, rest,
        takeWhile_joined plain]
  | cons field front ih =>
      have later := ih free.tail
      rw [lastValue] at later
      obtain ⟨position, found, value⟩ := Option.map_eq_some_iff.mp later
      rw [lastValue, List.cons_append, joined_cons, rfindText_cons_append_cons free.head, found]
      simp only [Option.map_some, Nat.add_assoc (head.length + 1), drop_append_cons, value]

/-! ## Replacing a field -/

/-- Replace the first field of the tail that is followed by another one. -/
def replaceInner (old new : List α) : List (List α) → Option (List (List α))
  | field :: next :: tail =>
    if field = old then some (new :: next :: tail)
    else (replaceInner old new (next :: tail)).map (field :: ·)
  | _ => none

/-- What is replaced is the first field that has the text, and another one follows it. -/
theorem replaceInner_eq_some {old new : List α} {fields replaced : List (List α)}
    (done : replaceInner old new fields = some replaced) :
    ∃ front next back, fields = front ++ old :: next :: back ∧ old ∉ front ∧
      replaced = front ++ new :: next :: back := by
  fun_induction replaceInner old new fields generalizing replaced with
  | case1 next tail =>
      cases done
      exact ⟨[], next, tail, rfl, List.not_mem_nil, rfl⟩
  | case2 field next tail differs ih =>
      obtain ⟨rest, later, rfl⟩ := Option.map_eq_some_iff.mp done
      obtain ⟨front, other, back, shape, absent, rfl⟩ := ih later
      refine ⟨field :: front, other, back, by rw [shape]; rfl, ?_, rfl⟩
      rw [List.mem_cons, not_or]
      exact ⟨fun same => differs same.symm, absent⟩
  | case3 => cases done

/-- Replace the first place of a text between two delimiters. -/
def replaceFirst (delimiter : α) (old new text : List α) : Option (List α) :=
  (findText (delimiter :: (old ++ [delimiter])) text).map fun position =>
    text.take position ++ delimiter :: (new ++ [delimiter]) ++
      text.drop (position + (delimiter :: (old ++ [delimiter])).length)

/-- Replacing works on the fields. -/
theorem replaceFirst_joined {old : List α} (new : List α) {head : List α} {tail : List (List α)}
    (free : FreeOf delimiter (head :: tail)) (pure : delimiter ∉ old) :
    replaceFirst delimiter old new (joined delimiter head tail) =
      (replaceInner old new tail).map (joined delimiter head) := by
  induction tail generalizing head with
  | nil => simp [replaceFirst, findText_cons_of_free free.head, replaceInner]
  | cons field tail ih =>
      have later := ih free.tail
      rw [replaceFirst, joined_cons, findText_cons_append_cons free.head]
      cases tail with
      | nil =>
          have unended : (old ++ [delimiter]).isPrefixOf field = false := by
            rw [Bool.eq_false_iff, ne_eq, List.isPrefixOf_iff_prefix]
            intro starts
            exact free.tail.head (starts.subset (by simp))
          simp [replaceInner, unended, findText_cons_of_free free.tail.head]
      | cons next tail =>
          rw [joined_cons, isPrefixOf_append_delimiter free.tail.head pure, replaceInner]
          by_cases here : field = old
          · subst here
            have behind : head.length + (delimiter :: (field ++ [delimiter])).length =
                head.length + 1 + (field.length + 1 + 0) := by
              simp only [List.length_cons, List.length_append, List.length_nil]
              omega
            simp only [decide_true, if_true, Option.map_some, behind, drop_append_cons,
              List.take_left, List.drop_zero]
            simp
          · rw [replaceFirst, joined_cons] at later
            have behind : (joined delimiter head ∘ fun rest => field :: rest) =
                (fun rest => head ++ delimiter :: rest) ∘ joined delimiter field := by
              funext rest
              simp only [Function.comp_apply, joined_cons]
            simp only [here, decide_false, Bool.false_eq_true, if_false]
            rw [Option.map_map (joined delimiter head), behind,
              ← Option.map_map _ (joined delimiter field), ← later, Option.map_map, Option.map_map]
            congr 1
            funext position
            simp only [Function.comp_apply, take_append_cons, Nat.add_assoc (head.length + 1),
              drop_append_cons]
            simp

end Search

end IEDSyncTogether.Base
