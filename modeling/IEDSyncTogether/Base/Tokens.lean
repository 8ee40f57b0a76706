import IEDSyncTogether.Base.NumberText
import Mathlib.Data.FinEnum

/-!
# Texts that are one number

The number functions of the standard library read a number at the front of a text. Here
are the texts that are a number as a whole, and what the functions make of them.
-/

namespace IEDSyncTogether.Base

section Span

variable {α : Type} {digitValue : α → Option Nat} {text : List α}

/-- A run of digits is read to the end exactly if there is nothing else. -/
theorem spanDigits_snd_eq_nil_iff :
    (spanDigits digitValue text).2 = [] ↔ ∀ item ∈ text, (digitValue item).isSome := by
  induction text with
  | nil => simp [spanDigits]
  | cons item text ih =>
      cases value : digitValue item with
      | none => simp [spanDigits, value]
      | some digit => simp [spanDigits, value, ih]

/-- Digits are read up to the first item that is none. -/
theorem spanDigits_append {digits rest : List α} (all : ∀ item ∈ digits, (digitValue item).isSome)
    (ends : ∀ item ∈ rest.head?, digitValue item = none) :
    spanDigits digitValue (digits ++ rest) = (digits.filterMap digitValue, rest) := by
  induction digits with
  | nil => exact spanDigits_of_head digitValue ends
  | cons item digits ih =>
      obtain ⟨digit, value⟩ := Option.isSome_iff_exists.mp (all item List.mem_cons_self)
      simp [spanDigits, value, ih fun other member => all other (List.mem_cons_of_mem _ member)]

theorem spanDigits_of_all (all : ∀ item ∈ text, (digitValue item).isSome) :
    spanDigits digitValue text = (text.filterMap digitValue, []) := by
  simpa using @spanDigits_append _ digitValue text [] all (by simp)

/-- A text that is all digits has some exactly if one is read. -/
theorem filterMap_digits_eq_nil_iff (all : ∀ item ∈ text, (digitValue item).isSome) :
    text.filterMap digitValue = [] ↔ text = [] := by
  cases text with
  | nil => simp
  | cons item text =>
      obtain ⟨digit, value⟩ := Option.isSome_iff_exists.mp (all item List.mem_cons_self)
      simp [value]

/-- Every text is a run of digits in front of a rest that does not go on with one. -/
theorem exists_digits (digitValue : α → Option Nat) (text : List α) :
    ∃ digits rest, text = digits ++ rest ∧ (∀ item ∈ digits, (digitValue item).isSome) ∧
      ∀ item ∈ rest.head?, digitValue item = none := by
  induction text with
  | nil => exact ⟨[], [], by simp⟩
  | cons item text ih =>
      cases value : digitValue item with
      | none => exact ⟨[], item :: text, by simp [value]⟩
      | some digit =>
          obtain ⟨digits, rest, rfl, all, ends⟩ := ih
          exact ⟨item :: digits, rest, rfl, List.forall_mem_cons.mpr ⟨by simp [value], all⟩, ends⟩

/-- A run of digits and what is behind it make up the text. -/
theorem exists_spanDigits (digitValue : α → Option Nat) (text : List α) :
    ∃ digits, text = digits ++ (spanDigits digitValue text).2 ∧
      (∀ item ∈ digits, (digitValue item).isSome) ∧
      ((spanDigits digitValue text).1 = [] ↔ digits = []) := by
  obtain ⟨digits, rest, rfl, all, ends⟩ := exists_digits digitValue text
  rw [spanDigits_append all ends]
  exact ⟨digits, rfl, all, filterMap_digits_eq_nil_iff all⟩

end Span

/-- The value of a text that is entirely decimal digits. -/
def decimalNumber (text : ByteString) : Option Nat :=
  if text ≠ [] ∧ ∀ byte ∈ text, (decimalValue byte).isSome then
    some (ofNumeral 10 (text.filterMap decimalValue))
  else none

variable {text : ByteString}

theorem decimalValue_bounds {byte : UInt8} (digit : (decimalValue byte).isSome) :
    48 ≤ byte ∧ byte ≤ 57 := by
  rw [decimalValue] at digit
  split at digit
  · assumption
  · cases digit

/-- `stoul` reads a whole number in range. -/
theorem stoul_of_decimalNumber {number : Nat} (whole : decimalNumber text = some number)
    (fits : number < 2 ^ 32) : stoul text = some number.toUInt32 := by
  rw [decimalNumber, Option.ite_none_right_eq_some, Option.some.injEq] at whole
  obtain ⟨⟨present, digits⟩, rfl⟩ := whole
  have leads : ∀ byte ∈ text.head?, 48 ≤ byte := fun byte first =>
    (decimalValue_bounds (digits byte (List.mem_of_mem_head? first))).1
  have read : text.filterMap decimalValue ≠ [] :=
    mt (filterMap_digits_eq_nil_iff digits).mp present
  simp only [stoul, readUnsigned, readSign_dropSpace leads, spanDigits_of_all digits, read,
    Nat.not_le.mpr fits, if_false]
  rfl

/-- `stoul` fails on a whole number out of range. -/
theorem stoul_eq_none_of_decimalNumber {number : Nat} (whole : decimalNumber text = some number)
    (large : 2 ^ 32 ≤ number) : stoul text = none := by
  rw [decimalNumber, Option.ite_none_right_eq_some, Option.some.injEq] at whole
  obtain ⟨⟨present, digits⟩, rfl⟩ := whole
  have leads : ∀ byte ∈ text.head?, 48 ≤ byte := fun byte first =>
    (decimalValue_bounds (digits byte (List.mem_of_mem_head? first))).1
  simp only [stoul, readUnsigned, readSign_dropSpace leads, spanDigits_of_all digits, large,
    if_true, ite_self, Option.map_none]

/-- A printed value is a whole number, and so it is behind zeros. -/
theorem decimalNumber_formatNat (value : Nat) : decimalNumber (formatNat value) = some value := by
  have read : (formatNat value).filterMap decimalValue = numeral 10 value := by
    have digits : ∀ digit ∈ numeral 10 value, (decimalValue ∘ decimalDigit) digit = some digit :=
      fun digit member => decimalValue_decimalDigit (lt_of_mem_numeral (by norm_num) member)
    rw [formatNat, List.filterMap_map, List.filterMap_congr digits, List.filterMap_some]
  have digits : ∀ byte ∈ formatNat value, (decimalValue byte).isSome := by
    intro byte member
    rw [decimalValue, if_pos (bounds_of_mem_formatNat member)]
    rfl
  rw [decimalNumber, if_pos ⟨formatNat_ne_nil value, digits⟩, read, ofNumeral_numeral]

theorem decimalNumber_zero_cons {number : Nat} (whole : decimalNumber text = some number) :
    decimalNumber (48 :: text) = some number := by
  rw [decimalNumber, Option.ite_none_right_eq_some, Option.some.injEq] at whole
  obtain ⟨⟨_, digits⟩, rfl⟩ := whole
  have all : ∀ byte ∈ 48 :: text, (decimalValue byte).isSome :=
    List.forall_mem_cons.mpr ⟨rfl, digits⟩
  have zero : decimalValue 48 = some 0 := rfl
  rw [decimalNumber, if_pos ⟨List.cons_ne_nil _ _, all⟩, List.filterMap_cons_some zero,
    ← List.singleton_append, ofNumeral_append, ofNumeral_singleton, Nat.zero_mul, Nat.zero_add]

end IEDSyncTogether.Base
