import IEDSyncTogether.Base.Bytes
import Mathlib.Data.Nat.Digits.Lemmas

/-!
# Positional numerals

Digit lists are most significant first, as they are written. `numeral` has no
leading zero, `paddedNumeral` has a fixed width, and `spanDigits` reads the
longest run of digits off the front of a text in any alphabet.
-/

namespace IEDSyncTogether.Base

/-- The value of a digit list, most significant digit first. -/
def ofNumeral (base : Nat) (digits : List Nat) : Nat :=
  Nat.ofDigits base digits.reverse

/-- The digits of a value without leading zeros; zero is the single digit 0. -/
def numeral (base value : Nat) : List Nat :=
  if value = 0 then [0] else (Nat.digits base value).reverse

/-- The last `width` digits of a value. -/
def paddedNumeral (base : Nat) : Nat → Nat → List Nat
  | 0, _ => []
  | width + 1, value => paddedNumeral base width (value / base) ++ [value % base]

/-- No digits are zero. -/
@[simp] theorem ofNumeral_nil (base : Nat) : ofNumeral base [] = 0 := rfl

/-- One digit is itself. -/
@[simp] theorem ofNumeral_singleton (base digit : Nat) : ofNumeral base [digit] = digit := by
  simp [ofNumeral]

/-- Appending digits shifts the front by their number. -/
theorem ofNumeral_append (base : Nat) (front back : List Nat) :
    ofNumeral base (front ++ back) =
      ofNumeral base front * base ^ back.length + ofNumeral base back := by
  simp only [ofNumeral, List.reverse_append, Nat.ofDigits_append, List.length_reverse]
  ring

/-- Reading a numeral back gives its value. -/
@[simp] theorem ofNumeral_numeral (base value : Nat) :
    ofNumeral base (numeral base value) = value := by
  unfold numeral
  split
  · simp_all
  · simp [ofNumeral, Nat.ofDigits_digits]

/-- A numeral has a digit. -/
theorem numeral_ne_nil (base value : Nat) : numeral base value ≠ [] := by
  unfold numeral
  split
  · simp
  · next nonzero => simpa [Nat.digits_ne_nil_iff_ne_zero] using nonzero

/-- Every digit of a numeral is below the base. -/
theorem lt_of_mem_numeral {base value digit : Nat} (two : 1 < base)
    (member : digit ∈ numeral base value) : digit < base := by
  unfold numeral at member
  split at member
  · have zero : digit = 0 := by simpa using member
    omega
  · exact Nat.digits_lt_base two (List.mem_reverse.mp member)

/-- A padded numeral has its width. -/
@[simp] theorem paddedNumeral_length (base width value : Nat) :
    (paddedNumeral base width value).length = width := by
  induction width generalizing value with
  | zero => rfl
  | succ width ih => simp [paddedNumeral, ih]

/-- A padded numeral keeps the value modulo the capacity of its width. -/
theorem ofNumeral_paddedNumeral (base width value : Nat) :
    ofNumeral base (paddedNumeral base width value) = value % base ^ width := by
  induction width generalizing value with
  | zero => simp [paddedNumeral, Nat.mod_one]
  | succ width ih =>
      rw [paddedNumeral, ofNumeral_append, ih, ofNumeral_singleton, List.length_singleton,
        pow_one, pow_succ, Nat.mul_comm (base ^ width) base, Nat.mod_mul]
      ring

/-- The digits of a padded numeral are below the base. -/
theorem lt_of_mem_paddedNumeral {base width value digit : Nat} (positive : 0 < base)
    (member : digit ∈ paddedNumeral base width value) : digit < base := by
  induction width generalizing value with
  | zero => simp [paddedNumeral] at member
  | succ width ih =>
      simp only [paddedNumeral, List.mem_append, List.mem_singleton] at member
      rcases member with member | rfl
      · exact ih member
      · exact Nat.mod_lt _ positive

section Span

variable {α : Type} (digitValue : α → Option Nat)

/-- The longest run of digits at the front of a text, and the text behind it. -/
def spanDigits : List α → List Nat × List α
  | [] => ([], [])
  | item :: text =>
    match digitValue item with
    | none => ([], item :: text)
    | some digit => (digit :: (spanDigits text).1, (spanDigits text).2)

/-- Text that does not start with a digit has an empty run. -/
theorem spanDigits_of_head {text : List α}
    (noDigit : ∀ item ∈ text.head?, digitValue item = none) :
    spanDigits digitValue text = ([], text) := by
  cases text with
  | nil => rfl
  | cons item text => simp [spanDigits, noDigit item (by simp)]

/-- Written digits are read back exactly, up to the first non-digit. -/
theorem spanDigits_map_append {render : Nat → α} {digits : List Nat} (text : List α)
    (renders : ∀ digit ∈ digits, digitValue (render digit) = some digit)
    (noDigit : ∀ item ∈ text.head?, digitValue item = none) :
    spanDigits digitValue (digits.map render ++ text) = (digits, text) := by
  induction digits with
  | nil => exact spanDigits_of_head digitValue noDigit
  | cons digit digits ih =>
      have tail := ih fun other member => renders other (List.mem_cons_of_mem _ member)
      simp [spanDigits, renders digit List.mem_cons_self, tail]

end Span

end IEDSyncTogether.Base
