import IEDSyncTogether.Base.Numeral
import IEDSyncTogether.Base.ExactFloat

/-!
# Numbers as text

The C and C++ library routines that print and read numbers, on byte strings:
`fmt` with `{}`, `{:X}` and `{:.Nf}`, `std::from_chars`, `std::stoul` and
`std::stof`. The platform is 64-bit Windows, so `unsigned long` has 32 bits.
`stof` reads decimal and hexadecimal floats and the words for infinity and NaN;
`readExactFloat` is its reading of a number alone, exactly as it is written and
of any size.
-/

namespace IEDSyncTogether.Base

/-- `isspace` in the C locale. -/
def isSpace (byte : UInt8) : Bool := byte = 32 ∨ (9 ≤ byte ∧ byte ≤ 13)

/-- `tolower` in the C locale. -/
def toLower (byte : UInt8) : UInt8 := if 65 ≤ byte ∧ byte ≤ 90 then byte + 32 else byte

/-- The character of a decimal digit. -/
def decimalDigit (digit : Nat) : UInt8 := 48 + digit.toUInt8

/-- The character of an upper-case hexadecimal digit. -/
def upperHexDigit (digit : Nat) : UInt8 :=
  if digit < 10 then 48 + digit.toUInt8 else 55 + digit.toUInt8

/-- The value of a decimal digit character. -/
def decimalValue (byte : UInt8) : Option Nat :=
  if 48 ≤ byte ∧ byte ≤ 57 then some (byte.toNat - 48) else none

/-- The value of a hexadecimal digit character of either case. -/
def hexDigitValue (byte : UInt8) : Option Nat :=
  if 48 ≤ byte ∧ byte ≤ 57 then some (byte.toNat - 48)
  else if 97 ≤ byte ∧ byte ≤ 102 then some (10 + byte.toNat - 97)
  else if 65 ≤ byte ∧ byte ≤ 70 then some (10 + byte.toNat - 65)
  else none

/-- Decimal digits are read back. -/
theorem decimalValue_decimalDigit {digit : Nat} (small : digit < 10) :
    decimalValue (decimalDigit digit) = some digit := by
  interval_cases digit <;> rfl

/-- Hexadecimal digits are read back. -/
theorem hexDigitValue_upperHexDigit {digit : Nat} (small : digit < 16) :
    hexDigitValue (upperHexDigit digit) = some digit := by
  interval_cases digit <;> rfl

/-! ## Printing -/

/-- `fmt::format("{}", value)` for an unsigned value. -/
def formatNat (value : Nat) : ByteString := (numeral 10 value).map decimalDigit

/-- `fmt::format("{:X}", value)`. -/
def formatHex (value : Nat) : ByteString := (numeral 16 value).map upperHexDigit

/-- `fmt::format("{:0NX}", value)` for a value that fits the width. -/
def formatPaddedHex (width value : Nat) : ByteString :=
  (paddedNumeral 16 width value).map upperHexDigit

/-- `fmt::format("{}", value)` for a signed value. -/
def formatInt (value : Int) : ByteString :=
  if value < 0 then 45 :: formatNat value.natAbs else formatNat value.natAbs

/-- `fmt::format("{:.Nf}", value)` with a positive number of places: the exact
value rounded half to even, with the sign bit even on a zero. -/
def formatFixed (places : Nat) (value : ExactFloat) : ByteString :=
  let units := roundHalfEven (value.magnitude * 10 ^ places)
  let digits := formatNat (units / 10 ^ places) ++
    46 :: (paddedNumeral 10 places units).map decimalDigit
  if value.negative then 45 :: digits else digits

/-! ## Reading integers -/

/-- `std::from_chars` into a `uint32_t`: the value and the text behind it. -/
def fromCharsUInt32 (text : ByteString) : Option (UInt32 × ByteString) :=
  let (digits, rest) := spanDigits decimalValue text
  if digits = [] then none
  else if 2 ^ 32 ≤ ofNumeral 10 digits then none
  else some ((ofNumeral 10 digits).toUInt32, rest)

/-- `std::from_chars` into an `int`; a leading minus is the only sign it takes. -/
def fromCharsInt32 (text : ByteString) : Option (Int × ByteString) :=
  let negative := text.head? = some 45
  let (digits, rest) := spanDigits decimalValue (if negative then text.tail else text)
  let value : Int := if negative then -(ofNumeral 10 digits : Int) else ofNumeral 10 digits
  if digits = [] then none
  else if value < -2 ^ 31 ∨ 2 ^ 31 ≤ value then none
  else some (value, rest)

/-- An optional sign in front of a number. -/
def readSign : ByteString → Bool × ByteString
  | 45 :: text => (true, text)
  | 43 :: text => (false, text)
  | text => (false, text)

/-- Drop `0x` or `0X` when a hexadecimal digit follows. -/
def skipHexMark (text : ByteString) : ByteString :=
  match text with
  | 48 :: mark :: digit :: rest =>
    if (mark = 120 ∨ mark = 88) ∧ (hexDigitValue digit).isSome then digit :: rest else text
  | _ => text

/-- `std::stoul(text, nullptr, 16)`: leading blanks, a sign and `0x` are taken,
trailing text is ignored, and a minus negates modulo the word. -/
def stoul16 (text : ByteString) : Option UInt32 :=
  let (negative, rest) := readSign (text.dropWhile isSpace)
  let digits := (spanDigits hexDigitValue (skipHexMark rest)).1
  if digits = [] then none
  else if 2 ^ 32 ≤ ofNumeral 16 digits then none
  else some (if negative then -(ofNumeral 16 digits).toUInt32 else (ofNumeral 16 digits).toUInt32)

/-- `strtoul` and `strtoull` in base 10 for a word of so many bits: leading blanks and a
sign are taken, trailing text is ignored, and a minus negates modulo the word. -/
def readUnsigned (bits : Nat) (text : ByteString) : Option Nat :=
  let (negative, rest) := readSign (text.dropWhile isSpace)
  let digits := (spanDigits decimalValue rest).1
  if digits = [] then none
  else if 2 ^ bits ≤ ofNumeral 10 digits then none
  else some (if negative then (2 ^ bits - ofNumeral 10 digits) % 2 ^ bits else ofNumeral 10 digits)

/-- `std::stoul(text)`. -/
def stoul (text : ByteString) : Option UInt32 := (readUnsigned 32 text).map Nat.toUInt32

/-- `std::stoull(text)`. -/
def stoull (text : ByteString) : Option UInt64 := (readUnsigned 64 text).map Nat.toUInt64

/-! ## Reading floats -/

/-- The exponent behind a mantissa; a mark without digits is not an exponent. -/
def readExponent (lower upper : UInt8) : ByteString → Int
  | [] => 0
  | mark :: text =>
    if mark = lower ∨ mark = upper then
      let (negative, rest) := readSign text
      let digits := (spanDigits decimalValue rest).1
      if negative then -(ofNumeral 10 digits : Int) else ofNumeral 10 digits
    else 0

/-- Digits with an optional point and an optional exponent. A fractional digit
weighs `radix ^ -weight`; without any digit there is no number. -/
def readMantissa (base : Nat) (digitValue : UInt8 → Option Nat) (radix : ℚ≥0) (weight : Nat)
    (lower upper : UInt8) (text : ByteString) : Option ℚ≥0 :=
  let (whole, rest) := spanDigits digitValue text
  let (fraction, rest) :=
    if rest.head? = some 46 then spanDigits digitValue rest.tail else ([], rest)
  if whole ++ fraction = [] then none
  else some (ofNumeral base (whole ++ fraction) *
    radix ^ (readExponent lower upper rest - (weight * fraction.length : Nat)))

/-- A hexadecimal float, marked by `0x` or `0X`. -/
def readHexMantissa : ByteString → Option ℚ≥0
  | 48 :: mark :: rest =>
    if mark = 120 ∨ mark = 88 then readMantissa 16 hexDigitValue 2 4 112 80 rest else none
  | _ => none

/-- The number at the front of a text: leading blanks and a sign are taken, trailing text
is ignored, and its size is not limited. -/
def readExactFloat (text : ByteString) : Option ExactFloat :=
  let (negative, rest) := readSign (text.dropWhile isSpace)
  let magnitude := (readHexMantissa rest).orElse fun _ =>
    readMantissa 10 decimalValue 10 1 101 69 rest
  magnitude.map (ExactFloat.mk negative)

/-- What a text can say in place of a number. -/
inductive FloatWord where
  | infinity
  | nan
deriving DecidableEq

/-- The word at the front of a text, in any mixture of cases. What may follow it (the rest
of `infinity`, or brackets behind `nan`) does not matter. -/
def readFloatWord (text : ByteString) : Option FloatWord :=
  let letters := (text.take 3).map toLower
  if letters = [105, 110, 102] then some .infinity
  else if letters = [110, 97, 110] then some .nan
  else none

/-- A float as it is read: a finite number before it is rounded, or what a word stands for. -/
inductive FloatValue where
  | finite (value : ExactFloat)
  | infinity (negative : Bool)
  | nan (negative : Bool)
deriving DecidableEq

/-- A magnitude that is rounded neither to infinity nor, unless it is zero, to zero. -/
def InFloatRange (magnitude : ℚ≥0) : Prop :=
  magnitude = 0 ∨ 1 / 2 ^ 150 < magnitude ∧ magnitude < 2 ^ 128 - 2 ^ 103

instance (magnitude : ℚ≥0) : Decidable (InFloatRange magnitude) :=
  inferInstanceAs (Decidable (_ ∨ _))

/-- `std::stof`: leading blanks and a sign are taken, trailing text is ignored, and text
without a number or word throws, as a number does that is too large or too small. -/
def stof (text : ByteString) : Option FloatValue :=
  let (negative, rest) := readSign (text.dropWhile isSpace)
  match readFloatWord rest with
  | some .infinity => some (.infinity negative)
  | some .nan => some (.nan negative)
  | none =>
    (readExactFloat text).bind fun value =>
      if InFloatRange value.magnitude then some (.finite value) else none

/-! ## Printed text -/

theorem decimalDigit_bounds {digit : Nat} (small : digit < 10) :
    48 ≤ decimalDigit digit ∧ decimalDigit digit ≤ 57 := by
  interval_cases digit <;> decide

theorem upperHexDigit_bounds {digit : Nat} (small : digit < 16) :
    48 ≤ upperHexDigit digit ∧ upperHexDigit digit ≤ 57 ∨
      65 ≤ upperHexDigit digit ∧ upperHexDigit digit ≤ 70 := by
  interval_cases digit <;> decide

/-- A printed unsigned value consists of decimal digits. -/
theorem bounds_of_mem_formatNat {value : Nat} {byte : UInt8} (member : byte ∈ formatNat value) :
    48 ≤ byte ∧ byte ≤ 57 := by
  obtain ⟨digit, inside, rfl⟩ := List.mem_map.mp member
  exact decimalDigit_bounds (lt_of_mem_numeral (by norm_num) inside)

theorem not_mem_formatNat {value : Nat} {byte : UInt8} (other : byte < 48 ∨ 57 < byte) :
    byte ∉ formatNat value := by
  intro member
  have bounds := bounds_of_mem_formatNat member
  rcases other with low | high
  · exact absurd bounds.1 (UInt8.not_le.mpr low)
  · exact absurd bounds.2 (UInt8.not_le.mpr high)

/-- A printed hexadecimal value consists of upper-case hexadecimal digits. -/
theorem bounds_of_mem_formatHex {value : Nat} {byte : UInt8} (member : byte ∈ formatHex value) :
    48 ≤ byte ∧ byte ≤ 57 ∨ 65 ≤ byte ∧ byte ≤ 70 := by
  obtain ⟨digit, inside, rfl⟩ := List.mem_map.mp member
  exact upperHexDigit_bounds (lt_of_mem_numeral (by norm_num) inside)

theorem bounds_of_mem_formatPaddedHex {width value : Nat} {byte : UInt8}
    (member : byte ∈ formatPaddedHex width value) :
    48 ≤ byte ∧ byte ≤ 57 ∨ 65 ≤ byte ∧ byte ≤ 70 := by
  obtain ⟨digit, inside, rfl⟩ := List.mem_map.mp member
  exact upperHexDigit_bounds (lt_of_mem_paddedNumeral (by norm_num) inside)

/-- A printed signed value is a minus sign and decimal digits. -/
theorem bounds_of_mem_formatInt {value : Int} {byte : UInt8} (member : byte ∈ formatInt value) :
    byte = 45 ∨ 48 ≤ byte ∧ byte ≤ 57 := by
  unfold formatInt at member
  split at member
  · rcases List.mem_cons.mp member with sign | digit
    · exact .inl sign
    · exact .inr (bounds_of_mem_formatNat digit)
  · exact .inr (bounds_of_mem_formatNat member)

/-- A printed float is a minus sign, a point and decimal digits. -/
theorem bounds_of_mem_formatFixed {places : Nat} {value : ExactFloat} {byte : UInt8}
    (member : byte ∈ formatFixed places value) :
    byte = 45 ∨ byte = 46 ∨ 48 ≤ byte ∧ byte ≤ 57 := by
  have body : ∀ units, byte ∈ formatNat (units / 10 ^ places) ++
      46 :: (paddedNumeral 10 places units).map decimalDigit →
      byte = 45 ∨ byte = 46 ∨ 48 ≤ byte ∧ byte ≤ 57 := by
    intro units inside
    simp only [List.mem_append, List.mem_cons, List.mem_map] at inside
    rcases inside with whole | point | ⟨digit, fraction, rfl⟩
    · exact .inr (.inr (bounds_of_mem_formatNat whole))
    · exact .inr (.inl point)
    · exact .inr (.inr (decimalDigit_bounds (lt_of_mem_paddedNumeral (by norm_num) fraction)))
  unfold formatFixed at member
  dsimp only at member
  split at member
  · rcases List.mem_cons.mp member with sign | inside
    · exact .inl sign
    · exact body _ inside
  · exact body _ member

theorem formatNat_ne_nil (value : Nat) : formatNat value ≠ [] := by
  simpa [formatNat] using numeral_ne_nil 10 value

/-! ## Reading printed text back -/

/-- A run of written decimal digits is read whole. -/
theorem spanDigits_decimal {digits : List Nat} (text : ByteString)
    (small : ∀ digit ∈ digits, digit < 10)
    (ends : ∀ byte ∈ text.head?, decimalValue byte = none) :
    spanDigits decimalValue (digits.map decimalDigit ++ text) = (digits, text) :=
  spanDigits_map_append decimalValue text
    (fun digit member => decimalValue_decimalDigit (small digit member)) ends

/-- The digits of a printed number are spanned up to the text behind it. -/
theorem spanDigits_formatNat (value : Nat) (text : ByteString)
    (ends : ∀ byte ∈ text.head?, decimalValue byte = none) :
    spanDigits decimalValue (formatNat value ++ text) = (numeral 10 value, text) :=
  spanDigits_decimal text (fun _ member => lt_of_mem_numeral (by norm_num) member) ends

/-- `from_chars` reads a printed unsigned value back. -/
theorem fromCharsUInt32_formatNat (value : UInt32) :
    fromCharsUInt32 (formatNat value.toNat) = some (value, []) := by
  have span := spanDigits_formatNat value.toNat [] (by simp)
  rw [List.append_nil] at span
  have inRange : ¬ 2 ^ 32 ≤ value.toNat := by
    have := value.toNat_lt
    omega
  simp only [fromCharsUInt32, span, numeral_ne_nil, ofNumeral_numeral, inRange, if_false]
  simp

/-- `from_chars` reads a printed signed value back. -/
theorem fromCharsInt32_formatInt {value : Int} (lower : -2 ^ 31 ≤ value)
    (upper : value < 2 ^ 31) : fromCharsInt32 (formatInt value) = some (value, []) := by
  have span := spanDigits_formatNat value.natAbs [] (by simp)
  rw [List.append_nil] at span
  have inRange : ¬ (value < -2 ^ 31 ∨ 2 ^ 31 ≤ value) := by omega
  by_cases below : value < 0
  · have restored : -(value.natAbs : Int) = value := by omega
    simp only [fromCharsInt32, formatInt, below, if_true, List.head?_cons, List.tail_cons, span,
      numeral_ne_nil, ofNumeral_numeral, restored, inRange, if_false]
  · have unsigned : (formatNat value.natAbs).head? ≠ some 45 := by
      intro sign
      have bounds := bounds_of_mem_formatNat (List.mem_of_mem_head? sign)
      exact absurd bounds (by decide)
    have restored : (value.natAbs : Int) = value := by omega
    simp only [fromCharsInt32, formatInt, below, unsigned, span, numeral_ne_nil,
      ofNumeral_numeral, restored, inRange, if_false]

theorem isSpace_of_bounds {byte : UInt8} (digit : 48 ≤ byte) : isSpace byte = false := by
  have low : (48 : UInt8).toNat ≤ byte.toNat := UInt8.le_iff_toNat_le.mp digit
  simp only [isSpace, decide_eq_false_iff_not, not_or, not_and, UInt8.not_le,
    UInt8.lt_iff_toNat_lt, ← UInt8.toNat_inj]
  simp at low ⊢
  omega

/-- Nothing is skipped in front of a text that starts with a digit or letter. -/
theorem readSign_dropSpace {text : ByteString} (leads : ∀ byte ∈ text.head?, 48 ≤ byte) :
    readSign (text.dropWhile isSpace) = (false, text) := by
  cases text with
  | nil => rfl
  | cons byte text =>
      have digit : 48 ≤ byte := leads byte (by simp)
      rw [List.dropWhile_cons_of_neg (by simp [isSpace_of_bounds digit])]
      unfold readSign
      split
      · next same => cases same; exact absurd digit (by decide)
      · next same => cases same; exact absurd digit (by decide)
      · rfl

/-- A text of digits and letters up to `F` has no `x` to mark hexadecimal. -/
theorem skipHexMark_of_bounds {text : ByteString}
    (plain : ∀ byte ∈ text, 48 ≤ byte ∧ byte ≤ 57 ∨ 65 ≤ byte ∧ byte ≤ 70) :
    skipHexMark text = text := by
  unfold skipHexMark
  split
  · next mark digit rest =>
      have noMark : ¬ (mark = 120 ∨ mark = 88) := by
        have bounds := plain mark (by simp)
        rintro (rfl | rfl) <;> exact absurd bounds (by decide)
      simp [noMark]
  · rfl

/-- `stoul` in base 16 reads a printed hexadecimal value back. -/
theorem stoul16_formatHex (value : UInt32) : stoul16 (formatHex value.toNat) = some value := by
  have plain : ∀ byte ∈ formatHex value.toNat, 48 ≤ byte ∧ byte ≤ 57 ∨ 65 ≤ byte ∧ byte ≤ 70 :=
    fun _ member => bounds_of_mem_formatHex member
  have leads : ∀ byte ∈ (formatHex value.toNat).head?, 48 ≤ byte := by
    intro byte first
    rcases plain byte (List.mem_of_mem_head? first) with digit | letter
    · exact digit.1
    · exact UInt8.le_trans (by decide) letter.1
  have span : spanDigits hexDigitValue (formatHex value.toNat) = (numeral 16 value.toNat, []) := by
    simpa [formatHex] using spanDigits_map_append hexDigitValue []
      (fun digit member => hexDigitValue_upperHexDigit (lt_of_mem_numeral (by norm_num) member))
      (by simp)
  have inRange : ¬ 2 ^ 32 ≤ value.toNat := by
    have := value.toNat_lt
    omega
  simp only [stoul16, readSign_dropSpace leads, skipHexMark_of_bounds plain, span,
    numeral_ne_nil, ofNumeral_numeral, inRange, if_false]
  simp

/-- A printed unsigned value that fits the word is read back. -/
theorem readUnsigned_formatNat {bits value : Nat} (fits : value < 2 ^ bits) :
    readUnsigned bits (formatNat value) = some value := by
  have leads : ∀ byte ∈ (formatNat value).head?, 48 ≤ byte := fun byte first =>
    (bounds_of_mem_formatNat (List.mem_of_mem_head? first)).1
  have span := spanDigits_formatNat value [] (by simp)
  rw [List.append_nil] at span
  have inRange : ¬ 2 ^ bits ≤ value := by omega
  simp only [readUnsigned, readSign_dropSpace leads, span, numeral_ne_nil, ofNumeral_numeral,
    inRange, if_false]
  simp

/-- Different values are printed differently. -/
theorem formatNat_injective : Function.Injective formatNat := by
  intro first second same
  have one := @readUnsigned_formatNat (first + second) first
    (Nat.lt_of_lt_of_le Nat.lt_two_pow_self (Nat.pow_le_pow_right (by omega) (by omega)))
  have two := @readUnsigned_formatNat (first + second) second
    (Nat.lt_of_lt_of_le Nat.lt_two_pow_self (Nat.pow_le_pow_right (by omega) (by omega)))
  rw [same, two] at one
  exact (Option.some.inj one).symm

theorem stoull_formatNat (value : UInt64) : stoull (formatNat value.toNat) = some value := by
  rw [stoull, readUnsigned_formatNat value.toNat_lt, Option.map_some]
  simp

/-- A decimal mantissa in fixed notation is read as its scaled integer. -/
theorem readMantissa_fixed (places units : Nat) :
    readMantissa 10 decimalValue 10 1 101 69
      (formatNat (units / 10 ^ places) ++
        46 :: (paddedNumeral 10 places units).map decimalDigit) =
      some ((units : ℚ≥0) / 10 ^ places) := by
  have whole := spanDigits_formatNat (units / 10 ^ places)
    (46 :: (paddedNumeral 10 places units).map decimalDigit) (by simp [decimalValue])
  have small : ∀ digit ∈ paddedNumeral 10 places units, digit < 10 :=
    fun _ member => lt_of_mem_paddedNumeral (by norm_num) member
  have fraction := spanDigits_decimal [] small (by simp)
  rw [List.append_nil] at fraction
  have value : ofNumeral 10 (numeral 10 (units / 10 ^ places) ++ paddedNumeral 10 places units) =
      units := by
    rw [ofNumeral_append, ofNumeral_numeral, paddedNumeral_length, ofNumeral_paddedNumeral]
    exact Nat.div_add_mod' units _
  simp [readMantissa, whole, fraction, numeral_ne_nil, value, readExponent, div_eq_mul_inv]

/-- A fixed decimal is not taken for a hexadecimal float. -/
theorem readHexMantissa_fixed (value : Nat) (text : ByteString) :
    readHexMantissa (formatNat value ++ 46 :: text) = none := by
  unfold readHexMantissa
  split
  · next mark rest shape =>
      have noMark : ¬ (mark = 120 ∨ mark = 88) := by
        have second : (formatNat value ++ 46 :: text)[1]? = some mark := by simp [shape]
        cases digits : formatNat value with
        | nil => exact absurd digits (formatNat_ne_nil value)
        | cons first others =>
            rw [digits] at second
            cases others with
            | nil =>
                have point : mark = 46 := by simpa using second.symm
                subst point
                decide
            | cons other others =>
                have same : mark = other := by simpa using second.symm
                have inside : mark ∈ formatNat value := by simp [digits, same]
                have bounds := bounds_of_mem_formatNat inside
                rintro (rfl | rfl) <;> exact absurd bounds (by decide)
      simp [noMark]
  · rfl

/-- A float printed with `places` places is read as its rounding to them. -/
theorem readExactFloat_formatFixed (places : Nat) (value : ExactFloat) :
    readExactFloat (formatFixed places value) = some (value.quantize roundHalfEven places) := by
  let units := roundHalfEven (value.magnitude * 10 ^ places)
  let digits := formatNat (units / 10 ^ places) ++
    46 :: (paddedNumeral 10 places units).map decimalDigit
  have leads : ∀ byte ∈ digits.head?, 48 ≤ byte := by
    intro byte first
    rw [List.head?_append_of_ne_nil _ (formatNat_ne_nil _)] at first
    exact (bounds_of_mem_formatNat (List.mem_of_mem_head? first)).1
  have magnitude : (readHexMantissa digits).orElse
      (fun _ => readMantissa 10 decimalValue 10 1 101 69 digits) =
        some ((units : ℚ≥0) / 10 ^ places) := by
    rw [readHexMantissa_fixed, readMantissa_fixed]
    rfl
  have signed : readSign ((formatFixed places value).dropWhile isSpace) =
      (value.negative, digits) := by
    cases sign : value.negative with
    | false =>
        have shape : formatFixed places value = digits := by simp [formatFixed, sign, digits, units]
        rw [shape, readSign_dropSpace leads]
    | true =>
        have shape : formatFixed places value = 45 :: digits := by
          simp [formatFixed, sign, digits, units]
        rw [shape, List.dropWhile_cons_of_neg (by decide)]
        rfl
  simp only [readExactFloat, signed, magnitude, Option.map_some, ExactFloat.quantize, units]

/-- Rounding to the printed places does not change the print. -/
theorem formatFixed_quantize (places : Nat) (value : ExactFloat) :
    formatFixed places (value.quantize roundHalfEven places) = formatFixed places value := by
  have units : roundHalfEven
      ((value.quantize roundHalfEven places).magnitude * 10 ^ places) =
        roundHalfEven (value.magnitude * 10 ^ places) := by
    rw [ExactFloat.quantize, div_mul_cancel₀ _ (by positivity), roundHalfEven_natCast]
  have sign : (value.quantize roundHalfEven places).negative = value.negative := rfl
  simp only [formatFixed, units, sign]

end IEDSyncTogether.Base
