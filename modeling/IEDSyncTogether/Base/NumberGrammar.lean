import IEDSyncTogether.Base.Tokens

/-!
# Number literals

The literals of the number functions as grammars, and where the functions stop reading. A
text from which `stoul` or `stof` reads a number is a literal exactly if nothing is left
behind the number and nothing stands in front of it that the function would skip.
-/

namespace IEDSyncTogether.Base

/-! ## Literals -/

/-- Decimal digits. -/
def UnsignedText (text : ByteString) : Prop :=
  text ≠ [] ∧ ∀ byte ∈ text, (decimalValue byte).isSome

/-- Decimal digits, maybe behind a minus. -/
def IntegerText (text : ByteString) : Prop :=
  UnsignedText text ∨ ∃ digits, UnsignedText digits ∧ text = 45 :: digits

/-- Hexadecimal digits. -/
def HexText (text : ByteString) : Prop :=
  text ≠ [] ∧ ∀ byte ∈ text, (hexDigitValue byte).isSome

/-- An optional sign. -/
inductive SignText : ByteString → Prop
  | absent : SignText []
  | plus : SignText [43]
  | minus : SignText [45]

/-- Digits with or without a point. -/
inductive MantissaText : ByteString → Prop
  | whole {digits : ByteString} (number : UnsignedText digits) : MantissaText digits
  | fraction {digits places : ByteString} (number : UnsignedText (digits ++ places)) :
      MantissaText (digits ++ 46 :: places)

/-- Nothing, or `e` with a whole number. -/
inductive ExponentText : ByteString → Prop
  | absent : ExponentText []
  | scaled {mark : UInt8} {sign digits : ByteString} (marked : mark = 101 ∨ mark = 69)
      (signed : SignText sign) (number : UnsignedText digits) :
      ExponentText (mark :: (sign ++ digits))

/-- A decimal number with an optional sign. -/
inductive DecimalText : ByteString → Prop
  | number {sign mantissa exponent : ByteString} (signed : SignText sign)
      (digits : MantissaText mantissa) (scaled : ExponentText exponent) :
      DecimalText (sign ++ (mantissa ++ exponent))

/-! ## Where reading stops -/

/-- What `stoul` in base 16 leaves behind the number. -/
def stoul16Rest (text : ByteString) : ByteString :=
  (spanDigits hexDigitValue (skipHexMark (readSign (text.dropWhile isSpace)).2)).2

/-- What is left behind an exponent; a mark without digits is left as it is. -/
def exponentRest (lower upper : UInt8) : ByteString → ByteString
  | [] => []
  | mark :: text =>
    if mark = lower ∨ mark = upper then
      let (digits, rest) := spanDigits decimalValue (readSign text).2
      if digits = [] then mark :: text else rest
    else mark :: text

/-- What is left behind a mantissa and its exponent. -/
def mantissaRest (digitValue : UInt8 → Option Nat) (lower upper : UInt8) (text : ByteString) :
    ByteString :=
  let rest := (spanDigits digitValue text).2
  exponentRest lower upper
    (if rest.head? = some 46 then (spanDigits digitValue rest.tail).2 else rest)

/-- What `stof` leaves behind a number. -/
def stofRest (text : ByteString) : ByteString :=
  let rest := (readSign (text.dropWhile isSpace)).2
  if (readHexMantissa rest).isSome then mantissaRest hexDigitValue 112 80 (rest.drop 2)
  else mantissaRest decimalValue 101 69 rest

/-- `stoul` in base 16 reads to the end and skips neither a blank nor a sign nor `0x`. -/
def TakenByStoul16 (text : ByteString) : Prop :=
  stoul16Rest text = [] ∧ (∀ byte ∈ text.head?, isSpace byte = false ∧ byte ≠ 43 ∧ byte ≠ 45) ∧
    skipHexMark text = text

/-- `stof` reads to the end, skips no blank, and finds neither a hexadecimal float nor a
word. -/
def TakenByStof (text : ByteString) : Prop :=
  stofRest text = [] ∧ (∀ byte ∈ text.head?, isSpace byte = false) ∧
    readHexMantissa (readSign text).2 = none ∧ readFloatWord (readSign text).2 = none

instance (text : ByteString) : Decidable (TakenByStoul16 text) :=
  inferInstanceAs (Decidable (_ ∧ _ ∧ _))

instance (text : ByteString) : Decidable (TakenByStof text) :=
  inferInstanceAs (Decidable (_ ∧ _ ∧ _ ∧ _))

/-! ## Characters of literals -/

/-- A sign is a plus or a minus. -/
theorem SignText.of_mem {sign : ByteString} (signed : SignText sign) {byte : UInt8}
    (member : byte ∈ sign) : byte = 43 ∨ byte = 45 := by
  cases signed with
  | absent => cases member
  | plus => exact .inl (List.mem_singleton.mp member)
  | minus => exact .inr (List.mem_singleton.mp member)

/-- The characters a decimal literal is made of. -/
def LiteralByte (byte : UInt8) : Prop :=
  (48 ≤ byte ∧ byte ≤ 57) ∨ byte = 43 ∨ byte = 45 ∨ byte = 46 ∨ byte = 101 ∨ byte = 69

instance (byte : UInt8) : Decidable (LiteralByte byte) :=
  inferInstanceAs (Decidable (_ ∨ _))

/-- The characters of a whole number are digits. -/
theorem UnsignedText.of_mem {text : ByteString} (number : UnsignedText text) {byte : UInt8}
    (member : byte ∈ text) : 48 ≤ byte ∧ byte ≤ 57 :=
  decimalValue_bounds (number.2 byte member)

/-- The characters of a mantissa are digits and the point. -/
theorem MantissaText.of_mem {mantissa : ByteString} (digits : MantissaText mantissa) {byte : UInt8}
    (member : byte ∈ mantissa) : (48 ≤ byte ∧ byte ≤ 57) ∨ byte = 46 := by
  cases digits with
  | whole number => exact .inl (number.of_mem member)
  | @fraction digits places number =>
      rcases List.mem_append.mp member with front | behind
      · exact .inl (number.of_mem (List.mem_append_left _ front))
      · rcases List.mem_cons.mp behind with point | behind
        · exact .inr point
        · exact .inl (number.of_mem (List.mem_append_right _ behind))

/-- The characters of an exponent occur in literals. -/
theorem ExponentText.of_mem {exponent : ByteString} (scaled : ExponentText exponent) {byte : UInt8}
    (member : byte ∈ exponent) : LiteralByte byte := by
  cases scaled with
  | absent => cases member
  | scaled marked signed number =>
      rcases List.mem_cons.mp member with rfl | behind
      · rcases marked with rfl | rfl <;> decide
      · rcases List.mem_append.mp behind with sign | digit
        · rcases signed.of_mem sign with rfl | rfl <;> decide
        · exact .inl (number.of_mem digit)

/-- The characters of a decimal number occur in literals. -/
theorem DecimalText.of_mem {text : ByteString} (decimal : DecimalText text) {byte : UInt8}
    (member : byte ∈ text) : LiteralByte byte := by
  obtain ⟨signed, digits, scaled⟩ := decimal
  rcases List.mem_append.mp member with sign | member
  · rcases signed.of_mem sign with rfl | rfl <;> decide
  · rcases List.mem_append.mp member with digit | behind
    · rcases digits.of_mem digit with bounds | rfl
      · exact .inl bounds
      · decide
    · exact scaled.of_mem behind

/-! ## Integers -/

variable {text : ByteString}

/-- Nothing is skipped in front of a text that starts with neither a blank nor a sign. -/
theorem dropSpace_of_head (start : ∀ byte ∈ text.head?, isSpace byte = false) :
    text.dropWhile isSpace = text := by
  cases text with
  | nil => rfl
  | cons byte text => exact List.dropWhile_cons_of_neg (by simp [start byte rfl])

/-- Without a sign the text is read as it is. -/
theorem readSign_of_unsigned (unsigned : ∀ byte ∈ text.head?, byte ≠ 43 ∧ byte ≠ 45) :
    readSign text = (false, text) := by
  unfold readSign
  split
  · next same => exact absurd rfl (unsigned 45 rfl).2
  · next same => exact absurd rfl (unsigned 43 rfl).1
  · rfl

/-- A whole number is read to the end. -/
theorem unsignedText_iff_spanDigits :
    UnsignedText text ↔
      (spanDigits decimalValue text).1 ≠ [] ∧ (spanDigits decimalValue text).2 = [] := by
  rw [UnsignedText, spanDigits_snd_eq_nil_iff]
  constructor
  · rintro ⟨present, all⟩
    rw [spanDigits_of_all all, ne_eq, filterMap_digits_eq_nil_iff all]
    exact ⟨present, all⟩
  · rintro ⟨read, all⟩
    rw [spanDigits_of_all all, ne_eq, filterMap_digits_eq_nil_iff all] at read
    exact ⟨read, all⟩

/-- What `from_chars` reads as an unsigned number to the end is one. -/
theorem unsignedText_of_fromCharsUInt32 {value : UInt32}
    (read : fromCharsUInt32 text = some (value, [])) : UnsignedText text := by
  rw [unsignedText_iff_spanDigits]
  simp only [fromCharsUInt32] at read
  split_ifs at read with missing
  exact ⟨missing, (Prod.mk.inj (Option.some.inj read)).2⟩

/-- What `from_chars` reads as a signed number to the end is one. -/
theorem integerText_of_fromCharsInt32 {value : Int}
    (read : fromCharsInt32 text = some (value, [])) : IntegerText text := by
  have digits : UnsignedText (if text.head? = some 45 then text.tail else text) := by
    rw [unsignedText_iff_spanDigits]
    simp only [fromCharsInt32] at read
    generalize (if text.head? = some 45 then text.tail else text) = body at read ⊢
    by_cases missing : (spanDigits decimalValue body).1 = []
    · rw [if_pos missing] at read
      cases read
    · rw [if_neg missing, Option.ite_none_left_eq_some, Option.some.injEq, Prod.mk.injEq] at read
      exact ⟨missing, read.2.2⟩
  split at digits
  · next minus =>
      obtain ⟨_, rfl⟩ := List.head?_eq_some_iff.mp minus
      exact .inr ⟨_, digits, rfl⟩
  · exact .inl digits

/-- A hexadecimal digit lies between the decimal digits and the letter f. -/
theorem hexDigitValue_bounds {byte : UInt8} (digit : (hexDigitValue byte).isSome) :
    48 ≤ byte ∧ byte ≤ 102 := by
  rw [hexDigitValue] at digit
  split_ifs at digit with decimal lower upper
  · exact ⟨decimal.1, UInt8.le_trans decimal.2 (by decide)⟩
  · exact ⟨UInt8.le_trans (by decide) lower.1, lower.2⟩
  · exact ⟨UInt8.le_trans (by decide) upper.1, UInt8.le_trans upper.2 (by decide)⟩
  · cases digit

/-- Hexadecimal digits have no `x` among them. -/
theorem skipHexMark_of_all (all : ∀ byte ∈ text, (hexDigitValue byte).isSome) :
    skipHexMark text = text := by
  unfold skipHexMark
  split
  · next mark digit rest =>
      have noMark : ¬ (mark = 120 ∨ mark = 88) := by
        have marked := all mark (by simp)
        rintro (rfl | rfl) <;> exact absurd marked (by decide)
      simp [noMark]
  · rfl

/-- A text `stoul` reads in base 16 is hexadecimal exactly if it is taken as a whole. -/
theorem hexText_iff_takenByStoul16 (read : (stoul16 text).isSome) :
    HexText text ↔ TakenByStoul16 text := by
  constructor
  · rintro ⟨present, all⟩
    have leads : ∀ byte ∈ text.head?, 48 ≤ byte := fun byte first =>
      (hexDigitValue_bounds (all byte (List.mem_of_mem_head? first))).1
    have unmarked := skipHexMark_of_all all
    refine ⟨?_, ?_, unmarked⟩
    · rw [stoul16Rest, readSign_dropSpace leads, unmarked]
      exact spanDigits_snd_eq_nil_iff.mpr all
    · intro byte first
      refine ⟨isSpace_of_bounds (leads byte first), ?_, ?_⟩ <;> rintro rfl <;>
        exact absurd (leads _ first) (by decide)
  · rintro ⟨finished, start, unmarked⟩
    rw [stoul16Rest, dropSpace_of_head fun byte first => (start byte first).1,
      readSign_of_unsigned fun byte first => (start byte first).2, unmarked] at finished
    refine ⟨?_, spanDigits_snd_eq_nil_iff.mp finished⟩
    rintro rfl
    cases read

/-! ## Decimals -/

/-- What is read as a sign stands in front of the rest. -/
theorem exists_sign (text : ByteString) :
    ∃ sign, SignText sign ∧ text = sign ++ (readSign text).2 ∧
      (readSign text).1 = decide (sign = [45]) := by
  unfold readSign
  split
  · exact ⟨[45], .minus, rfl, rfl⟩
  · exact ⟨[43], .plus, rfl, rfl⟩
  · exact ⟨[], .absent, rfl, rfl⟩

/-- A sign is taken off a text that has none of its own. -/
theorem readSign_append {sign : ByteString} (signed : SignText sign)
    (unsigned : ∀ byte ∈ text.head?, byte ≠ 43 ∧ byte ≠ 45) :
    readSign (sign ++ text) = (decide (sign = [45]), text) := by
  cases signed with
  | absent =>
      rw [List.nil_append, readSign_of_unsigned unsigned]
      rfl
  | plus => rfl
  | minus => rfl

/-- A whole number does not start with a sign. -/
theorem UnsignedText.unsigned (number : UnsignedText text) :
    ∀ byte ∈ text.head?, byte ≠ 43 ∧ byte ≠ 45 := by
  intro byte first
  have bounds := number.of_mem (List.mem_of_mem_head? first)
  constructor <;> rintro rfl <;> exact absurd bounds (by decide)

/-- Nothing is left behind an exponent exactly if it is one. -/
theorem exponentRest_eq_nil_iff : exponentRest 101 69 text = [] ↔ ExponentText text := by
  constructor
  · intro finished
    cases text with
    | nil => exact .absent
    | cons mark text =>
        simp only [exponentRest] at finished
        split_ifs at finished with marked missing
        obtain ⟨sign, signed, whole, _⟩ := exists_sign text
        rw [whole]
        exact .scaled marked signed (unsignedText_iff_spanDigits.mpr ⟨missing, finished⟩)
  · intro scaled
    cases scaled with
    | absent => rfl
    | scaled marked signed number =>
        obtain ⟨present, finished⟩ := unsignedText_iff_spanDigits.mp number
        simp only [exponentRest, readSign_append signed number.unsigned]
        rw [if_pos marked, if_neg present, finished]

/-- An exponent goes on with neither a digit nor a point. -/
theorem ExponentText.head {exponent : ByteString} (scaled : ExponentText exponent) :
    ∀ byte ∈ exponent.head?, decimalValue byte = none ∧ byte ≠ 46 := by
  intro byte first
  cases scaled with
  | absent => cases first
  | scaled marked =>
      cases first
      rcases marked with rfl | rfl <;> decide

/-- Nothing is left behind a mantissa and its exponent. -/
theorem mantissaRest_append {mantissa exponent : ByteString} (digits : MantissaText mantissa)
    (scaled : ExponentText exponent) :
    mantissaRest decimalValue 101 69 (mantissa ++ exponent) = [] := by
  have stops : ∀ byte ∈ exponent.head?, decimalValue byte = none :=
    fun byte first => (scaled.head byte first).1
  have finished := exponentRest_eq_nil_iff.mpr scaled
  cases digits with
  | whole number =>
      have noPoint : exponent.head? ≠ some 46 := fun point => (scaled.head 46 point).2 rfl
      simp only [mantissaRest, spanDigits_append number.2 stops, if_neg noPoint, finished]
  | @fraction digits places number =>
      obtain ⟨all, inside⟩ := List.forall_mem_append.mp number.2
      have point : ∀ byte ∈ (46 :: (places ++ exponent)).head?, decimalValue byte = none := by
        simp [decimalValue]
      simp only [mantissaRest, List.append_assoc, List.cons_append, spanDigits_append all point,
        List.head?_cons, List.tail_cons, if_true, spanDigits_append inside stops, finished]

/-- A text with a digit behind which nothing is left is a mantissa with its exponent. -/
theorem exists_of_mantissaRest_eq_nil
    (read : (readMantissa 10 decimalValue 10 1 101 69 text).isSome)
    (finished : mantissaRest decimalValue 101 69 text = []) :
    ∃ mantissa exponent, MantissaText mantissa ∧ ExponentText exponent ∧
      text = mantissa ++ exponent := by
  obtain ⟨digits, whole, all, noDigit⟩ := exists_spanDigits decimalValue text
  simp only [mantissaRest] at finished
  simp only [readMantissa] at read
  by_cases point : (spanDigits decimalValue text).2.head? = some 46
  · obtain ⟨tail, rest⟩ := List.head?_eq_some_iff.mp point
    obtain ⟨places, behind, inside, noPlace⟩ := exists_spanDigits decimalValue tail
    rw [if_pos point, rest, List.tail_cons] at finished read
    have present : digits ++ places ≠ [] := by
      intro nothing
      obtain ⟨noDigits, noPlaces⟩ := List.append_eq_nil_iff.mp nothing
      simp [noDigit.mpr noDigits, noPlace.mpr noPlaces] at read
    refine ⟨digits ++ 46 :: places, (spanDigits decimalValue tail).2,
      .fraction ⟨present, List.forall_mem_append.mpr ⟨all, inside⟩⟩,
      exponentRest_eq_nil_iff.mp finished, ?_⟩
    rw [List.append_assoc, List.cons_append, ← behind, ← rest]
    exact whole
  · rw [if_neg point] at finished read
    have present : digits ≠ [] := by
      intro nothing
      simp [noDigit.mpr nothing] at read
    exact ⟨digits, _, .whole ⟨present, all⟩, exponentRest_eq_nil_iff.mp finished, whole⟩

/-- A mantissa is not empty. -/
theorem MantissaText.ne_nil {mantissa : ByteString} (digits : MantissaText mantissa) :
    mantissa ≠ [] := by
  cases digits with
  | whole number => exact number.1
  | fraction number => simp

/-- A mantissa does not start with a sign. -/
theorem MantissaText.unsigned {mantissa : ByteString} (digits : MantissaText mantissa)
    (exponent : ByteString) : ∀ byte ∈ (mantissa ++ exponent).head?, byte ≠ 43 ∧ byte ≠ 45 := by
  intro byte first
  rw [List.head?_append_of_ne_nil _ digits.ne_nil] at first
  rcases digits.of_mem (List.mem_of_mem_head? first) with bounds | rfl
  · constructor <;> rintro rfl <;> exact absurd bounds (by decide)
  · decide

/-- No character of a literal is a blank. -/
theorem LiteralByte.not_space {byte : UInt8} (literal : LiteralByte byte) :
    isSpace byte = false := by
  rcases literal with bounds | rfl | rfl | rfl | rfl | rfl
  · exact isSpace_of_bounds bounds.1
  all_goals rfl

/-- A word does not start with a character of a decimal literal. -/
theorem LiteralByte.readFloatWord {byte : UInt8} (literal : LiteralByte byte)
    (text : ByteString) : readFloatWord (byte :: text) = none := by
  have other : toLower byte ≠ 105 ∧ toLower byte ≠ 110 := by
    rcases literal with bounds | rfl | rfl | rfl | rfl | rfl
    · have digit : toLower byte = byte :=
        if_neg fun letter => absurd (UInt8.le_trans letter.1 bounds.2) (by decide)
      rw [digit]
      constructor <;> rintro rfl <;> exact absurd bounds (by decide)
    all_goals decide
  simp [Base.readFloatWord, other]

/-- No decimal literal is read as a word. -/
theorem DecimalText.readFloatWord (decimal : DecimalText text) : readFloatWord text = none := by
  cases text with
  | nil => rfl
  | cons byte text => exact (decimal.of_mem List.mem_cons_self).readFloatWord text

/-- No decimal literal is read as a hexadecimal float. -/
theorem DecimalText.readHexMantissa (decimal : DecimalText text) : readHexMantissa text = none := by
  unfold Base.readHexMantissa
  split
  · next mark rest =>
      have noMark : ¬ (mark = 120 ∨ mark = 88) := by
        have literal := decimal.of_mem (List.mem_cons_of_mem _ List.mem_cons_self)
        rintro (rfl | rfl) <;> exact absurd literal (by decide)
      rw [if_neg noMark]
  · rfl

/-- What `stof` reads without a word is a number. -/
theorem readExactFloat_of_stof (start : ∀ byte ∈ text.head?, isSpace byte = false)
    (wordless : readFloatWord (readSign text).2 = none) (read : (stof text).isSome) :
    (readExactFloat text).isSome := by
  simp only [stof, dropSpace_of_head start, wordless] at read
  obtain ⟨value, taken⟩ := Option.isSome_iff_exists.mp read
  obtain ⟨number, exact, _⟩ := Option.bind_eq_some_iff.mp taken
  exact Option.isSome_of_eq_some exact

/-- A text that starts with no character of a literal holds no number. -/
theorem readMantissas_of_not_literal {byte : UInt8} (other : ¬ LiteralByte byte)
    (text : ByteString) : readHexMantissa (byte :: text) = none ∧
      readMantissa 10 decimalValue 10 1 101 69 (byte :: text) = none := by
  have noDigit : ∀ first ∈ (byte :: text).head?, decimalValue first = none := by
    simp only [List.head?_cons, Option.mem_def, Option.some.injEq, forall_eq']
    exact Option.not_isSome_iff_eq_none.mp fun digit => other (.inl (decimalValue_bounds digit))
  have noPoint : byte ≠ 46 := by
    rintro rfl
    exact other (by decide)
  constructor
  · unfold Base.readHexMantissa
    split
    · next mark rest shape =>
        cases shape
        exact absurd (by decide) other
    · rfl
  · simp [readMantissa, spanDigits_of_head _ noDigit, noPoint]

/-- `stof` takes a number exactly if it is one in the range of a float. -/
theorem stof_eq_finite_iff {value : ExactFloat} :
    stof text = some (.finite value) ↔
      readExactFloat text = some value ∧ InFloatRange value.magnitude := by
  constructor
  · intro taken
    simp only [stof] at taken
    split at taken
    · cases taken
    · cases taken
    · obtain ⟨number, read, ranged⟩ := Option.bind_eq_some_iff.mp taken
      split_ifs at ranged with range
      cases ranged
      exact ⟨read, range⟩
  · rintro ⟨read, range⟩
    have wordless : readFloatWord (readSign (text.dropWhile isSpace)).2 = none := by
      simp only [readExactFloat] at read
      cases start : (readSign (text.dropWhile isSpace)).2 with
      | nil => rfl
      | cons byte rest =>
          -- a byte that starts a number starts no word
          by_cases literal : LiteralByte byte
          · exact literal.readFloatWord rest
          · rw [start] at read
            simp [readMantissas_of_not_literal literal rest] at read
    simp only [stof, wordless, read, Option.bind_some, if_pos range]

/-- A text `stof` reads is a decimal number exactly if it is taken as a whole. -/
theorem decimalText_iff_takenByStof (read : (stof text).isSome) :
    DecimalText text ↔ TakenByStof text := by
  constructor
  · intro literal
    have start : ∀ byte ∈ text.head?, isSpace byte = false := fun byte first =>
      (literal.of_mem (List.mem_of_mem_head? first)).not_space
    obtain @⟨sign, mantissa, exponent, signed, digits, scaled⟩ := literal
    have body := congrArg Prod.snd (readSign_append signed (digits.unsigned exponent))
    have unsigned : DecimalText (readSign (sign ++ (mantissa ++ exponent))).2 := by
      rw [body]
      exact .number .absent digits scaled
    refine ⟨?_, start, unsigned.readHexMantissa, unsigned.readFloatWord⟩
    rw [stofRest, dropSpace_of_head start, unsigned.readHexMantissa, body]
    exact mantissaRest_append digits scaled
  · rintro ⟨finished, start, decimal, wordless⟩
    have number := readExactFloat_of_stof start wordless read
    have digits : (readMantissa 10 decimalValue 10 1 101 69 (readSign text).2).isSome := by
      simpa [readExactFloat, dropSpace_of_head start, decimal] using number
    rw [stofRest, dropSpace_of_head start, decimal] at finished
    obtain ⟨mantissa, exponent, digits, scaled, body⟩ :=
      exists_of_mantissaRest_eq_nil digits finished
    obtain ⟨sign, signed, whole, _⟩ := exists_sign text
    rw [whole, body]
    exact .number signed digits scaled

/-! ## Whole numbers that are read -/

/-- A number behind an optional sign, and a rest that does not go on with a digit. -/
structure NumberPrefix (text sign digits rest : ByteString) (number : Nat) : Prop where
  shape : text = sign ++ (digits ++ rest)
  signed : SignText sign
  whole : decimalNumber digits = some number
  ends : ∀ byte ∈ rest.head?, decimalValue byte = none

/-- A text is a whole number by its digits. -/
theorem decimalNumber_eq_some_iff {number : Nat} :
    decimalNumber text = some number ↔
      UnsignedText text ∧ ofNumeral 10 (text.filterMap decimalValue) = number := by
  rw [decimalNumber, Option.ite_none_right_eq_some, Option.some.injEq, UnsignedText]

section Unsigned

variable {sign digits rest : ByteString} {number bits : Nat}

/-- The value of a number that is read: a minus counts down from the size of the word. -/
theorem NumberPrefix.readUnsigned (found : NumberPrefix text sign digits rest number)
    (start : ∀ byte ∈ text.head?, isSpace byte = false) :
    readUnsigned bits text =
      if 2 ^ bits ≤ number then none
      else some (if sign = [45] then (2 ^ bits - number) % 2 ^ bits else number) := by
  obtain ⟨unsigned, value⟩ := decimalNumber_eq_some_iff.mp found.whole
  have present : digits.filterMap decimalValue ≠ [] :=
    mt (filterMap_digits_eq_nil_iff unsigned.2).mp unsigned.1
  have leads : ∀ byte ∈ (digits ++ rest).head?, byte ≠ 43 ∧ byte ≠ 45 := by
    rw [List.head?_append_of_ne_nil _ unsigned.1]
    exact unsigned.unsigned
  have split : readSign text = (decide (sign = [45]), digits ++ rest) := by
    rw [found.shape]
    exact readSign_append found.signed leads
  simp only [Base.readUnsigned, dropSpace_of_head start, split,
    spanDigits_append unsigned.2 found.ends, if_neg present, value, decide_eq_true_eq]

/-- With a sign or with more text behind it a number is not the whole text. -/
theorem NumberPrefix.decimalNumber_eq_none (found : NumberPrefix text sign digits rest number)
    (extra : sign ≠ [] ∨ rest ≠ []) : decimalNumber text = none := by
  rw [decimalNumber, if_neg]
  rintro ⟨_, all⟩
  rw [found.shape, List.forall_mem_append, List.forall_mem_append] at all
  rcases extra with marked | further
  · cases found.signed with
    | absent => exact marked rfl
    | plus => exact absurd (all.1 43 List.mem_cons_self) (by decide)
    | minus => exact absurd (all.1 45 List.mem_cons_self) (by decide)
  · obtain ⟨byte, tail, rfl⟩ := List.exists_cons_of_ne_nil further
    have digit := all.2.2 byte List.mem_cons_self
    rw [found.ends byte rfl] at digit
    cases digit

/-- Where a number is read, digits stand behind an optional sign. -/
theorem exists_numberPrefix (start : ∀ byte ∈ text.head?, isSpace byte = false)
    (read : (readUnsigned bits text).isSome) :
    ∃ sign digits rest number, NumberPrefix text sign digits rest number := by
  obtain ⟨sign, signed, shape, _⟩ := exists_sign text
  obtain ⟨digits, rest, behind, all, ends⟩ := exists_digits decimalValue (readSign text).2
  have present : digits ≠ [] := by
    rintro rfl
    rw [List.nil_append] at behind
    simp [Base.readUnsigned, dropSpace_of_head start, behind, spanDigits_of_head _ ends] at read
  exact ⟨sign, digits, rest, _, by rw [← behind, ← shape], signed,
    decimalNumber_eq_some_iff.mpr ⟨⟨present, all⟩, rfl⟩, ends⟩

end Unsigned

end IEDSyncTogether.Base
