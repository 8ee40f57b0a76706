import IEDSyncTogether.Base.Fields
import IEDSyncTogether.State.LocalIEDState

/-!
# Text fields

`Split` and joining with a delimiter are inverse to each other, on texts and on lists of
parts without the delimiter. `HexEncode` and `HexDecode` are inverse to each other up to
the case of the digits, and encoded text has none of the delimiters of the wire formats.
So a list of encoded texts is read back from the text they are joined to.
-/

namespace IEDSyncTogether

open Base

/-! ## Parts -/

section Parts

variable {delimiter : UInt8}

/-- Parts without the delimiter are split off again. -/
theorem split_intercalate {parts : List ByteString} (present : parts ≠ [])
    (free : FreeOf delimiter parts) : split ([delimiter].intercalate parts) delimiter = parts := by
  rw [split_eq_splitOn]
  exact List.splitOn_intercalate delimiter free present

/-- Every text is its parts joined, and they have no delimiter in them. -/
theorem exists_split (value : ByteString) (delimiter : UInt8) :
    ∃ head tail, split value delimiter = head :: tail ∧ value = joined delimiter head tail ∧
      FreeOf delimiter (head :: tail) := by
  obtain ⟨head, tail, rfl, free⟩ := exists_joined delimiter value
  exact ⟨head, tail, by rw [split_eq_splitOn, splitOn_joined free], rfl, free⟩

/-- No part has the delimiter in it. -/
theorem freeOf_split (value : ByteString) (delimiter : UInt8) :
    FreeOf delimiter (split value delimiter) := by
  obtain ⟨head, tail, parts, _, free⟩ := exists_split value delimiter
  rwa [parts]

/-- There is one part more than there are delimiters. -/
theorem length_split (value : ByteString) (delimiter : UInt8) :
    (split value delimiter).length = value.count delimiter + 1 := by
  obtain ⟨head, tail, parts, rfl, free⟩ := exists_split value delimiter
  rw [parts, count_joined free, List.length_cons]

/-- The parts are joined to the text again. -/
theorem intercalate_split (value : ByteString) (delimiter : UInt8) :
    [delimiter].intercalate (split value delimiter) = value := by
  obtain ⟨head, tail, parts, whole, _⟩ := exists_split value delimiter
  rw [parts, intercalate_cons, whole]

/-- `Split` inverts joining from both sides: the parts of a text have no delimiter in them,
are one more than its delimiters and join to it, and any parts without the delimiter are
the parts of the text they join to. -/
theorem split_inverts_joining (delimiter : UInt8) :
    (∀ value, FreeOf delimiter (split value delimiter) ∧
      (split value delimiter).length = value.count delimiter + 1 ∧
      [delimiter].intercalate (split value delimiter) = value) ∧
    ∀ parts, parts ≠ [] → FreeOf delimiter parts →
      split ([delimiter].intercalate parts) delimiter = parts := by
  refine ⟨fun value => ?_, fun parts present free => split_intercalate present free⟩
  exact ⟨freeOf_split value delimiter, length_split value delimiter,
    intercalate_split value delimiter⟩

/-- The first part, two empty parts in a row and an empty part at the end are kept. -/
theorem split_inverts_joining_parts :
    split ([byteOf '|'].intercalate [ascii "S", [], [], ascii "x", []]) (byteOf '|') =
      [ascii "S", [], [], ascii "x", []] :=
  (split_inverts_joining (byteOf '|')).2 _ (List.cons_ne_nil _ _) (by simp [FreeOf, ascii, byteOf])

end Parts

/-! ## Hexadecimal characters -/

/-- The characters of hexadecimal text. -/
def hexCharacters : ByteString := ascii "0123456789abcdefABCDEF"

/-- `toupper` in the C locale. -/
def toUpper (byte : UInt8) : UInt8 := if 97 ≤ byte ∧ byte ≤ 122 then byte - 32 else byte

/-- `HexValue` of a signed `char` with its `int` result, -1 for no digit. -/
def signedHexValue (ch : Int8) : Int :=
  if 48 ≤ ch.toInt ∧ ch.toInt ≤ 57 then ch.toInt - 48
  else if 97 ≤ ch.toInt ∧ ch.toInt ≤ 102 then 10 + ch.toInt - 97
  else if 65 ≤ ch.toInt ∧ ch.toInt ≤ 70 then 10 + ch.toInt - 65
  else -1

section Characters

variable {ch : UInt8} {nibble : Nat}

/-- A character with a value is a decimal digit or a letter of either case. -/
theorem code_of_hexValue (read : hexValue ch = some nibble) :
    nibble < 10 ∧ ch.toNat = 48 + nibble ∨
      10 ≤ nibble ∧ nibble < 16 ∧ (ch.toNat = 87 + nibble ∨ ch.toNat = 55 + nibble) := by
  unfold hexValue at read
  split_ifs at read with number lower upper <;> cases read
  · have low : 48 ≤ ch.toNat := UInt8.le_iff_toNat_le.mp number.1
    have high : ch.toNat ≤ 57 := UInt8.le_iff_toNat_le.mp number.2
    omega
  · have low : 97 ≤ ch.toNat := UInt8.le_iff_toNat_le.mp lower.1
    have high : ch.toNat ≤ 102 := UInt8.le_iff_toNat_le.mp lower.2
    omega
  · have low : 65 ≤ ch.toNat := UInt8.le_iff_toNat_le.mp upper.1
    have high : ch.toNat ≤ 70 := UInt8.le_iff_toNat_le.mp upper.2
    omega

/-- The digit of the value of a character is the character in upper case. -/
theorem hexDigit_of_hexValue (read : hexValue ch = some nibble) :
    ch ∈ hexCharacters ∧ nibble < 16 ∧ hexDigit nibble.toUInt8 = toUpper ch := by
  rw [← UInt8.ofNat_toNat (x := ch)]
  rcases code_of_hexValue read with ⟨small, code⟩ | ⟨large, small, code | code⟩
  all_goals
    rw [code]
    interval_cases nibble <;> exact ⟨by decide, by decide, rfl⟩

/-- `HexValue` accepts the hexadecimal characters and no others. -/
theorem isSome_hexValue_iff : (hexValue ch).isSome ↔ ch ∈ hexCharacters := by
  constructor
  · intro digit
    obtain ⟨nibble, read⟩ := Option.isSome_iff_exists.mp digit
    exact (hexDigit_of_hexValue read).1
  · have each : hexCharacters.all fun ch => (hexValue ch).isSome := rfl
    exact List.all_eq_true.mp each ch

/-- A byte above 0x7F is a negative `char`, and no digit as either. -/
theorem signedHexValue_toInt8 (ch : UInt8) :
    signedHexValue ch.toInt8 = ((hexValue ch).map Int.ofNat).getD (-1) := by
  have fits := ch.toNat_lt
  have char : ch.toInt8.toInt = if ch.toNat ≤ 127 then (ch.toNat : Int) else ch.toNat - 256 := by
    have bits : ch.toInt8.toInt = ch.toBitVec.toInt := rfl
    rw [bits, BitVec.toInt_eq_toNat_cond, UInt8.toNat_toBitVec]
    split_ifs <;> omega
  simp only [hexValue, UInt8.le_iff_toNat_le, show (byteOf '0').toNat = 48 from rfl,
    show (byteOf '9').toNat = 57 from rfl, show (byteOf 'a').toNat = 97 from rfl,
    show (byteOf 'f').toNat = 102 from rfl, show (byteOf 'A').toNat = 65 from rfl,
    show (byteOf 'F').toNat = 70 from rfl]
  rw [signedHexValue]
  split_ifs at char ⊢ <;> simp <;> omega

end Characters

/-! ## Hexadecimal text -/

section HexText

variable {text value : ByteString}

/-- The rest of a text behind a pair is even if the text is. -/
theorem even_of_pair {high low : UInt8} {rest : ByteString}
    (even : (high :: low :: rest).length % 2 = 0) : rest.length % 2 = 0 := by
  rw [List.length_cons, List.length_cons] at even
  omega

/-- An even text without a pair is empty. -/
theorem eq_nil_of_even (even : text.length % 2 = 0)
    (short : ∀ high low rest, text = high :: low :: rest → False) : text = [] := by
  match text, even, short with
  | [], _, _ => rfl
  | high :: low :: rest, _, short => exact (short high low rest rfl).elim

/-- The pair loop accepts an even text if all its characters are hexadecimal. -/
theorem isSome_hexDecodePairs_iff (even : text.length % 2 = 0) :
    (hexDecodePairs text).isSome ↔ ∀ ch ∈ text, ch ∈ hexCharacters := by
  fun_induction hexDecodePairs text with
  | case1 high low rest ih =>
      rw [List.forall_mem_cons, List.forall_mem_cons, ← ih (even_of_pair even),
        ← isSome_hexValue_iff, ← isSome_hexValue_iff]
      cases hexValue high <;> cases hexValue low <;> cases hexDecodePairs rest <;> simp
  | case2 text short => simp [eq_nil_of_even even short]

/-- The digits of a decoded byte are those of its two values. -/
theorem hexEncode_pair {high low : Nat} (upper : high < 16) (lower : low < 16)
    (value : ByteString) :
    hexEncode ((high <<< 4 ||| low).toUInt8 :: value) =
      hexDigit high.toUInt8 :: hexDigit low.toUInt8 :: hexEncode value := by
  have byte : high <<< 4 ||| low = high * 16 + low := by
    rw [← Nat.shiftLeft_add_eq_or_of_lt (by omega), Nat.shiftLeft_eq]
  have fits : (high <<< 4 ||| low).toUInt8.toNat = high * 16 + low := by
    rw [byte]
    exact Nat.mod_eq_of_lt (by omega)
  have quotient : (high * 16 + low) / 16 = high := by omega
  have remainder : (high * 16 + low) % 16 = low := by omega
  rw [hexEncode_cons, fits, quotient, remainder]

/-- What the pair loop decodes is encoded to the text in upper case. -/
theorem hexEncode_of_hexDecodePairs (even : text.length % 2 = 0)
    (decoded : hexDecodePairs text = some value) : hexEncode value = text.map toUpper := by
  fun_induction hexDecodePairs text generalizing value with
  | case1 high low rest ih =>
      obtain ⟨highValue, first, decoded⟩ := Option.bind_eq_some_iff.mp decoded
      obtain ⟨lowValue, second, decoded⟩ := Option.bind_eq_some_iff.mp decoded
      obtain ⟨others, further, made⟩ := Option.bind_eq_some_iff.mp decoded
      cases made
      obtain ⟨_, upper, highDigit⟩ := hexDigit_of_hexValue first
      obtain ⟨_, lower, lowDigit⟩ := hexDigit_of_hexValue second
      rw [hexEncode_pair upper lower, highDigit, lowDigit, ih (even_of_pair even) further]
      rfl
  | case2 text short =>
      cases decoded
      rw [eq_nil_of_even even short]
      rfl

/-- Hex text is an even number of hexadecimal digits. -/
theorem isSome_hexDecode_iff :
    (hexDecode text).isSome ↔ text.length % 2 = 0 ∧ ∀ ch ∈ text, ch ∈ hexCharacters := by
  rw [hexDecode]
  split_ifs with odd
  · simp [odd]
  · rw [isSome_hexDecodePairs_iff (not_not.mp odd), and_iff_right (not_not.mp odd)]

/-- Accepted text is the encoding of its bytes up to the case of the digits. -/
theorem hexEncode_of_hexDecode (decoded : hexDecode text = some value) :
    hexEncode value = text.map toUpper := by
  rw [hexDecode] at decoded
  split_ifs at decoded with odd
  exact hexEncode_of_hexDecodePairs (not_not.mp odd) decoded

/-- `HexDecode` accepts the even texts of hexadecimal characters, and inverts `HexEncode`
from both sides up to the case of the digits. Encoded text has none of the delimiters. -/
theorem hexDecode_inverts_hexEncode :
    (∀ value, hexDecode (hexEncode value) = some value ∧
      ∀ delimiter ∈ ascii "|,:=\n", delimiter ∉ hexEncode value) ∧
    ∀ text, ((hexDecode text).isSome ↔
        text.length % 2 = 0 ∧ ∀ ch ∈ text, ch ∈ ascii "0123456789abcdefABCDEF") ∧
      ∀ value, hexDecode text = some value → hexEncode value = text.map toUpper :=
  ⟨fun value => ⟨hexDecode_hexEncode value,
      fun _ wire => delimiter_not_mem_hexEncode wire value⟩,
    fun _ => ⟨isSome_hexDecode_iff, fun _ decoded => hexEncode_of_hexDecode decoded⟩⟩

/-- Bytes above 0x7F in mixed case, and a name that consists of a delimiter. -/
theorem hexDecode_inverts_hexEncode_bytes :
    hexEncode [0xC3, 0xA9] = (ascii "c3A9").map toUpper ∧
      byteOf '|' ∉ hexEncode (ascii "|") :=
  ⟨(hexDecode_inverts_hexEncode.2 (ascii "c3A9")).2 [0xC3, 0xA9] rfl,
    (hexDecode_inverts_hexEncode.1 (ascii "|")).2 (byteOf '|') List.mem_cons_self⟩

end HexText

end IEDSyncTogether
