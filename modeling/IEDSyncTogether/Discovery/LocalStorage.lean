import IEDSyncTogether.Base.Varint

/-!
# Values of the browser's local storage

Skyrim Together keeps the last server in a Chromium local storage. Behind a key stands the
length of the value in base 128, a type byte and the value; `StrServerDiscovery` looks for
that layout at several positions behind the key in the raw file.
-/

namespace IEDSyncTogether

open Base

/-- `IsReasonableLocalStorageValue`: a non-empty value of printable ASCII, up to 2048 bytes. -/
def isReasonableLocalStorageValue (value : ByteString) : Bool :=
  value ≠ [] ∧ value.length ≤ 2048 ∧ value.all fun ch => 0x20 ≤ ch ∧ ch < 0x7F

/-- The loop of `ReadVarint` with so many turns left; `i` counts the bytes read so far. -/
def readVarintLoop (data : ByteString) (offset : Nat) (result : UInt64) (shift : UInt32) (i : Nat) :
    Nat → Except StringError (Option (UInt64 × Nat))
  | 0 => .ok none
  | turns + 1 =>
    if offset + i < data.length then do
      let byte ← byteAt data (offset + i)
      let result := result ||| ((byte &&& 0x7F).toUInt64 <<< shift.toUInt64)
      if byte &&& 0x80 = 0 then return some (result, i + 1)
      else readVarintLoop data offset result (shift + 7) (i + 1) turns
    else .ok none

/-- The number at an offset and the bytes it takes. -/
def readVarint (data : ByteString) (offset : Nat) : Except StringError (Option (UInt64 × Nat)) :=
  readVarintLoop data offset 0 0 0 5

/-- One turn of `TryReadChromiumLocalStorageValue`, on the position it tries. -/
def readStoredValue (data : ByteString) (position : Nat) :
    Except StringError (Option ByteString) := do
  match ← readVarint data position with
  | none => return none
  | some (length, width) =>
    let typeOffset := position + width
    if data.length ≤ typeOffset then return none
    else
      let type ← byteAt data typeOffset
      if type ≠ 1 then return none
      else
        let valueOffset := typeOffset + 1
        if length = 0 ∨ 2048 < length ∨ data.length < valueOffset + length.toNat then return none
        else
          let value ← substrFrom data valueOffset (some length.toNat)
          return if isReasonableLocalStorageValue value then some value else none

/-- The loop over the positions, with so many turns left. -/
def readStoredValueFrom (data : ByteString) (position : Nat) :
    Nat → Except StringError (Option ByteString)
  | 0 => .ok none
  | turns + 1 =>
    if position < data.length then do
      match ← readStoredValue data position with
      | some value => return some value
      | none => readStoredValueFrom data (position + 1) turns
    else .ok none

/-- `TryReadChromiumLocalStorageValue`: eight positions from the offset on are tried in turn. -/
def tryReadChromiumLocalStorageValue (data : ByteString) (offset : Nat) :
    Except StringError (Option ByteString) :=
  readStoredValueFrom data offset 8

/-! ## The number in front of a value -/

/-- One turn puts a group of seven bits above those collected so far. -/
theorem toNat_collected {result : UInt64} {shift : UInt32} {byte : UInt8} {i : Nat} (low : i ≤ 4)
    (shifted : shift.toNat = 7 * i) (fits : result.toNat < 2 ^ (7 * i)) :
    (result ||| ((byte &&& 0x7F).toUInt64 <<< shift.toUInt64)).toNat =
      result.toNat + 2 ^ (7 * i) * (byte.toNat % 128) := by
  have group : (byte &&& 0x7F).toUInt64.toNat = byte.toNat % 128 := by
    rw [UInt8.toNat_toUInt64, toNat_and_group]
  have amount : shift.toUInt64 = (7 * i).toUInt64 := by
    rw [← shifted]
    exact UInt64.toNat_inj.mp (by simp)
  have weight : 2 ^ (7 * i) ≤ 2 ^ 28 := Nat.pow_le_pow_right (by omega) (by omega)
  have room : byte.toNat % 128 * 2 ^ (7 * i) < 2 ^ 64 := by
    have small : byte.toNat % 128 < 128 := Nat.mod_lt _ (by omega)
    have product := Nat.mul_le_mul (Nat.le_of_lt small) weight
    omega
  rw [amount, toNat_or_shiftLeft (by omega) fits (by rwa [group]), group]

/-- The loop reads what is left of a number in base 128. -/
theorem readVarintLoop_eq {data : ByteString} {offset i turns : Nat} {result : UInt64}
    {shift : UInt32} (bounded : i + turns ≤ 5) (shifted : shift.toNat = 7 * i)
    (fits : result.toNat < 2 ^ (7 * i)) :
    readVarintLoop data offset result shift i turns =
      .ok ((decodeVarint turns (data.drop (offset + i))).map fun read =>
        ((result.toNat + 2 ^ (7 * i) * read.1).toUInt64, i + read.2)) := by
  induction turns generalizing i result shift with
  | zero => rfl
  | succ turns ih =>
      rw [readVarintLoop]
      by_cases inside : offset + i < data.length
      · have collected := @toNat_collected result shift data[offset + i] i (by omega) shifted fits
        rw [if_pos inside, byteAt_of_lt inside, List.drop_eq_getElem_cons inside]
        simp only [bind, Except.bind, and_high_eq_zero_iff, decodeVarint]
        have power : 2 ^ (7 * (i + 1)) = 2 ^ (7 * i) * 128 := by
          rw [Nat.mul_succ, pow_add]
          rfl
        split_ifs with last
        · rw [Nat.mod_eq_of_lt last] at collected
          simp only [Option.map_some, ← collected, Nat.toUInt64_eq, UInt64.ofNat_toNat]
          rfl
        · have next : (shift + 7).toNat = 7 * (i + 1) := by
            rw [UInt32.toNat_add, shifted]
            simp
            omega
          rw [ih (by omega) next, collected, power, Option.map_map]
          · congr 2
            funext read
            simp only [Function.comp_apply, Nat.mul_add, Nat.mul_assoc, Nat.add_assoc,
              Nat.add_comm 1]
          · rw [collected, power]
            have small : data[offset + i].toNat % 128 < 128 := Nat.mod_lt _ (by omega)
            have product := Nat.mul_le_mul_left (2 ^ (7 * i)) (Nat.le_sub_one_of_lt small)
            omega
      · rw [if_neg inside, List.drop_eq_nil_of_le (by omega)]
        rfl

/-- `ReadVarint` reads the number at the offset, if it ends within five bytes. -/
theorem readVarint_eq (data : ByteString) (offset : Nat) :
    readVarint data offset =
      .ok ((decodeVarint 5 (data.drop offset)).map fun read => (read.1.toUInt64, read.2)) := by
  have loop := @readVarintLoop_eq data offset 0 5 0 0 (Nat.le_refl 5) rfl Nat.one_pos
  simpa [readVarint] using loop

/-! ## The values found -/

section Values

variable {data value : ByteString} {offset position : Nat}

/-- A turn throws nothing, and what it finds stands in the file. -/
theorem readStoredValue_ok (data : ByteString) (position : Nat) :
    ∃ found, readStoredValue data position = .ok found ∧
      ∀ value ∈ found, isReasonableLocalStorageValue value = true ∧ value <:+: data := by
  have nothing : ∀ value ∈ (none : Option ByteString),
      isReasonableLocalStorageValue value = true ∧ value <:+: data := by simp
  simp only [readStoredValue, readVarint_eq, bind, Except.bind, pure, Except.pure]
  cases decodeVarint 5 (data.drop position) with
  | none => exact ⟨none, rfl, nothing⟩
  | some read =>
      simp only [Option.map_some]
      by_cases past : data.length ≤ position + read.2
      · rw [if_pos past]
        exact ⟨none, rfl, nothing⟩
      · rw [if_neg past, byteAt_of_lt (Nat.not_le.mp past)]
        simp only
        split_ifs with other refused
        · exact ⟨none, rfl, nothing⟩
        · exact ⟨none, rfl, nothing⟩
        · rw [substrFrom_of_le (by omega)]
          refine ⟨_, rfl, fun value found => ?_⟩
          rw [Option.mem_def, Option.ite_none_right_eq_some, Option.some.injEq] at found
          obtain ⟨reasonable, rfl⟩ := found
          refine ⟨reasonable, ?_⟩
          exact (List.take_prefix _ _).isInfix.trans (List.drop_suffix _ _).isInfix

/-- The search throws nothing, and what it finds stands in the file. -/
theorem readStoredValueFrom_ok (data : ByteString) (position turns : Nat) :
    ∃ found, readStoredValueFrom data position turns = .ok found ∧
      ∀ value ∈ found, isReasonableLocalStorageValue value = true ∧ value <:+: data := by
  induction turns generalizing position with
  | zero => exact ⟨none, rfl, by simp⟩
  | succ turns ih =>
      rw [readStoredValueFrom]
      split
      · obtain ⟨found, turn, sound⟩ := readStoredValue_ok data position
        simp only [turn, bind, Except.bind]
        cases found with
        | none => exact ih (position + 1)
        | some value => exact ⟨some value, rfl, sound⟩
      · exact ⟨none, rfl, by simp⟩

/-- A value behind its length and its type is found by the first turn. -/
theorem readStoredValue_of_layout {rest : ByteString} (present : value ≠ [])
    (short : value.length ≤ 2048) (printable : ∀ ch ∈ value, 0x20 ≤ ch ∧ ch < 0x7F)
    (layout : data.drop position = varint value.length ++ 1 :: (value ++ rest)) :
    readStoredValue data position = .ok (some value) := by
  have enough : value.length < 128 ^ (4 + 1) := by omega
  have number : decodeVarint 5 (data.drop position) =
      some (value.length, (varint value.length).length) := by
    rw [layout]
    exact decodeVarint_varint enough _
  have type : data.drop (position + (varint value.length).length) = 1 :: (value ++ rest) := by
    rw [← List.drop_drop, layout, List.drop_left]
  have stored : data.drop (position + (varint value.length).length + 1) = value ++ rest := by
    rw [← List.drop_drop, type]
    rfl
  have size := congrArg List.length type
  rw [List.length_drop, List.length_cons, List.length_append] at size
  have inside : position + (varint value.length).length < data.length := by omega
  have one : data[position + (varint value.length).length] = 1 := by
    have head := List.drop_eq_getElem_cons inside
    rw [type] at head
    exact (List.cons.inj head).1.symm
  have length : value.length.toUInt64.toNat = value.length := by
    rw [Nat.toUInt64_eq, UInt64.toNat_ofNat']
    omega
  have nonempty : 0 < value.length := List.length_pos_iff.mpr present
  have kept : ¬ (value.length.toUInt64 = 0 ∨ 2048 < value.length.toUInt64 ∨
      data.length < position + (varint value.length).length + 1 + value.length) := by
    rintro (zero | long | past)
    · rw [zero] at length
      exact absurd length.symm (Nat.ne_of_gt nonempty)
    · rw [UInt64.lt_iff_toNat_lt, length] at long
      exact absurd short (Nat.not_le.mpr long)
    · omega
  have reasonable : isReasonableLocalStorageValue value = true := by
    simpa [isReasonableLocalStorageValue, present, short] using printable
  simp only [readStoredValue, readVarint_eq, number, bind, Except.bind, Option.map_some,
    if_neg (Nat.not_le.mpr inside), byteAt_of_lt inside, one, length, if_neg kept, ne_eq,
    not_true_eq_false, if_false, substrFrom_of_le (Nat.succ_le_of_lt inside), Option.getD_some,
    substr, stored, List.take_left, reasonable]
  rfl

/-- The search of a stored value throws nothing and never reads past the end of the file. A
value in its layout at the offset is the one found, and the number in front of it is read back
whatever follows. -/
theorem stored_value_read (data : ByteString) (offset : Nat) :
    (∃ found, tryReadChromiumLocalStorageValue data offset = .ok found ∧
      ∀ value ∈ found, isReasonableLocalStorageValue value = true ∧ value <:+: data) ∧
    (∀ value rest : ByteString, value ≠ [] → value.length ≤ 2048 →
      (∀ ch ∈ value, 0x20 ≤ ch ∧ ch < 0x7F) →
      data.drop offset = varint value.length ++ 1 :: (value ++ rest) →
      tryReadChromiumLocalStorageValue data offset = .ok (some value)) ∧
    ∀ (number : Nat) (rest : ByteString), number < 2 ^ 35 →
      data.drop offset = varint number ++ rest →
      readVarint data offset = .ok (some (number.toUInt64, (varint number).length)) := by
  refine ⟨readStoredValueFrom_ok data offset 8, ?_, ?_⟩
  · intro value rest present short printable layout
    have inside : offset < data.length := by
      have size := congrArg List.length layout
      simp only [List.length_drop, List.length_append, List.length_cons] at size
      omega
    have first := readStoredValue_of_layout present short printable layout
    rw [tryReadChromiumLocalStorageValue, readStoredValueFrom, if_pos inside]
    simp only [first, bind, Except.bind]
    rfl
  · intro number rest small layout
    have read := @decodeVarint_varint 4 number (by omega) rest
    rw [readVarint_eq, layout, read, Option.map_some]

end Values

/-- A stored password between other entries of the file. -/
def storedPassword : ByteString :=
  ascii "last_connected_password" ++ (varint 6 ++ 1 :: (ascii "secret" ++ [0, 0xFF, 0x80]))

/-- The stored password is found behind its key. -/
theorem storedPassword_found :
    tryReadChromiumLocalStorageValue storedPassword 23 = .ok (some (ascii "secret")) := by
  have printable : ∀ ch ∈ ascii "secret", 0x20 ≤ ch ∧ ch < 0x7F := by
    have all : (ascii "secret").all (fun ch => 0x20 ≤ ch ∧ ch < 0x7F) = true := rfl
    simpa using all
  exact (stored_value_read storedPassword 23).2.1 (ascii "secret") [0, 0xFF, 0x80] (by decide)
    (by decide) printable (@List.drop_left' _ (ascii "last_connected_password") _ 23 rfl)

end IEDSyncTogether
