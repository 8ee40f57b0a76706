import IEDSyncTogether.Base.NumberText

/-!
# Form identities and the slot line

A form travels as its plugin file name and its local form ID. The game's own
tables are the parameter `GameData`; `GetLocalFormID` is the documented mask of
the form ID.
-/

namespace IEDSyncTogether

open Base

/-- The number of a form in the game's tables, with the load order in its upper byte. -/
abbrev FormID := UInt32

/-- A plugin file: its name, and whether it is a light plugin. -/
structure TESFile where
  filename : ByteString
  light : Bool
deriving DecidableEq

/-- A loaded form with its first file, `GetFile(0)`. -/
structure TESForm where
  formID : FormID
  file : Option TESFile
deriving DecidableEq

/-- The low 24 bits of the form ID, or the low 12 bits for a light plugin. -/
def TESForm.getLocalFormID (form : TESForm) : UInt32 :=
  match form.file with
  | some ⟨_, true⟩ => form.formID &&& 0xFFF
  | _ => form.formID &&& 0xFFFFFF

/-- The form tables of one game instance: `TESForm::LookupByID` and the data
handler's `LookupForm`. -/
structure GameData where
  lookupByID : FormID → Option TESForm
  lookupForm : UInt32 → ByteString → Option TESForm

/-- A form as its plugin knows it, whatever the load order. -/
structure FormIdentity where
  plugin : ByteString
  localFormID : UInt32
deriving DecidableEq

/-- The identities of the 19 equipment slots. -/
abbrev SlotState := Vector (Option FormIdentity) 19

/-- The identity of a form, if the form is persistent and has a named file. -/
def makeFormIdentity : Option TESForm → Option FormIdentity
  | none => none
  | some form =>
    if form.formID = 0 ∨ 0xFF000000 ≤ form.formID then none
    else
      match form.file with
      | none => none
      | some file =>
        if file.filename = [] then none
        else some ⟨file.filename, form.getLocalFormID⟩

/-- The local form of an identity. -/
def GameData.resolveFormIdentity (game : GameData) (identity : FormIdentity) : Option TESForm :=
  if identity.plugin = [] ∨ identity.localFormID = 0 then none
  else game.lookupForm identity.localFormID identity.plugin

/-- An identity has a plugin. -/
theorem plugin_ne_nil_of_makeFormIdentity {form : Option TESForm} {identity : FormIdentity}
    (made : makeFormIdentity form = some identity) : identity.plugin ≠ [] := by
  unfold makeFormIdentity at made
  split at made
  · cases made
  · split_ifs at made
    split at made
    · cases made
    · split_ifs at made with unnamed
      cases made
      exact unnamed

/-- The local form ID of an identity is that of its form. -/
theorem localFormID_of_makeFormIdentity {form : TESForm} {identity : FormIdentity}
    (made : makeFormIdentity (some form) = some identity) :
    identity.localFormID = form.getLocalFormID := by
  simp only [makeFormIdentity] at made
  split_ifs at made
  split at made
  · cases made
  · split_ifs at made
    cases made
    rfl

/-- The iron sword of the base game. -/
def skyrimSword : FormIdentity := ⟨ascii "Skyrim.esm", 0x12EB7⟩

/-- One slot with the iron sword. -/
def swordSlots : SlotState := (Vector.replicate 19 none).set 0 (some skyrimSword)

/-- A game that knows the iron sword and nothing else. -/
def skyrim : GameData where
  lookupByID formID :=
    if formID = 0x12EB7 then some ⟨formID, some ⟨skyrimSword.plugin, false⟩⟩ else none
  lookupForm localFormID plugin :=
    if localFormID = skyrimSword.localFormID ∧ plugin = skyrimSword.plugin then
      some ⟨localFormID, some ⟨plugin, false⟩⟩
    else none

/-- The iron shield of the base game. -/
def skyrimShield : FormIdentity := ⟨ascii "Skyrim.esm", 0x12EB6⟩

/-- A game that knows the iron sword and the iron shield. -/
def armory : GameData where
  lookupByID formID :=
    if formID = 0x12EB7 ∨ formID = 0x12EB6 then some ⟨formID, some ⟨skyrimSword.plugin, false⟩⟩
    else none
  lookupForm localFormID plugin :=
    if (localFormID = 0x12EB7 ∨ localFormID = 0x12EB6) ∧ plugin = skyrimSword.plugin then
      some ⟨localFormID, some ⟨plugin, false⟩⟩
    else none

/-! ## Hexadecimal text -/

/-- `HexValue`: digits of either case. -/
def hexValue (ch : UInt8) : Option Nat :=
  if byteOf '0' ≤ ch ∧ ch ≤ byteOf '9' then some (ch.toNat - 48)
  else if byteOf 'a' ≤ ch ∧ ch ≤ byteOf 'f' then some (10 + ch.toNat - 97)
  else if byteOf 'A' ≤ ch ∧ ch ≤ byteOf 'F' then some (10 + ch.toNat - 65)
  else none

/-- One entry of the digit table of `HexEncode`. -/
def hexDigit (nibble : UInt8) : UInt8 := (ascii "0123456789ABCDEF").getD nibble.toNat 0

/-- `HexEncode`: two upper-case digits for each byte. -/
def hexEncode (value : ByteString) : ByteString :=
  value.flatMap fun ch : UInt8 => [hexDigit ((ch >>> 4) &&& 0x0F), hexDigit (ch &&& 0x0F)]

/-- The pair loop of `HexDecode`. -/
def hexDecodePairs : ByteString → Option ByteString
  | high :: low :: rest => do
    let highValue ← hexValue high
    let lowValue ← hexValue low
    let decoded ← hexDecodePairs rest
    some (((highValue <<< 4) ||| lowValue).toUInt8 :: decoded)
  | _ => some []

/-- `HexDecode`: an odd number of digits decodes to nothing. -/
def hexDecode (value : ByteString) : Option ByteString :=
  if value.length % 2 ≠ 0 then none else hexDecodePairs value

/-- The delimiters of the slot line, of the state text and of the packets. -/
def wireDelimiters : ByteString := ascii "|,:=\n"

/-! ## The slot line -/

/-- A slot on the wire: a dash, or the plugin in hex and the local FormID. -/
def encodeSlot : Option FormIdentity → ByteString
  | none => ascii "-"
  | some identity =>
    hexEncode identity.plugin ++ byteOf ':' :: formatHex identity.localFormID.toNat

/-- `EncodeSlots`: the nineteen slots with commas between them. -/
def encodeSlots (slots : SlotState) : ByteString :=
  [byteOf ','].intercalate (slots.toList.map encodeSlot)

/-- One comma-separated token; the bound check of the source against
`uint32_t` never fires, since `unsigned long` has 32 bits. -/
def decodeSlotToken (token : ByteString) : Option (Option FormIdentity) :=
  if token = [] then none
  else if token = ascii "-" then some none
  else do
    let separator ← find token (byteOf ':') 0
    let plugin ← hexDecode (substr token 0 separator)
    if plugin = [] then none
    else
      let localID ← stoul16 (token.drop (separator + 1))
      if localID = 0 then none else some (some ⟨plugin, localID⟩)

/-- The index loop of `DecodeSlots` with the number of slots still to fill: the
last slot must end the text, every other slot must not. -/
def decodeSlotTokens (value : ByteString) : Nat → Nat → Option (List (Option FormIdentity))
  | 0, _ => some []
  | remaining + 1, start => do
    let stop := find value (byteOf ',') start
    let slot ← decodeSlotToken (substr value start (stop.getD value.length - start))
    match stop with
    | none => if remaining = 0 then some [slot] else none
    | some stop =>
      if remaining = 0 then none
      else (decodeSlotTokens value remaining (stop + 1)).map (slot :: ·)

/-- `DecodeSlots`: exactly nineteen slots are accepted. -/
def decodeSlots (value : ByteString) : Option SlotState :=
  (decodeSlotTokens value 19 0).bind fun slots =>
    if size : slots.length = 19 then some ⟨slots.toArray, size⟩ else none

/-! ## Hexadecimal text is read back -/

/-- The digit of a nibble is read as that nibble. -/
theorem hexValue_hexDigit {nibble : Nat} (small : nibble < 16) :
    hexValue (hexDigit nibble.toUInt8) = some nibble := by
  interval_cases nibble <;> rfl

theorem hexDigit_bounds {nibble : Nat} (small : nibble < 16) :
    48 ≤ hexDigit nibble.toUInt8 ∧ hexDigit nibble.toUInt8 ≤ 57 ∨
      65 ≤ hexDigit nibble.toUInt8 ∧ hexDigit nibble.toUInt8 ≤ 70 := by
  interval_cases nibble <;> decide

/-- The digits of a byte are its two nibbles. -/
theorem hexEncode_cons (ch : UInt8) (value : ByteString) :
    hexEncode (ch :: value) =
      hexDigit (ch.toNat / 16).toUInt8 :: hexDigit (ch.toNat % 16).toUInt8 :: hexEncode value := by
  have fits := ch.toNat_lt
  have high : (ch >>> 4) &&& 0x0F = (ch.toNat / 16).toUInt8 := by
    apply UInt8.toNat_inj.mp
    have mask := Nat.and_two_pow_sub_one_eq_mod (ch.toNat / 2 ^ 4) 4
    simp [Nat.shiftRight_eq_div_pow] at mask ⊢
    omega
  have low : ch &&& 0x0F = (ch.toNat % 16).toUInt8 := by
    apply UInt8.toNat_inj.mp
    have mask := Nat.and_two_pow_sub_one_eq_mod ch.toNat 4
    simp at mask ⊢
    omega
  simp [hexEncode, high, low]

/-- Encoded text consists of upper-case hexadecimal digits. -/
theorem bounds_of_mem_hexEncode {value : ByteString} {byte : UInt8}
    (member : byte ∈ hexEncode value) : 48 ≤ byte ∧ byte ≤ 57 ∨ 65 ≤ byte ∧ byte ≤ 70 := by
  induction value with
  | nil => simp [hexEncode] at member
  | cons ch value ih =>
      have fits := ch.toNat_lt
      rw [hexEncode_cons, List.mem_cons, List.mem_cons] at member
      rcases member with rfl | rfl | member
      · exact hexDigit_bounds (by omega)
      · exact hexDigit_bounds (by omega)
      · exact ih member

/-- Encoded text has no delimiter in it. -/
theorem delimiter_not_mem_hexEncode {delimiter : UInt8} (wire : delimiter ∈ wireDelimiters)
    (value : ByteString) : delimiter ∉ hexEncode value := by
  intro member
  have outside : wireDelimiters.all fun delimiter =>
      ¬(48 ≤ delimiter ∧ delimiter ≤ 57 ∨ 65 ≤ delimiter ∧ delimiter ≤ 70) := rfl
  exact of_decide_eq_true (List.all_eq_true.mp outside delimiter wire)
    (bounds_of_mem_hexEncode member)

theorem hexEncode_length (value : ByteString) : (hexEncode value).length = 2 * value.length := by
  induction value with
  | nil => rfl
  | cons ch value ih =>
      rw [hexEncode_cons, List.length_cons, List.length_cons, ih, List.length_cons]
      omega

/-- Decoding inverts encoding on every byte string. -/
theorem hexDecode_hexEncode (value : ByteString) : hexDecode (hexEncode value) = some value := by
  have pairs : hexDecodePairs (hexEncode value) = some value := by
    induction value with
    | nil => rfl
    | cons ch value ih =>
        have fits := ch.toNat_lt
        have joined : (ch.toNat / 16) <<< 4 ||| ch.toNat % 16 = ch.toNat := by
          rw [← Nat.shiftLeft_add_eq_or_of_lt (by omega), Nat.shiftLeft_eq]
          omega
        rw [hexEncode_cons, hexDecodePairs, hexValue_hexDigit (by omega),
          hexValue_hexDigit (by omega), ih]
        simp only [Option.bind_eq_bind, Option.bind_some, joined]
        simp
  simp [hexDecode, hexEncode_length, pairs]

/-! ## The slot line is read back -/

/-- What the slot decoder demands of an identity. -/
def FormIdentity.Addressable (identity : FormIdentity) : Prop :=
  identity.plugin ≠ [] ∧ identity.localFormID ≠ 0

instance (identity : FormIdentity) : Decidable identity.Addressable :=
  inferInstanceAs (Decidable (_ ∧ _))

/-- Every occupied slot holds an identity the slot decoder accepts. -/
def Addressable (slots : SlotState) : Prop :=
  ∀ slot ∈ slots.toList, ∀ identity ∈ slot, identity.Addressable

instance (slots : SlotState) : Decidable (Addressable slots) :=
  inferInstanceAs (Decidable (∀ slot ∈ slots.toList, ∀ identity ∈ slot, identity.Addressable))

/-- The bytes a slot token can consist of: a dash, a colon and upper-case
hexadecimal digits. -/
theorem bounds_of_mem_encodeSlot {slot : Option FormIdentity} {byte : UInt8}
    (member : byte ∈ encodeSlot slot) :
    byte = 45 ∨ byte = 58 ∨ (48 ≤ byte ∧ byte ≤ 57) ∨ (65 ≤ byte ∧ byte ≤ 70) := by
  cases slot with
  | none => exact .inl (List.mem_singleton.mp member)
  | some identity =>
      simp only [encodeSlot, List.mem_append, List.mem_cons] at member
      rcases member with plugin | colon | number
      · exact .inr (.inr (bounds_of_mem_hexEncode plugin))
      · exact .inr (.inl colon)
      · exact .inr (.inr (bounds_of_mem_formatHex number))

/-- The bytes the slot line can consist of: those of its tokens and the comma. -/
theorem bounds_of_mem_encodeSlots {slots : SlotState} {byte : UInt8}
    (member : byte ∈ encodeSlots slots) :
    byte = 44 ∨ byte = 45 ∨ byte = 58 ∨ (48 ≤ byte ∧ byte ≤ 57) ∨ (65 ≤ byte ∧ byte ≤ 70) := by
  rcases mem_or_mem_of_mem_intercalate member with comma | ⟨token, among, digit⟩
  · exact .inl (List.mem_singleton.mp comma)
  · obtain ⟨slot, _, rfl⟩ := List.mem_map.mp among
    exact .inr (bounds_of_mem_encodeSlot digit)

/-- A slot token is read back if its identity is addressable, and refused
otherwise. -/
theorem decodeSlotToken_encodeSlot (slot : Option FormIdentity) :
    decodeSlotToken (encodeSlot slot) =
      if ∀ identity ∈ slot, identity.Addressable then some slot else none := by
  cases slot with
  | none => rfl
  | some identity =>
      have noColon : byteOf ':' ∉ hexEncode identity.plugin :=
        delimiter_not_mem_hexEncode (by decide) identity.plugin
      have separator := find_append_cons noColon (formatHex identity.localFormID.toNat)
      have token : encodeSlot (some identity) ≠ ascii "-" := by
        intro same
        have colon : byteOf ':' ∈ ascii "-" := same ▸ by simp [encodeSlot]
        exact absurd colon (by decide)
      have rest : (hexEncode identity.plugin ++ byteOf ':' ::
          formatHex identity.localFormID.toNat).drop ((hexEncode identity.plugin).length + 1) =
            formatHex identity.localFormID.toNat := by simp
      rw [decodeSlotToken, if_neg (by simp [encodeSlot]), if_neg token]
      simp only [encodeSlot, separator, Option.bind_eq_bind, Option.bind_some, substr_zero_start,
        List.take_left, hexDecode_hexEncode, rest, stoul16_formatHex, Option.mem_some_iff,
        forall_eq', FormIdentity.Addressable]
      split_ifs <;> simp_all

/-- The index loop decodes the comma-separated parts of the rest, and insists
on their number. -/
theorem decodeSlotTokens_eq (value : ByteString) (remaining start : Nat) :
    decodeSlotTokens value (remaining + 1) start =
      if ((value.drop start).splitOn (byteOf ',')).length = remaining + 1 then
        ((value.drop start).splitOn (byteOf ',')).mapM decodeSlotToken
      else none := by
  induction remaining generalizing start with
  | zero =>
      rw [decodeSlotTokens, splitOn_drop]
      cases found : find value (byteOf ',') start with
      | none =>
          simp [substr, List.take_of_length_le]
      | some stop => simp
  | succ remaining ih =>
      rw [decodeSlotTokens, splitOn_drop]
      cases found : find value (byteOf ',') start with
      | none => simp
      | some stop =>
          simp only [ih, Option.getD_some, List.length_cons, Nat.add_right_cancel_iff,
            List.mapM_cons, if_neg (Nat.succ_ne_zero remaining)]
          split_ifs <;> simp [Option.map_eq_bind]

/-- The tokens of a slot list are read back together or not at all. -/
theorem mapM_decodeSlotToken (slots : List (Option FormIdentity)) :
    (slots.map encodeSlot).mapM decodeSlotToken =
      if ∀ slot ∈ slots, ∀ identity ∈ slot, identity.Addressable then some slots else none := by
  induction slots with
  | nil => simp
  | cons slot slots ih =>
      rw [List.map_cons, List.mapM_cons, decodeSlotToken_encodeSlot, ih]
      by_cases head : ∀ identity ∈ slot, identity.Addressable
      · by_cases tail : ∀ slot ∈ slots, ∀ identity ∈ slot, identity.Addressable
        · rw [if_pos head, if_pos tail, if_pos (List.forall_mem_cons.mpr ⟨head, tail⟩)]
          rfl
        · rw [if_pos head, if_neg tail, if_neg fun all => tail (List.forall_mem_cons.mp all).2]
          rfl
      · rw [if_neg head, if_neg fun all => head (List.forall_mem_cons.mp all).1]
        rfl

/-- Encoding and decoding the slots succeeds exactly on addressable slots, and
then restores them. -/
theorem decodeSlots_encodeSlots (slots : SlotState) :
    decodeSlots (encodeSlots slots) = if Addressable slots then some slots else none := by
  have tokens : (encodeSlots slots).splitOn (byteOf ',') = slots.toList.map encodeSlot := by
    apply List.splitOn_intercalate
    · intro token member
      obtain ⟨slot, _, rfl⟩ := List.mem_map.mp member
      exact fun comma => absurd (bounds_of_mem_encodeSlot comma) (by decide)
    · simp [← List.length_eq_zero_iff]
  have whole := decodeSlotTokens_eq (encodeSlots slots) 18 0
  rw [List.drop_zero, tokens, if_pos (by simp), mapM_decodeSlotToken] at whole
  rw [decodeSlots, whole]
  by_cases accepted : Addressable slots
  · rw [if_pos (show ∀ slot ∈ slots.toList, _ from accepted), if_pos accepted]
    simp [Vector.toList]
  · rw [if_neg (show ¬ ∀ slot ∈ slots.toList, _ from accepted), if_neg accepted]
    rfl

/-- The slot decoder accepts a token only with a plugin and a nonzero ID. -/
theorem addressable_of_decodeSlotToken {token : ByteString} {slot : Option FormIdentity}
    (decoded : decodeSlotToken token = some slot) : ∀ identity ∈ slot, identity.Addressable := by
  unfold decodeSlotToken at decoded
  split_ifs at decoded
  · cases decoded
    simp
  · obtain ⟨_, _, located⟩ := Option.bind_eq_some_iff.mp decoded
    obtain ⟨plugin, _, read⟩ := Option.bind_eq_some_iff.mp located
    split_ifs at read with unnamed
    obtain ⟨localID, _, made⟩ := Option.bind_eq_some_iff.mp read
    split_ifs at made with zero
    cases made
    intro identity same
    cases same
    exact ⟨unnamed, zero⟩

/-- Accepted slots are addressable. -/
theorem addressable_of_decodeSlots {value : ByteString} {slots : SlotState}
    (decoded : decodeSlots value = some slots) : Addressable slots := by
  have tokens : ∀ (remaining start : Nat) (found : List (Option FormIdentity)),
      decodeSlotTokens value remaining start = some found →
      ∀ slot ∈ found, ∀ identity ∈ slot, identity.Addressable := by
    intro remaining
    induction remaining with
    | zero =>
        intro start found ended
        cases ended
        simp
    | succ remaining ih =>
        intro start found read
        obtain ⟨first, token, rest⟩ := Option.bind_eq_some_iff.mp read
        have head := addressable_of_decodeSlotToken token
        split at rest
        · split_ifs at rest
          cases rest
          simpa using head
        · split_ifs at rest
          obtain ⟨others, further, rfl⟩ := Option.map_eq_some_iff.mp rest
          exact List.forall_mem_cons.mpr ⟨head, ih _ others further⟩
  obtain ⟨found, read, sized⟩ := Option.bind_eq_some_iff.mp decoded
  split at sized
  · cases sized
    intro slot member
    exact tokens _ _ found read slot (by simpa [Vector.toList] using member)
  · cases sized

end IEDSyncTogether
