import IEDSyncTogether.State.FormIdentity

/-!
# The serialized local state

`EncodeLocalIEDState` and `DecodeLocalIEDState` on byte strings. The payload is
a header, one line of slots and one line per scene object; text fields are
hexadecimal, so no delimiter can come from a name.

The numbers of a state are exact decimals; the decoder is the same for `FloatValue`,
which has what `stof` can return besides them.
-/

namespace IEDSyncTogether

open Base

/-- An object fills an equipment slot or is a custom one. -/
inductive IEDObjectKind where
  | kSlot
  | kCustom
deriving DecidableEq

/-- An object of the equipment with its numbers, which are exact decimals or floats. -/
structure CapturedIEDObject (Number : Type := ExactFloat) where
  kind : IEDObjectKind
  form : FormIdentity
  slot : Option UInt32
  visible : Bool
  objectNode : ByteString
  attachmentNode : ByteString
  anchorNode : ByteString
  position : Vector Number 3
  rotationMatrix : Vector Number 9
  scale : Number
deriving DecidableEq

/-- The forms of the slots, and the objects shown. -/
structure LocalIEDState (Number : Type := ExactFloat) where
  slots : SlotState
  objects : List (CapturedIEDObject Number)
deriving DecidableEq

/-- The first line of every payload. -/
def kHeader : ByteString := ascii "IEDST_LOCAL_STATE_V1\n"

/-- The loop of `Split` from `start`; `out` holds the parts found so far. -/
def splitLoop (value : ByteString) (delimiter : UInt8) (start : Nat) (out : List ByteString) :
    List ByteString :=
  if start ≤ value.length then
    match _found : find value delimiter start with
    | none => out ++ [value.drop start]
    | some stop =>
      splitLoop value delimiter (stop + 1) (out ++ [substr value start (stop - start)])
  else out
termination_by value.length + 1 - start
decreasing_by
  have bounds := find_some_bounds _found
  omega

/-- `Split`: the texts between the delimiters, an empty one behind a last delimiter included. -/
def split (value : ByteString) (delimiter : UInt8) : List ByteString :=
  splitLoop value delimiter 0 []

/-- `ParseNumber<int>`: the whole text is one number in range. -/
def parseInt32 (text : ByteString) : Option Int :=
  match fromCharsInt32 text with
  | some (value, []) => some value
  | _ => none

/-- `ParseNumber<uint32_t>`: the whole text is one number in range. -/
def parseUInt32 (text : ByteString) : Option UInt32 :=
  match fromCharsUInt32 text with
  | some (value, []) => some value
  | _ => none

/-- A type of numbers that `ParseNumber` can read. -/
class FloatNumber (Number : Type) where
  read : ByteString → Option Number

/-- `ParseNumber<float>` takes what `stof` takes from the front of the text. -/
instance : FloatNumber FloatValue := ⟨stof⟩

/-- As an exact decimal, whatever its size. -/
@[default_instance]
instance : FloatNumber ExactFloat := ⟨readExactFloat⟩

/-- `ParseNumber<float>`, for floats and for exact decimals. -/
def parseFloat {Number : Type} [FloatNumber Number] (text : ByteString) : Option Number :=
  FloatNumber.read text

/-- `static_cast<int>` of a present slot, -1 for an absent one. -/
def slotNumber : Option UInt32 → Int
  | some slot => slot.toBitVec.toInt
  | none => -1

/-- The 21 fields of an object line. -/
def objectFields (object : CapturedIEDObject) : List ByteString :=
  [formatNat (if object.kind = .kSlot then 0 else 1),
    formatInt (slotNumber object.slot),
    hexEncode object.form.plugin,
    formatNat object.form.localFormID.toNat,
    formatNat (if object.visible then 1 else 0),
    hexEncode object.objectNode,
    hexEncode object.attachmentNode,
    hexEncode object.anchorNode,
    formatFixed 6 object.position[0],
    formatFixed 6 object.position[1],
    formatFixed 6 object.position[2],
    formatFixed 6 object.scale] ++
  object.rotationMatrix.toList.map (formatFixed 6)

/-- The line of the slots. -/
def slotLine (slots : SlotState) : ByteString := ascii "S|" ++ encodeSlots slots

/-- The line of an object. -/
def objectLine (object : CapturedIEDObject) : ByteString :=
  ascii "O|" ++ [byteOf '|'].intercalate (objectFields object)

/-- `EncodeLocalIEDState`: a header, the slots, and a line for each object. -/
def encodeLocalIEDState (state : LocalIEDState) : ByteString :=
  kHeader ++ slotLine state.slots ++ ascii "\n" ++
    state.objects.flatMap fun object => objectLine object ++ ascii "\n"

section Decoder

variable {Number : Type} [FloatNumber Number]

/-- The object of an `O|` line from its fields. -/
def decodeObject (fields : List ByteString) : Option (CapturedIEDObject Number) :=
  let field (index : Nat) : ByteString := fields.getD index []
  if fields.length ≠ 21 then none
  else do
    let kind ← parseInt32 (field 0)
    let slot ← parseInt32 (field 1)
    let localFormID ← parseUInt32 (field 3)
    let visible ← parseInt32 (field 4)
    let plugin ← hexDecode (field 2)
    let objectNode ← hexDecode (field 5)
    let attachmentNode ← hexDecode (field 6)
    let anchorNode ← hexDecode (field 7)
    let position ← collect fun index : Fin 3 => parseFloat (field (8 + index))
    let scale ← parseFloat (field 11)
    let rotationMatrix ← collect fun index : Fin 9 => parseFloat (field (12 + index))
    some {
      kind := if kind = 0 then .kSlot else .kCustom
      form := ⟨plugin, localFormID⟩
      slot := if 0 ≤ slot then some slot.toNat.toUInt32 else none
      visible := decide (visible ≠ 0)
      objectNode, attachmentNode, anchorNode, position, rotationMatrix, scale }

/-- The texts and integers of a line of an object. -/
structure ReadsTexts (fields : List ByteString) (object : CapturedIEDObject Number) : Prop where
  size : fields.length = 21
  kind : ∃ kind, parseInt32 (fields.getD 0 []) = some kind ∧
    (if kind = 0 then .kSlot else .kCustom) = object.kind
  slot : ∃ slot, parseInt32 (fields.getD 1 []) = some slot ∧
    (if 0 ≤ slot then some slot.toNat.toUInt32 else none) = object.slot
  localFormID : parseUInt32 (fields.getD 3 []) = some object.form.localFormID
  visible : ∃ visible, parseInt32 (fields.getD 4 []) = some visible ∧
    decide (visible ≠ 0) = object.visible
  plugin : hexDecode (fields.getD 2 []) = some object.form.plugin
  objectNode : hexDecode (fields.getD 5 []) = some object.objectNode
  attachmentNode : hexDecode (fields.getD 6 []) = some object.attachmentNode
  anchorNode : hexDecode (fields.getD 7 []) = some object.anchorNode

/-- The numbers of a line of an object. -/
structure ReadsNumbers (fields : List ByteString) (object : CapturedIEDObject Number) : Prop where
  position : ∀ index : Fin 3,
    parseFloat (fields.getD (8 + index) []) = some (object.position.get index)
  scale : parseFloat (fields.getD 11 []) = some object.scale
  rotationMatrix : ∀ index : Fin 9,
    parseFloat (fields.getD (12 + index) []) = some (object.rotationMatrix.get index)

/-- An object is decoded exactly if every field is read. -/
theorem decodeObject_eq_some_iff {fields : List ByteString} {object : CapturedIEDObject Number} :
    decodeObject fields = some object ↔ ReadsTexts fields object ∧ ReadsNumbers fields object := by
  simp only [decodeObject]
  split_ifs with size
  · simp only [false_iff, not_and]
    exact fun texts => absurd texts.size size
  simp only [Option.bind_eq_bind, Option.bind_eq_some_iff, Option.some.injEq,
    collect_eq_some_iff]
  constructor
  · rintro ⟨kind, isKind, slot, isSlot, _, isForm, visible, isVisible, _, isPlugin, _, isObject, _,
      isAttachment, _, isAnchor, _, positions, _, isScale, _, rotations, rfl⟩
    exact ⟨⟨not_not.mp size, ⟨kind, isKind, rfl⟩, ⟨slot, isSlot, rfl⟩, isForm,
      ⟨visible, isVisible, rfl⟩, isPlugin, isObject, isAttachment, isAnchor⟩,
      ⟨positions, isScale, rotations⟩⟩
  · obtain ⟨_, ⟨_, _⟩, _, _, _, _, _, _, _, _⟩ := object
    rintro ⟨⟨_, ⟨kind, isKind, rfl⟩, ⟨slot, isSlot, rfl⟩, isForm, ⟨visible, isVisible, rfl⟩,
      isPlugin, isObject, isAttachment, isAnchor⟩, ⟨positions, isScale, rotations⟩⟩
    exact ⟨kind, isKind, slot, isSlot, _, isForm, visible, isVisible, _, isPlugin, _, isObject, _,
      isAttachment, _, isAnchor, _, positions, _, isScale, _, rotations, rfl⟩

/-- The state under construction and whether a slot line was seen. -/
structure Decoding (Number : Type := ExactFloat) where
  state : LocalIEDState Number
  haveSlots : Bool

/-- The decoder in front of the first line. -/
def Decoding.empty : Decoding Number := ⟨⟨Vector.replicate 19 none, []⟩, false⟩

/-- One turn of the line loop of `DecodeLocalIEDState`. -/
def decodeLine (decoding : Decoding Number) (line : ByteString) : Option (Decoding Number) :=
  if line = [] then some decoding
  else if (ascii "S|").isPrefixOf line then do
    let slots ← decodeSlots (line.drop 2)
    some ⟨{ decoding.state with slots }, true⟩
  else if (ascii "O|").isPrefixOf line then do
    let object ← decodeObject (split (line.drop 2) (byteOf '|'))
    some { decoding with
      state := { decoding.state with objects := decoding.state.objects ++ [object] } }
  else none

/-- `DecodeLocalIEDState`: every line is decoded, and one of them has to be the slots. -/
def decodeLocalIEDState (payload : ByteString) : Option (LocalIEDState Number) :=
  if kHeader.isPrefixOf payload then do
    let decoding ← (split (payload.drop kHeader.length) (byteOf '\n')).foldlM decodeLine .empty
    if decoding.haveSlots then some decoding.state else none
  else none

end Decoder

/-- The loop of `Split` computes the core splitting of the rest. -/
theorem splitLoop_eq {value : ByteString} (delimiter : UInt8) {start : Nat}
    (out : List ByteString) (inside : start ≤ value.length) :
    splitLoop value delimiter start out = out ++ (value.drop start).splitOn delimiter := by
  induction start, out using splitLoop.induct value delimiter with
  | case1 start out _ found =>
      rw [splitLoop, if_pos inside, splitOn_drop]
      split
      · next missing => rw [missing]
      · next stop other => cases found.symm.trans other
  | case2 start out _ stop found ih =>
      have bounds := find_some_bounds found
      rw [splitLoop, if_pos inside, splitOn_drop]
      split
      · next missing => cases found.symm.trans missing
      · next other again =>
          cases found.symm.trans again
          rw [again, ih (by omega), List.append_assoc, List.singleton_append]
  | case3 start out outside => exact absurd inside outside

/-- `Split` is the core splitting on a delimiter. -/
theorem split_eq_splitOn (value : ByteString) (delimiter : UInt8) :
    split value delimiter = value.splitOn delimiter := by
  simpa [split] using splitLoop_eq delimiter [] (Nat.zero_le value.length)

/-- What one turn of the line loop does. -/
theorem decodeLine_cases {Number : Type} [FloatNumber Number] {decoding next : Decoding Number}
    {line : ByteString}
    (step : decodeLine decoding line = some next) :
    (line = [] ∧ next = decoding) ∨
      ((ascii "S|").isPrefixOf line = true ∧ ∃ slots, decodeSlots (line.drop 2) = some slots ∧
        next = ⟨{ decoding.state with slots }, true⟩) ∨
      ((ascii "S|").isPrefixOf line = false ∧ ∃ object,
        decodeObject ((line.drop 2).splitOn (byteOf '|')) = some object ∧
        next = { decoding with
          state := { decoding.state with objects := decoding.state.objects ++ [object] } }) := by
  unfold decodeLine at step
  split_ifs at step with blank slotLine objectLine
  · exact .inl ⟨blank, (Option.some.inj step).symm⟩
  · obtain ⟨slots, read, made⟩ := Option.bind_eq_some_iff.mp step
    exact .inr (.inl ⟨slotLine, slots, read, (Option.some.inj made).symm⟩)
  · obtain ⟨object, read, made⟩ := Option.bind_eq_some_iff.mp step
    rw [split_eq_splitOn] at read
    exact .inr (.inr
      ⟨Bool.eq_false_of_not_eq_true slotLine, object, read, (Option.some.inj made).symm⟩)

/-! ## The size of a payload -/

/-- A payload is not empty. -/
theorem encodeLocalIEDState_ne_nil (state : LocalIEDState) : encodeLocalIEDState state ≠ [] := by
  simp [encodeLocalIEDState, kHeader, ascii]

/-- A printed float has a digit, a point and six places. -/
theorem formatFixed_length_ge (value : ExactFloat) : 8 ≤ (formatFixed 6 value).length := by
  have digit : ∀ units, 0 < (formatNat units).length :=
    fun units => List.length_pos_iff.mpr (formatNat_ne_nil units)
  have whole := digit (roundHalfEven (value.magnitude * 10 ^ 6) / 10 ^ 6)
  unfold formatFixed
  simp only
  split <;> simp only [List.length_cons, List.length_append, List.length_map,
    paddedNumeral_length] <;> omega

/-- An object line takes at least 130 bytes. -/
theorem objectLine_length_ge (object : CapturedIEDObject) : 130 ≤ (objectLine object).length := by
  have number : ∀ value, 0 < (formatNat value).length :=
    fun value => List.length_pos_iff.mpr (formatNat_ne_nil value)
  have slot : 0 < (formatInt (slotNumber object.slot)).length := by
    unfold formatInt
    split
    · exact Nat.succ_pos _
    · exact number _
  have rotation : 72 ≤ ((object.rotationMatrix.toList.map (formatFixed 6)).map List.length).sum := by
    have eights := List.card_nsmul_le_sum
      ((object.rotationMatrix.toList.map (formatFixed 6)).map List.length) 8 ?_
    · simpa using eights
    · simp only [List.map_map, List.mem_map, forall_exists_index, and_imp,
        forall_apply_eq_imp_iff₂]
      exact fun value _ => formatFixed_length_ge value
  have kind := number (if object.kind = .kSlot then 0 else 1)
  have localID := number object.form.localFormID.toNat
  have visible := number (if object.visible then 1 else 0)
  have x := formatFixed_length_ge object.position[0]
  have y := formatFixed_length_ge object.position[1]
  have z := formatFixed_length_ge object.position[2]
  have scale := formatFixed_length_ge object.scale
  have mark : (ascii "O|").length = 2 := rfl
  rw [objectLine, List.length_append, length_intercalate_singleton, mark]
  simp only [objectFields, List.map_append, List.map_cons, List.map_nil, List.sum_append,
    List.sum_cons, List.sum_nil, List.length_append, List.length_cons, List.length_nil,
    List.length_map, Vector.length_toList]
  omega

/-- A payload has at least 131 bytes for every object. -/
theorem encodeLocalIEDState_length_ge (state : LocalIEDState) :
    131 * state.objects.length ≤ (encodeLocalIEDState state).length := by
  have lines : ∀ objects : List CapturedIEDObject, 131 * objects.length ≤
      (objects.flatMap fun object => objectLine object ++ ascii "\n").length := by
    intro objects
    induction objects with
    | nil => exact Nat.le_refl 0
    | cons object objects ih =>
        have line := objectLine_length_ge object
        have newline : (ascii "\n").length = 1 := rfl
        simp only [List.flatMap_cons, List.length_append, List.length_cons, newline]
        omega
  rw [encodeLocalIEDState, List.length_append]
  exact (lines state.objects).trans (Nat.le_add_left _ _)

end IEDSyncTogether
