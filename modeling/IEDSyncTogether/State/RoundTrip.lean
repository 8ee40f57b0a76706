import IEDSyncTogether.State.TextFields
import Mathlib.Tactic.FinCases

/-!
# Decoding an encoded state

Every layer of the format is inverted by its own lemma: fields, object lines,
the list of lines. `decode_encode` states the result for every state with
representable slot indices: the decoder either refuses the slots or returns the
state with its numbers rounded to the six printed places.
-/

namespace IEDSyncTogether

open Base

namespace CapturedIEDObject

/-- The object with its numbers rounded to the printed places. -/
def rounded (object : CapturedIEDObject) : CapturedIEDObject :=
  { object with
    position := object.position.map (ExactFloat.quantize roundHalfEven 6)
    rotationMatrix := object.rotationMatrix.map (ExactFloat.quantize roundHalfEven 6)
    scale := object.scale.quantize roundHalfEven 6 }

/-- The slot index survives the cast to `int`. -/
def SlotBounded (object : CapturedIEDObject) : Prop :=
  ∀ slot ∈ object.slot, slot.toNat < 2 ^ 31

instance (object : CapturedIEDObject) : Decidable object.SlotBounded :=
  inferInstanceAs (Decidable (∀ slot ∈ object.slot, slot.toNat < 2 ^ 31))

/-- Every number is an exact decimal with six fractional digits. -/
structure OnGrid (object : CapturedIEDObject) : Prop where
  position : ∀ value ∈ object.position, ExactFloat.OnGrid 6 value
  rotationMatrix : ∀ value ∈ object.rotationMatrix, ExactFloat.OnGrid 6 value
  scale : ExactFloat.OnGrid 6 object.scale

/-- An object with equal coordinates on the grid is on the grid. -/
theorem onGrid_of_replicate {object : CapturedIEDObject} {place turn : ExactFloat}
    (placed : object.position = Vector.replicate 3 place)
    (turned : object.rotationMatrix = Vector.replicate 9 turn) (onPlace : ExactFloat.OnGrid 6 place)
    (onTurn : ExactFloat.OnGrid 6 turn) (onScale : ExactFloat.OnGrid 6 object.scale) :
    object.OnGrid := by
  refine ⟨?_, ?_, onScale⟩
  · intro value member
    rw [placed] at member
    rwa [Vector.eq_of_mem_replicate member]
  · intro value member
    rw [turned] at member
    rwa [Vector.eq_of_mem_replicate member]

/-- Rounding changes nothing on the grid. -/
theorem OnGrid.rounded_eq {object : CapturedIEDObject} (exact : object.OnGrid) :
    object.rounded = object := by
  have fixes {value : ExactFloat} (onGrid : ExactFloat.OnGrid 6 value) :
      value.quantize roundHalfEven 6 = value :=
    ExactFloat.quantize_of_onGrid roundHalfEven_natCast onGrid
  have position : object.position.map (ExactFloat.quantize roundHalfEven 6) = object.position := by
    ext index within
    simp [fixes (exact.position _ (Vector.getElem_mem within))]
  have rotation : object.rotationMatrix.map (ExactFloat.quantize roundHalfEven 6) =
      object.rotationMatrix := by
    ext index within
    simp [fixes (exact.rotationMatrix _ (Vector.getElem_mem within))]
  simp only [rounded, position, rotation, fixes exact.scale]

end CapturedIEDObject

/-- The state with the numbers of its objects rounded to the printed places. -/
def LocalIEDState.rounded (state : LocalIEDState) : LocalIEDState :=
  { state with objects := state.objects.map CapturedIEDObject.rounded }

/-! ## Fields -/

/-- The bytes a field can consist of: sign, point and upper-case digits. -/
def FieldByte (byte : UInt8) : Prop :=
  byte = 45 ∨ byte = 46 ∨ (48 ≤ byte ∧ byte ≤ 57) ∨ (65 ≤ byte ∧ byte ≤ 70)

instance (byte : UInt8) : Decidable (FieldByte byte) :=
  inferInstanceAs (Decidable (_ ∨ _ ∨ _ ∨ _))

/-- No field contains a delimiter. -/
theorem fieldByte_of_mem_objectFields {object : CapturedIEDObject} {field : ByteString}
    {byte : UInt8} (inside : field ∈ objectFields object) (member : byte ∈ field) :
    FieldByte byte := by
  have nat : ∀ {value}, byte ∈ formatNat value → FieldByte byte :=
    fun within => .inr (.inr (.inl (bounds_of_mem_formatNat within)))
  have int : ∀ {value}, byte ∈ formatInt value → FieldByte byte := fun within =>
    (bounds_of_mem_formatInt within).imp id fun digit => .inr (.inl digit)
  have hex : ∀ {value}, byte ∈ hexEncode value → FieldByte byte :=
    fun within => .inr (.inr (bounds_of_mem_hexEncode within))
  have float : ∀ {value}, byte ∈ formatFixed 6 value → FieldByte byte := fun within =>
    (bounds_of_mem_formatFixed within).imp id (Or.imp id .inl)
  simp only [objectFields, List.mem_append, List.mem_cons, List.not_mem_nil, or_false,
    List.mem_map] at inside
  rcases inside with (rfl | rfl | rfl | rfl | rfl | rfl | rfl | rfl | rfl | rfl | rfl | rfl) |
    ⟨value, _, rfl⟩
  · exact nat member
  · exact int member
  · exact hex member
  · exact nat member
  · exact nat member
  · exact hex member
  · exact hex member
  · exact hex member
  · exact float member
  · exact float member
  · exact float member
  · exact float member
  · exact float member

theorem parseInt32_formatNat_bit (bit : Bool) :
    parseInt32 (formatNat (if bit then 1 else 0)) = some (if bit then 1 else 0) := by
  cases bit <;> decide

theorem parseInt32_formatInt_slotNumber (slot : Option UInt32) :
    parseInt32 (formatInt (slotNumber slot)) = some (slotNumber slot) := by
  have lower : -2 ^ 31 ≤ slotNumber slot := by
    cases slot with
    | none => decide
    | some slot => exact BitVec.le_toInt slot.toBitVec
  have upper : slotNumber slot < 2 ^ 31 := by
    cases slot with
    | none => decide
    | some slot => exact BitVec.toInt_lt
  simp [parseInt32, fromCharsInt32_formatInt lower upper]

theorem parseUInt32_formatNat (value : UInt32) :
    parseUInt32 (formatNat value.toNat) = some value := by
  simp [parseUInt32, fromCharsUInt32_formatNat]

/-- A slot index below 2^31 is recovered from its signed form. -/
theorem slotNumber_restores {slot : Option UInt32} (bounded : ∀ index ∈ slot, index.toNat < 2 ^ 31) :
    (if 0 ≤ slotNumber slot then some (slotNumber slot).toNat.toUInt32 else none) = slot := by
  cases slot with
  | none => decide
  | some index =>
      have small := bounded index rfl
      have value : slotNumber (some index) = (index.toNat : Int) := by
        rw [slotNumber, BitVec.toInt_eq_toNat_of_lt]
        · rfl
        · change 2 * index.toNat < 2 ^ 32
          omega
      simp [value]

/-- A printed number is read back rounded. -/
theorem parseFloat_formatFixed (places : Nat) (value : ExactFloat) :
    parseFloat (formatFixed places value) = some (value.quantize roundHalfEven places) :=
  readExactFloat_formatFixed places value

/-- The fields of an object are read back up to the rounding of its numbers. -/
theorem decodeObject_objectFields {object : CapturedIEDObject} (bounded : object.SlotBounded) :
    decodeObject (objectFields object) = some object.rounded := by
  have text (index : Nat) (value : ByteString)
      (same : (objectFields object).getD index [] = hexEncode value) :
      hexDecode ((objectFields object).getD index []) = some value := by
    rw [same, hexDecode_hexEncode]
  have kind : parseInt32 ((objectFields object).getD 0 []) =
      some (if object.kind = .kSlot then 0 else 1) := by
    cases same : object.kind <;> simp [objectFields, same] <;> decide
  refine decodeObject_eq_some_iff.mpr ⟨?texts, ?numbers⟩
  case texts =>
    exact {
      size := by simp [objectFields]
      kind := ⟨if object.kind = .kSlot then 0 else 1, kind, by
        cases same : object.kind <;> simp [CapturedIEDObject.rounded, same]⟩
      slot := ⟨slotNumber object.slot, parseInt32_formatInt_slotNumber object.slot,
        slotNumber_restores bounded⟩
      localFormID := parseUInt32_formatNat object.form.localFormID
      visible := ⟨if object.visible then 1 else 0, parseInt32_formatNat_bit object.visible, by
        cases same : object.visible <;> simp [CapturedIEDObject.rounded, same]⟩
      plugin := text 2 _ rfl
      objectNode := text 5 _ rfl
      attachmentNode := text 6 _ rfl
      anchorNode := text 7 _ rfl }
  case numbers =>
    refine ⟨fun index => ?_, parseFloat_formatFixed 6 object.scale, fun index => ?_⟩
    · fin_cases index <;>
        simp [objectFields, parseFloat_formatFixed, CapturedIEDObject.rounded]
    · have entry : (objectFields object).getD (12 + index) [] =
          formatFixed 6 object.rotationMatrix[index] := by
        rw [List.getD_eq_getElem?_getD, objectFields, List.getElem?_append_right (by simp)]
        simp
      rw [entry, parseFloat_formatFixed]
      simp [CapturedIEDObject.rounded]

/-! ## Lines -/

/-- The fields of an object line are the parts between its bars. -/
theorem split_objectLine (object : CapturedIEDObject) :
    split ((objectLine object).drop 2) (byteOf '|') = objectFields object := by
  have body : (objectLine object).drop 2 = [byteOf '|'].intercalate (objectFields object) := rfl
  rw [body]
  apply split_intercalate
  · simp [objectFields]
  · intro field inside bar
    exact absurd (fieldByte_of_mem_objectFields inside bar) (by decide)

/-- An object line appends its object. -/
theorem decodeLine_objectLine {object : CapturedIEDObject} (bounded : object.SlotBounded)
    (decoding : Decoding) :
    decodeLine decoding (objectLine object) = some { decoding with
      state := { decoding.state with
        objects := decoding.state.objects ++ [object.rounded] } } := by
  have shape : objectLine object = byteOf 'O' :: byteOf '|' ::
      [byteOf '|'].intercalate (objectFields object) := rfl
  have notSlots : (ascii "S|").isPrefixOf (objectLine object) = false := by rw [shape]; rfl
  have isObject : (ascii "O|").isPrefixOf (objectLine object) = true := by
    rw [shape]
    simp [ascii, byteOf, List.isPrefixOf]
  rw [decodeLine, if_neg (by simp [shape]), if_neg (by simp [notSlots]), if_pos isObject,
    split_objectLine, decodeObject_objectFields bounded]
  rfl

/-- The slot line sets the slots, or refuses the payload. -/
theorem decodeLine_slotLine (slots : SlotState) (decoding : Decoding) :
    decodeLine decoding (slotLine slots) =
      if Addressable slots then some ⟨{ decoding.state with slots }, true⟩ else none := by
  have shape : slotLine slots = byteOf 'S' :: byteOf '|' :: encodeSlots slots := rfl
  have isSlots : (ascii "S|").isPrefixOf (slotLine slots) = true := by
    rw [shape]
    simp [ascii, byteOf, List.isPrefixOf]
  have body : (slotLine slots).drop 2 = encodeSlots slots := rfl
  rw [decodeLine, if_neg (by simp [shape]), if_pos isSlots, body, decodeSlots_encodeSlots]
  split_ifs <;> rfl

/-- The object lines are decoded in their order. -/
theorem foldlM_objectLines {objects : List CapturedIEDObject}
    (bounded : ∀ object ∈ objects, object.SlotBounded) (decoding : Decoding) :
    (objects.map objectLine).foldlM decodeLine decoding = some { decoding with
      state := { decoding.state with
        objects := decoding.state.objects ++ objects.map CapturedIEDObject.rounded } } := by
  induction objects generalizing decoding with
  | nil => simp
  | cons object objects ih =>
      have head := decodeLine_objectLine (bounded object List.mem_cons_self) decoding
      have tail := ih fun other member => bounded other (List.mem_cons_of_mem _ member)
      simp only [List.map_cons, List.foldlM_cons, head, Option.bind_eq_bind, Option.bind_some,
        tail, List.append_assoc, List.singleton_append]

/-- The lines of an encoded state, with the empty part behind the last newline. -/
def payloadLines (state : LocalIEDState) : List ByteString :=
  slotLine state.slots :: (state.objects.map objectLine ++ [[]])

/-- No line contains a newline. -/
theorem newline_not_mem_payloadLines {state : LocalIEDState} {line : ByteString}
    (member : line ∈ payloadLines state) : byteOf '\n' ∉ line := by
  intro newline
  simp only [payloadLines, List.mem_cons, List.mem_append, List.mem_map, List.not_mem_nil,
    or_false] at member
  rcases member with rfl | ⟨object, _, rfl⟩ | rfl
  · rcases List.mem_append.mp newline with mark | inside
    · exact absurd mark (by decide)
    · exact absurd (bounds_of_mem_encodeSlots inside) (by decide)
  · rcases List.mem_append.mp newline with mark | inside
    · exact absurd mark (by decide)
    · rcases mem_or_mem_of_mem_intercalate inside with bar | ⟨field, among, within⟩
      · exact absurd bar (by decide)
      · exact absurd (fieldByte_of_mem_objectFields among within) (by decide)
  · simp at newline

/-- The text behind the header is the lines joined by newlines. -/
theorem encodeLocalIEDState_eq (state : LocalIEDState) :
    encodeLocalIEDState state = kHeader ++ [byteOf '\n'].intercalate (payloadLines state) := by
  have joined := intercalate_append_nil (byteOf '\n')
    (slotLine state.slots :: state.objects.map objectLine)
  rw [payloadLines, ← List.cons_append, joined, List.flatMap_cons, List.flatMap_map]
  simp only [encodeLocalIEDState, List.append_assoc]
  rfl

/-- Decoding an encoded state with representable slot indices: the slots decide
acceptance, and an accepted state comes back with rounded numbers. -/
theorem decode_encode {state : LocalIEDState}
    (bounded : ∀ object ∈ state.objects, object.SlotBounded) :
    decodeLocalIEDState (encodeLocalIEDState state) =
      if Addressable state.slots then some state.rounded else none := by
  have lines : split ((encodeLocalIEDState state).drop kHeader.length) (byteOf '\n') =
      payloadLines state := by
    rw [encodeLocalIEDState_eq, List.drop_left]
    exact split_intercalate (by simp [payloadLines]) fun _ => newline_not_mem_payloadLines
  have header : kHeader.isPrefixOf (encodeLocalIEDState state) = true := by
    rw [encodeLocalIEDState_eq, List.isPrefixOf_iff_prefix]
    exact List.prefix_append _ _
  rw [decodeLocalIEDState, if_pos header, lines, payloadLines, List.foldlM_cons,
    decodeLine_slotLine]
  by_cases accepted : Addressable state.slots
  · simp only [if_pos accepted, Option.bind_eq_bind, Option.bind_some, List.foldlM_append,
      foldlM_objectLines bounded]
    rfl
  · simp only [if_neg accepted]
    rfl

theorem lt_of_parseInt32 {text : ByteString} {value : Int} (parsed : parseInt32 text = some value) :
    value < 2 ^ 31 := by
  unfold parseInt32 at parsed
  split at parsed
  · next number read =>
      cases parsed
      simp only [fromCharsInt32] at read
      split_ifs at read with _ _ outside
      all_goals
        obtain ⟨same, _⟩ := Prod.mk.inj (Option.some.inj read)
        omega
  · cases parsed

/-- A decoded slot index is one `int` can hold. -/
theorem slotBounded_of_decodeObject {fields : List ByteString} {object : CapturedIEDObject}
    (decoded : decodeObject fields = some object) : object.SlotBounded := by
  obtain ⟨slot, parsed, restored⟩ := (decodeObject_eq_some_iff.mp decoded).1.slot
  have small := lt_of_parseInt32 parsed
  intro index found
  rw [← restored] at found
  simp only [Option.mem_def, Option.ite_none_right_eq_some, Option.some.injEq] at found
  obtain ⟨_, rfl⟩ := found
  rw [Nat.toUInt32, UInt32.toNat_ofNat_of_lt']
  · omega
  · change _ < 2 ^ 32
    omega

/-- What holds of the empty state and is kept by every accepted line holds of every
accepted state. -/
theorem decodeLocalIEDState_induction {holds : LocalIEDState → Prop}
    (empty : holds Decoding.empty.state)
    (slotLine : ∀ state slots text, decodeSlots text = some slots → holds state →
      holds { state with slots })
    (objectLine : ∀ state object fields, decodeObject fields = some object → holds state →
      holds { state with objects := state.objects ++ [object] })
    {payload : ByteString} {state : LocalIEDState}
    (decoded : decodeLocalIEDState payload = some state) : holds state := by
  have lines : ∀ (rest : List ByteString) (decoding last : Decoding), holds decoding.state →
      rest.foldlM decodeLine decoding = some last → holds last.state := by
    intro rest
    induction rest with
    | nil =>
        intro decoding last valid done
        cases done
        exact valid
    | cons line rest ih =>
        intro decoding last valid done
        rw [List.foldlM_cons] at done
        obtain ⟨next, step, further⟩ := Option.bind_eq_some_iff.mp done
        refine ih next last ?_ further
        obtain ⟨_, rfl⟩ | ⟨_, slots, read, rfl⟩ | ⟨_, object, read, rfl⟩ := decodeLine_cases step
        · exact valid
        · exact slotLine _ _ _ read valid
        · exact objectLine _ _ _ read valid
  unfold decodeLocalIEDState at decoded
  split_ifs at decoded
  obtain ⟨last, folded, present⟩ := Option.bind_eq_some_iff.mp decoded
  split_ifs at present
  cases present
  exact lines _ _ _ empty folded

/-- A decoded state has slot indices the wire format can carry. -/
theorem slotBounded_of_decodeLocalIEDState {payload : ByteString} {state : LocalIEDState}
    (decoded : decodeLocalIEDState payload = some state) :
    ∀ object ∈ state.objects, object.SlotBounded := by
  refine @decodeLocalIEDState_induction (fun state => ∀ object ∈ state.objects,
    object.SlotBounded) ?_ ?_ ?_ _ _ decoded
  · simp [Decoding.empty]
  · exact fun _ _ _ _ bounded => bounded
  · intro earlier object fields read bounded other member
    rcases List.mem_append.mp member with known | new
    · exact bounded other known
    · rw [List.mem_singleton.mp new]
      exact slotBounded_of_decodeObject read

/-- Two states with the same text, one of them acceptable, agree up to rounding. -/
theorem rounded_eq_of_encode_eq {first second : LocalIEDState}
    (firstBounded : ∀ object ∈ first.objects, object.SlotBounded)
    (secondBounded : ∀ object ∈ second.objects, object.SlotBounded)
    (addressable : Addressable first.slots)
    (same : encodeLocalIEDState first = encodeLocalIEDState second) :
    first.rounded = second.rounded := by
  have decoded := decode_encode firstBounded
  rw [same, decode_encode secondBounded, if_pos addressable] at decoded
  split at decoded
  · exact (Option.some.inj decoded).symm
  · cases decoded

/-- Rounding changes nothing when every object lies on the grid. -/
theorem LocalIEDState.rounded_eq {state : LocalIEDState}
    (exact : ∀ object ∈ state.objects, object.OnGrid) : state.rounded = state := by
  have objects : state.objects.map CapturedIEDObject.rounded = state.objects := by
    conv_rhs => rw [← List.map_id state.objects]
    exact List.map_congr_left fun object member => (exact object member).rounded_eq
  simp only [LocalIEDState.rounded, objects]

/-- Decode undoes encode over the whole wire format. -/
theorem decodeLocalIEDState_encodeLocalIEDState (state : LocalIEDState)
    (addressable : Addressable state.slots)
    (bounded : ∀ object ∈ state.objects, object.SlotBounded)
    (exact : ∀ object ∈ state.objects, object.OnGrid) :
    decodeLocalIEDState (encodeLocalIEDState state) = some state := by
  rw [decode_encode bounded, if_pos addressable, state.rounded_eq exact]

/-- A helmet at the waist with a bar and a newline in its node names. -/
def waistHelmet : CapturedIEDObject where
  kind := .kCustom
  form := ⟨ascii "Armor|s.esp", 0x12EB7⟩
  slot := none
  visible := true
  objectNode := ascii "OBJECT [00012EB7]"
  attachmentNode := ascii "OBJECT R Extra\nPelvis"
  anchorNode := []
  position := Vector.replicate 3 ⟨true, 1 / 8⟩
  rotationMatrix := Vector.replicate 9 ⟨false, 1⟩
  scale := ⟨true, 0⟩

/-- A state with an occupied slot and a custom object is read back. -/
theorem waistHelmet_state_read_back :
    let state : LocalIEDState :=
      ⟨swordSlots, [waistHelmet]⟩
    decodeLocalIEDState (encodeLocalIEDState state) = some state := by
  apply decodeLocalIEDState_encodeLocalIEDState
  · decide
  · simp [CapturedIEDObject.SlotBounded, waistHelmet]
  · simp only [List.mem_singleton, forall_eq]
    exact CapturedIEDObject.onGrid_of_replicate rfl rfl ⟨125000, by norm_num⟩
      ⟨1000000, by norm_num⟩ ⟨0, by norm_num [waistHelmet]⟩

end IEDSyncTogether
