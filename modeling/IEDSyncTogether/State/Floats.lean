import IEDSyncTogether.Base.NumberGrammar
import IEDSyncTogether.State.RoundTrip

/-!
# Floats and exact decimals

The decoder reads floats: a field may be a word for infinity or NaN, and a number beyond the
range of a float is refused. Read as exact decimals, a payload without those words has the
same numbers, so what holds of a decoded state of exact decimals in that range holds of the
floats before they are rounded.
-/

namespace IEDSyncTogether

open Base

/-! ## Objects -/

namespace CapturedIEDObject

variable {Number Other : Type}

/-- The object with other numbers. -/
def map (convert : Number → Other) (object : CapturedIEDObject Number) :
    CapturedIEDObject Other :=
  { object with
    position := object.position.map convert
    rotationMatrix := object.rotationMatrix.map convert
    scale := convert object.scale }

/-- Every number is one a float can hold. -/
structure InFloatRange (object : CapturedIEDObject) : Prop where
  position : ∀ index, Base.InFloatRange (object.position.get index).magnitude
  rotationMatrix : ∀ index, Base.InFloatRange (object.rotationMatrix.get index).magnitude
  scale : Base.InFloatRange object.scale.magnitude

end CapturedIEDObject

section Decoder

variable {fields : List ByteString} {object : CapturedIEDObject}

/-- The numbers of a line are floats exactly if they are exact decimals in their range. -/
theorem readsNumbers_finite_iff :
    ReadsNumbers fields (object.map FloatValue.finite) ↔
      ReadsNumbers fields object ∧ object.InFloatRange := by
  have position (index : Fin 3) : (object.map FloatValue.finite).position.get index =
      .finite (object.position.get index) := by simp [CapturedIEDObject.map]
  have rotation (index : Fin 9) : (object.map FloatValue.finite).rotationMatrix.get index =
      .finite (object.rotationMatrix.get index) := by simp [CapturedIEDObject.map]
  constructor
  · rintro ⟨positions, scale, rotations⟩
    obtain ⟨scale, scaled⟩ := stof_eq_finite_iff.mp scale
    have placed (index : Fin 3) :=
      stof_eq_finite_iff.mp ((positions index).trans (congrArg some (position index)))
    have turned (index : Fin 9) :=
      stof_eq_finite_iff.mp ((rotations index).trans (congrArg some (rotation index)))
    exact ⟨⟨fun index => (placed index).1, scale, fun index => (turned index).1⟩,
      ⟨fun index => (placed index).2, fun index => (turned index).2, scaled⟩⟩
  · rintro ⟨⟨positions, scale, rotations⟩, ⟨placed, turned, scaled⟩⟩
    refine ⟨fun index => ?_, stof_eq_finite_iff.mpr ⟨scale, scaled⟩, fun index => ?_⟩
    · rw [position]
      exact stof_eq_finite_iff.mpr ⟨positions index, placed index⟩
    · rw [rotation]
      exact stof_eq_finite_iff.mpr ⟨rotations index, turned index⟩

/-- A line of an object holds floats exactly if it holds exact decimals in their range. -/
theorem decodeObject_finite_iff :
    decodeObject fields = some (object.map FloatValue.finite) ↔
      decodeObject fields = some object ∧ object.InFloatRange := by
  have texts : ReadsTexts fields (object.map FloatValue.finite) ↔ ReadsTexts fields object :=
    ⟨fun texts => { texts with }, fun texts => { texts with }⟩
  rw [decodeObject_eq_some_iff, decodeObject_eq_some_iff, texts, readsNumbers_finite_iff, and_assoc]

end Decoder

/-! ## States -/

/-- The state with other numbers in its objects. -/
def LocalIEDState.map {Number Other : Type} (convert : Number → Other)
    (state : LocalIEDState Number) : LocalIEDState Other :=
  ⟨state.slots, state.objects.map (CapturedIEDObject.map convert)⟩

/-- Every number of every object is one a float can hold. -/
def LocalIEDState.InFloatRange (state : LocalIEDState) : Prop :=
  ∀ object ∈ state.objects, object.InFloatRange

/-- The decoder in between with other numbers. -/
def Decoding.map {Number Other : Type} (convert : Number → Other) (decoding : Decoding Number) :
    Decoding Other :=
  ⟨decoding.state.map convert, decoding.haveSlots⟩

section Lines

variable {decoding last : Decoding} {line : ByteString} {lines : List ByteString}

/-- A line that leads to exact decimals in the range of floats leads to the floats. -/
theorem decodeLine_finite (step : decodeLine decoding line = some last)
    (range : last.state.InFloatRange) :
    decodeLine (decoding.map FloatValue.finite) line = some (last.map FloatValue.finite) ∧
      decoding.state.InFloatRange := by
  unfold decodeLine at step ⊢
  split_ifs at step ⊢ with blank slotLine objectLine
  · cases step
    exact ⟨rfl, range⟩
  · obtain ⟨slots, read, made⟩ := Option.bind_eq_some_iff.mp step
    cases made
    rw [read]
    exact ⟨rfl, range⟩
  · obtain ⟨object, read, made⟩ := Option.bind_eq_some_iff.mp step
    cases made
    have ranged := range object (List.mem_append_right _ (List.mem_singleton_self object))
    rw [decodeObject_finite_iff.mpr ⟨read, ranged⟩]
    refine ⟨?_, fun other member => range other (List.mem_append_left _ member)⟩
    simp [Decoding.map, LocalIEDState.map]

/-- A line that leads to floats has exact decimals in front of it and leads to theirs. -/
theorem exists_of_decodeLine_finite {floats : Decoding FloatValue}
    (step : decodeLine floats line = some (last.map FloatValue.finite)) :
    ∃ decoding : Decoding, floats = decoding.map FloatValue.finite ∧
      decodeLine decoding line = some last ∧
      (decoding.state.InFloatRange → last.state.InFloatRange) := by
  obtain ⟨⟨slots, objects⟩, haveSlots⟩ := last
  obtain ⟨⟨before, earlier⟩, seen⟩ := floats
  unfold decodeLine at step ⊢
  split_ifs at step ⊢ with blank slotLine objectLine
  · cases step
    exact ⟨_, rfl, rfl, id⟩
  · obtain ⟨slots, read, made⟩ := Option.bind_eq_some_iff.mp step
    cases made
    exact ⟨⟨⟨before, objects⟩, seen⟩, rfl, by rw [read]; rfl, id⟩
  · obtain ⟨object, read, made⟩ := Option.bind_eq_some_iff.mp step
    simp only [Decoding.map, LocalIEDState.map, Option.some.injEq, Decoding.mk.injEq,
      LocalIEDState.mk.injEq] at made
    obtain ⟨⟨rfl, listed⟩, rfl⟩ := made
    obtain ⟨front, back, rfl, rfl, single⟩ := List.map_eq_append_iff.mp listed.symm
    obtain ⟨number, rfl, rfl⟩ := List.map_eq_singleton_iff.mp single
    obtain ⟨decoded, ranged⟩ := decodeObject_finite_iff.mp read
    refine ⟨⟨⟨before, front⟩, seen⟩, rfl, by rw [decoded]; rfl, fun range other member => ?_⟩
    rcases List.mem_append.mp member with among | new
    · exact range other among
    · rw [List.mem_singleton.mp new]
      exact ranged

/-- The line loop ends with floats exactly if it ends with exact decimals in their range. -/
theorem foldlM_decodeLine_finite_iff :
    lines.foldlM decodeLine .empty = some (last.map FloatValue.finite) ↔
      lines.foldlM decodeLine .empty = some last ∧ last.state.InFloatRange := by
  induction lines using List.reverseRecOn generalizing last with
  | nil =>
      obtain ⟨⟨slots, objects⟩, haveSlots⟩ := last
      constructor
      · intro made
        cases objects with
        | nil =>
            cases made
            exact ⟨rfl, nofun⟩
        | cons object objects => cases made
      · rintro ⟨made, _⟩
        cases made
        rfl
  | append_singleton lines line ih =>
      simp only [List.foldlM_append, List.foldlM_cons, List.foldlM_nil, Option.bind_eq_bind,
        Option.bind_eq_some_iff, Option.pure_def, Option.some.injEq, exists_eq_right]
      constructor
      · rintro ⟨floats, front, step⟩
        obtain ⟨decoding, rfl, step, range⟩ := exists_of_decodeLine_finite step
        obtain ⟨front, ranged⟩ := ih.mp front
        exact ⟨⟨decoding, front, step⟩, range ranged⟩
      · rintro ⟨⟨decoding, front, step⟩, range⟩
        obtain ⟨step, ranged⟩ := decodeLine_finite step range
        exact ⟨_, ih.mpr ⟨front, ranged⟩, step⟩

end Lines

/-- A payload is decoded to floats exactly if it is decoded to exact decimals in their range. -/
theorem decodeLocalIEDState_finite_iff {payload : ByteString} {state : LocalIEDState} :
    decodeLocalIEDState payload = some (state.map FloatValue.finite) ↔
      decodeLocalIEDState payload = some state ∧ state.InFloatRange := by
  unfold decodeLocalIEDState
  split_ifs with header
  · simp only [Option.bind_eq_bind, Option.bind_eq_some_iff, Option.ite_none_right_eq_some,
      Option.some.injEq]
    constructor
    · rintro ⟨⟨floats, _⟩, folded, rfl, rfl⟩
      let last : Decoding := ⟨state, true⟩
      have ended : _ = some (last.map FloatValue.finite) := folded
      obtain ⟨folded, range⟩ := foldlM_decodeLine_finite_iff.mp ended
      exact ⟨⟨last, folded, rfl, rfl⟩, range⟩
    · rintro ⟨⟨decoding, folded, complete, rfl⟩, range⟩
      exact ⟨_, foldlM_decodeLine_finite_iff.mpr ⟨folded, range⟩, complete, rfl⟩
  · simp

/-- An encoded state is decoded to floats with its rounded numbers, if a float can hold them. -/
theorem decode_encode_floats {state : LocalIEDState} (addressable : Addressable state.slots)
    (bounded : ∀ object ∈ state.objects, object.SlotBounded)
    (range : state.rounded.InFloatRange) :
    decodeLocalIEDState (encodeLocalIEDState state) =
      some (state.rounded.map FloatValue.finite) := by
  refine decodeLocalIEDState_finite_iff.mpr ⟨?_, range⟩
  rw [decode_encode bounded, if_pos addressable]

end IEDSyncTogether
