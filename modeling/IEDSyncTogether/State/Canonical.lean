import IEDSyncTogether.State.RoundTrip

/-!
# Encoding an accepted payload again

The decoder is lenient, but every state it builds lies where the encoder can be
inverted: its slots are addressable and its slot indices fit an `int`. Encoding
such a state and decoding it again only rounds the numbers, and rounding does not
change the text, so the text of a state is a signature of the rounded state.
-/

namespace IEDSyncTogether

open Base

/-- An accepted state has slots the wire format can carry. -/
theorem addressable_of_decodeLocalIEDState {payload : ByteString} {state : LocalIEDState}
    (decoded : decodeLocalIEDState payload = some state) : Addressable state.slots := by
  refine @decodeLocalIEDState_induction (fun state => Addressable state.slots) ?_ ?_ ?_ _ _ decoded
  · intro slot member
    rw [List.eq_of_mem_replicate (by simpa [Decoding.empty] using member : slot ∈
      List.replicate 19 none)]
    simp
  · exact fun _ _ _ read _ => addressable_of_decodeSlots read
  · exact fun _ _ _ _ addressable => addressable

/-- Rounding the numbers of an object does not change its line. -/
theorem objectLine_rounded (object : CapturedIEDObject) :
    objectLine object.rounded = objectLine object := by
  have position (index : Fin 3) : formatFixed 6 object.rounded.position[index] =
      formatFixed 6 object.position[index] := by
    simp [CapturedIEDObject.rounded, formatFixed_quantize]
  have rotation : object.rounded.rotationMatrix.toList.map (formatFixed 6) =
      object.rotationMatrix.toList.map (formatFixed 6) := by
    simp [CapturedIEDObject.rounded, Vector.toList_map, Function.comp_def, formatFixed_quantize]
  have scale : formatFixed 6 object.rounded.scale = formatFixed 6 object.scale :=
    formatFixed_quantize 6 object.scale
  have x : formatFixed 6 object.rounded.position[0] = formatFixed 6 object.position[0] := position 0
  have y : formatFixed 6 object.rounded.position[1] = formatFixed 6 object.position[1] := position 1
  have z : formatFixed 6 object.rounded.position[2] = formatFixed 6 object.position[2] := position 2
  have fields : objectFields object.rounded = objectFields object := by
    simp only [objectFields, x, y, z, scale, rotation]
    rfl
  rw [objectLine, objectLine, fields]

/-- Rounding the numbers of a state does not change its text. -/
theorem encodeLocalIEDState_rounded (state : LocalIEDState) :
    encodeLocalIEDState state.rounded = encodeLocalIEDState state := by
  simp only [encodeLocalIEDState, LocalIEDState.rounded, List.flatMap_map, objectLine_rounded]

/-- Encoding an accepted payload again is canonical: the state comes back with its
numbers rounded and with the same text, and two accepted payloads have one text
exactly if their states agree up to that rounding. -/
theorem reencoding_canonical {payload : ByteString} {state : LocalIEDState}
    (decoded : decodeLocalIEDState payload = some state) :
    decodeLocalIEDState (encodeLocalIEDState state) = some state.rounded ∧
      encodeLocalIEDState state.rounded = encodeLocalIEDState state ∧
      ∀ other otherState, decodeLocalIEDState other = some otherState →
        (encodeLocalIEDState otherState = encodeLocalIEDState state ↔
          otherState.rounded = state.rounded) := by
  have addressable := addressable_of_decodeLocalIEDState decoded
  have bounded := slotBounded_of_decodeLocalIEDState decoded
  refine ⟨?_, encodeLocalIEDState_rounded state, ?_⟩
  · rw [decode_encode bounded, if_pos addressable]
  · intro other otherState accepted
    constructor
    · exact rounded_eq_of_encode_eq (slotBounded_of_decodeLocalIEDState accepted) bounded
        (addressable_of_decodeLocalIEDState accepted)
    · intro same
      rw [← encodeLocalIEDState_rounded otherState, same, encodeLocalIEDState_rounded]

/-- A payload with two slot lines, a blank line, and digits no encoder writes. -/
def lenientPayload : ByteString :=
  kHeader ++ ascii "S|-,-,-,-,-,-,-,-,-,-,-,-,-,-,-,-,-,-,-\n\n" ++
    ascii "S|6b: +0x12eb7zz,-,-,-,-,-,-,-,-,-,-,-,-,-,-,-,-,-,-"

/-- A payload in another notation is written canonically. -/
theorem lenientPayload_canonical :
    let state : LocalIEDState :=
      ⟨(Vector.replicate 19 none).set 0 (some ⟨ascii "k", 0x12EB7⟩) (by decide), []⟩
    decodeLocalIEDState lenientPayload = some state ∧
      decodeLocalIEDState (encodeLocalIEDState state) = some state.rounded := by
  intro state
  have decoded : decodeLocalIEDState lenientPayload = some state := by
    rw [decodeLocalIEDState, split_eq_splitOn]
    decide
  exact ⟨decoded, (reencoding_canonical decoded).1⟩

end IEDSyncTogether
