import IEDSyncTogether.State.LocalIEDState

/-!
# IED scene nodes

What the capture and the renderer share about a node of the game's scene: the
form ID in the name of a generated object, and the local transform.
-/

namespace IEDSyncTogether

open Base

/-- The eight-digit loop of `ParseIEDObjectFormID`. -/
def parseFormIDDigits : ByteString → UInt32 → Option UInt32
  | [], value => some value
  | ch :: rest, value => do
    let digit ← hexValue ch
    parseFormIDDigits rest ((value <<< 4) ||| digit.toUInt32)

/-- The form ID between the first `[` of an `OBJECT …` name and the eighth
digit behind it. -/
def parseIEDObjectFormID (name : ByteString) : Option FormID :=
  if (ascii "OBJECT ").isPrefixOf name then do
    let bracket ← find name (byteOf '[') 0
    if name.length < bracket + 9 then none
    else
      let value ← parseFormIDDigits (substr name (bracket + 1) 8) 0
      if value = 0 then none else some value
  else none

/-- A local transform, the rotation matrix row by row. -/
structure NiTransform where
  rotate : Vector ExactFloat 9
  translate : Vector ExactFloat 3
  scale : ExactFloat
deriving DecidableEq

/-- A parsed form ID is never zero. -/
theorem parseIEDObjectFormID_ne_zero {name : ByteString} {formID : FormID}
    (parsed : parseIEDObjectFormID name = some formID) : formID ≠ 0 := by
  unfold parseIEDObjectFormID at parsed
  split at parsed
  · obtain ⟨bracket, _, rest⟩ := Option.bind_eq_some_iff.mp parsed
    split at rest
    · cases rest
    · obtain ⟨value, _, nonzero⟩ := Option.bind_eq_some_iff.mp rest
      split at nonzero
      · cases nonzero
      · next positive =>
          cases nonzero
          exact positive
  · cases parsed

example : parseIEDObjectFormID (ascii "OBJECT Sword [0001Ab0f]x") = some 0x1AB0F := by decide

end IEDSyncTogether
