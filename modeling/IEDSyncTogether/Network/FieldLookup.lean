import IEDSyncTogether.Base.FieldNames
import IEDSyncTogether.Network.Packet

/-!
# Reading a field by its name

`ReadField` searches `key=` in the whole packet. It gives the field of that name unless the
first place is inside another field: behind a longer name that ends with the key, or in a value.
-/

namespace IEDSyncTogether

open Base

variable {packet key : ByteString}

/-- The value of the first field of a packet that has the name. -/
def namedField (packet key : ByteString) : Option ByteString :=
  firstNamed (byteOf '=') key (packet.splitOn bar)

/-- A key is read as the value of the field with that name exactly if no other field of the
packet shadows it. -/
theorem readField_named_iff (pure : byteOf '=' ∉ key) (whole : bar ∉ key) :
    readField packet key = .ok (namedField packet key) ↔
      Unshadowed (key ++ ascii "=") (packet.splitOn bar) := by
  obtain ⟨head, tail, rfl, free⟩ := exists_joined bar packet
  have marked : bar ∉ key ++ [byteOf '='] := by
    rw [List.mem_append, not_or]
    exact ⟨whole, by decide⟩
  rw [readField_eq, Except.ok.injEq, fieldValue, namedField, splitOn_joined free,
    valueOf_joined marked (by simp)]
  exact valueOf_eq_firstNamed_iff pure free

/-- The instance ID of a plain packet is read as named. -/
theorem readField_named_instance :
    readField (ascii "IEDST|v1|id=A|from=42|relay=0|STATE|rev=7") (ascii "id") =
        .ok (namedField (ascii "IEDST|v1|id=A|from=42|relay=0|STATE|rev=7") (ascii "id")) ↔
      Unshadowed (ascii "id" ++ ascii "=")
        ((ascii "IEDST|v1|id=A|from=42|relay=0|STATE|rev=7").splitOn bar) :=
  readField_named_iff (by decide) (by decide)

/-- A field whose name ends with `rev` is read as the revision, and the field `rev` is not. -/
theorem shadowed_revision_read :
    readField (ascii "IEDST|v1|id=A|from=42|relay=0|STATE|lastrev=9|rev=3|slots=-")
        (ascii "rev") = .ok (some (ascii "9")) ∧
      namedField (ascii "IEDST|v1|id=A|from=42|relay=0|STATE|lastrev=9|rev=3|slots=-")
        (ascii "rev") = some (ascii "3") := by
  decide

end IEDSyncTogether
