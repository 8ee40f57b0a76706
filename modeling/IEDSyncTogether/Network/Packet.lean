import IEDSyncTogether.Base.Fields
import IEDSyncTogether.State.FormIdentity

/-!
# Packets and their authentication

The field functions of `UdpTransport` on byte strings. A packet is a text of fields
between bars; its tag is the HMAC of the packet without its last `auth` field. Every
string operation that can throw is checked, and the lemmas below say what each
function computes. The system's HMAC-SHA256 is the parameter `HmacDigest`.
-/

namespace IEDSyncTogether

open Base

/-- The start of every hello. -/
def kDiscoveryPrefix : ByteString := ascii "IEDSTDISC|v1|HELLO|"

/-- The start of every gameplay packet. -/
def kGameplayPrefix : ByteString := ascii "IEDST|v1|"

/-- The label of the tag. -/
def kAuthField : ByteString := ascii "|auth="

/-- The bar between two fields. -/
abbrev bar : UInt8 := byteOf '|'

/-- The digest of data under a secret; none if a system call fails. -/
abbrev HmacDigest := ByteString → ByteString → Option ByteString

/-- One entry of the digit table of `ComputeHmacSha256`. -/
def lowerHexDigit (nibble : UInt8) : UInt8 := (ascii "0123456789abcdef").getD nibble.toNat 0

/-- The tag of a text in lower-case hexadecimal digits, if the system computes one. -/
def computeHmacSha256 (digest : HmacDigest) (secret data : ByteString) : Option ByteString :=
  (digest secret data).map fun bytes =>
    bytes.flatMap fun byte : UInt8 =>
      [lowerHexDigit ((byte >>> 4) &&& 0x0F), lowerHexDigit (byte &&& 0x0F)]

/-- `SanitizeField`: bars and line breaks become underscores, and an empty field a default. -/
def sanitizeField (value : ByteString) : ByteString :=
  let cleaned := value.map fun ch =>
    if ch = bar ∨ ch = byteOf '\r' ∨ ch = byteOf '\n' then byteOf '_' else ch
  if cleaned = [] then ascii "Player" else cleaned

/-- A sanitized name is not empty. -/
theorem sanitizeField_ne_nil (value : ByteString) : sanitizeField value ≠ [] := by
  simp only [sanitizeField]
  split
  · decide
  · assumption

/-- The three equal `ReadField` functions of the transports and the service. -/
def readField (packet key : ByteString) : Except StringError (Option ByteString) :=
  let needle := key ++ ascii "="
  match findText needle packet with
  | none => .ok none
  | some found => do
    let position := found + needle.length
    let stop := (find packet bar position).getD packet.length
    let value ← substrFrom packet position (some (stop - position))
    return some value

/-- `RemoveAuthField`: the last tag is cut out, up to the bar behind it. -/
def removeAuthField (packet : ByteString) : Except StringError ByteString :=
  match rfindText kAuthField packet with
  | none => .ok packet
  | some authPosition => do
    let result ← substrFrom packet 0 (some authPosition)
    match find packet bar (authPosition + kAuthField.length) with
    | none => return result
    | some nextField => do
      let rest ← substrFrom packet nextField none
      return result ++ rest

/-- `SignPacket`: the tag of the packet without its tag is appended; without a secret there is
none. -/
def signPacket (digest : HmacDigest) (sharedSecret packet : ByteString) :
    Except StringError ByteString := do
  let packet ← removeAuthField packet
  if sharedSecret = [] then return packet
  else
    match computeHmacSha256 digest sharedSecret packet with
    | none => return []
    | some tag => return packet ++ kAuthField ++ tag

/-- The comparison of two tags of one length without an early exit. -/
def tagDifference (supplied expected : ByteString) : UInt8 :=
  (supplied.zip expected).foldl (fun difference pair => difference ||| (pair.1 ^^^ pair.2)) 0

/-- `AuthenticatePacket`: the last tag is compared with the one of the rest of the packet. -/
def authenticatePacket (digest : HmacDigest) (sharedSecret packet : ByteString) :
    Except StringError Bool :=
  if sharedSecret = [] then .ok true
  else
    match rfindText kAuthField packet with
    | none => .ok false
    | some authPosition => do
      let tagStart := authPosition + kAuthField.length
      let tagEnd := find packet bar tagStart
      let supplied ← substrFrom packet tagStart (tagEnd.map (· - tagStart))
      let signed ← removeAuthField packet
      match computeHmacSha256 digest sharedSecret signed with
      | none => return false
      | some expected =>
        if supplied.length ≠ expected.length then return false
        else return tagDifference supplied expected = 0

/-- `MarkRelayed`: the first local mark becomes the relay's, and the packet is signed again. -/
def markRelayed (digest : HmacDigest) (sharedSecret packet : ByteString) :
    Except StringError ByteString := do
  let result ← removeAuthField packet
  let localMarker := ascii "|relay=0|"
  let marked ←
    match findText localMarker result with
    | some marker => replaceAt result marker localMarker.length (ascii "|relay=1|")
    | none => insertAt result kGameplayPrefix.length (ascii "relay=1|")
  signPacket digest sharedSecret marked

/-! ## What the functions compute -/

/-- The value of a key, as a packet's fields give it. -/
def fieldValue (packet key : ByteString) : Option ByteString :=
  valueOf bar (key ++ [byteOf '=']) packet

/-- The packet without its last `auth` field. -/
def withoutAuth (packet : ByteString) : ByteString := cutLast bar (ascii "auth=") packet

/-- The text up to the next bar is what a search and a cut give. -/
theorem substr_find (packet : ByteString) (position : Nat) :
    substr packet position ((find packet bar position).getD packet.length - position) =
      (packet.drop position).takeWhile (· ≠ bar) := by
  cases found : find packet bar position with
  | none =>
      rw [takeWhile_of_free (find_eq_none_iff.mp found), Option.getD_none, substr,
        List.take_of_length_le (by simp)]
  | some stop =>
      obtain ⟨absent, shape⟩ := find_some_split found
      rw [shape, takeWhile_append_cons, takeWhile_of_free absent, Option.getD_some]

/-- The text from a position to the next bar. -/
theorem substrFrom_find {packet : ByteString} {position : Nat}
    (inside : position ≤ packet.length) :
    substrFrom packet position ((find packet bar position).map (· - position)) =
      .ok ((packet.drop position).takeWhile (· ≠ bar)) := by
  rw [substrFrom_of_le inside, ← substr_find]
  cases find packet bar position with
  | none => rw [substr, substr, List.take_of_length_le (by simp), List.take_of_length_le (by simp)]
  | some stop => rfl

/-- The text from the next bar on is what a search and a cut give. -/
theorem drop_find (packet : ByteString) (position : Nat) :
    (find packet bar position).elim [] packet.drop =
      (packet.drop position).dropWhile (· ≠ bar) := by
  cases found : find packet bar position with
  | none => rw [dropWhile_of_free (find_eq_none_iff.mp found), Option.elim_none]
  | some stop =>
      obtain ⟨absent, shape⟩ := find_some_split found
      obtain ⟨_, inside⟩ := find_some_bounds found
      have count : (substr packet position (stop - position)).length = stop - position := by
        simp only [substr, List.length_take, List.length_drop]
        omega
      have item : packet.drop stop = bar :: packet.drop (stop + 1) := by
        calc packet.drop stop = (packet.drop position).drop (stop - position) := by
              rw [List.drop_drop, Nat.add_sub_cancel' (by omega)]
          _ = bar :: packet.drop (stop + 1) := by rw [shape, List.drop_left' count]
      rw [shape, dropWhile_append_cons, dropWhile_of_free absent, Option.elim_some, item,
        List.nil_append]

/-- `ReadField` throws nothing and reads the value of the key. -/
@[simp] theorem readField_eq (packet key : ByteString) :
    readField packet key = .ok (fieldValue packet key) := by
  have needle : key ++ ascii "=" = key ++ [byteOf '='] := rfl
  rw [readField, fieldValue, valueOf, needle]
  cases found : findText (key ++ [byteOf '=']) packet with
  | none => rfl
  | some position =>
      have inside := findText_le found
      simp only [substrFrom_of_le inside, Option.getD_some, substr_find]
      rfl

/-- `RemoveAuthField` throws nothing and takes the tag off. -/
@[simp] theorem removeAuthField_eq (packet : ByteString) :
    removeAuthField packet = .ok (withoutAuth packet) := by
  have field : kAuthField = bar :: ascii "auth=" := rfl
  rw [removeAuthField, withoutAuth, cutLast, field]
  cases found : rfindText (bar :: ascii "auth=") packet with
  | none => rfl
  | some position =>
      have front : substrFrom packet 0 (some position) = .ok (packet.take position) :=
        substrFrom_of_le (Nat.zero_le _) _
      simp only [front, ← drop_find packet, bind, Except.bind]
      cases next : find packet bar (position + (bar :: ascii "auth=").length) with
      | none => rw [Option.elim_none, List.append_nil]; rfl
      | some stop =>
          obtain ⟨_, within⟩ := find_some_bounds next
          simp only [substrFrom_none (Nat.le_of_lt within), Option.elim_some]
          rfl

/-- The content with its tag; nothing if the HMAC fails. -/
def signed (digest : HmacDigest) (sharedSecret content : ByteString) : ByteString :=
  if sharedSecret = [] then content
  else (computeHmacSha256 digest sharedSecret content).elim [] (content ++ kAuthField ++ ·)

/-- `SignPacket` throws nothing and signs the packet without its tag. -/
@[simp] theorem signPacket_eq (digest : HmacDigest) (sharedSecret packet : ByteString) :
    signPacket digest sharedSecret packet =
      .ok (signed digest sharedSecret (withoutAuth packet)) := by
  simp only [signPacket, removeAuthField_eq, signed, bind, Except.bind]
  split
  · rfl
  · cases computeHmacSha256 digest sharedSecret (withoutAuth packet) <;> rfl

/-- The collected difference is zero for equal tags only. -/
theorem foldl_difference_eq_zero_iff {supplied expected : ByteString}
    (sizes : supplied.length = expected.length) (start : UInt8) :
    (supplied.zip expected).foldl (fun difference pair => difference ||| (pair.1 ^^^ pair.2)) start
      = 0 ↔ start = 0 ∧ supplied = expected := by
  induction supplied generalizing expected start with
  | nil => simp [List.length_eq_zero_iff.mp sizes.symm]
  | cons item supplied ih =>
      cases expected with
      | nil => cases sizes
      | cons other expected =>
          rw [List.zip_cons_cons, List.foldl_cons, ih (Nat.succ.inj sizes), UInt8.or_eq_zero_iff,
            UInt8.xor_eq_zero_iff, List.cons.injEq, and_assoc]

/-- Two tags of one length differ nowhere exactly if they are equal. -/
theorem tagDifference_eq_zero_iff {supplied expected : ByteString}
    (sizes : supplied.length = expected.length) :
    tagDifference supplied expected = 0 ↔ supplied = expected := by
  rw [tagDifference, foldl_difference_eq_zero_iff sizes, eq_self_iff_true, true_and]

/-- A packet is authentic if its last tag is the one of its content. -/
def authentic (digest : HmacDigest) (sharedSecret packet : ByteString) : Bool :=
  sharedSecret = [] ∨
    ∃ tag ∈ computeHmacSha256 digest sharedSecret (withoutAuth packet),
      lastValue bar (ascii "auth=") packet = some tag

/-- `AuthenticatePacket` throws nothing and compares the tags. -/
@[simp] theorem authenticatePacket_eq (digest : HmacDigest) (sharedSecret packet : ByteString) :
    authenticatePacket digest sharedSecret packet = .ok (authentic digest sharedSecret packet) := by
  have field : kAuthField = bar :: ascii "auth=" := rfl
  rw [authenticatePacket, authentic, lastValue, field]
  by_cases unset : sharedSecret = []
  · simp [unset]
  · cases found : rfindText (bar :: ascii "auth=") packet with
    | none => simp [unset]
    | some position =>
        have inside := rfindText_le found
        simp only [unset, if_false, substrFrom_find inside, removeAuthField_eq, bind, Except.bind,
          Option.map_some, Option.some.injEq, false_or]
        cases computeHmacSha256 digest sharedSecret (withoutAuth packet) with
        | none => simp [pure, Except.pure]
        | some expected =>
            generalize (packet.drop (position + (bar :: ascii "auth=").length)).takeWhile
              (· ≠ bar) = supplied
            by_cases sizes : supplied.length = expected.length
            · simp [sizes, tagDifference_eq_zero_iff sizes, pure, Except.pure, eq_comm]
            · have differs : expected ≠ supplied := fun same => sizes (congrArg List.length same).symm
              simp [sizes, differs, pure, Except.pure]

/-- Marking never fails on the searches and the signature, only on the insertion. -/
theorem markRelayed_eq (digest : HmacDigest) (sharedSecret packet : ByteString) :
    markRelayed digest sharedSecret packet =
      match replaceFirst bar (ascii "relay=0") (ascii "relay=1") (withoutAuth packet) with
      | some marked => .ok (signed digest sharedSecret (withoutAuth marked))
      | none =>
        (insertAt (withoutAuth packet) kGameplayPrefix.length (ascii "relay=1|")).map
          fun marked => signed digest sharedSecret (withoutAuth marked) := by
  have before : ascii "|relay=0|" = bar :: (ascii "relay=0" ++ [bar]) := rfl
  have after : ascii "|relay=1|" = bar :: (ascii "relay=1" ++ [bar]) := rfl
  rw [markRelayed, replaceFirst, before, after]
  simp only [removeAuthField_eq, signPacket_eq, bind, Except.bind]
  cases found : findText (bar :: (ascii "relay=0" ++ [bar])) (withoutAuth packet) with
  | none =>
      cases insertAt (withoutAuth packet) kGameplayPrefix.length (ascii "relay=1|") <;> rfl
  | some position =>
      have inside : position ≤ (withoutAuth packet).length := by
        have bound := findText_le found
        omega
      simp only [replaceAt_of_le inside, Option.map_some]

/-- A tag has neither a bar nor an equals sign. -/
theorem plain_of_computeHmacSha256 {digest : HmacDigest} {sharedSecret content tag : ByteString}
    (computed : computeHmacSha256 digest sharedSecret content = some tag) :
    bar ∉ tag ∧ byteOf '=' ∉ tag := by
  have table (nibble : UInt8) : lowerHexDigit nibble ∈ 0 :: ascii "0123456789abcdef" := by
    rw [lowerHexDigit, List.getD_eq_getElem?_getD]
    cases entry : (ascii "0123456789abcdef")[nibble.toNat]? with
    | none => exact List.mem_cons_self
    | some digit => exact List.mem_cons_of_mem _ (List.mem_of_getElem? entry)
  have digits : ∀ byte ∈ tag, byte ∈ 0 :: ascii "0123456789abcdef" := by
    obtain ⟨bytes, _, rfl⟩ := Option.map_eq_some_iff.mp computed
    intro byte member
    obtain ⟨source, _, pair⟩ := List.mem_flatMap.mp member
    rcases List.mem_pair.mp pair with rfl | rfl <;> exact table _
  exact ⟨fun member => absurd (digits _ member) (by decide),
    fun member => absurd (digits _ member) (by decide)⟩

end IEDSyncTogether
