import IEDSyncTogether.Network.Packet

/-!
# What a tag covers

A signature cuts the last `auth` field and appends a new one. The check finds that one and
cuts it again, so both see the same content.

The receiver checks the tag on the packet without its last `auth` field and then reads the
whole packet. An accepted `auth` field holds the tag alone, and no key of the handlers ends
the word `auth`. The handlers read nothing but what the tag covers.
-/

namespace IEDSyncTogether

open Base

variable {digest : HmacDigest} {sharedSecret packet : ByteString}

/-- The keys `UdpTransport` and `SyncService` read from a packet. -/
def handlerKeys : List ByteString :=
  [ascii "id", ascii "name", ascii "port", ascii "observed", ascii "from", ascii "relay",
    ascii "rev", ascii "slots"]

/-- An authentic packet is its content with one field for the tag. -/
theorem exists_of_authentic (keyed : sharedSecret ≠ [])
    (accepted : authentic digest sharedSecret packet = true) :
    ∃ head front back tag,
      packet = joined bar head (front ++ (ascii "auth=" ++ tag) :: back) ∧
      withoutAuth packet = joined bar head (front ++ back) ∧
      computeHmacSha256 digest sharedSecret (withoutAuth packet) = some tag := by
  simp only [authentic, keyed, false_or, decide_eq_true_eq] at accepted
  obtain ⟨tag, computed, last⟩ := accepted
  obtain ⟨head, tail, rfl, free⟩ := exists_joined bar packet
  have pure : bar ∉ ascii "auth=" := by decide
  have among : tail.any (ascii "auth=").isPrefixOf = true := by
    obtain ⟨position, found, _⟩ := Option.map_eq_some_iff.mp last
    rw [← rfindText_joined_isSome free pure, found, Option.isSome_some]
  obtain ⟨front, field, back, rfl, starts, later, erased⟩ := exists_of_any among
  obtain ⟨value, rfl⟩ := List.isPrefixOf_iff_prefix.mp starts
  have same : value = tag := Option.some.inj ((lastValue_joined free later).symm.trans last)
  refine ⟨head, front, back, tag, by rw [same], ?_, computed⟩
  rw [withoutAuth, cutLast_joined free pure, erased]

/-- A tag put behind a content is the last one, and cutting it gives the content back. -/
theorem append_tag (content : ByteString) {tag : ByteString} (whole : bar ∉ tag) :
    withoutAuth (content ++ kAuthField ++ tag) = content ∧
      lastValue bar (ascii "auth=") (content ++ kAuthField ++ tag) = some tag := by
  obtain ⟨head, tail, rfl, free⟩ := exists_joined bar content
  have pure : bar ∉ ascii "auth=" := by decide
  have field : bar ∉ ascii "auth=" ++ tag := by
    rw [List.mem_append, not_or]
    exact ⟨pure, whole⟩
  have shape : joined bar head tail ++ kAuthField ++ tag =
      joined bar head (tail ++ [ascii "auth=" ++ tag]) := by
    rw [joined_append, List.append_assoc, List.flatMap_singleton]
    rfl
  have extended : FreeOf bar (head :: (tail ++ [ascii "auth=" ++ tag])) := by
    rw [FreeOf, ← List.cons_append, List.forall_mem_append]
    exact ⟨free, by simpa using field⟩
  have starts : (ascii "auth=").isPrefixOf (ascii "auth=" ++ tag) = true :=
    List.isPrefixOf_iff_prefix.mpr (List.prefix_append _ _)
  rw [shape, withoutAuth, cutLast_joined extended pure, eraseLast_append, lastValue_joined extended rfl]
  simp [eraseLast, starts]

/-- A signed packet is accepted under the same secret. -/
theorem authentic_signed {content : ByteString}
    (computes : sharedSecret ≠ [] → (computeHmacSha256 digest sharedSecret content).isSome = true) :
    authentic digest sharedSecret (signed digest sharedSecret content) = true := by
  by_cases unset : sharedSecret = []
  · simp [authentic, unset]
  · obtain ⟨tag, computed⟩ := Option.isSome_iff_exists.mp (computes unset)
    obtain ⟨cut, last⟩ := append_tag content (plain_of_computeHmacSha256 computed).1
    simp only [authentic, signed, unset, if_false, computed, Option.elim_some, cut, last]
    simp

/-- The field of a tag has no value under a key of the handlers. -/
theorem valueOf_auth {content tag key : ByteString}
    (computed : computeHmacSha256 digest sharedSecret content = some tag)
    (known : key ∈ handlerKeys) :
    valueOf bar (key ++ [byteOf '=']) (ascii "auth=" ++ tag) = none := by
  have keys : ∀ key ∈ handlerKeys, byteOf '=' ∉ key ∧ key.isSuffixOf (ascii "auth") = false := by
    decide
  obtain ⟨pure, other⟩ := keys key known
  obtain ⟨whole, plain⟩ := plain_of_computeHmacSha256 computed
  have field : ascii "auth=" ++ tag = ascii "auth" ++ byteOf '=' :: tag := rfl
  rw [field, valueOf_label pure (by decide) plain whole, other]
  rfl

/-- The handlers read from an authentic packet what its content holds. -/
theorem fieldValue_withoutAuth (keyed : sharedSecret ≠ [])
    (accepted : authentic digest sharedSecret packet = true) {key : ByteString}
    (known : key ∈ handlerKeys) : fieldValue packet key = fieldValue (withoutAuth packet) key := by
  obtain ⟨head, front, back, tag, shape, content, computed⟩ := exists_of_authentic keyed accepted
  have free : ∀ key ∈ handlerKeys, bar ∉ key ++ [byteOf '='] := by decide
  rw [content, shape, fieldValue, fieldValue, valueOf_joined (free key known) (by simp),
    valueOf_joined (free key known) (by simp), List.findSome?_cons, List.findSome?_cons,
    List.findSome?_append, List.findSome?_append, List.findSome?_cons,
    valueOf_auth computed known]

/-- Whatever an authenticated receiver reads is covered by the tag: the handlers' fields
are those of the signed content, and packets with one signed content agree on them. -/
theorem authenticated_fields_covered (keyed : sharedSecret ≠ [])
    (accepted : authenticatePacket digest sharedSecret packet = .ok true) :
    (∃ content, removeAuthField packet = .ok content ∧
      ∀ key ∈ handlerKeys, readField packet key = readField content key) ∧
    ∀ other, authenticatePacket digest sharedSecret other = .ok true →
      removeAuthField other = removeAuthField packet →
      ∀ key ∈ handlerKeys, readField other key = readField packet key := by
  rw [authenticatePacket_eq, Except.ok.injEq] at accepted
  constructor
  · refine ⟨withoutAuth packet, removeAuthField_eq packet, fun key known => ?_⟩
    rw [readField_eq, readField_eq, fieldValue_withoutAuth keyed accepted known]
  · intro other moved same key known
    rw [authenticatePacket_eq, Except.ok.injEq] at moved
    rw [removeAuthField_eq, removeAuthField_eq, Except.ok.injEq] at same
    rw [readField_eq, readField_eq, fieldValue_withoutAuth keyed accepted known,
      fieldValue_withoutAuth keyed moved known, same]

/-- The content of a signed packet of the instance `A`. -/
def signedContent : ByteString := ascii "IEDST|v1|id=A|from=42|relay=0|STATE|rev=7|slots=-"

/-- HMAC-SHA256 on the content above under the secret `secret`. -/
def sampleDigest : HmacDigest := fun sharedSecret data =>
  if sharedSecret = ascii "secret" ∧ data = signedContent then
    some [80, 128, 114, 139, 123, 91, 185, 92, 29, 208, 130, 15, 157, 211, 246, 227, 146, 174, 202,
      208, 245, 40, 22, 156, 43, 66, 67, 77, 199, 117, 127, 69]
  else none

/-- The same content with its tag behind the instance. -/
def movedTag : ByteString :=
  ascii "IEDST|v1|id=A|auth=5080728b7b5bb95c1dd0820f9dd3f6e392aecad0f528169c2b42434dc7757f45" ++
    ascii "|from=42|relay=0|STATE|rev=7|slots=-"

/-- The keys read from a packet with a moved tag are those that were signed. -/
theorem movedTag_covered :
    (∃ content, removeAuthField movedTag = .ok content ∧
      ∀ key ∈ handlerKeys, readField movedTag key = readField content key) ∧
    ∀ other, authenticatePacket sampleDigest (ascii "secret") other = .ok true →
      removeAuthField other = removeAuthField movedTag →
      ∀ key ∈ handlerKeys, readField other key = readField movedTag key :=
  authenticated_fields_covered (by decide) (by decide)

/-! ## Signing again -/

/-- A signature is cut off again as a whole. -/
theorem withoutAuth_signed {content tag : ByteString} (keyed : sharedSecret ≠ [])
    (computed : computeHmacSha256 digest sharedSecret content = some tag) :
    withoutAuth (signed digest sharedSecret content) = content := by
  rw [signed, if_neg keyed, computed, Option.elim_some]
  exact (append_tag content (plain_of_computeHmacSha256 computed).1).1

/-- A mark on a packet is a signature of something. -/
theorem exists_signed_of_markRelayed {relayed : ByteString}
    (marked : markRelayed digest sharedSecret packet = .ok relayed) :
    ∃ content, relayed = signed digest sharedSecret content := by
  rw [markRelayed_eq] at marked
  cases done : replaceFirst bar (ascii "relay=0") (ascii "relay=1") (withoutAuth packet) with
  | some replaced =>
      simp only [done, Except.ok.injEq] at marked
      exact ⟨_, marked.symm⟩
  | none =>
      simp only [done] at marked
      cases inserted : insertAt (withoutAuth packet) kGameplayPrefix.length (ascii "relay=1|") with
      | error thrown => simp [inserted, Except.map] at marked
      | ok result =>
          simp only [inserted, Except.map, Except.ok.injEq] at marked
          exact ⟨_, marked.symm⟩

/-- Under a secret every signed packet is accepted and has the content of the packet signed,
signing it again changes nothing, and what a relay makes of a packet is accepted too. -/
theorem signature_verifiable (keyed : sharedSecret ≠ [])
    (computes : ∀ data, (digest sharedSecret data).isSome) (packet : ByteString) :
    (∃ sealed, signPacket digest sharedSecret packet = .ok sealed ∧
      authenticatePacket digest sharedSecret sealed = .ok true ∧
      removeAuthField sealed = removeAuthField packet ∧
      signPacket digest sharedSecret sealed = .ok sealed) ∧
    ∀ relayed, markRelayed digest sharedSecret packet = .ok relayed →
      authenticatePacket digest sharedSecret relayed = .ok true := by
  have tagged (content : ByteString) :
      (computeHmacSha256 digest sharedSecret content).isSome = true := by
    rw [computeHmacSha256, Option.isSome_map]
    exact computes content
  constructor
  · obtain ⟨tag, computed⟩ := Option.isSome_iff_exists.mp (tagged (withoutAuth packet))
    have restored := withoutAuth_signed keyed computed
    refine ⟨_, signPacket_eq digest sharedSecret packet, ?_, ?_, ?_⟩
    · rw [authenticatePacket_eq, authentic_signed fun _ => tagged _]
    · rw [removeAuthField_eq, removeAuthField_eq, restored]
    · rw [signPacket_eq, restored]
  · intro relayed marked
    obtain ⟨content, rfl⟩ := exists_signed_of_markRelayed marked
    rw [authenticatePacket_eq, authentic_signed fun _ => tagged _]

/-- HMAC-SHA256 on the content above and on its relayed copy under the secret `secret`. -/
def relayDigest : HmacDigest := fun sharedSecret data =>
  if sharedSecret = ascii "secret" ∧
      data = ascii "IEDST|v1|id=A|from=42|relay=1|STATE|rev=7|slots=-" then
    some [117, 7, 229, 153, 176, 61, 243, 102, 131, 120, 6, 90, 149, 141, 101, 36, 253, 22, 86, 48,
      242, 51, 246, 159, 190, 25, 106, 246, 46, 146, 106, 173]
  else some ((sampleDigest sharedSecret data).getD (List.replicate 32 0))

/-- A signed packet passes, and so does its relayed copy. -/
theorem signedContent_verifiable :
    (∃ sealed, signPacket relayDigest (ascii "secret") signedContent = .ok sealed ∧
      authenticatePacket relayDigest (ascii "secret") sealed = .ok true ∧
      removeAuthField sealed = removeAuthField signedContent ∧
      signPacket relayDigest (ascii "secret") sealed = .ok sealed) ∧
    ∀ relayed, markRelayed relayDigest (ascii "secret") signedContent = .ok relayed →
      authenticatePacket relayDigest (ascii "secret") relayed = .ok true := by
  apply signature_verifiable (by decide)
  intro data
  unfold relayDigest
  split <;> rfl

end IEDSyncTogether
