import IEDSyncTogether.Network.Relay

/-!
# State packets

The payload of `OnLocalCapture`, the packet `Send` builds around it, and the fields
`HandlePacket` takes from a packet. No value of a state packet contains a bar or an
equals sign, so every key is read from its own field, with and without a tag and before
and after a relay's mark.
-/

namespace IEDSyncTogether

open Base

/-- What `HandlePacket` takes from a packet. -/
structure StatePacket where
  instanceID : ByteString
  sender : ByteString
  revision : UInt64
  slots : SlotState
deriving DecidableEq

/-- The payload of `OnLocalCapture`. -/
def statePayload (revision : UInt64) (slots : SlotState) : ByteString :=
  ascii "STATE|rev=" ++ formatNat revision.toNat ++ ascii "|slots=" ++ encodeSlots slots

/-- The decoders of `HandlePacket` on the values of the four fields. -/
def decodeStateFields (instanceID encodedSender revisionText slotsText : Option ByteString) :
    Option StatePacket := do
  let instanceID ← instanceID
  let encodedSender ← encodedSender
  let revisionText ← revisionText
  let slotsText ← slotsText
  if instanceID = [] then none
  else
    let sender ← hexDecode encodedSender
    let slots ← decodeSlots slotsText
    if sender = [] then none
    else
      let revision ← stoull revisionText
      some ⟨instanceID, sender, revision, slots⟩

/-- The checks at the start of `HandlePacket`. -/
def readStatePacket (packet : ByteString) : Except StringError (Option StatePacket) :=
  if ¬ kGameplayPrefix.isPrefixOf packet ∨ findText (ascii "|STATE|") packet = none then .ok none
  else do
    let instanceID ← readField packet (ascii "id")
    let encodedSender ← readField packet (ascii "from")
    let revisionText ← readField packet (ascii "rev")
    let slotsText ← readField packet (ascii "slots")
    return decodeStateFields instanceID encodedSender revisionText slotsText

/-- Reading a packet does not throw. -/
theorem readStatePacket_ok (packet : ByteString) : ∃ state, readStatePacket packet = .ok state := by
  unfold readStatePacket
  split
  · exact ⟨_, rfl⟩
  · simp only [readField_eq, bind, Except.bind]
    exact ⟨_, rfl⟩

/-- The instance ID of `StrTransport::Start`. -/
def strInstanceID (connectionID : UInt64) (processID : UInt32) (tickCount : UInt64) : ByteString :=
  if connectionID ≠ 0 then formatNat connectionID.toNat
  else ascii "STRPM-" ++ udpInstanceID processID tickCount

/-- The instance IDs the transports generate. -/
def GeneratedInstanceID (instanceID : ByteString) : Prop :=
  (∃ processID tickCount, instanceID = udpInstanceID processID tickCount) ∨
    ∃ connectionID processID tickCount, instanceID = strInstanceID connectionID processID tickCount

/-! ## The fields of a state packet -/

/-- A value that cannot end its field or look like a label. -/
def Plain (value : ByteString) : Prop := bar ∉ value ∧ byteOf '=' ∉ value

instance (value : ByteString) : Decidable (Plain value) := inferInstanceAs (Decidable (_ ∧ _))

/-- The bytes of the slot line are plain, hexadecimal and decimal digits among them. -/
theorem plain_of_bounds {value : ByteString}
    (digits : ∀ byte ∈ value, byte = 44 ∨ byte = 45 ∨ byte = 58 ∨ 48 ≤ byte ∧ byte ≤ 57 ∨
      65 ≤ byte ∧ byte ≤ 70) :
    Plain value :=
  ⟨fun member => absurd (digits _ member) (by decide),
    fun member => absurd (digits _ member) (by decide)⟩

theorem plain_hexEncode (value : ByteString) : Plain (hexEncode value) :=
  plain_of_bounds fun _ member => .inr (.inr (.inr (bounds_of_mem_hexEncode member)))

theorem plain_formatNat (value : Nat) : Plain (formatNat value) :=
  plain_of_bounds fun _ member => .inr (.inr (.inr (.inl (bounds_of_mem_formatNat member))))

/-- The mark of a sender. -/
theorem plain_zero : Plain (ascii "0") := by decide

/-- The mark of a relay. -/
theorem plain_one : Plain (ascii "1") := by decide

theorem plain_encodeSlots (slots : SlotState) : Plain (encodeSlots slots) :=
  plain_of_bounds fun _ member => bounds_of_mem_encodeSlots member

theorem plain_append {front back : ByteString} (one : Plain front) (two : Plain back) :
    Plain (front ++ back) := by
  simp only [Plain, List.mem_append, not_or]
  exact ⟨⟨one.1, two.1⟩, one.2, two.2⟩

/-- The instance IDs of the transport are plain. -/
theorem plain_udpInstanceID (processID : UInt32) (tickCount : UInt64) :
    Plain (udpInstanceID processID tickCount) := by
  have padded (width value : Nat) : Plain (formatPaddedHex width value) :=
    plain_of_bounds fun _ member => .inr (.inr (.inr (bounds_of_mem_formatPaddedHex member)))
  have dash : Plain [byteOf '-'] := by decide
  rw [udpInstanceID, ← List.singleton_append]
  exact plain_append (padded 8 processID.toNat) (plain_append dash (padded 16 tickCount.toNat))

/-- A generated instance ID is a plain, nonempty text. -/
theorem plain_of_generated {instanceID : ByteString} (generated : GeneratedInstanceID instanceID) :
    Plain instanceID ∧ instanceID ≠ [] := by
  rcases generated with ⟨processID, tickCount, rfl⟩ | ⟨connectionID, processID, tickCount, rfl⟩
  · exact ⟨plain_udpInstanceID processID tickCount, by simp [udpInstanceID]⟩
  · unfold strInstanceID
    split
    · exact ⟨plain_formatNat _, formatNat_ne_nil _⟩
    · have name : Plain (ascii "STRPM-") := by decide
      exact ⟨plain_append name (plain_udpInstanceID processID tickCount), by simp [udpInstanceID]⟩

/-- A field with a label. -/
def labelled (label value : ByteString) : ByteString := label ++ byteOf '=' :: value

/-- The fields behind the gameplay prefix. -/
def stateFields (instanceID name mark : ByteString) (revision : UInt64) (slots : SlotState) :
    List ByteString :=
  [labelled (ascii "id") instanceID, labelled (ascii "from") (hexEncode name),
    labelled (ascii "relay") mark, ascii "STATE",
    labelled (ascii "rev") (formatNat revision.toNat),
    labelled (ascii "slots") (encodeSlots slots)]

section Fields

variable {instanceID name mark : ByteString} {revision : UInt64} {slots : SlotState}

/-- No field contains a bar. -/
theorem freeOf_stateFields (peer : Plain instanceID) (flag : Plain mark) :
    FreeOf bar (stateFields instanceID name mark revision slots) := by
  have field {label value : ByteString} (pure : bar ∉ label) (plain : Plain value) :
      bar ∉ labelled label value := by
    simp only [labelled, List.mem_append, List.mem_cons, not_or]
    exact ⟨pure, by decide, plain.1⟩
  simp only [FreeOf, stateFields, List.forall_mem_cons]
  exact ⟨field (by decide) peer, field (by decide) (plain_hexEncode name), field (by decide) flag,
    by decide, field (by decide) (plain_formatNat _), field (by decide) (plain_encodeSlots slots),
    by simp⟩

/-- A key is read from the field whose label ends with it. -/
theorem findSome?_stateFields {key : ByteString} (pure : byteOf '=' ∉ key) (peer : Plain instanceID)
    (flag : Plain mark) (tags : List ByteString) :
    (stateFields instanceID name mark revision slots ++ tags).findSome?
        (valueOf bar (key ++ [byteOf '='])) =
      if key.isSuffixOf (ascii "id") then some instanceID
      else if key.isSuffixOf (ascii "from") then some (hexEncode name)
      else if key.isSuffixOf (ascii "relay") then some mark
      else if key.isSuffixOf (ascii "rev") then some (formatNat revision.toNat)
      else if key.isSuffixOf (ascii "slots") then some (encodeSlots slots)
      else tags.findSome? (valueOf bar (key ++ [byteOf '='])) := by
  have field {label value : ByteString} (unmarked : byteOf '=' ∉ label) (plain : Plain value) :
      valueOf bar (key ++ [byteOf '=']) (labelled label value) =
        if key.isSuffixOf label then some value else none :=
    valueOf_label pure unmarked plain.2 plain.1
  have kind : valueOf bar (key ++ [byteOf '=']) (ascii "STATE") = none :=
    valueOf_unmarked (by decide) key
  simp only [stateFields, List.cons_append, List.nil_append, List.findSome?_cons, kind,
    field (show byteOf '=' ∉ ascii "id" by decide) peer,
    field (show byteOf '=' ∉ ascii "from" by decide) (plain_hexEncode name),
    field (show byteOf '=' ∉ ascii "relay" by decide) flag,
    field (show byteOf '=' ∉ ascii "rev" by decide) (plain_formatNat _),
    field (show byteOf '=' ∉ ascii "slots" by decide) (plain_encodeSlots slots)]
  split_ifs <;> rfl

/-- The receiver takes from the fields what the sender put there, if it is addressable. -/
theorem readStatePacket_stateFields (peer : Plain instanceID) (present : instanceID ≠ [])
    (named : name ≠ []) (flag : Plain mark) (tags : List ByteString) :
    readStatePacket (gameplayText (stateFields instanceID name mark revision slots ++ tags)) =
      .ok (if Addressable slots then some ⟨instanceID, name, revision, slots⟩ else none) := by
  have gameplay : kGameplayPrefix.isPrefixOf
      (gameplayText (stateFields instanceID name mark revision slots ++ tags)) = true :=
    isPrefixOf_gameplayText (by simp [stateFields])
  have kind : findText (ascii "|STATE|")
      (gameplayText (stateFields instanceID name mark revision slots ++ tags)) ≠ none := by
    rw [ne_eq, findText_eq_none_iff, not_not]
    exact infix_gameplayText [_, _, _] (ascii "STATE") _ (_ :: tags)
  have value {key : ByteString} (whole : bar ∉ key) (pure : byteOf '=' ∉ key) :=
    (fieldValue_gameplayText whole (stateFields instanceID name mark revision slots ++ tags)).trans
      (findSome?_stateFields pure peer flag tags)
  have id := @value (ascii "id") (by decide) (by decide)
  have sender := @value (ascii "from") (by decide) (by decide)
  have number := @value (ascii "rev") (by decide) (by decide)
  have equipment := @value (ascii "slots") (by decide) (by decide)
  rw [if_pos (by decide)] at id
  rw [if_neg (by decide), if_pos (by decide)] at sender
  rw [if_neg (by decide), if_neg (by decide), if_neg (by decide), if_pos (by decide)] at number
  rw [if_neg (by decide), if_neg (by decide), if_neg (by decide), if_neg (by decide),
    if_pos (by decide)] at equipment
  by_cases addressable : Addressable slots <;>
    simp [readStatePacket, gameplay, kind, id, sender, number, equipment, decodeStateFields,
      present, hexDecode_hexEncode, decodeSlots_encodeSlots, addressable, named, stoull_formatNat,
      bind, Except.bind, pure, Except.pure]

/-- No field of a state packet is an `auth` field. -/
theorem any_isAuth_stateFields :
    (stateFields instanceID name mark revision slots).any isAuth = false := by
  simp [stateFields, labelled, isAuth, ascii, byteOf, List.isPrefixOf]

/-- A relay rewrites the mark and nothing else. -/
theorem markFields_stateFields :
    markFields (stateFields instanceID name (ascii "0") revision slots) =
      stateFields instanceID name (ascii "1") revision slots := by
  simp [markFields, stateFields, labelled, replaceInner, ascii, byteOf]

end Fields

/-! ## From the sender to the receiver -/

/-- A receiver with the secret accepts the packet and takes the state from it. -/
def Delivers (digest : HmacDigest) (sharedSecret packet : ByteString) (state : StatePacket) : Prop :=
  authenticatePacket digest sharedSecret packet = .ok true ∧
    readStatePacket packet = .ok (some state)

section Delivery

variable {digest : HmacDigest} {sharedSecret instanceID name mark : ByteString}
  {revision : UInt64} {slots : SlotState}

/-- The tag of a packet is cut off again. -/
theorem eraseLast_stateFields {content : ByteString} {tags : List ByteString}
    (tagged : tagFields digest sharedSecret content = some tags) :
    eraseLast isAuth (stateFields instanceID name mark revision slots ++ tags) =
      stateFields instanceID name mark revision slots := by
  unfold tagFields at tagged
  split at tagged
  · cases tagged
    rw [List.append_nil, eraseLast_of_any_eq_false any_isAuth_stateFields]
  · obtain ⟨tag, _, rfl⟩ := Option.map_eq_some_iff.mp tagged
    have starts : isAuth (ascii "auth=" ++ tag) = true :=
      List.isPrefixOf_iff_prefix.mpr (List.prefix_append _ _)
    simp [eraseLast_append, eraseLast, starts]

/-- The receiver takes the state from the signed packet, if it is addressable. -/
theorem readStatePacket_signed (peer : Plain instanceID) (present : instanceID ≠ [])
    (named : name ≠ []) (flag : Plain mark)
    (sent : signed digest sharedSecret
      (gameplayText (stateFields instanceID name mark revision slots)) ≠ []) :
    readStatePacket
        (signed digest sharedSecret (gameplayText (stateFields instanceID name mark revision slots))) =
      .ok (if Addressable slots then some ⟨instanceID, name, revision, slots⟩ else none) := by
  obtain ⟨tags, tagged⟩ := signed_gameplayText_ne_nil_iff.mp sent
  rw [signed_gameplayText, tagged, Option.elim_some,
    readStatePacket_stateFields peer present named flag]

/-- A relay makes of a sender's packet the packet of the same state with its mark. -/
theorem markRelayed_signed (peer : Plain instanceID)
    (sent : signed digest sharedSecret
      (gameplayText (stateFields instanceID name (ascii "0") revision slots)) ≠ []) :
    markRelayed digest sharedSecret (signed digest sharedSecret
        (gameplayText (stateFields instanceID name (ascii "0") revision slots))) =
      .ok (signed digest sharedSecret
        (gameplayText (stateFields instanceID name (ascii "1") revision slots))) := by
  obtain ⟨tags, tagged⟩ := signed_gameplayText_ne_nil_iff.mp sent
  have free : FreeOf bar (stateFields instanceID name (ascii "0") revision slots ++ tags) :=
    List.forall_mem_append.mpr ⟨freeOf_stateFields peer plain_zero, freeOf_tagFields tagged⟩
  rw [signed_gameplayText, tagged, Option.elim_some, markRelayed_gameplayText free,
    eraseLast_stateFields tagged, markFields_stateFields,
    eraseLast_of_any_eq_false any_isAuth_stateFields, if_neg (by simp [stateFields])]

/-- If the HMAC does not fail, signed state fields are delivered. -/
theorem delivers_signed (computes : sharedSecret ≠ [] → ∀ data, (digest sharedSecret data).isSome)
    (peer : Plain instanceID) (present : instanceID ≠ []) (named : name ≠ []) (flag : Plain mark)
    (addressable : Addressable slots) :
    signed digest sharedSecret (gameplayText (stateFields instanceID name mark revision slots)) ≠ [] ∧
      Delivers digest sharedSecret
        (signed digest sharedSecret (gameplayText (stateFields instanceID name mark revision slots)))
        ⟨instanceID, name, revision, slots⟩ := by
  have hashes (keyed : sharedSecret ≠ []) (content : ByteString) :
      (computeHmacSha256 digest sharedSecret content).isSome = true := by
    rw [computeHmacSha256, Option.isSome_map]
    exact computes keyed content
  have sent : signed digest sharedSecret
      (gameplayText (stateFields instanceID name mark revision slots)) ≠ [] := by
    rw [signed_gameplayText_ne_nil_iff, tagFields]
    split
    · exact ⟨_, rfl⟩
    · next keyed =>
        obtain ⟨tag, computed⟩ := Option.isSome_iff_exists.mp (hashes keyed _)
        exact ⟨_, by rw [computed, Option.map_some]⟩
  refine ⟨sent, ?_, ?_⟩
  · rw [authenticatePacket_eq, authentic_signed fun keyed => hashes keyed _]
  · rw [readStatePacket_signed peer present named flag sent, if_pos addressable]

/-- The packet `Send` builds around the payload of a capture. -/
theorem builtPacket_statePayload {transport : UdpTransport} (peer : Plain transport.instanceID) :
    transport.builtPacket digest (statePayload revision slots) =
      .ok (signed digest transport.sharedSecret (gameplayText
        (stateFields transport.instanceID transport.localPlayerName (ascii "0") revision slots))) := by
  have text : ascii "IEDST|v1|id=" ++ transport.instanceID ++ ascii "|from=" ++
      hexEncode transport.localPlayerName ++ ascii "|relay=0|" ++ statePayload revision slots =
      gameplayText (stateFields transport.instanceID transport.localPlayerName (ascii "0")
        revision slots) := by
    simp [gameplayText, joined, stateFields, labelled, statePayload, ascii, byteOf]
  rw [UdpTransport.builtPacket, text, signPacket_eq,
    withoutAuth_gameplayText (freeOf_stateFields peer plain_zero),
    eraseLast_of_any_eq_false any_isAuth_stateFields]

/-- `Send` gives every destination the built packet. -/
theorem send_statePayload {transport : UdpTransport} {packet : ByteString}
    (built : transport.builtPacket digest (statePayload revision slots) = .ok packet) :
    ∃ sent, transport.send digest (statePayload revision slots) = .ok sent ∧
      ∀ datagram ∈ sent, datagram.packet = packet := by
  have present : statePayload revision slots ≠ [] := by
    simp [statePayload, ascii]
  simp only [UdpTransport.send, if_neg present, built, bind, Except.bind, pure, Except.pure]
  exact ⟨_, rfl, fun _ member => UdpTransport.packet_of_mem_sends member⟩

end Delivery

/-- A state packet survives building, signing, relaying and parsing. -/
theorem state_packet_survives {digest : HmacDigest} {transport : UdpTransport} {revision : UInt64}
    {slots : SlotState}
    (computes : transport.sharedSecret ≠ [] → ∀ data, (digest transport.sharedSecret data).isSome)
    (generated : GeneratedInstanceID transport.instanceID) (named : transport.localPlayerName ≠ [])
    (addressable : Addressable slots) :
    ∃ packet, transport.builtPacket digest (statePayload revision slots) = .ok packet ∧
      (∃ sent, transport.send digest (statePayload revision slots) = .ok sent ∧
        ∀ datagram ∈ sent, datagram.packet = packet) ∧
      Delivers digest transport.sharedSecret packet
        ⟨transport.instanceID, transport.localPlayerName, revision, slots⟩ ∧
      ∃ copy, markRelayed digest transport.sharedSecret packet = .ok copy ∧
        Delivers digest transport.sharedSecret copy
          ⟨transport.instanceID, transport.localPlayerName, revision, slots⟩ := by
  obtain ⟨peer, present⟩ := plain_of_generated generated
  obtain ⟨sent, delivered⟩ := @delivers_signed digest transport.sharedSecret transport.instanceID
    transport.localPlayerName (ascii "0") revision slots computes peer present named plain_zero
    addressable
  obtain ⟨_, relayed⟩ := @delivers_signed digest transport.sharedSecret transport.instanceID
    transport.localPlayerName (ascii "1") revision slots computes peer present named plain_one
    addressable
  have built := @builtPacket_statePayload digest revision slots transport peer
  exact ⟨_, built, send_statePayload built, delivered, _, markRelayed_signed peer sent, relayed⟩

/-- A sender with the shared secret `secret`. -/
def lydiaTransport : UdpTransport :=
  { openRelay with
    localPlayerName := ascii "Lydia"
    sharedSecret := ascii "secret" }

/-- The content the sender or, with the other mark, a relay signs for these slots. -/
def swordContent (mark : ByteString) : ByteString :=
  gameplayText (stateFields lydiaTransport.instanceID lydiaTransport.localPlayerName mark 7 swordSlots)

/-- HMAC-SHA256 on these contents under the sender's secret. -/
def lydiaDigest : HmacDigest := fun _ data =>
  if data = swordContent (ascii "0") then
    some [121, 229, 119, 150, 205, 195, 136, 35, 224, 136, 130, 120, 254, 17, 27, 226, 129, 243,
      234, 153, 201, 141, 71, 140, 76, 4, 253, 124, 79, 29, 63, 118]
  else if data = swordContent (ascii "1") then
    some [22, 133, 69, 136, 41, 125, 164, 179, 8, 125, 220, 218, 178, 91, 41, 48, 85, 76, 102,
      201, 38, 142, 38, 20, 219, 184, 50, 30, 152, 245, 87, 3]
  else some (List.replicate 32 0)

theorem lydiaDigest_isSome (sharedSecret data : ByteString) :
    (lydiaDigest sharedSecret data).isSome = true := by
  unfold lydiaDigest
  split_ifs <;> rfl

/-- Lydia's sword arrives as she sent it, also through a host. -/
theorem sword_packet_survives :
    ∃ packet, lydiaTransport.builtPacket lydiaDigest (statePayload 7 swordSlots) = .ok packet ∧
      (∃ sent, lydiaTransport.send lydiaDigest (statePayload 7 swordSlots) = .ok sent ∧
        ∀ datagram ∈ sent, datagram.packet = packet) ∧
      Delivers lydiaDigest lydiaTransport.sharedSecret packet
        ⟨lydiaTransport.instanceID, lydiaTransport.localPlayerName, 7, swordSlots⟩ ∧
      ∃ copy, markRelayed lydiaDigest lydiaTransport.sharedSecret packet = .ok copy ∧
        Delivers lydiaDigest lydiaTransport.sharedSecret copy
          ⟨lydiaTransport.instanceID, lydiaTransport.localPlayerName, 7, swordSlots⟩ :=
  state_packet_survives (fun _ => lydiaDigest_isSome _) (.inl ⟨0x1000, 0x100000, by decide⟩)
    (by decide) (by decide)

end IEDSyncTogether
