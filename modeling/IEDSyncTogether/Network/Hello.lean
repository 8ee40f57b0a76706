import IEDSyncTogether.Network.Destinations
import IEDSyncTogether.Service.StatePacket

/-!
# Discovery packets

The text of `SendHelloTo` by its fields, and what `HandleDiscovery` makes of it: the sender
is registered with its instance, its name and the port it advertised or was observed at.
-/

namespace IEDSyncTogether

open Base

/-- The fields behind the name of the discovery protocol. -/
def helloFields (instanceID name : ByteString) (port : UInt16) (observed : Bool) :
    List ByteString :=
  [ascii "v1", ascii "HELLO", labelled (ascii "id") instanceID,
    labelled (ascii "name") (hexEncode name), labelled (ascii "port") (formatNat port.toNat),
    labelled (ascii "observed") (if observed then ascii "1" else ascii "0")]

/-- The text of a discovery packet, by its fields. -/
def discoveryText (fields : List ByteString) : ByteString := joined bar (ascii "IEDSTDISC") fields

/-- `INADDR_BROADCAST` on a port. -/
def broadcastEndpoint (port : UInt16) : Endpoint := ⟨Vector.replicate 4 255, port⟩

namespace UdpTransport

variable (digest : HmacDigest) (transport : UdpTransport)

/-- `SendHello`: a broadcast if discovery is on, and every configured peer. -/
def sendHello : Except StringError (List Datagram) := do
  let broadcast := broadcastEndpoint transport.localPort
  let announced ←
    if transport.autoDiscovery then transport.sendHelloTo digest broadcast false else .ok []
  let greeted ← transport.configuredPeers.mapM fun peer => transport.sendHelloTo digest peer true
  return announced ++ greeted.flatten

/-- The packet of a hello. -/
def helloPacket (observed : Bool) : ByteString :=
  signed digest transport.sharedSecret (discoveryText
    (helloFields transport.instanceID transport.localPlayerName transport.localPort observed))

end UdpTransport

section Fields

variable {instanceID name : ByteString} {port : UInt16} {observed : Bool}

theorem plain_observed (observed : Bool) :
    Plain (if observed then ascii "1" else ascii "0") := by
  cases observed <;> decide

theorem freeOf_helloFields (peer : Plain instanceID) :
    FreeOf bar (ascii "IEDSTDISC" :: helloFields instanceID name port observed) := by
  have field {label value : ByteString} (pure : bar ∉ label) (plain : Plain value) :
      bar ∉ labelled label value := by
    simp only [labelled, List.mem_append, List.mem_cons, not_or]
    exact ⟨pure, by decide, plain.1⟩
  simp only [FreeOf, helloFields, List.forall_mem_cons]
  exact ⟨by decide, by decide, by decide, field (by decide) peer,
    field (by decide) (plain_hexEncode name), field (by decide) (plain_formatNat _),
    field (by decide) (plain_observed observed), by simp⟩

/-- A key is read from the field whose label ends with it. -/
theorem fieldValue_hello {key : ByteString} (whole : bar ∉ key) (pure : byteOf '=' ∉ key)
    (peer : Plain instanceID) (tags : List ByteString) :
    fieldValue (discoveryText (helloFields instanceID name port observed ++ tags)) key =
      if key.isSuffixOf (ascii "id") then some instanceID
      else if key.isSuffixOf (ascii "name") then some (hexEncode name)
      else if key.isSuffixOf (ascii "port") then some (formatNat port.toNat)
      else if key.isSuffixOf (ascii "observed") then
        some (if observed then ascii "1" else ascii "0")
      else tags.findSome? (valueOf bar (key ++ [byteOf '='])) := by
  have marked : bar ∉ key ++ [byteOf '='] := by
    rw [List.mem_append, not_or]
    exact ⟨whole, by decide⟩
  have field {label value : ByteString} (unmarked : byteOf '=' ∉ label) (plain : Plain value) :
      valueOf bar (key ++ [byteOf '=']) (labelled label value) =
        if key.isSuffixOf label then some value else none :=
    valueOf_label pure unmarked plain.2 plain.1
  have word {text : ByteString} (plain : byteOf '=' ∉ text) :
      valueOf bar (key ++ [byteOf '=']) text = none := valueOf_unmarked plain key
  rw [fieldValue, discoveryText, valueOf_joined marked (by simp)]
  simp only [helloFields, List.cons_append, List.nil_append, List.findSome?_cons,
    word (show byteOf '=' ∉ ascii "IEDSTDISC" by decide), word (show byteOf '=' ∉ ascii "v1" by decide),
    word (show byteOf '=' ∉ ascii "HELLO" by decide),
    field (show byteOf '=' ∉ ascii "id" by decide) peer,
    field (show byteOf '=' ∉ ascii "name" by decide) (plain_hexEncode name),
    field (show byteOf '=' ∉ ascii "port" by decide) (plain_formatNat _),
    field (show byteOf '=' ∉ ascii "observed" by decide) (plain_observed observed)]
  split_ifs <;> rfl

/-- No field of a hello is an `auth` field. -/
theorem any_isAuth_helloFields :
    (helloFields instanceID name port observed).any isAuth = false := by
  simp [helloFields, labelled, isAuth, ascii, byteOf, List.isPrefixOf]

/-- An unsigned hello has no tag to take out. -/
theorem withoutAuth_hello (peer : Plain instanceID) :
    withoutAuth (discoveryText (helloFields instanceID name port observed)) =
      discoveryText (helloFields instanceID name port observed) := by
  rw [withoutAuth, discoveryText, cutLast_joined (freeOf_helloFields peer) (by decide),
    eraseLast_of_any_eq_false any_isAuth_helloFields]

/-- Signing appends the field of the tag. -/
theorem signed_discoveryText (digest : HmacDigest) (sharedSecret : ByteString)
    (fields : List ByteString) :
    signed digest sharedSecret (discoveryText fields) =
      (tagFields digest sharedSecret (discoveryText fields)).elim []
        fun tags => discoveryText (fields ++ tags) := by
  have append (tag : ByteString) :
      discoveryText fields ++ kAuthField ++ tag = discoveryText (fields ++ [ascii "auth=" ++ tag]) := by
    rw [discoveryText, discoveryText, joined_append, List.append_assoc, List.flatMap_singleton]
    rfl
  unfold signed tagFields
  split
  · simp
  · cases computeHmacSha256 digest sharedSecret (discoveryText fields) with
    | none => rfl
    | some tag => simp only [Option.elim_some, Option.map_some, append]

/-- A printed port is parsed again; the port 0 reads like a missing one. -/
theorem parsePort_formatNat (port : UInt16) : parsePort (some (formatNat port.toNat)) = port := by
  have small := port.toNat_lt
  have read : stoul (formatNat port.toNat) = some port.toUInt32 := by
    rw [stoul, readUnsigned_formatNat (by omega), Option.map_some]
    simp
  have above : ¬ 65535 < port.toUInt32 := by
    rw [UInt32.lt_iff_toNat_lt, UInt16.toNat_toUInt32]
    exact Nat.not_lt.mpr (Nat.le_of_lt_succ small)
  simp only [parsePort, Option.bind_some, read, above, or_false]
  split_ifs with zero
  · rw [← UInt32.toNat_inj, UInt16.toNat_toUInt32] at zero
    exact (UInt16.toNat_inj.mp zero).symm
  · rw [← UInt16.toNat_inj, UInt32.toNat_toUInt16, UInt16.toNat_toUInt32]
    exact Nat.mod_eq_of_lt small

end Fields

/-! ## Sending and receiving a hello -/

namespace UdpTransport

variable {digest : HmacDigest} {sender receiver : UdpTransport}

/-- What `SendHelloTo` sends is the packet of the hello. -/
theorem sendHelloTo_eq (peer : Plain sender.instanceID) (destination : Endpoint)
    (observed : Bool) :
    sender.sendHelloTo digest destination observed =
      .ok (sendPacketTo (sender.helloPacket digest observed) destination) := by
  have text : ascii "IEDSTDISC|v1|HELLO|id=" ++ sender.instanceID ++ ascii "|name=" ++
      hexEncode sender.localPlayerName ++ ascii "|port=" ++ formatNat sender.localPort.toNat ++
      ascii "|observed=" ++ (if observed then ascii "1" else ascii "0") = discoveryText
        (helloFields sender.instanceID sender.localPlayerName sender.localPort observed) := by
    simp [discoveryText, joined, helloFields, labelled, ascii, byteOf]
  simp only [sendHelloTo, text, signPacket_eq, withoutAuth_hello peer, bind, Except.bind, pure,
    Except.pure, helloPacket]

/-- `SendHello` announces the transport on its port and greets the configured peers. -/
theorem sendHello_eq (own : Plain sender.instanceID) :
    sender.sendHello digest = .ok
      ((if sender.autoDiscovery then sendPacketTo (sender.helloPacket digest false)
          (broadcastEndpoint sender.localPort) else []) ++
        sender.configuredPeers.flatMap (sendPacketTo (sender.helloPacket digest true))) := by
  have each (peers : List Endpoint) :
      peers.mapM (fun peer => sender.sendHelloTo digest peer true) =
        .ok (peers.map (sendPacketTo (sender.helloPacket digest true))) := by
    rw [funext fun peer => sendHelloTo_eq own peer true]
    exact List.mapM_pure
  simp only [sendHello, sendHelloTo_eq own _ false, each, bind, Except.bind, pure, Except.pure,
    List.flatMap_def]
  split <;> rfl

/-- A hello registers its sender at the observed or the advertised port. -/
def greeted (digest : HmacDigest) (receiver sender : UdpTransport) (observed : Bool)
    (source : Endpoint) (now : Nat) : Except StringError (UdpTransport × List Datagram) :=
  let port := if observed then source.port else sender.localPort
  if port = 0 then .ok (receiver, [])
  else receiver.registerPeer digest source port sender.localPlayerName sender.instanceID now

/-- The fields of a hello give the sender's entry. -/
theorem handleDiscovery_hello (peer : Plain sender.instanceID) (observed : Bool)
    (tags : List ByteString) (source : Endpoint) (now : Nat) :
    receiver.handleDiscovery digest (discoveryText (helloFields sender.instanceID
        sender.localPlayerName sender.localPort observed ++ tags)) source now =
      (greeted digest receiver sender observed source now).map some := by
  have discovery : kDiscoveryPrefix.isPrefixOf (discoveryText (helloFields sender.instanceID
      sender.localPlayerName sender.localPort observed ++ tags)) = true := rfl
  have value {key : ByteString} (whole : bar ∉ key) (pure : byteOf '=' ∉ key) :=
    @fieldValue_hello sender.instanceID sender.localPlayerName sender.localPort observed key whole
      pure peer tags
  have id := @value (ascii "id") (by decide) (by decide)
  have name := @value (ascii "name") (by decide) (by decide)
  have port := @value (ascii "port") (by decide) (by decide)
  have seen := @value (ascii "observed") (by decide) (by decide)
  rw [if_pos (by decide)] at id
  rw [if_neg (by decide), if_pos (by decide)] at name
  rw [if_neg (by decide), if_neg (by decide), if_pos (by decide)] at port
  rw [if_neg (by decide), if_neg (by decide), if_neg (by decide), if_pos (by decide)] at seen
  have flag : some (if observed then ascii "1" else ascii "0") = some (ascii "1") ↔
      observed = true := by
    cases observed <;> decide
  simp only [handleDiscovery, discovery, readField_eq, id, name, port, seen, parsePort_formatNat,
    hexDecode_hexEncode, flag, not_true_eq_false, if_false, bind, Except.bind, pure, Except.pure,
    Option.getD_some, greeted]
  split_ifs
  · rfl
  · cases receiver.registerPeer digest source _ sender.localPlayerName sender.instanceID now <;> rfl
  · rfl
  · cases receiver.registerPeer digest source _ sender.localPlayerName sender.instanceID now <;> rfl

/-- If the HMAC does not fail, the packet of a hello is its text with the field of a tag. -/
theorem exists_helloPacket
    (computes : sender.sharedSecret ≠ [] → ∀ data, (digest sender.sharedSecret data).isSome)
    (observed : Bool) :
    ∃ tags, sender.helloPacket digest observed = discoveryText (helloFields sender.instanceID
      sender.localPlayerName sender.localPort observed ++ tags) := by
  rw [helloPacket, signed_discoveryText, tagFields]
  split
  · exact ⟨_, rfl⟩
  · next keyed =>
      obtain ⟨tag, computed⟩ := Option.isSome_iff_exists.mp (computes keyed (discoveryText
        (helloFields sender.instanceID sender.localPlayerName sender.localPort observed)))
      rw [computeHmacSha256, computed]
      exact ⟨_, rfl⟩

/-- The packet of a hello is sent. -/
theorem helloPacket_ne_nil
    (computes : sender.sharedSecret ≠ [] → ∀ data, (digest sender.sharedSecret data).isSome)
    (observed : Bool) : sender.helloPacket digest observed ≠ [] := by
  obtain ⟨tags, shape⟩ := exists_helloPacket computes observed
  simp [shape, discoveryText, joined, ascii]

/-- A receiver with the secret of the sender greets it. -/
theorem receive_hello (peer : Plain sender.instanceID)
    (secrets : receiver.sharedSecret = sender.sharedSecret)
    (computes : sender.sharedSecret ≠ [] → ∀ data, (digest sender.sharedSecret data).isSome)
    (observed : Bool) (source : Endpoint) (now : Nat) :
    receiver.receive digest (sender.helloPacket digest observed) source now =
      (greeted digest receiver sender observed source now).map fun registered =>
        ⟨registered.1, registered.2, none⟩ := by
  have accepted : authentic digest sender.sharedSecret (sender.helloPacket digest observed) = true := by
    refine authentic_signed fun keyed => ?_
    rw [computeHmacSha256, Option.isSome_map]
    exact computes keyed _
  obtain ⟨tags, shape⟩ := exists_helloPacket computes observed
  have discovery : kDiscoveryPrefix.isPrefixOf (sender.helloPacket digest observed) = true := by
    rw [shape]
    rfl
  rw [receive]
  simp only [discovery, not_true_eq_false, false_and, if_false, authenticatePacket_eq, secrets,
    accepted, bind, Except.bind]
  rw [shape, handleDiscovery_hello peer]
  cases greeted digest receiver sender observed source now <;> rfl

/-- The key of an instance at an address. -/
def peerKey (instanceID : ByteString) (address : Endpoint) : ByteString :=
  instanceID ++ bar :: addressToString address

/-- The entry `RegisterPeer` makes. -/
def enterPeer (transport : UdpTransport) (address : Endpoint) (name instanceID : ByteString)
    (now : Nat) : UdpTransport :=
  { transport with
    peers := transport.peers.insert (peerKey instanceID address) ⟨address, name, instanceID, now⟩ }

/-- A peer is entered under its instance and address, and greeted if that is new. -/
theorem registerPeer_eq (own : Plain receiver.instanceID) (source : Endpoint) (port : UInt16)
    (name instanceID : ByteString) (now : Nat) :
    receiver.registerPeer digest source port name instanceID now =
      if instanceID = [] ∨ instanceID = receiver.instanceID then .ok (receiver, [])
      else .ok (receiver.enterPeer { source with port := port } name instanceID now,
        if receiver.peers.lookup (peerKey instanceID { source with port := port }) = none then
          sendPacketTo (receiver.helloPacket digest true) { source with port := port }
        else []) := by
  have key : instanceID ++ [bar] ++ addressToString { source with port := port } =
      peerKey instanceID { source with port := port } := by
    simp [peerKey]
  have entered : Plain (receiver.enterPeer { source with port := port } name instanceID
      now).instanceID := own
  have greeting := @sendHelloTo_eq digest _ entered { source with port := port } true
  rw [enterPeer] at greeting
  unfold registerPeer
  dsimp only
  rw [key, greeting]
  simp only [Option.isNone_iff_eq_none]
  split_ifs <;> rfl

end UdpTransport

/-- A hello reaches a transport with the same secret: its sender is entered with its instance,
its name and its address, and is answered exactly if it was not there before. -/
theorem hello_registers {digest : HmacDigest} {sender receiver : UdpTransport} {observed : Bool}
    {source : Endpoint} {now : Nat}
    (senderID : GeneratedInstanceID sender.instanceID)
    (receiverID : GeneratedInstanceID receiver.instanceID)
    (distinct : sender.instanceID ≠ receiver.instanceID)
    (secrets : receiver.sharedSecret = sender.sharedSecret)
    (computes : sender.sharedSecret ≠ [] → ∀ data, (digest sender.sharedSecret data).isSome)
    (reachable : (if observed then source.port else sender.localPort) ≠ 0) :
    ∀ destination, ∃ packet, sender.sendHelloTo digest destination observed =
        .ok [⟨packet, destination⟩] ∧
      let address := { source with port := if observed then source.port else sender.localPort }
      let key := UdpTransport.peerKey sender.instanceID address
      ∃ reception, receiver.receive digest packet source now = .ok reception ∧
        reception.delivered = none ∧
        reception.transport.peers.lookup key =
          some ⟨address, sender.localPlayerName, sender.instanceID, now⟩ ∧
        (∀ other ≠ key, reception.transport.peers.lookup other = receiver.peers.lookup other) ∧
        .ok reception.sent = if receiver.peers.lookup key = none then
          receiver.sendHelloTo digest address true else .ok [] := by
  intro destination
  obtain ⟨senderPlain, present⟩ := plain_of_generated senderID
  obtain ⟨receiverPlain, _⟩ := plain_of_generated receiverID
  have ignored : ¬ (sender.instanceID = [] ∨ sender.instanceID = receiver.instanceID) :=
    not_or.mpr ⟨present, distinct⟩
  have sent := UdpTransport.helloPacket_ne_nil computes observed
  refine ⟨sender.helloPacket digest observed, ?_, ?_⟩
  · rw [UdpTransport.sendHelloTo_eq senderPlain, UdpTransport.sendPacketTo, if_neg sent]
  · rw [UdpTransport.receive_hello senderPlain secrets computes, UdpTransport.greeted,
      UdpTransport.registerPeer_eq receiverPlain, if_neg ignored]
    simp only [if_neg reachable, UdpTransport.sendHelloTo_eq receiverPlain, Except.map]
    generalize (if observed then source.port else sender.localPort) = port
    refine ⟨_, rfl, rfl, AList.lookup_insert _, fun _ differs => AList.lookup_insert_ne differs, ?_⟩
    split_ifs <;> rfl

/-- Serana's transport on another machine. -/
def seranaTransport : UdpTransport :=
  { lydiaTransport with
    localPlayerName := ascii "Serana"
    instanceID := ascii "00001001-0000000000100001" }

/-- HMAC-SHA256 on Lydia's announcement and Serana's answer under the secret `secret`. -/
def helloDigest : HmacDigest := fun _ data =>
  if data = discoveryText (helloFields lydiaTransport.instanceID (ascii "Lydia") 38471 false) then
    some [122, 195, 201, 70, 154, 238, 37, 187, 224, 119, 26, 208, 12, 73, 179, 43, 85, 249, 75,
      233, 209, 139, 238, 173, 105, 129, 203, 219, 2, 180, 50, 151]
  else if data =
      discoveryText (helloFields seranaTransport.instanceID (ascii "Serana") 38471 true) then
    some [4, 208, 162, 111, 65, 182, 28, 78, 124, 239, 114, 204, 203, 117, 177, 176, 70, 0, 24, 49,
      220, 20, 208, 26, 200, 73, 219, 67, 51, 113, 147, 254]
  else some (List.replicate 32 0)

theorem helloDigest_isSome (sharedSecret data : ByteString) :
    (helloDigest sharedSecret data).isSome = true := by
  unfold helloDigest
  split_ifs <;> rfl

/-- Serana enters Lydia by her broadcast hello. -/
theorem serana_registers_lydia :
    ∃ packet, lydiaTransport.sendHelloTo helloDigest (broadcastEndpoint 38471) false =
        .ok [⟨packet, broadcastEndpoint 38471⟩] ∧
      let address := { guest with port := if false then guest.port else lydiaTransport.localPort }
      let key := UdpTransport.peerKey lydiaTransport.instanceID address
      ∃ reception, seranaTransport.receive helloDigest packet guest 7 = .ok reception ∧
        reception.delivered = none ∧
        reception.transport.peers.lookup key =
          some ⟨address, lydiaTransport.localPlayerName, lydiaTransport.instanceID, 7⟩ ∧
        (∀ other ≠ key,
          reception.transport.peers.lookup other = seranaTransport.peers.lookup other) ∧
        .ok reception.sent = if seranaTransport.peers.lookup key = none then
          seranaTransport.sendHelloTo helloDigest address true else .ok [] := by
  have registers := @hello_registers helloDigest lydiaTransport seranaTransport false guest 7
    (.inl ⟨0x1000, 0x100000, by decide⟩) (.inl ⟨0x1001, 0x100001, by decide⟩) (by decide) rfl
    (fun _ => helloDigest_isSome _) (by decide)
  exact registers (broadcastEndpoint 38471)

end IEDSyncTogether
