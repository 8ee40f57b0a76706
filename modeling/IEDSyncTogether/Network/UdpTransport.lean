import IEDSyncTogether.Base.UnorderedMap
import IEDSyncTogether.Network.Packet

/-!
# The UDP transport

The peer table, discovery and relaying of `UdpTransport`, and one turn of its receiver
loop, without and with the limit of its buffer. Sent datagrams are output, the clock is an
input, and an exception of a string operation fails the turn. The sockets, the log and the
automatic configuration are left out.
-/

namespace IEDSyncTogether

open Base

/-- An IPv4 socket address. -/
structure Endpoint where
  octets : Vector UInt8 4
  port : UInt16
deriving DecidableEq

/-- `AddressToString`: the dotted address and the port. -/
def addressToString (address : Endpoint) : ByteString :=
  [byteOf '.'].intercalate (address.octets.toList.map fun octet => formatNat octet.toNat) ++
    byteOf ':' :: formatNat address.port.toNat

/-- A peer of the table; times are milliseconds of the steady clock. -/
structure Peer where
  address : Endpoint
  name : ByteString
  instanceID : ByteString
  lastSeen : Nat

/-- A running transport. The player name is what `GetLocalPlayerName` returns. -/
structure UdpTransport where
  relayMode : Bool
  autoDiscovery : Bool
  localPort : UInt16
  localPlayerName : ByteString
  instanceID : ByteString
  sharedSecret : ByteString
  configuredPeers : List Endpoint
  peers : UnorderedMap ByteString Peer

/-- A packet on its way to an endpoint. -/
structure Datagram where
  packet : ByteString
  destination : Endpoint
deriving DecidableEq

/-- The instance ID of `Start`, from the process and the clock. -/
def udpInstanceID (processID : UInt32) (tickCount : UInt64) : ByteString :=
  formatPaddedHex 8 processID.toNat ++ byteOf '-' :: formatPaddedHex 16 tickCount.toNat

/-- A port that is missing, malformed or out of range reads as 0. -/
def parsePort (value : Option ByteString) : UInt16 :=
  match value.bind stoul with
  | none => 0
  | some parsed => if parsed = 0 ∨ 65535 < parsed then 0 else parsed.toUInt16

namespace UdpTransport

variable (digest : HmacDigest) (transport : UdpTransport)

/-- An empty packet is not sent. -/
def sendPacketTo (packet : ByteString) (destination : Endpoint) : List Datagram :=
  if packet = [] then [] else [⟨packet, destination⟩]

/-- `SendHelloTo`: the signed hello, on its way to one endpoint. -/
def sendHelloTo (destination : Endpoint) (useObservedSourcePort : Bool) :
    Except StringError (List Datagram) := do
  let packet ← signPacket digest transport.sharedSecret
    (ascii "IEDSTDISC|v1|HELLO|id=" ++ transport.instanceID ++
      ascii "|name=" ++ hexEncode transport.localPlayerName ++
      ascii "|port=" ++ formatNat transport.localPort.toNat ++
      ascii "|observed=" ++ (if useObservedSourcePort then ascii "1" else ascii "0"))
  return sendPacketTo packet destination

/-- A new peer is greeted. -/
def registerPeer (source : Endpoint) (advertisedPort : UInt16) (name instanceID : ByteString)
    (now : Nat) : Except StringError (UdpTransport × List Datagram) :=
  if instanceID = [] ∨ instanceID = transport.instanceID then .ok (transport, [])
  else do
    let peerAddress : Endpoint := { source with port := advertisedPort }
    let key := instanceID ++ [bar] ++ addressToString peerAddress
    let inserted := (transport.peers.lookup key).isNone
    let registered := { transport with
      peers := transport.peers.insert key ⟨peerAddress, name, instanceID, now⟩ }
    let hello ← if inserted then registered.sendHelloTo digest peerAddress true else .ok []
    return (registered, hello)

/-- The transport behind a discovery packet and what it sends; none for another packet. -/
def handleDiscovery (packet : ByteString) (source : Endpoint) (now : Nat) :
    Except StringError (Option (UdpTransport × List Datagram)) :=
  if ¬ kDiscoveryPrefix.isPrefixOf packet then .ok none
  else do
    let id ← readField packet (ascii "id")
    let encodedName ← readField packet (ascii "name")
    let advertisedPort := parsePort (← readField packet (ascii "port"))
    let observed ← readField packet (ascii "observed")
    let port := if observed = some (ascii "1") then source.port else advertisedPort
    match id, encodedName with
    | some id, some encodedName =>
      if port = 0 then return some (transport, [])
      else
        let name := (hexDecode encodedName).getD (ascii "Peer")
        return some (← transport.registerPeer digest source port name id now)
    | _, _ => return some (transport, [])

/-- `TouchGameplayPeer`: the sender of a gameplay packet is entered under its address. -/
def touchGameplayPeer (packet : ByteString) (source : Endpoint) (now : Nat) :
    Except StringError UdpTransport :=
  if ¬ kGameplayPrefix.isPrefixOf packet then .ok transport
  else do
    let sender ← readField packet (ascii "from")
    let name := (sender.bind hexDecode).getD (ascii "Peer")
    let key := ascii "gameplay|" ++ addressToString source
    return { transport with peers := transport.peers.insert key ⟨source, name, key, now⟩ }

/-- `ExpirePeers`: peers not heard of for longer than the timeout are forgotten. -/
def expirePeers (peerTimeoutMs now : Nat) : UdpTransport :=
  { transport with
    peers := transport.peers.eraseValues fun peer => peerTimeoutMs < now - peer.lastSeen }

/-- One round of the loops of `SnapshotDestinations`: the endpoints seen and the result. -/
def pushDestination (excluded : Option Endpoint) (state : List ByteString × List Endpoint)
    (address : Endpoint) : List ByteString × List Endpoint :=
  if excluded = some address then state
  else if addressToString address ∈ state.1 then state
  else (addressToString address :: state.1, state.2 ++ [address])

/-- `SnapshotDestinations`: the configured peers, then the known ones, each address once. -/
def snapshotDestinations (excluded : Option Endpoint) : List Endpoint :=
  let configured := transport.configuredPeers.foldl (pushDestination excluded) ([], [])
  (transport.peers.entries.foldl
    (fun state entry => pushDestination excluded state entry.2.address) configured).2

/-- The signed packet of `Send`. -/
def builtPacket (payload : ByteString) : Except StringError ByteString :=
  signPacket digest transport.sharedSecret
    (ascii "IEDST|v1|id=" ++ transport.instanceID ++
      ascii "|from=" ++ hexEncode transport.localPlayerName ++ ascii "|relay=0|" ++ payload)

/-- Without a known peer the packet is broadcast if discovery is on. -/
def send (payload : ByteString) : Except StringError (List Datagram) :=
  if payload = [] then .ok []
  else do
    let packet ← transport.builtPacket digest payload
    let known := transport.snapshotDestinations none
    let broadcast : Endpoint := ⟨#v[255, 255, 255, 255], transport.localPort⟩
    let destinations := if known = [] ∧ transport.autoDiscovery then [broadcast] else known
    return destinations.flatMap (sendPacketTo packet)

/-- The packet `RelayGameplayPacket` forwards, if it forwards one. -/
def relayedPacket (packet : ByteString) : Except StringError (Option ByteString) :=
  if ¬ transport.relayMode ∨ ¬ kGameplayPrefix.isPrefixOf packet then .ok none
  else do
    let relay ← readField packet (ascii "relay")
    if relay.getD (ascii "0") ≠ ascii "0" then return none
    else
      let relayed ← markRelayed digest transport.sharedSecret packet
      return if relayed = [] then none else some relayed

/-- The sender is read for the log only. -/
def relayGameplayPacket (packet : ByteString) (source : Endpoint) :
    Except StringError (List Datagram) := do
  match ← transport.relayedPacket digest packet with
  | none => return []
  | some relayed =>
    let destinations := transport.snapshotDestinations (some source)
    let _ ← readField packet (ascii "from")
    return destinations.flatMap (sendPacketTo relayed)

/-- Every datagram sent of a packet carries it. -/
theorem packet_of_mem_sends {packet : ByteString} {destinations : List Endpoint}
    {datagram : Datagram} (sent : datagram ∈ destinations.flatMap (sendPacketTo packet)) :
    datagram.packet = packet := by
  obtain ⟨destination, _, copy⟩ := List.mem_flatMap.mp sent
  rw [sendPacketTo] at copy
  split at copy
  · cases copy
  · rw [List.mem_singleton.mp copy]

end UdpTransport

/-- What a turn of the receiver loop leaves: the transport, the datagrams sent, and the
packet given to the handler. -/
structure Reception where
  transport : UdpTransport
  sent : List Datagram
  delivered : Option ByteString

/-- What `ReceiverLoop` makes of a packet that `recvfrom` has handed over. -/
def UdpTransport.receive (digest : HmacDigest) (transport : UdpTransport) (packet : ByteString)
    (source : Endpoint) (now : Nat) : Except StringError Reception :=
  let gameplayPacket := kGameplayPrefix.isPrefixOf packet
  if ¬ kDiscoveryPrefix.isPrefixOf packet ∧ ¬ gameplayPacket then .ok ⟨transport, [], none⟩
  else do
    if ¬ (← authenticatePacket digest transport.sharedSecret packet) then
      return ⟨transport, [], none⟩
    else
      match ← transport.handleDiscovery digest packet source now with
      | some (transport, sent) => return ⟨transport, sent, none⟩
      | none =>
        let id ← if gameplayPacket then readField packet (ascii "id") else .ok none
        if id = some transport.instanceID then return ⟨transport, [], none⟩
        else
          let transport ← transport.touchGameplayPeer packet source now
          let sent ← transport.relayGameplayPacket digest packet source
          return ⟨transport, sent, some packet⟩

/-- What `recvfrom` can hand over; one byte of the buffer stays free. -/
def receiveCapacity : Nat := 8192 - 1

/-- One turn of `ReceiverLoop` on a datagram. If it is too large for the buffer, `recvfrom`
fails with `WSAEMSGSIZE` and the loop goes on. -/
def UdpTransport.receiverTurn (digest : HmacDigest) (transport : UdpTransport)
    (packet : ByteString) (source : Endpoint) (now : Nat) : Except StringError Reception :=
  if receiveCapacity < packet.length then .ok ⟨transport, [], none⟩
  else transport.receive digest packet source now

namespace UdpTransport

variable {digest : HmacDigest} {transport : UdpTransport} {packet : ByteString}
  {source : Endpoint} {now : Nat} {reception : Reception}

/-- A datagram that fits the buffer is received whole. -/
theorem receiverTurn_of_fits (fits : packet.length ≤ receiveCapacity) :
    transport.receiverTurn digest packet source now =
      transport.receive digest packet source now :=
  if_neg (Nat.not_lt.mpr fits)

/-- A turn drops its datagram or processes a packet that fits. -/
theorem receiverTurn_cases
    (turn : transport.receiverTurn digest packet source now = .ok reception) :
    reception = ⟨transport, [], none⟩ ∨ packet.length ≤ receiveCapacity ∧
      transport.receive digest packet source now = .ok reception := by
  rw [receiverTurn] at turn
  split at turn
  · exact .inl (Except.ok.inj turn).symm
  · next fits => exact .inr ⟨Nat.not_lt.mp fits, turn⟩

end UdpTransport

end IEDSyncTogether
