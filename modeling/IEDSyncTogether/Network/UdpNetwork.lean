import IEDSyncTogether.Base.Execution
import IEDSyncTogether.Network.Hello
import IEDSyncTogether.Network.Receiver
import IEDSyncTogether.Service.SyncService

/-!
# A network of transports

Any number of game processes with a UDP transport and a synchronisation service each, on a
network that loses, delays, repeats, reorders and alters datagrams and carries any others.
What was sent stays known to everyone; a receiver's turn gets arbitrary bytes.
-/

namespace IEDSyncTogether

open Base

/-- A datagram and the endpoint it was sent from. -/
structure Flight where
  source : Endpoint
  datagram : Datagram

/-- The processes, the packets queued for `HandlePacket`, and everything sent so far. -/
structure UdpNetwork (Node : Type) where
  transports : Node → UdpTransport
  services : Node → SyncService
  packetTasks : Node → List ByteString
  sent : List Flight

/-- What happens at a node, with the state a capture hands to `Send`. -/
inductive NetworkEvent (Node : Type) where
  | capture (node : Node) (slots : SlotState) (now : Nat) (published : Option StatePacket)
  | renamePlayer (node : Node) (playerName : ByteString)
  | sendHello (node : Node)
  | receive (node : Node) (packet : ByteString) (source : Endpoint) (now : Nat)
  | expirePeers (node : Node) (now : Nat)
  | runPacketTask (node : Node) (world : GameWorld)
  | refreshProxies (node : Node) (world : GameWorld)
  | resetService (node : Node) (world : GameWorld)

namespace UdpNetwork

variable {Node : Type} [DecidableEq Node] (digest : HmacDigest) (addresses : Node → Endpoint)
  (network : UdpNetwork Node)

/-- A node sends from its address. -/
def post (node : Node) (datagrams : List Datagram) : UdpNetwork Node :=
  { network with sent := network.sent ++ datagrams.map fun datagram => ⟨addresses node, datagram⟩ }

/-- The network with the transport of a node replaced. -/
def setTransport (node : Node) (transport : UdpTransport) : UdpNetwork Node :=
  { network with transports := Function.update network.transports node transport }

/-- The network with the service of a node replaced. -/
def setService (node : Node) (service : SyncService) : UdpNetwork Node :=
  { network with services := Function.update network.services node service }

/-- The network with the queued packets of a node replaced. -/
def setPacketTasks (node : Node) (packets : List ByteString) : UdpNetwork Node :=
  { network with packetTasks := Function.update network.packetTasks node packets }

/-- `OnLocalCapture` with `SendNetworkPayload` over UDP, and the state it published. -/
def capture (node : Node) (slots : SlotState) (now : Nat) :
    Except StringError (UdpNetwork Node × Option StatePacket) := do
  let (service, payload) := (network.services node).onLocalCapture slots now
  let captured := network.setService node service
  match payload with
  | none => return (captured, none)
  | some payload =>
    let transport := network.transports node
    let datagrams ← transport.send digest payload
    return (captured.post addresses node datagrams, some
      ⟨transport.instanceID, transport.localPlayerName, service.revision, service.localSlots⟩)

/-- A node sends its hello to every peer it knows. -/
def sendHello (node : Node) : Except StringError (UdpNetwork Node) := do
  let datagrams ← (network.transports node).sendHello digest
  return network.post addresses node datagrams

/-- A turn of the receiver loop; a delivered packet is queued for `HandlePacket`. -/
def receive (node : Node) (packet : ByteString) (source : Endpoint) (now : Nat) :
    Except StringError (UdpNetwork Node) := do
  let reception ← (network.transports node).receiverTurn digest packet source now
  return ((network.setTransport node reception.transport).setPacketTasks node
    (network.packetTasks node ++ reception.delivered.toList)).post addresses node reception.sent

/-- The oldest queued packet is handled. -/
def runPacketTask (node : Node) (world : GameWorld) : Except StringError (UdpNetwork Node) :=
  match network.packetTasks node with
  | [] => .ok network
  | packet :: packets => do
    let service ← (network.services node).handlePacket world packet
    return (network.setService node service).setPacketTasks node packets

end UdpNetwork

/-- Fresh processes with generated instance IDs under any order of events. -/
def udpNetwork {Node : Type} [DecidableEq Node] (digest : HmacDigest) (addresses : Node → Endpoint)
    (peerTimeoutMs : Node → Nat) : TransitionSystem (UdpNetwork Node) (NetworkEvent Node) where
  Initial network :=
    network.sent = [] ∧ ∀ node,
      GeneratedInstanceID (network.transports node).instanceID ∧
      (network.transports node).localPlayerName ≠ [] ∧ (network.transports node).peers = ∅ ∧
      (network.services node).hasLocalSlots = false ∧
      (network.services node).remoteSnapshots = ∅ ∧ network.packetTasks node = []
  Step network event next :=
    match event with
    | .capture node slots now published =>
      network.capture digest addresses node slots now = .ok (next, published)
    | .renamePlayer node playerName =>
      next = network.setTransport node
        { network.transports node with localPlayerName := sanitizeField playerName }
    | .sendHello node => network.sendHello digest addresses node = .ok next
    | .receive node packet source now =>
      network.receive digest addresses node packet source now = .ok next
    | .expirePeers node now =>
      next = network.setTransport node
        ((network.transports node).expirePeers (peerTimeoutMs node) now)
    | .runPacketTask node world => network.runPacketTask node world = .ok next
    | .refreshProxies node world =>
      next = network.setService node ((network.services node).refreshProxyMitigation world).1
    | .resetService node world =>
      next = network.setService node ((network.services node).reset world).1

/-! ## What a turn can do -/

namespace UdpTransport

variable {digest : HmacDigest} {transport next : UdpTransport} {packet : ByteString}
  {source : Endpoint} {now : Nat} {reception : Reception}

/-- Only the peer table differs. -/
def SameIdentity (transport next : UdpTransport) : Prop :=
  next = { transport with peers := next.peers }

/-- Touching a peer leaves the identity of the transport. -/
theorem sameIdentity_touchGameplayPeer
    (touched : transport.touchGameplayPeer packet source now = .ok next) :
    transport.SameIdentity next := by
  rw [touchGameplayPeer] at touched
  split at touched
  · cases touched
    rfl
  · simp only [readField_eq, bind, Except.bind, pure, Except.pure] at touched
    cases touched
    rfl

/-- What is sent are hellos of the transport. -/
def SendsHellos (digest : HmacDigest) (transport : UdpTransport) (sent : List Datagram) : Prop :=
  ∀ datagram ∈ sent, datagram.packet ≠ [] ∧
    ∃ observed, datagram.packet = transport.helloPacket digest observed

/-- What is sent for a hello are hellos. -/
theorem sendsHellos_sendPacketTo (digest : HmacDigest) (transport : UdpTransport) (observed : Bool)
    (destination : Endpoint) :
    SendsHellos digest transport
      (sendPacketTo (transport.helloPacket digest observed) destination) := by
  intro datagram sent
  unfold sendPacketTo at sent
  split at sent
  · cases sent
  · next present =>
      rw [List.mem_singleton.mp sent]
      exact ⟨present, observed, rfl⟩

/-- Registering a peer leaves the identity and sends hellos alone. -/
theorem registerPeer_cases (own : Plain transport.instanceID) {port : UInt16}
    {name instanceID : ByteString} {sent : List Datagram}
    (registered : transport.registerPeer digest source port name instanceID now =
      .ok (next, sent)) : transport.SameIdentity next ∧ SendsHellos digest transport sent := by
  have silent : SendsHellos digest transport [] := fun _ member => by cases member
  rw [registerPeer_eq own] at registered
  split_ifs at registered with ignored new
  · cases registered
    exact ⟨rfl, silent⟩
  · cases registered
    exact ⟨rfl, sendsHellos_sendPacketTo digest transport true _⟩
  · cases registered
    exact ⟨rfl, silent⟩

/-- A discovery packet changes the peer table and is answered with hellos. -/
theorem handleDiscovery_cases (own : Plain transport.instanceID) {sent : List Datagram}
    (handled : transport.handleDiscovery digest packet source now = .ok (some (next, sent))) :
    transport.SameIdentity next ∧ SendsHellos digest transport sent := by
  have ignored : transport.SameIdentity transport ∧ SendsHellos digest transport [] :=
    ⟨rfl, fun _ member => by cases member⟩
  unfold handleDiscovery at handled
  split at handled
  · cases handled
  · simp only [readField_eq, bind, Except.bind, pure, Except.pure] at handled
    split at handled
    · next id name _ _ =>
        generalize (if fieldValue packet (ascii "observed") = some (ascii "1") then source.port
          else parsePort (fieldValue packet (ascii "port"))) = port at handled
        split at handled
        · cases handled
          exact ignored
        · split at handled
          · cases handled
          · next done =>
              cases handled
              exact registerPeer_cases own done
    · cases handled
      exact ignored

/-- What is relayed does not depend on the peer table. -/
theorem SameIdentity.relayedPacket_eq (same : transport.SameIdentity next) :
    transport.relayedPacket digest packet = next.relayedPacket digest packet := by
  rw [same]
  rfl

/-- Every copy a relay sends is the relayed packet. -/
theorem relayedPacket_of_relay {sent : List Datagram}
    (relayed : transport.relayGameplayPacket digest packet source = .ok sent) :
    ∀ datagram ∈ sent, transport.relayedPacket digest packet = .ok (some datagram.packet) := by
  rw [relayGameplayPacket] at relayed
  cases forwarded : transport.relayedPacket digest packet with
  | error thrown => simp [forwarded, bind, Except.bind] at relayed
  | ok copy =>
      cases copy with
      | none =>
          simp only [forwarded, bind, Except.bind] at relayed
          cases relayed
          exact fun _ member => by cases member
      | some copy =>
          simp only [forwarded, readField_eq, bind, Except.bind] at relayed
          cases relayed
          intro datagram member
          rw [packet_of_mem_sends member]

/-- A packet is dropped, answered with hellos, or relayed and delivered. -/
inductive Outcome (digest : HmacDigest) (transport : UdpTransport) (packet : ByteString)
    (source : Endpoint) (now : Nat) (reception : Reception) : Prop
  | dropped (nothing : reception = ⟨transport, [], none⟩)
  | answered (accepted : authentic digest transport.sharedSecret packet = true)
      (discovery : kDiscoveryPrefix.isPrefixOf packet = true) (silent : reception.delivered = none)
      (hellos : SendsHellos digest transport reception.sent)
  | delivered (accepted : authentic digest transport.sharedSecret packet = true)
      (gameplay : kGameplayPrefix.isPrefixOf packet = true)
      (whole : reception.delivered = some packet)
      (touched : transport.touchGameplayPeer packet source now = .ok reception.transport)
      (copies : ∀ datagram ∈ reception.sent,
        transport.relayedPacket digest packet = .ok (some datagram.packet))

/-- What becomes of an authentic gameplay packet. -/
theorem outcome_of_gameplay (gameplay : kGameplayPrefix.isPrefixOf packet = true)
    (accepted : authentic digest transport.sharedSecret packet = true)
    (received : transport.receive digest packet source now = .ok reception) :
    transport.SameIdentity reception.transport ∧
      Outcome digest transport packet source now reception := by
  rw [receive_of_gameplay gameplay accepted] at received
  obtain ⟨touched, touch, same⟩ := exists_touched transport packet source now
  simp only [touch, bind, Except.bind, pure, Except.pure] at received
  split at received
  · cases received
    exact ⟨rfl, .dropped rfl⟩
  · cases relay : touched.relayGameplayPacket digest packet source with
    | error thrown => simp [relay] at received
    | ok sent =>
        simp only [relay] at received
        cases received
        refine ⟨same, .delivered accepted gameplay rfl touch fun datagram member => ?_⟩
        rw [SameIdentity.relayedPacket_eq same]
        exact relayedPacket_of_relay relay datagram member

/-- What becomes of any packet. -/
theorem receive_cases (own : Plain transport.instanceID)
    (received : transport.receive digest packet source now = .ok reception) :
    transport.SameIdentity reception.transport ∧
      Outcome digest transport packet source now reception := by
  cases accepted : authentic digest transport.sharedSecret packet with
  | false =>
      rw [receive_of_unauthentic accepted] at received
      cases received
      exact ⟨rfl, .dropped rfl⟩
  | true =>
      by_cases discovery : kDiscoveryPrefix.isPrefixOf packet = true
      · obtain ⟨greeted, sent, handled, taken⟩ :=
          @receive_of_discovery digest transport packet source now discovery accepted
        cases taken.symm.trans received
        obtain ⟨same, hellos⟩ := handleDiscovery_cases own handled
        exact ⟨same, .answered accepted discovery rfl hellos⟩
      · by_cases gameplay : kGameplayPrefix.isPrefixOf packet = true
        · exact outcome_of_gameplay gameplay accepted received
        · rw [receive, if_pos ⟨discovery, gameplay⟩] at received
          cases received
          exact ⟨rfl, .dropped rfl⟩

/-- What a turn does with its datagram. -/
theorem turn_cases (own : Plain transport.instanceID)
    (turn : transport.receiverTurn digest packet source now = .ok reception) :
    transport.SameIdentity reception.transport ∧
      Outcome digest transport packet source now reception := by
  rcases receiverTurn_cases turn with rfl | ⟨_, received⟩
  · exact ⟨rfl, .dropped rfl⟩
  · exact receive_cases own received

end UdpTransport

namespace UdpNetwork

variable {Node : Type} [DecidableEq Node] {digest : HmacDigest} {addresses : Node → Endpoint}
  {network next : UdpNetwork Node} {node : Node} {packet : ByteString} {source : Endpoint}
  {now : Nat}

/-- A turn of a node is a turn of its transport. -/
theorem exists_reception
    (received : network.receive digest addresses node packet source now = .ok next) :
    ∃ reception,
      (network.transports node).receiverTurn digest packet source now = .ok reception ∧
      next = ((network.setTransport node reception.transport).setPacketTasks node
        (network.packetTasks node ++ reception.delivered.toList)).post addresses node
          reception.sent := by
  simp only [UdpNetwork.receive, bind, Except.bind, pure, Except.pure] at received
  cases turn : (network.transports node).receiverTurn digest packet source now with
  | error thrown => simp [turn] at received
  | ok reception =>
      simp only [turn, Except.ok.injEq] at received
      exact ⟨reception, rfl, received.symm⟩

end UdpNetwork

end IEDSyncTogether
