import IEDSyncTogether.Network.Provenance

/-!
# Mutual discovery

A transport answers the first hello of a peer and enters everyone it hears, so on a network
that delivers hellos at all, in any order and any number of times, nobody is known to a peer
it does not know itself, and one announcement acquaints its sender with everyone.
-/

namespace IEDSyncTogether

open Base

namespace UdpTransport

variable {digest : HmacDigest} {transport next sender receiver : UdpTransport}
  {packet : ByteString} {source : Endpoint} {now : Nat}

/-- The same process, whatever its player is called and whom it knows. -/
def SameParty (transport next : UdpTransport) : Prop :=
  next = { transport with localPlayerName := next.localPlayerName, peers := next.peers }

/-- A transport that keeps its identity is the same party. -/
theorem SameIdentity.sameParty (same : transport.SameIdentity next) :
    transport.SameParty next := by
  rw [SameParty, same]

/-- A hello of the process under some name of its player. -/
def IsHello (digest : HmacDigest) (transport : UdpTransport) (packet : ByteString) : Prop :=
  ∃ playerName observed,
    packet = { transport with localPlayerName := playerName }.helloPacket digest observed

/-- The same party sends the same hellos. -/
theorem SameParty.isHello_iff (same : transport.SameParty next) :
    next.IsHello digest packet ↔ transport.IsHello digest packet := by
  rw [same]
  rfl

/-- A hello starts with the discovery prefix. -/
theorem IsHello.discovery (hello : transport.IsHello digest packet)
    (computes : transport.sharedSecret ≠ [] →
      ∀ data, (digest transport.sharedSecret data).isSome) :
    kDiscoveryPrefix.isPrefixOf packet = true := by
  obtain ⟨playerName, observed, rfl⟩ := hello
  obtain ⟨tags, text⟩ :=
    @exists_helloPacket digest { transport with localPlayerName := playerName } computes observed
  rw [text]
  rfl

/-- What is sent as a hello is one. -/
theorem SendsHellos.isHello {sent : List Datagram} (hellos : SendsHellos digest transport sent) :
    ∀ datagram ∈ sent, transport.IsHello digest datagram.packet := by
  intro datagram member
  obtain ⟨_, observed, shape⟩ := hellos datagram member
  exact ⟨transport.localPlayerName, observed, shape⟩

/-- The process has an entry for the instance at the address. -/
def HasPeer (transport : UdpTransport) (instanceID : ByteString) (address : Endpoint) : Prop :=
  (transport.peers.lookup (peerKey instanceID address)).isSome = true

/-- A key determines the instance and the address. -/
theorem peerKey_inj {one other : ByteString} {here there : Endpoint}
    (same : peerKey one here = peerKey other there) : one = other ∧ here = there := by
  obtain rfl := append_addressToString_inj same
  exact ⟨List.append_cancel_right same, rfl⟩

/-- No generated instance is called like the entries of gameplay packets. -/
theorem ne_gameplay_of_generated {instanceID : ByteString}
    (generated : GeneratedInstanceID instanceID) : instanceID ≠ ascii "gameplay" := by
  have dash (processID : UInt32) (tickCount : UInt64) :
      byteOf '-' ∈ udpInstanceID processID tickCount := by
    simp [udpInstanceID]
  have none : byteOf '-' ∉ ascii "gameplay" := by decide
  rintro rfl
  rcases generated with ⟨processID, tickCount, same⟩ | ⟨connectionID, processID, tickCount, same⟩
  · exact none (same ▸ dash processID tickCount)
  · unfold strInstanceID at same
    split at same
    · have letter : byteOf 'g' ∈ formatNat connectionID.toNat := by
        rw [← same]
        decide
      exact absurd letter (not_mem_formatNat (by decide))
    · exact none (same ▸ List.mem_append_right _ (dash processID tickCount))

/-- A hello that comes from the port of its sender enters the sender there. -/
theorem receive_isHello (own : Plain receiver.instanceID) (peer : Plain sender.instanceID)
    (present : sender.instanceID ≠ []) (distinct : sender.instanceID ≠ receiver.instanceID)
    (secrets : receiver.sharedSecret = sender.sharedSecret)
    (computes : sender.sharedSecret ≠ [] → ∀ data, (digest sender.sharedSecret data).isSome)
    (port : sender.localPort = source.port) (reachable : source.port ≠ 0)
    (hello : sender.IsHello digest packet) :
    ∃ playerName, receiver.receive digest packet source now =
      .ok ⟨receiver.enterPeer source playerName sender.instanceID now,
        if receiver.peers.lookup (peerKey sender.instanceID source) = none then
          [⟨receiver.helloPacket digest true, source⟩]
        else [], none⟩ := by
  obtain ⟨playerName, observed, rfl⟩ := hello
  have ignored : ¬ (sender.instanceID = [] ∨ sender.instanceID = receiver.instanceID) :=
    not_or.mpr ⟨present, distinct⟩
  have answer := @helloPacket_ne_nil digest receiver (by rwa [secrets]) true
  refine ⟨playerName, ?_⟩
  rw [@receive_hello digest { sender with localPlayerName := playerName } receiver peer secrets
    computes observed source now, greeted]
  simp only [port, ite_self, if_neg reachable]
  rw [registerPeer_eq own, if_neg ignored, sendPacketTo, if_neg answer]
  rfl

/-- A process ignores its own hellos. -/
theorem receive_ownHello (own : Plain receiver.instanceID)
    (computes : receiver.sharedSecret ≠ [] → ∀ data, (digest receiver.sharedSecret data).isSome)
    (hello : receiver.IsHello digest packet) :
    receiver.receive digest packet source now = .ok ⟨receiver, [], none⟩ := by
  obtain ⟨playerName, observed, rfl⟩ := hello
  rw [@receive_hello digest { receiver with localPlayerName := playerName } receiver own rfl
    computes observed source now, greeted]
  dsimp only
  have itself : receiver.instanceID = [] ∨ receiver.instanceID = receiver.instanceID := .inr rfl
  rw [registerPeer_eq own, if_pos itself, ite_self]
  rfl

/-- A relay's copy is no discovery packet. -/
theorem isPrefixOf_relayedPacket {copy : ByteString}
    (relayed : transport.relayedPacket digest packet = .ok (some copy)) :
    kDiscoveryPrefix.isPrefixOf copy = false := by
  cases relaying : transport.relayMode with
  | false => simp [relayedPacket, relaying] at relayed
  | true =>
      cases gameplay : kGameplayPrefix.isPrefixOf packet with
      | false => simp [relayedPacket, gameplay] at relayed
      | true =>
          obtain ⟨fields, present, free, rfl⟩ := exists_gameplayText gameplay
          rw [relayedPacket_gameplayText relaying present free] at relayed
          split_ifs at relayed
          · cases relayed
          · obtain ⟨tags, _, rfl⟩ := Option.map_eq_some_iff.mp (Except.ok.inj relayed)
            rfl

/-- A packet that is no hello changes no entry of an instance, and no hello is sent for it. -/
theorem receiverTurn_other (own : Plain transport.instanceID) {reception : Reception}
    (other : kDiscoveryPrefix.isPrefixOf packet = false)
    (turn : transport.receiverTurn digest packet source now = .ok reception) :
    (∀ key, key ≠ peerKey (ascii "gameplay") source →
      reception.transport.peers.lookup key = transport.peers.lookup key) ∧
    ∀ datagram ∈ reception.sent, kDiscoveryPrefix.isPrefixOf datagram.packet = false := by
  rcases (turn_cases own turn).2 with rfl | ⟨_, discovery, _⟩ | ⟨_, _, _, touch, copies⟩
  · exact ⟨fun _ _ => rfl, fun _ member => by cases member⟩
  · rw [other] at discovery
    cases discovery
  · refine ⟨?_, fun datagram member => isPrefixOf_relayedPacket (copies datagram member)⟩
    intro key differs
    have label : ascii "gameplay|" ++ addressToString source =
        peerKey (ascii "gameplay") source := rfl
    rw [touchGameplayPeer, label] at touch
    split at touch
    · cases touch
      rfl
    · simp only [readField_eq, bind, Except.bind, pure, Except.pure, Except.ok.injEq] at touch
      rw [← touch]
      exact AList.lookup_insert_ne differs

end UdpTransport

/-! ## The law of a run -/

variable {Node : Type} {digest : HmacDigest} {addresses : Node → Endpoint}

/-- Processes on machines of their own with one secret, each sending from the port it
advertises. -/
structure Neighbours (addresses : Node → Endpoint) (network : UdpNetwork Node) : Prop where
  instances : Function.Injective fun node => (network.transports node).instanceID
  machines : Function.Injective addresses
  ports : ∀ node, (network.transports node).localPort = (addresses node).port
  reachable : ∀ node, (addresses node).port ≠ 0
  secrets : ∀ node other,
    (network.transports node).sharedSecret = (network.transports other).sharedSecret

/-- Neighbours keep their entries, and only what was sent arrives, at any node and at any
time. A hello that arrives fits the receivers' buffers. -/
def Undisturbed (addresses : Node → Endpoint) (network : UdpNetwork Node)
    (event : NetworkEvent Node) : Prop :=
  Neighbours addresses network ∧
    match event with
    | .receive _ packet source _ =>
      (kDiscoveryPrefix.isPrefixOf packet = true → packet.length ≤ receiveCapacity) ∧
        ∃ flight ∈ network.sent, flight.source = source ∧ flight.datagram.packet = packet
    | .expirePeers _ _ => False
    | _ => True

/-- Every datagram reached the nodes it was addressed to, at least once. -/
def AllReceived (addresses : Node → Endpoint) (events : List (NetworkEvent Node))
    (network : UdpNetwork Node) : Prop :=
  ∀ flight ∈ network.sent, ∀ node, flight.source ≠ addresses node →
    flight.datagram.destination = addresses node ∨
      flight.datagram.destination = broadcastEndpoint (addresses node).port →
    ∃ now, NetworkEvent.receive node flight.datagram.packet flight.source now ∈ events

namespace UdpNetwork

variable {events : List (NetworkEvent Node)} {network next : UdpNetwork Node}

/-- The node has an entry for the other one. -/
def Knows (addresses : Node → Endpoint) (network : UdpNetwork Node) (node other : Node) : Prop :=
  (network.transports node).HasPeer (network.transports other).instanceID (addresses other)

/-- A hello of the node to the destination was sent. -/
def Greeted (digest : HmacDigest) (addresses : Node → Endpoint) (network : UdpNetwork Node)
    (node : Node) (destination : Endpoint) : Prop :=
  ∃ flight ∈ network.sent, flight.source = addresses node ∧
    flight.datagram.destination = destination ∧
    (network.transports node).IsHello digest flight.datagram.packet

/-- Whoever is entered was greeted, and whoever was heard is entered. -/
structure Acquainted (digest : HmacDigest) (addresses : Node → Endpoint)
    (events : List (NetworkEvent Node)) (network : UdpNetwork Node) : Prop where
  generated : ∀ node, GeneratedInstanceID (network.transports node).instanceID
  flights : ∀ flight ∈ network.sent, ∃ node, flight.source = addresses node ∧
    ((network.transports node).IsHello digest flight.datagram.packet ∨
      kDiscoveryPrefix.isPrefixOf flight.datagram.packet = false)
  stranger : ∀ node, ¬ network.Knows addresses node node
  addressed : ∀ node other peer, (network.transports node).peers.lookup
    (UdpTransport.peerKey (network.transports other).instanceID (addresses other)) = some peer →
    peer.address = addresses other
  greeted : ∀ node other, network.Knows addresses node other →
    network.Greeted digest addresses node (addresses other)
  entered : ∀ node other packet now, node ≠ other →
    NetworkEvent.receive node packet (addresses other) now ∈ events →
    (network.transports other).IsHello digest packet → network.Knows addresses node other
  announced : ∀ node, NetworkEvent.sendHello node ∈ events →
    (network.transports node).autoDiscovery = true →
    network.Greeted digest addresses node (broadcastEndpoint (network.transports node).localPort)

/-- What a step may do among neighbours. -/
structure Extends (digest : HmacDigest) (addresses : Node → Endpoint) (event : NetworkEvent Node)
    (network next : UdpNetwork Node) : Prop where
  parties : ∀ node, (network.transports node).SameParty (next.transports node)
  grows : network.sent ⊆ next.sent
  flights : ∀ flight ∈ next.sent, flight ∈ network.sent ∨ ∃ node, flight.source = addresses node ∧
    ((network.transports node).IsHello digest flight.datagram.packet ∨
      kDiscoveryPrefix.isPrefixOf flight.datagram.packet = false)
  entries : ∀ node other peer, (next.transports node).peers.lookup
    (UdpTransport.peerKey (network.transports other).instanceID (addresses other)) = some peer →
    (network.transports node).peers.lookup (UdpTransport.peerKey
      (network.transports other).instanceID (addresses other)) = some peer ∨
    peer.address = addresses other
  keeps : ∀ node other, network.Knows addresses node other → next.Knows addresses node other
  enters : ∀ node other, next.Knows addresses node other → network.Knows addresses node other ∨
    node ≠ other ∧ next.Greeted digest addresses node (addresses other)
  hears : ∀ node other packet now, event = .receive node packet (addresses other) now →
    node ≠ other → (network.transports other).IsHello digest packet →
    next.Knows addresses node other
  announces : ∀ node, event = .sendHello node → (network.transports node).autoDiscovery = true →
    next.Greeted digest addresses node (broadcastEndpoint (network.transports node).localPort)

/-- Such a step keeps the law. -/
theorem Acquainted.step {event : NetworkEvent Node}
    (acquainted : Acquainted digest addresses events network)
    (extends_ : Extends digest addresses event network next) :
    Acquainted digest addresses (events ++ [event]) next := by
  have hello (node : Node) (packet : ByteString) : (next.transports node).IsHello digest packet ↔
      (network.transports node).IsHello digest packet := (extends_.parties node).isHello_iff
  have again {node : Node} {destination : Endpoint}
      (greeted : network.Greeted digest addresses node destination) :
      next.Greeted digest addresses node destination := by
    obtain ⟨flight, member, source, reaches, shape⟩ := greeted
    exact ⟨flight, extends_.grows member, source, reaches, (hello node _).mpr shape⟩
  have identity (node : Node) :
      (next.transports node).instanceID = (network.transports node).instanceID := by
    rw [extends_.parties node]
  refine ⟨?_, ?_, ?_, ?_, ?_, ?_, ?_⟩
  · intro node
    rw [identity]
    exact acquainted.generated node
  · intro flight member
    simp only [hello]
    exact (extends_.flights flight member).elim (acquainted.flights flight) id
  · intro node known
    exact (extends_.enters node node known).elim (acquainted.stranger node) fun new => new.1 rfl
  · intro node other peer found
    rw [identity] at found
    exact (extends_.entries node other peer found).elim (acquainted.addressed node other peer) id
  · intro node other known
    rcases extends_.enters node other known with before | ⟨_, greeted⟩
    · exact again (acquainted.greeted node other before)
    · exact greeted
  · intro node other packet now distinct member shape
    rw [hello] at shape
    rcases List.mem_append.mp member with earlier | last
    · exact extends_.keeps node other
        (acquainted.entered node other packet now distinct earlier shape)
    · exact extends_.hears node other packet now (List.mem_singleton.mp last).symm distinct shape
  · intro node member discovers
    have same := extends_.parties node
    have party : (next.transports node).autoDiscovery = (network.transports node).autoDiscovery ∧
        (next.transports node).localPort = (network.transports node).localPort := by
      rw [same]
      exact ⟨rfl, rfl⟩
    rw [party.1] at discovers
    rw [party.2]
    rcases List.mem_append.mp member with earlier | last
    · exact again (acquainted.announced node earlier discovers)
    · exact extends_.announces node (List.mem_singleton.mp last).symm discovers

/-- A step that leaves the transports and sends nothing. -/
theorem Extends.of_same {event : NetworkEvent Node} (transports : next.transports = network.transports)
    (sent : next.sent = network.sent)
    (quiet : ∀ node packet source now, event ≠ .receive node packet source now)
    (silent : ∀ node, event ≠ .sendHello node) :
    Extends digest addresses event network next where
  parties node := by rw [transports]; rfl
  grows := by rw [sent]; exact List.Subset.refl _
  flights flight member := by rw [sent] at member; exact .inl member
  entries node other peer found := by rw [transports] at found; exact .inl found
  keeps node other known := by rwa [Knows, transports]
  enters node other known := by rw [Knows, transports] at known; exact .inl known
  hears node other packet now same := absurd same (quiet node packet _ now)
  announces node same := absurd same (silent node)

/-- A node sends hellos, or packets that are none. -/
theorem Extends.of_post {event : NetworkEvent Node} (node : Node) {datagrams : List Datagram}
    (transports : next.transports = network.transports)
    (sent : next.sent = network.sent ++ datagrams.map fun datagram => ⟨addresses node, datagram⟩)
    (each : ∀ datagram ∈ datagrams, (network.transports node).IsHello digest datagram.packet ∨
      kDiscoveryPrefix.isPrefixOf datagram.packet = false)
    (quiet : ∀ node packet source now, event ≠ .receive node packet source now)
    (announces : ∀ other, event = .sendHello other →
      (network.transports other).autoDiscovery = true → other = node ∧
      ∃ datagram ∈ datagrams, datagram.destination =
        broadcastEndpoint (network.transports node).localPort ∧
        (network.transports node).IsHello digest datagram.packet) :
    Extends digest addresses event network next where
  parties other := by rw [transports]; rfl
  grows := by rw [sent]; exact List.subset_append_left _ _
  flights flight member := by
    rw [sent] at member
    rcases List.mem_append.mp member with earlier | new
    · exact .inl earlier
    · obtain ⟨datagram, among, rfl⟩ := List.mem_map.mp new
      exact .inr ⟨node, rfl, each datagram among⟩
  entries node other peer found := by rw [transports] at found; exact .inl found
  keeps node other known := by rwa [Knows, transports]
  enters node other known := by rw [Knows, transports] at known; exact .inl known
  hears node other packet now same := absurd same (quiet node packet _ now)
  announces other same discovers := by
    obtain ⟨rfl, datagram, among, reaches, hello⟩ := announces other same discovers
    refine ⟨⟨addresses other, datagram⟩, ?_, rfl, reaches, ?_⟩
    · rw [sent]
      exact List.mem_append_right _ (List.mem_map_of_mem among)
    · rwa [transports]

/-- A published state is no hello. -/
theorem extends_capture [DecidableEq Node] {node : Node} {slots : SlotState} {now : Nat}
    {published : Option StatePacket}
    (generated : GeneratedInstanceID (network.transports node).instanceID)
    (captured : network.capture digest addresses node slots now = .ok (next, published)) :
    Extends digest addresses (.capture node slots now published) network next := by
  obtain ⟨_, payloads, _⟩ := (network.services node).onLocalCapture_cases slots now
  simp only [UdpNetwork.capture, bind, Except.bind, pure, Except.pure] at captured
  cases offered : ((network.services node).onLocalCapture slots now).2 with
  | none =>
      simp only [offered, Except.ok.injEq, Prod.mk.injEq] at captured
      obtain ⟨rfl, rfl⟩ := captured
      exact .of_same rfl rfl (fun _ _ _ _ same => by cases same) fun _ same => by cases same
  | some payload =>
      obtain rfl := payloads payload offered
      obtain ⟨peer, _⟩ := plain_of_generated generated
      obtain ⟨datagrams, sent, packets⟩ := send_statePayload (@builtPacket_statePayload digest
        ((network.services node).onLocalCapture slots now).1.revision
        ((network.services node).onLocalCapture slots now).1.localSlots (network.transports node) peer)
      simp only [offered, sent, Except.ok.injEq, Prod.mk.injEq] at captured
      obtain ⟨rfl, rfl⟩ := captured
      refine .of_post node rfl rfl ?_ (fun _ _ _ _ same => by cases same)
        fun _ same => by cases same
      intro datagram member
      rw [packets datagram member, signed_gameplayText]
      right
      cases tagFields digest (network.transports node).sharedSecret _ <;> rfl

/-- Renaming a player changes no entry. -/
theorem extends_rename [DecidableEq Node] (network : UdpNetwork Node) (node : Node)
    (playerName : ByteString) :
    Extends digest addresses (.renamePlayer node playerName) network (network.setTransport node
      { network.transports node with localPlayerName := sanitizeField playerName }) := by
  have peers (other : Node) : ((network.setTransport node { network.transports node with
      localPlayerName := sanitizeField playerName }).transports other).peers =
      (network.transports other).peers := by
    by_cases here : other = node
    · subst here
      simp [setTransport]
    · simp [setTransport, Function.update_of_ne here]
  have parties (other : Node) : (network.transports other).SameParty ((network.setTransport node
      { network.transports node with localPlayerName := sanitizeField playerName }).transports
        other) := by
    by_cases here : other = node
    · subst here
      simp [setTransport, UdpTransport.SameParty]
    · simp [setTransport, Function.update_of_ne here, UdpTransport.SameParty]
  have knows (one other : Node) : (network.setTransport node { network.transports node with
      localPlayerName := sanitizeField playerName }).Knows addresses one other ↔
      network.Knows addresses one other := by
    rw [Knows, Knows, UdpTransport.HasPeer, UdpTransport.HasPeer, peers, parties other]
  exact {
    parties
    grows := List.Subset.refl _
    flights := fun flight member => .inl member
    entries := fun one other peer found => .inl (by rwa [peers] at found)
    keeps := fun one other => (knows one other).mpr
    enters := fun one other known => .inl ((knows one other).mp known)
    hears := fun _ _ _ _ same => by cases same
    announces := fun _ same => by cases same }

/-- An announcement is broadcast. -/
theorem extends_sendHello {node : Node}
    (generated : GeneratedInstanceID (network.transports node).instanceID)
    (computes : (network.transports node).sharedSecret ≠ [] →
      ∀ data, (digest (network.transports node).sharedSecret data).isSome)
    (done : network.sendHello digest addresses node = .ok next) :
    Extends digest addresses (.sendHello node) network next := by
  obtain ⟨own, _⟩ := plain_of_generated generated
  simp only [UdpNetwork.sendHello, UdpTransport.sendHello_eq own, bind, Except.bind, pure,
    Except.pure] at done
  cases done
  have hellos :=
    UdpTransport.sendsHellos_sendHello own (@UdpTransport.sendHello_eq digest _ own)
  refine .of_post node rfl rfl (fun datagram member => .inl (hellos.isHello datagram member))
    (fun _ _ _ _ same => by cases same) ?_
  intro other same discovers
  cases same
  refine ⟨rfl, ⟨(network.transports node).helloPacket digest false, _⟩, ?_, rfl, _, false, rfl⟩
  rw [if_pos discovers, UdpTransport.sendPacketTo,
    if_neg (UdpTransport.helloPacket_ne_nil computes false)]
  exact List.mem_append_left _ List.mem_cons_self

section Receive

variable [DecidableEq Node] {node : Node} {packet : ByteString} {source : Endpoint} {now : Nat}

/-- The entry a transport has for another node. -/
abbrev entryOf (addresses : Node → Endpoint) (network : UdpNetwork Node) (transport : UdpTransport)
    (other : Node) : Option Peer :=
  transport.peers.lookup
    (UdpTransport.peerKey (network.transports other).instanceID (addresses other))

/-- A turn of a node that enters the sender of a hello, and greets it if it was not known. -/
structure Turn (digest : HmacDigest) (addresses : Node → Endpoint) (network next : UdpNetwork Node)
    (node : Node) (packet : ByteString) (source : Endpoint) (reception : Reception) : Prop where
  transports : next.transports = Function.update network.transports node reception.transport
  sent : next.sent = network.sent ++
    reception.sent.map fun datagram => ⟨addresses node, datagram⟩
  same : (network.transports node).SameIdentity reception.transport
  each : ∀ datagram ∈ reception.sent,
    (network.transports node).IsHello digest datagram.packet ∨
      kDiscoveryPrefix.isPrefixOf datagram.packet = false
  entered : ∀ other, network.entryOf addresses reception.transport other =
      network.entryOf addresses (network.transports node) other ∨
    node ≠ other ∧ ∃ peer, network.entryOf addresses reception.transport other = some peer ∧
      peer.address = addresses other ∧
      (network.entryOf addresses (network.transports node) other = none →
        ∃ datagram ∈ reception.sent, datagram.destination = addresses other ∧
          (network.transports node).IsHello digest datagram.packet)
  hears : ∀ other, source = addresses other → node ≠ other →
    (network.transports other).IsHello digest packet →
    (network.entryOf addresses reception.transport other).isSome = true

namespace Turn

variable {reception : Reception}
  (turn : Turn digest addresses network next node packet source reception)

include turn

/-- Every transport stays the same party. -/
theorem parties (other : Node) : (network.transports other).SameParty (next.transports other) := by
  rw [turn.transports]
  by_cases here : other = node
  · subst here
    simpa using turn.same.sameParty
  · simp [Function.update_of_ne here, UdpTransport.SameParty]

/-- Only the node's own entries can change. -/
theorem entryOf_next (one other : Node) : network.entryOf addresses (next.transports one) other =
    network.entryOf addresses
      (if one = node then reception.transport else network.transports one) other := by
  rw [turn.transports, Function.update_apply]

/-- Who knows whom afterwards is read off the table of the transport. -/
theorem knows_next (one other : Node) : next.Knows addresses one other ↔
    (network.entryOf addresses (next.transports one) other).isSome = true := by
  have identity : (next.transports other).instanceID = (network.transports other).instanceID := by
    rw [turn.parties other]
  rw [Knows, UdpTransport.HasPeer, identity]

/-- A datagram behind the turn was under way, or is a hello of its source, or is no discovery
packet. -/
theorem flights : ∀ flight ∈ next.sent, flight ∈ network.sent ∨
    ∃ one, flight.source = addresses one ∧
      ((network.transports one).IsHello digest flight.datagram.packet ∨
        kDiscoveryPrefix.isPrefixOf flight.datagram.packet = false) := by
  intro flight member
  rw [turn.sent] at member
  rcases List.mem_append.mp member with earlier | new
  · exact .inl earlier
  · obtain ⟨datagram, among, rfl⟩ := List.mem_map.mp new
    exact .inr ⟨node, rfl, turn.each datagram among⟩

/-- An entry is an old one, or has the address of its instance. -/
theorem entries (one other : Node) {peer : Peer}
    (found : network.entryOf addresses (next.transports one) other = some peer) :
    network.entryOf addresses (network.transports one) other = some peer ∨
      peer.address = addresses other := by
  have entry := (turn.entryOf_next one other).symm.trans found
  split at entry
  · next here =>
      subst here
      rcases turn.entered other with kept | ⟨_, new, made, reaches, _⟩
      · exact .inl (kept.symm.trans entry)
      · rw [made, Option.some.injEq] at entry
        exact .inr (entry ▸ reaches)
  · exact .inl entry

/-- Whoever was known stays known. -/
theorem keeps {one other : Node} (known : network.Knows addresses one other) :
    next.Knows addresses one other := by
  rw [turn.knows_next, turn.entryOf_next]
  split
  · next here =>
      subst here
      rcases turn.entered other with kept | ⟨_, new, made, _⟩
      · rw [kept]
        exact known
      · rw [made, Option.isSome_some]
  · exact known

/-- Whoever becomes known is greeted. -/
theorem enters {one other : Node} (known : next.Knows addresses one other) :
    network.Knows addresses one other ∨
      one ≠ other ∧ next.Greeted digest addresses one (addresses other) := by
  rw [turn.knows_next, turn.entryOf_next] at known
  split at known
  · next here =>
      subst here
      rcases turn.entered other with kept | ⟨distinct, new, made, _, greets⟩
      · rw [kept] at known
        exact .inl known
      · cases before : network.entryOf addresses (network.transports one) other with
        | some peer => exact .inl (Option.isSome_iff_exists.mpr ⟨peer, before⟩)
        | none =>
            obtain ⟨datagram, among, reaches, hello⟩ := greets before
            refine .inr ⟨distinct, ⟨addresses one, datagram⟩, ?_, rfl, reaches, ?_⟩
            · rw [turn.sent]
              exact List.mem_append_right _ (List.mem_map_of_mem among)
            · exact (turn.parties one).isHello_iff.mpr hello
  · exact .inl known

/-- Such a turn is a step among neighbours. -/
theorem extends_ (now : Nat) :
    Extends digest addresses (.receive node packet source now) network next where
  parties := turn.parties
  grows := by rw [turn.sent]; exact List.subset_append_left _ _
  flights := turn.flights
  entries one other peer found := turn.entries one other found
  keeps one other known := turn.keeps known
  enters one other known := turn.enters known
  hears one other heard time event distinct hello := by
    obtain ⟨rfl, rfl, from_, rfl⟩ : node = one ∧ packet = heard ∧ source = addresses other ∧
        now = time := by simpa using event
    rw [turn.knows_next, turn.entryOf_next, if_pos rfl]
    exact turn.hears other from_ distinct hello
  announces one event := by cases event

end Turn

/-- A node's own hello, wherever it comes from, changes nothing. -/
theorem turn_ownHello {reception : Reception} (machines : Function.Injective addresses)
    (generated : GeneratedInstanceID (network.transports node).instanceID)
    (computes : ∀ sharedSecret data, (digest sharedSecret data).isSome)
    (transports : next.transports = Function.update network.transports node reception.transport)
    (sent : next.sent = network.sent ++
      reception.sent.map fun datagram => ⟨addresses node, datagram⟩)
    (hello : (network.transports node).IsHello digest packet)
    (done : (network.transports node).receive digest packet (addresses node) now =
      .ok reception) :
    Turn digest addresses network next node packet (addresses node) reception := by
  rw [UdpTransport.receive_ownHello (plain_of_generated generated).1 (fun _ => computes _) hello]
    at done
  cases done
  refine ⟨transports, sent, rfl, (fun _ among => by cases among), fun _ => .inl rfl, ?_⟩
  exact fun other source distinct => absurd (machines source) distinct

/-- The hello of a neighbour enters it. -/
theorem turn_hello {reception : Reception} {sender : Node}
    (neighbours : Neighbours addresses network)
    (generated : ∀ node, GeneratedInstanceID (network.transports node).instanceID)
    (computes : ∀ sharedSecret data, (digest sharedSecret data).isSome)
    (transports : next.transports = Function.update network.transports node reception.transport)
    (sent : next.sent = network.sent ++
      reception.sent.map fun datagram => ⟨addresses node, datagram⟩)
    (itself : node ≠ sender) (hello : (network.transports sender).IsHello digest packet)
    (done : (network.transports node).receive digest packet (addresses sender) now =
      .ok reception) :
    Turn digest addresses network next node packet (addresses sender) reception := by
  obtain ⟨own, _⟩ := plain_of_generated (generated node)
  obtain ⟨peer, present⟩ := plain_of_generated (generated sender)
  have same := (UdpTransport.receive_cases own done).1
  have apart : (network.transports sender).instanceID ≠ (network.transports node).instanceID :=
    fun alike => itself (neighbours.instances alike).symm
  obtain ⟨playerName, turn⟩ := @UdpTransport.receive_isHello digest
    (network.transports sender) (network.transports node) packet
    (addresses sender) now own peer present apart (neighbours.secrets node sender)
    (fun _ => computes _) (neighbours.ports sender) (neighbours.reachable sender) hello
  rw [turn] at done
  cases done
  have entry : network.entryOf addresses ((network.transports node).enterPeer
      (addresses sender) playerName (network.transports sender).instanceID now) sender =
      some ⟨addresses sender, playerName, (network.transports sender).instanceID, now⟩ :=
    AList.lookup_insert _
  refine ⟨transports, sent, same, ?_, ?_, ?_⟩
  · intro datagram among
    dsimp only at among
    split at among
    · rw [List.mem_singleton.mp among]
      exact .inl ⟨_, true, rfl⟩
    · cases among
  · intro other
    by_cases here : other = sender
    · subst here
      refine .inr ⟨itself, _, entry, rfl, fun new => ?_⟩
      refine ⟨⟨(network.transports node).helloPacket digest true, addresses other⟩, ?_, rfl,
        _, true, rfl⟩
      rw [if_pos new]
      exact List.mem_cons_self
    · left
      refine AList.lookup_insert_ne fun alike => here ?_
      exact neighbours.machines (UdpTransport.peerKey_inj alike).2
  · intro other source _ _
    obtain rfl : sender = other := neighbours.machines source
    rw [entry, Option.isSome_some]

/-- A packet that is no hello enters nobody. -/
theorem turn_other {reception : Reception}
    (generated : ∀ node, GeneratedInstanceID (network.transports node).instanceID)
    (computes : ∀ sharedSecret data, (digest sharedSecret data).isSome)
    (transports : next.transports = Function.update network.transports node reception.transport)
    (sent : next.sent = network.sent ++
      reception.sent.map fun datagram => ⟨addresses node, datagram⟩)
    (other : kDiscoveryPrefix.isPrefixOf packet = false)
    (done : (network.transports node).receiverTurn digest packet source now = .ok reception) :
    Turn digest addresses network next node packet source reception := by
  obtain ⟨own, _⟩ := plain_of_generated (generated node)
  obtain ⟨lookups, copies⟩ := UdpTransport.receiverTurn_other own other done
  refine ⟨transports, sent, (UdpTransport.turn_cases own done).1,
    fun datagram among => .inr (copies datagram among), ?_, ?_⟩
  · intro node
    left
    refine lookups _ fun alike => ?_
    exact UdpTransport.ne_gameplay_of_generated (generated node) (UdpTransport.peerKey_inj alike).1
  · intro node _ _ hello
    rw [hello.discovery fun _ => computes _] at other
    cases other

/-- A turn on what a neighbour sent. -/
theorem extends_receive (acquainted : Acquainted digest addresses events network)
    (neighbours : Neighbours addresses network)
    (computes : ∀ sharedSecret data, (digest sharedSecret data).isSome)
    (fits : kDiscoveryPrefix.isPrefixOf packet = true → packet.length ≤ receiveCapacity)
    (undisturbed : ∃ flight ∈ network.sent, flight.source = source ∧ flight.datagram.packet = packet)
    (received : network.receive digest addresses node packet source now = .ok next) :
    Extends digest addresses (.receive node packet source now) network next := by
  obtain ⟨flight, member, rfl, rfl⟩ := undisturbed
  obtain ⟨sender, origin, kind⟩ := acquainted.flights flight member
  obtain ⟨reception, done, rfl⟩ := exists_reception received
  rcases kind with hello | other
  · rw [UdpTransport.receiverTurn_of_fits (fits (hello.discovery fun _ => computes _)), origin]
      at done
    rw [origin]
    by_cases itself : node = sender
    · subst itself
      exact (turn_ownHello neighbours.machines (acquainted.generated node) computes rfl rfl hello
        done).extends_ now
    · exact (turn_hello neighbours acquainted.generated computes rfl rfl itself hello
        done).extends_ now
  · exact (turn_other acquainted.generated computes rfl rfl other done).extends_ now

end Receive

variable [DecidableEq Node] {peerTimeoutMs : Node → Nat}

/-- Every step among neighbours is of that kind. -/
theorem extends_of_step {event : NetworkEvent Node}
    (computes : ∀ sharedSecret data, (digest sharedSecret data).isSome)
    (acquainted : Acquainted digest addresses events network)
    (undisturbed : Undisturbed addresses network event)
    (step : (udpNetwork digest addresses peerTimeoutMs).Step network event next) :
    Extends digest addresses event network next := by
  obtain ⟨neighbours, arrival⟩ := undisturbed
  cases event with
  | capture node slots now published =>
      exact extends_capture (acquainted.generated node) step
  | renamePlayer node playerName =>
      obtain rfl := step
      exact extends_rename network node playerName
  | sendHello node => exact extends_sendHello (acquainted.generated node) (fun _ => computes _) step
  | receive node packet source now =>
      exact extends_receive acquainted neighbours computes arrival.1 arrival.2 step
  | expirePeers node now => exact absurd arrival id
  | runPacketTask node world =>
      have same : next.transports = network.transports ∧ next.sent = network.sent := by
        have handled : network.runPacketTask node world = .ok next := step
        rw [UdpNetwork.runPacketTask] at handled
        split at handled
        · cases handled
          exact ⟨rfl, rfl⟩
        · next packet packets queue =>
            obtain ⟨state, read⟩ := readStatePacket_ok packet
            rw [SyncService.handlePacket_of_read read] at handled
            simp only [bind, Except.bind, pure, Except.pure] at handled
            cases handled
            exact ⟨rfl, rfl⟩
      exact .of_same same.1 same.2 (fun _ _ _ _ event => by cases event) fun _ event => by cases event
  | refreshProxies node world =>
      obtain rfl := step
      exact .of_same rfl rfl (fun _ _ _ _ event => by cases event) fun _ event => by cases event
  | resetService node world =>
      obtain rfl := step
      exact .of_same rfl rfl (fun _ _ _ _ event => by cases event) fun _ event => by cases event

/-- Neighbours stay acquainted over every undisturbed run. -/
theorem acquainted_of_runs (computes : ∀ sharedSecret data, (digest sharedSecret data).isSome)
    (run : ((udpNetwork digest addresses peerTimeoutMs).guarded (Undisturbed addresses)).Runs events
      network) : Acquainted digest addresses events network := by
  refine run.invariant (Acquainted digest addresses) ?_ ?_
  · rintro network ⟨sent, nodes⟩
    have unknown (node other : Node) : network.entryOf addresses (network.transports node) other =
        none := by
      rw [entryOf, (nodes node).2.2.1]
      rfl
    have strangers (node other : Node) : ¬ network.Knows addresses node other := by
      intro known
      rw [Knows, UdpTransport.HasPeer, Option.isSome_iff_ne_none] at known
      exact known (unknown node other)
    refine ⟨fun node => (nodes node).1, ?_, fun node => strangers node node, ?_,
      fun node other known => absurd known (strangers node other), ?_, ?_⟩
    · intro flight member
      rw [sent] at member
      cases member
    · intro node other peer found
      cases (unknown node other).symm.trans found
    · intro node other packet now _ member
      cases member
    · intro node member
      cases member
  · rintro events network event next _ acquainted ⟨undisturbed, step⟩
    exact acquainted.step (extends_of_step computes acquainted undisturbed step)

end UdpNetwork

/-- Once every datagram has reached its addressees, neighbours know each other or neither
knows the other, whoever announced itself knows and is known by everyone on its port, and
the state of a neighbour is sent to everyone it knows. -/
theorem discovery_mutual [DecidableEq Node] {peerTimeoutMs : Node → Nat}
    {events : List (NetworkEvent Node)} {network : UdpNetwork Node}
    (computes : ∀ sharedSecret data, (digest sharedSecret data).isSome)
    (run : ((udpNetwork digest addresses peerTimeoutMs).guarded (Undisturbed addresses)).Runs events
      network)
    (apart : Function.Injective addresses)
    (received : AllReceived addresses events network) :
    (∀ node other, network.Knows addresses node other ↔ network.Knows addresses other node) ∧
    (∀ node other, node ≠ other → NetworkEvent.sendHello node ∈ events →
      (network.transports node).autoDiscovery = true →
      (network.transports node).localPort = (addresses other).port →
      network.Knows addresses node other) ∧
    ∀ node other, network.Knows addresses node other →
      addresses other ∈ (network.transports node).snapshotDestinations none := by
  have acquainted := UdpNetwork.acquainted_of_runs computes run
  have answered {node other : Node} (distinct : node ≠ other) {destination : Endpoint}
      (reaches : destination = addresses other ∨
        destination = broadcastEndpoint (addresses other).port)
      (greeted : network.Greeted digest addresses node destination) :
      network.Knows addresses other node := by
    obtain ⟨flight, member, source, rfl, hello⟩ := greeted
    obtain ⟨now, heard⟩ := received flight member other
      (fun same => distinct (apart (source.symm.trans same))) reaches
    rw [source] at heard
    exact acquainted.entered other node _ now distinct.symm heard hello
  have back {node other : Node} (known : network.Knows addresses node other) :
      network.Knows addresses other node := by
    have distinct : node ≠ other := by
      rintro rfl
      exact acquainted.stranger node known
    exact answered distinct (.inl rfl) (acquainted.greeted node other known)
  refine ⟨fun node other => ⟨back, back⟩, ?_, ?_⟩
  · intro node other distinct member discovers port
    have greeted := acquainted.announced node member discovers
    exact back (answered distinct (.inr (by rw [port])) greeted)
  · intro node other known
    obtain ⟨peer, found⟩ := Option.isSome_iff_exists.mp known
    exact UdpTransport.mem_snapshotDestinations.mpr ⟨by simp, .inr ⟨_, peer, found,
      acquainted.addressed node other peer found⟩⟩

/-! ## Two neighbours -/

/-- Lydia announces herself. -/
def announcingLydia : UdpTransport := { lydiaTransport with autoDiscovery := true }

/-- HMAC-SHA256 on the hellos of Lydia and Serana under the secret `secret`. -/
def neighbourDigest : HmacDigest := fun sharedSecret data =>
  if data = discoveryText (helloFields lydiaTransport.instanceID (ascii "Lydia") 38471 true) then
    some [227, 185, 1, 65, 149, 166, 125, 96, 24, 49, 192, 25, 169, 13, 163, 24, 199, 150, 174, 228,
      78, 244, 238, 225, 12, 193, 165, 136, 238, 27, 8, 135]
  else helloDigest sharedSecret data

/-- The hello of the player who announces herself. -/
def lydiaHello (observed : Bool) : ByteString :=
  announcingLydia.helloPacket neighbourDigest observed

/-- The answer to it. -/
def seranaHello : ByteString := seranaTransport.helloPacket neighbourDigest true

/-- Two neighbours before the first hello. -/
def silentNetwork : UdpNetwork Bool where
  transports serana := if serana then seranaTransport else announcingLydia
  services _ := SyncService.initial false 1000
  packetTasks _ := []
  sent := []

/-- The first hello is under way. -/
def announcedNetwork : UdpNetwork Bool :=
  silentNetwork.post swordAddresses false [⟨lydiaHello false, broadcastEndpoint 38471⟩]

/-- A node enters its neighbour and answers it. -/
def enteredNetwork (network : UdpNetwork Bool) (serana : Bool) (now : Nat)
    (answer : List Datagram) : UdpNetwork Bool :=
  ((network.setTransport serana ((network.transports serana).enterPeer (swordAddresses (!serana))
    (if serana then ascii "Lydia" else ascii "Serana")
    (network.transports (!serana)).instanceID now)).setPacketTasks serana
    (network.packetTasks serana ++ [])).post swordAddresses serana answer

/-- The second player has entered the first one and answered. -/
def heardNetwork : UdpNetwork Bool :=
  enteredNetwork announcedNetwork true 5 [⟨seranaHello, senderEndpoint⟩]

/-- The first player has entered the second one and answered in turn. -/
def answeredNetwork : UdpNetwork Bool :=
  enteredNetwork heardNetwork false 6 [⟨lydiaHello true, guest⟩]

/-- The last answer has arrived. -/
def acquaintedNetwork : UdpNetwork Bool := enteredNetwork answeredNetwork true 7 []

set_option maxRecDepth 20000 in
/-- The first hello is heard and answered. -/
theorem heard_lydia : announcedNetwork.receive neighbourDigest swordAddresses true
    (lydiaHello false) senderEndpoint 5 = .ok heardNetwork := by
  rfl

set_option maxRecDepth 20000 in
/-- The answer is heard and answered in turn. -/
theorem heard_serana : heardNetwork.receive neighbourDigest swordAddresses false seranaHello guest 6 =
    .ok answeredNetwork := by
  rfl

set_option maxRecDepth 20000 in
/-- The last answer is heard. -/
theorem heard_answer : answeredNetwork.receive neighbourDigest swordAddresses true
    (lydiaHello true) senderEndpoint 7 = .ok acquaintedNetwork := by
  rfl

/-- A hello and its two answers make both players known to each other. -/
theorem lydia_serana_acquainted :
    (∀ node other, acquaintedNetwork.Knows swordAddresses node other ↔
      acquaintedNetwork.Knows swordAddresses other node) ∧
    (∀ node other, node ≠ other → NetworkEvent.sendHello node ∈ [.sendHello false,
        .receive true (lydiaHello false) senderEndpoint 5, .receive false seranaHello guest 6,
        .receive true (lydiaHello true) senderEndpoint 7] →
      (acquaintedNetwork.transports node).autoDiscovery = true →
      (acquaintedNetwork.transports node).localPort = (swordAddresses other).port →
      acquaintedNetwork.Knows swordAddresses node other) ∧
    ∀ node other, acquaintedNetwork.Knows swordAddresses node other →
      swordAddresses other ∈ (acquaintedNetwork.transports node).snapshotDestinations none := by
  have apart : Function.Injective swordAddresses := by decide
  have initial : (udpNetwork neighbourDigest swordAddresses fun _ => 10000).Initial silentNetwork := by
    refine ⟨rfl, fun serana => ?_⟩
    cases serana with
    | false => exact ⟨.inl ⟨0x1000, 0x100000, by decide⟩, by decide, rfl, rfl, rfl, rfl⟩
    | true => exact ⟨.inl ⟨0x1001, 0x100001, by decide⟩, by decide, rfl, rfl, rfl, rfl⟩
  have announced : silentNetwork.sendHello neighbourDigest swordAddresses false =
      .ok announcedNetwork := by
    rfl
  have computes (sharedSecret data : ByteString) :
      (neighbourDigest sharedSecret data).isSome = true := by
    unfold neighbourDigest
    split
    · rfl
    · exact helloDigest_isSome sharedSecret data
  have silent : Neighbours swordAddresses silentNetwork :=
    ⟨by decide, apart, by decide, by decide, by decide⟩
  have first : Neighbours swordAddresses heardNetwork :=
    ⟨by decide, apart, by decide, by decide, by decide⟩
  have second : Neighbours swordAddresses answeredNetwork :=
    ⟨by decide, apart, by decide, by decide, by decide⟩
  have lydiaFits (observed : Bool) : (lydiaHello observed).length ≤ receiveCapacity := by
    cases observed <;> decide +kernel
  have seranaFits : seranaHello.length ≤ receiveCapacity := by decide +kernel
  refine @discovery_mutual Bool neighbourDigest swordAddresses _ (fun _ => 10000) _
    acquaintedNetwork computes ?_ apart ?_
  · refine .of_follows ?_ ⟨announcedNetwork, ⟨⟨silent, trivial⟩, announced⟩,
      heardNetwork, ⟨⟨{ silent with }, fun _ => lydiaFits _, _, .head _, rfl, rfl⟩, heard_lydia⟩,
      answeredNetwork, ⟨⟨first, fun _ => seranaFits, _, .tail _ (.head _), rfl, rfl⟩, heard_serana⟩,
      acquaintedNetwork, ⟨⟨second, fun _ => lydiaFits _, _, .tail _ (.tail _ (.head _)), rfl, rfl⟩,
        heard_answer⟩, rfl⟩
    exact initial
  · intro flight member serana foreign reaches
    have flights : flight = ⟨senderEndpoint, ⟨lydiaHello false, broadcastEndpoint 38471⟩⟩ ∨
        flight = ⟨guest, ⟨seranaHello, senderEndpoint⟩⟩ ∨
        flight = ⟨senderEndpoint, ⟨lydiaHello true, guest⟩⟩ := by
      rcases member with _ | ⟨_, _ | ⟨_, _ | ⟨_, rest⟩⟩⟩
      · exact .inl rfl
      · exact .inr (.inl rfl)
      · exact .inr (.inr rfl)
      · cases rest
    rcases flights with rfl | rfl | rfl <;> cases serana
    · exact absurd rfl foreign
    · exact ⟨5, .tail _ (.head _)⟩
    · exact ⟨6, .tail _ (.tail _ (.head _))⟩
    · exact absurd rfl foreign
    · exact absurd rfl foreign
    · exact ⟨7, .tail _ (.tail _ (.tail _ (.head _)))⟩

end IEDSyncTogether
