import IEDSyncTogether.Network.Destinations
import IEDSyncTogether.Network.Provenance
import Mathlib.Data.Set.List

/-!
# A relay and its guests

The guests of a relay send to it alone, and it passes their states on to the others. If every
datagram arrives exactly once, in any order, every player is handed exactly the states that
the others have published, whatever way they took, as long as no packet is too large for the
receivers.
-/

namespace IEDSyncTogether

open Base

/-- What happens in the star; a delivery shows the packet handed to the service. -/
inductive StarEvent (Node : Type) where
  | capture (node : Node) (slots : SlotState) (now : Nat) (published : Option StatePacket)
  | deliver (node : Node) (packet : ByteString) (source : Endpoint) (now : Nat)
      (handed : Option ByteString)
  | runPacketTask (node : Node) (world : GameWorld)
  | refreshProxies (node : Node) (world : GameWorld)
  | resetService (node : Node) (world : GameWorld)

section Star

variable {Node : Type} [DecidableEq Node]

/-- Only the host relays; it knows its guests, and they know it. All share a secret. -/
structure Star (addresses : Node → Endpoint) (host : Node) (sharedSecret : ByteString)
    (transports : Node → UdpTransport) : Prop where
  keyed : ∀ node, (transports node).sharedSecret = sharedSecret
  generated : ∀ node, GeneratedInstanceID (transports node).instanceID
  unique : ∀ first second, (transports first).instanceID = (transports second).instanceID →
    first = second
  named : ∀ node, (transports node).localPlayerName ≠ []
  relays : ∀ node, (transports node).relayMode = decide (node = host)
  table : ∀ node, UdpTransport.KeyedByAddress (transports node).peers
  knows : ∀ node endpoint, (transports node).Knows endpoint ↔
    ∃ other ≠ node, (node = host ∨ other = host) ∧ addresses other = endpoint

/-- The packet of a state. -/
def Parcel.packet (digest : HmacDigest) (sharedSecret mark : ByteString) (state : StatePacket) :
    ByteString :=
  signed digest sharedSecret
    (gameplayText (stateFields state.instanceID state.sender mark state.revision state.slots))

/-- A state whose slots can be encoded and whose packets, the author's and the relay's, fit the
receivers' buffers. -/
structure Receivable (digest : HmacDigest) (sharedSecret : ByteString) (state : StatePacket) :
    Prop where
  addressable : Addressable state.slots
  fits : ∀ mark ∈ [ascii "0", ascii "1"],
    (Parcel.packet digest sharedSecret mark state).length ≤ receiveCapacity

/-- The star, with fresh services, under any order of captures and deliveries; the datagrams
sent are on their way until they arrive, once. -/
def starNetwork (digest : HmacDigest) (addresses : Node → Endpoint) (host : Node)
    (sharedSecret : ByteString) : TransitionSystem (UdpNetwork Node) (StarEvent Node) where
  Initial network :=
    network.sent = [] ∧ Star addresses host sharedSecret network.transports ∧ ∀ node,
      (network.services node).hasLocalSlots = false ∧
      (network.services node).remoteSnapshots = ∅ ∧ network.packetTasks node = []
  Step network event next :=
    match event with
    | .capture node slots now published =>
      (∀ state ∈ published, Receivable digest sharedSecret state) ∧
        network.capture digest addresses node slots now = .ok (next, published)
    | .deliver node packet source now handed =>
      ∃ before after, network.sent = before ++ ⟨source, ⟨packet, addresses node⟩⟩ :: after ∧
        { network with sent := before ++ after }.receive digest addresses node packet source now =
          .ok next ∧
        next.packetTasks node = network.packetTasks node ++ handed.toList
    | .runPacketTask node world => network.runPacketTask node world = .ok next
    | .refreshProxies node world =>
      next = network.setService node ((network.services node).refreshProxyMitigation world).1
    | .resetService node world =>
      next = network.setService node ((network.services node).reset world).1

/-- The states the others have published. -/
def publishedToOthers (events : List (StarEvent Node)) (node : Node) : List StatePacket :=
  events.filterMap fun event =>
    match event with
    | .capture author _ _ published => if author = node then none else published
    | _ => none

/-- What the packets handed to the service of a node say. -/
def handedStates (events : List (StarEvent Node)) (node : Node) : List StatePacket :=
  events.filterMap fun event =>
    match event with
    | .deliver receiver _ _ _ (some packet) =>
      if receiver = node then (readStatePacket packet).toOption.join else none
    | _ => none

/-! ## Datagrams by the states in them -/

/-- A state on its way from one node to another, with the mark of its sender or of the relay. -/
structure Parcel (Node : Type) where
  sender : Node
  receiver : Node
  mark : ByteString
  state : StatePacket

namespace Parcel

/-- The datagram of a parcel. -/
def flight (digest : HmacDigest) (addresses : Node → Endpoint) (sharedSecret : ByteString)
    (parcel : Parcel Node) : Flight :=
  ⟨addresses parcel.sender,
    ⟨packet digest sharedSecret parcel.mark parcel.state, addresses parcel.receiver⟩⟩

/-- A parcel goes from its author to the host or from the host to a guest, and not to its
author. -/
structure Routed (digest : HmacDigest) (sharedSecret : ByteString) (host : Node)
    (transports : Node → UdpTransport) (parcel : Parcel Node) : Prop where
  route : (parcel.receiver = host ∧ parcel.sender ≠ host ∧ parcel.mark = ascii "0" ∧
      parcel.state.instanceID = (transports parcel.sender).instanceID) ∨
    (parcel.sender = host ∧ parcel.receiver ≠ host)
  marked : parcel.mark ∈ [ascii "0", ascii "1"]
  foreign : parcel.state.instanceID ≠ (transports parcel.receiver).instanceID
  generated : GeneratedInstanceID parcel.state.instanceID
  named : parcel.state.sender ≠ []
  receivable : Receivable digest sharedSecret parcel.state

/-- The parcel brings its state to the node, directly or through the host. -/
def Brings (host node : Node) (parcel : Parcel Node) : Prop :=
  parcel.receiver = node ∨ parcel.receiver = host ∧ parcel.sender ≠ node

instance (host node : Node) (parcel : Parcel Node) : Decidable (parcel.Brings host node) :=
  inferInstanceAs (Decidable (_ ∨ _))

/-- One state from a node to several. -/
def spread (sender : Node) (mark : ByteString) (state : StatePacket) (receivers : List Node) :
    List (Parcel Node) :=
  receivers.map fun receiver => ⟨sender, receiver, mark, state⟩

end Parcel

/-! ## Where the nodes of a star send -/

namespace UdpTransport

variable {transport touched : UdpTransport} {packet : ByteString} {source : Endpoint} {now : Nat}

/-- A source that is known stays the only thing a touch is about. -/
theorem knows_touchGameplayPeer (keyed : KeyedByAddress transport.peers)
    (known : transport.Knows source)
    (done : transport.touchGameplayPeer packet source now = .ok touched) (endpoint : Endpoint) :
    touched.Knows endpoint ↔ transport.Knows endpoint := by
  rw [touchGameplayPeer] at done
  split at done
  · cases done
    rfl
  · simp only [readField_eq, bind, Except.bind] at done
    cases done
    have label : ascii "gameplay|" = ascii "gameplay" ++ [bar] := rfl
    simp only [Knows, label, List.append_assoc, List.singleton_append]
    refine or_congr_right' fun unconfigured => ⟨?_, ?_⟩
    · rintro ⟨key, peer, found, rfl⟩
      by_cases here : key = ascii "gameplay" ++ bar :: addressToString source
      · rw [here, AList.lookup_insert, Option.mem_some_iff] at found
        subst found
        exact known.resolve_left unconfigured
      · rw [AList.lookup_insert_ne here] at found
        exact ⟨key, peer, found, rfl⟩
    · rintro ⟨key, peer, found, rfl⟩
      by_cases here : key = ascii "gameplay" ++ bar :: addressToString source
      · obtain ⟨_, same⟩ := keyed key peer found
        have address : peer.address = source :=
          (append_addressToString_inj (here.symm.trans same)).symm
        exact ⟨_, _, AList.lookup_insert _, address.symm⟩
      · exact ⟨key, peer, by rwa [AList.lookup_insert_ne here], rfl⟩

end UdpTransport

namespace Star

variable {digest : HmacDigest} {addresses : Node → Endpoint} {host : Node}
  {sharedSecret : ByteString} {transports : Node → UdpTransport}

/-- The destinations of a node are the addresses of the nodes it is linked to, each once. -/
theorem exists_destinations (star : Star addresses host sharedSecret transports)
    (injective : Function.Injective addresses) (node : Node) (excluded : Option Node) :
    ∃ nodes : List Node, nodes.Nodup ∧
      (transports node).snapshotDestinations (excluded.map addresses) = nodes.map addresses ∧
      ∀ other, other ∈ nodes ↔
        excluded ≠ some other ∧ other ≠ node ∧ (node = host ∨ other = host) := by
  have named : ∀ endpoint ∈ (transports node).snapshotDestinations (excluded.map addresses),
      endpoint ∈ Set.range addresses := by
    intro endpoint member
    obtain ⟨other, _, _, same⟩ :=
      (star.knows node endpoint).mp (UdpTransport.mem_snapshotDestinations.mp member).2
    exact ⟨other, same⟩
  obtain ⟨nodes, shape⟩ : (transports node).snapshotDestinations (excluded.map addresses) ∈
      Set.range (List.map addresses) := by
    rw [Set.range_list_map]
    exact named
  have distinct := (transports node).nodup_snapshotDestinations (excluded.map addresses)
  rw [← shape] at distinct
  refine ⟨nodes, distinct.of_map, shape.symm, fun other => ?_⟩
  rw [← List.mem_map_of_injective injective, shape, UdpTransport.mem_snapshotDestinations,
    star.knows]
  have exclusion : excluded.map addresses ≠ some (addresses other) ↔ excluded ≠ some other := by
    rw [← Option.map_some, (Option.map_injective injective).ne_iff]
  rw [exclusion]
  refine and_congr_right' ⟨?_, fun linked => ⟨other, linked.1, linked.2, rfl⟩⟩
  rintro ⟨same, apart, linked, there⟩
  rw [← injective there]
  exact ⟨apart, linked⟩

/-- A node that hears from a node it is linked to is linked as before. -/
theorem touch (star : Star addresses host sharedSecret transports) {node : Node}
    {touched : UdpTransport} {packet : ByteString} {source : Endpoint} {now : Nat}
    (known : (transports node).Knows source)
    (done : (transports node).touchGameplayPeer packet source now = .ok touched) :
    Star addresses host sharedSecret (Function.update transports node touched) := by
  have same := UdpTransport.sameIdentity_touchGameplayPeer done
  have kept {Value : Type} (value : UdpTransport → Value)
      (here : value touched = value (transports node)) (other : Node) :
      value (Function.update transports node touched other) = value (transports other) := by
    by_cases updated : other = node
    · rw [updated, Function.update_self, here]
    · rw [Function.update_of_ne updated]
  refine ⟨fun other => ?_, fun other => ?_, fun first second => ?_, fun other => ?_,
    fun other => ?_, fun other => ?_, fun other endpoint => ?_⟩
  · rw [kept (·.sharedSecret) (by rw [same]), star.keyed]
  · rw [kept (·.instanceID) (by rw [same])]
    exact star.generated other
  · rw [kept (·.instanceID) (by rw [same]), kept (·.instanceID) (by rw [same])]
    exact star.unique first second
  · rw [kept (·.localPlayerName) (by rw [same])]
    exact star.named other
  · rw [kept (·.relayMode) (by rw [same]), star.relays]
  · by_cases updated : other = node
    · rw [updated, Function.update_self]
      exact UdpTransport.keyedByAddress_touchGameplayPeer (star.table node) done
    · rw [Function.update_of_ne updated]
      exact star.table other
  · by_cases updated : other = node
    · rw [updated, Function.update_self,
        UdpTransport.knows_touchGameplayPeer (star.table node) known done, star.knows]
    · rw [Function.update_of_ne updated, star.knows]

end Star

/-! ## What a node makes of a packet -/

section Packets

variable {digest : HmacDigest} {sharedSecret mark : ByteString} {state : StatePacket}
  {transport : UdpTransport} {source : Endpoint} {now : Nat}

omit [DecidableEq Node] in
/-- A packet that is not empty is sent to every destination. -/
theorem sends_addresses {packet : ByteString} (present : packet ≠ []) (addresses : Node → Endpoint)
    (nodes : List Node) :
    (nodes.map addresses).flatMap (UdpTransport.sendPacketTo packet) =
      nodes.map fun node => ⟨packet, addresses node⟩ := by
  have each : UdpTransport.sendPacketTo packet = fun destination => [⟨packet, destination⟩] :=
    funext fun _ => if_neg present
  rw [each, List.flatMap_map, ← List.map_eq_flatMap]

/-- If the HMAC does not fail, every packet of a state is delivered. -/
theorem packet_delivers (computes : sharedSecret ≠ [] → ∀ data, (digest sharedSecret data).isSome)
    (generated : GeneratedInstanceID state.instanceID) (named : state.sender ≠ [])
    (addressable : Addressable state.slots) (flag : Plain mark) :
    Parcel.packet digest sharedSecret mark state ≠ [] ∧
      Delivers digest sharedSecret (Parcel.packet digest sharedSecret mark state) state := by
  obtain ⟨peer, present⟩ := plain_of_generated generated
  exact delivers_signed computes peer present named flag addressable

omit [DecidableEq Node] in
/-- A captured state is sent to every node a transport knows. -/
theorem send_state {addresses : Node → Endpoint} {nodes : List Node}
    (keyed : transport.sharedSecret = sharedSecret) (own : Plain transport.instanceID)
    (identity : state.instanceID = transport.instanceID)
    (name : state.sender = transport.localPlayerName) (linked : nodes ≠ [])
    (known : transport.snapshotDestinations none = nodes.map addresses)
    (sent : Parcel.packet digest sharedSecret (ascii "0") state ≠ []) :
    transport.send digest (statePayload state.revision state.slots) = .ok (nodes.map fun node =>
      ⟨Parcel.packet digest sharedSecret (ascii "0") state, addresses node⟩) := by
  have present : statePayload state.revision state.slots ≠ [] := by
    simp [statePayload, ascii]
  have somewhere : ¬ (nodes.map addresses = [] ∧ transport.autoDiscovery = true) := by
    simp [linked]
  have built : transport.builtPacket digest (statePayload state.revision state.slots) =
      .ok (Parcel.packet digest sharedSecret (ascii "0") state) := by
    rw [builtPacket_statePayload own, Parcel.packet, keyed, identity, name]
  simp only [UdpTransport.send, if_neg present, built, known, if_neg somewhere,
    sends_addresses sent, bind, Except.bind, pure, Except.pure]

/-- A packet has the fields of its state in front. -/
theorem exists_packet (sent : Parcel.packet digest sharedSecret mark state ≠ []) :
    ∃ tags, Parcel.packet digest sharedSecret mark state = gameplayText
      (stateFields state.instanceID state.sender mark state.revision state.slots ++ tags) := by
  obtain ⟨tags, tagged⟩ := signed_gameplayText_ne_nil_iff.mp sent
  exact ⟨tags, by rw [Parcel.packet, signed_gameplayText, tagged, Option.elim_some]⟩

/-- The packet of another instance's state is handed on, and relayed by a relay. -/
theorem receive_parcel (keyed : transport.sharedSecret = sharedSecret)
    (generated : GeneratedInstanceID state.instanceID) (flag : Plain mark)
    (foreign : state.instanceID ≠ transport.instanceID)
    (sent : Parcel.packet digest sharedSecret mark state ≠ [])
    (accepted : authenticatePacket digest sharedSecret
      (Parcel.packet digest sharedSecret mark state) = .ok true)
    (fits : (Parcel.packet digest sharedSecret mark state).length ≤ receiveCapacity) :
    ∃ touched : UdpTransport,
      transport.touchGameplayPeer (Parcel.packet digest sharedSecret mark state) source now =
        .ok touched ∧
      transport.receiverTurn digest (Parcel.packet digest sharedSecret mark state) source now = do
        let copies ← touched.relayGameplayPacket digest
          (Parcel.packet digest sharedSecret mark state) source
        return ⟨touched, copies, some (Parcel.packet digest sharedSecret mark state)⟩ := by
  obtain ⟨peer, _⟩ := plain_of_generated generated
  obtain ⟨tags, shape⟩ := exists_packet sent
  have gameplay : kGameplayPrefix.isPrefixOf (Parcel.packet digest sharedSecret mark state) =
      true := by
    rw [shape]
    exact isPrefixOf_gameplayText (List.cons_ne_nil _ _)
  have identity : fieldValue (Parcel.packet digest sharedSecret mark state) (ascii "id") =
      some state.instanceID := by
    rw [shape, fieldValue_gameplayText (by decide), findSome?_stateFields (by decide) peer flag,
      if_pos (by decide)]
  have other : some state.instanceID ≠ some transport.instanceID :=
    fun same => foreign (Option.some.inj same)
  rw [authenticatePacket_eq, Except.ok.injEq] at accepted
  have genuine : authentic digest transport.sharedSecret
      (Parcel.packet digest sharedSecret mark state) = true := by
    rw [keyed, accepted]
  obtain ⟨touched, touch, _⟩ := exists_touched transport
    (Parcel.packet digest sharedSecret mark state) source now
  refine ⟨touched, touch, ?_⟩
  rw [UdpTransport.receiverTurn_of_fits fits, receive_of_gameplay gameplay genuine, identity,
    if_neg other, touch]
  rfl

/-- A guest relays nothing. -/
theorem relay_guest (guest : transport.relayMode = false) (packet : ByteString) :
    transport.relayGameplayPacket digest packet source = .ok [] := by
  simp [UdpTransport.relayGameplayPacket, UdpTransport.relayedPacket, guest, bind, Except.bind,
    pure, Except.pure]

/-- A relay sends the packet of a sender with its own mark. -/
theorem relay_host (relaying : transport.relayMode = true)
    (keyed : transport.sharedSecret = sharedSecret)
    (generated : GeneratedInstanceID state.instanceID)
    (sent : Parcel.packet digest sharedSecret (ascii "0") state ≠ [])
    (copied : Parcel.packet digest sharedSecret (ascii "1") state ≠ []) :
    transport.relayGameplayPacket digest (Parcel.packet digest sharedSecret (ascii "0") state)
        source =
      .ok ((transport.snapshotDestinations (some source)).flatMap
        (UdpTransport.sendPacketTo (Parcel.packet digest sharedSecret (ascii "1") state))) := by
  obtain ⟨peer, _⟩ := plain_of_generated generated
  obtain ⟨tags, shape⟩ := exists_packet sent
  have gameplay : kGameplayPrefix.isPrefixOf
      (Parcel.packet digest sharedSecret (ascii "0") state) = true := by
    rw [shape]
    exact isPrefixOf_gameplayText (List.cons_ne_nil _ _)
  have original : fieldValue (Parcel.packet digest sharedSecret (ascii "0") state)
      (ascii "relay") = some (ascii "0") := by
    rw [shape, fieldValue_gameplayText (by decide),
      findSome?_stateFields (by decide) peer plain_zero, if_neg (by decide), if_neg (by decide),
      if_pos (by decide)]
  have marked : markRelayed digest sharedSecret
      (Parcel.packet digest sharedSecret (ascii "0") state) =
      .ok (Parcel.packet digest sharedSecret (ascii "1") state) := markRelayed_signed peer sent
  simp only [UdpTransport.relayGameplayPacket, UdpTransport.relayedPacket, relaying, gameplay,
    keyed, readField_eq, original, marked, copied, bind, Except.bind, pure, Except.pure,
    not_true_eq_false, or_self, if_false, Option.getD_some, ne_eq]

end Packets

namespace Parcel

variable {digest : HmacDigest} {addresses : Node → Endpoint} {host : Node}
  {sharedSecret : ByteString} {transports changed : Node → UdpTransport} {parcel : Parcel Node}

omit [DecidableEq Node] in
/-- A parcel is routed by the instance IDs. -/
theorem Routed.of_same (routed : parcel.Routed digest sharedSecret host transports)
    (same : ∀ node, (changed node).instanceID = (transports node).instanceID) :
    parcel.Routed digest sharedSecret host changed :=
  { routed with
    route := by simpa only [same] using routed.route
    foreign := by simpa only [same] using routed.foreign }

/-- A receiver knows the sender. -/
theorem Routed.knows (routed : parcel.Routed digest sharedSecret host transports)
    (star : Star addresses host sharedSecret transports) :
    (transports parcel.receiver).Knows (addresses parcel.sender) := by
  rw [star.knows]
  rcases routed.route with ⟨inside, apart, _⟩ | ⟨outside, apart⟩
  · exact ⟨parcel.sender, inside ▸ apart, .inl inside, rfl⟩
  · exact ⟨parcel.sender, outside ▸ Ne.symm apart, .inr outside, rfl⟩

omit [DecidableEq Node] in
/-- The mark of a routed parcel is plain. -/
theorem Routed.plain (routed : parcel.Routed digest sharedSecret host transports) :
    Plain parcel.mark := by
  have marked := routed.marked
  simp only [List.mem_cons, List.not_mem_nil, or_false] at marked
  rcases marked with zero | one
  · exact zero ▸ plain_zero
  · exact one ▸ plain_one

/-- The host sends what comes from a guest to the other guests; a guest sends nothing. -/
theorem Routed.exists_relayed (routed : parcel.Routed digest sharedSecret host transports)
    (star : Star addresses host sharedSecret changed) (injective : Function.Injective addresses)
    (computes : sharedSecret ≠ [] → ∀ data, (digest sharedSecret data).isSome) :
    ∃ nodes : List Node, nodes.Nodup ∧
      (changed parcel.receiver).relayGameplayPacket digest
          (packet digest sharedSecret parcel.mark parcel.state) (addresses parcel.sender) =
        .ok (nodes.map fun other =>
          ⟨packet digest sharedSecret (ascii "1") parcel.state, addresses other⟩) ∧
      ∀ other, other ∈ nodes ↔
        parcel.receiver = host ∧ other ≠ parcel.sender ∧ other ≠ host := by
  rcases routed.route with ⟨inside, apart, mark, _⟩ | ⟨_, outside⟩
  · obtain ⟨nodes, distinct, known, linked⟩ :=
      star.exists_destinations injective parcel.receiver (some parcel.sender)
    have whole (mark : ByteString) (flag : Plain mark) :=
      (@packet_delivers digest sharedSecret mark parcel.state computes routed.generated
        routed.named routed.receivable.addressable flag).1
    refine ⟨nodes, distinct, ?_, fun other => ?_⟩
    · rw [mark, relay_host (by rw [star.relays, decide_eq_true inside]) (star.keyed _)
        routed.generated (whole _ plain_zero) (whole _ plain_one), ← Option.map_some, known,
        sends_addresses (whole _ plain_one)]
    · rw [linked other, inside]
      simp [eq_comm]
  · refine ⟨[], List.nodup_nil, ?_, fun other => ?_⟩
    · exact relay_guest (by rw [star.relays, decide_eq_false outside]) _
    · simp [outside]

end Parcel

namespace UdpNetwork

/-- A capture changes the service of its node, and sends what it publishes. -/
theorem capture_cases {digest : HmacDigest} {addresses : Node → Endpoint}
    {network next : UdpNetwork Node} {node : Node} {slots : SlotState} {now : Nat}
    {published : Option StatePacket}
    (captured : network.capture digest addresses node slots now = .ok (next, published)) :
    let taken := (network.services node).onLocalCapture slots now
    next.transports = network.transports ∧
      next.services = Function.update network.services node taken.1 ∧
      next.packetTasks = network.packetTasks ∧
      ((published = none ∧ taken.2 = none ∧ next.sent = network.sent) ∨ ∃ state datagrams,
        published = some state ∧ state.instanceID = (network.transports node).instanceID ∧
        state.sender = (network.transports node).localPlayerName ∧
        state.revision = taken.1.revision ∧ state.slots = taken.1.localSlots ∧
        (network.transports node).send digest (statePayload state.revision state.slots) =
          .ok datagrams ∧
        next.sent =
          network.sent ++ datagrams.map fun datagram => ⟨addresses node, datagram⟩) := by
  intro taken
  obtain ⟨_, payloads, _⟩ := (network.services node).onLocalCapture_cases slots now
  simp only [UdpNetwork.capture, bind, Except.bind, pure, Except.pure] at captured
  cases offered : ((network.services node).onLocalCapture slots now).2 with
  | none =>
      simp only [offered, Except.ok.injEq, Prod.mk.injEq] at captured
      obtain ⟨rfl, rfl⟩ := captured
      exact ⟨rfl, rfl, rfl, .inl ⟨rfl, rfl, rfl⟩⟩
  | some payload =>
      obtain rfl := payloads payload offered
      cases sent : (network.transports node).send digest
          (statePayload ((network.services node).onLocalCapture slots now).1.revision
            ((network.services node).onLocalCapture slots now).1.localSlots) with
      | error thrown => simp [offered, sent] at captured
      | ok datagrams =>
          simp only [offered, sent, Except.ok.injEq, Prod.mk.injEq] at captured
          obtain ⟨rfl, rfl⟩ := captured
          exact ⟨rfl, rfl, rfl, .inr ⟨_, datagrams, rfl, rfl, rfl, rfl, rfl, sent, rfl⟩⟩

/-- A queued packet is read and stored, if there is one. -/
theorem runPacketTask_cases {network next : UdpNetwork Node} {node : Node} {world : GameWorld}
    (handled : network.runPacketTask node world = .ok next) :
    network.packetTasks node = [] ∧ next = network ∨ ∃ packet packets state,
      network.packetTasks node = packet :: packets ∧ readStatePacket packet = .ok state ∧
      next = (network.setService node (state.elim (network.services node)
        ((network.services node).storePacket world))).setPacketTasks node packets := by
  rw [UdpNetwork.runPacketTask] at handled
  split at handled
  · next idle =>
      cases handled
      exact .inl ⟨idle, rfl⟩
  · next packet packets queue =>
      obtain ⟨state, read⟩ := readStatePacket_ok packet
      rw [SyncService.handlePacket_of_read read] at handled
      simp only [bind, Except.bind, pure, Except.pure] at handled
      cases handled
      exact .inr ⟨packet, packets, state, queue, read, rfl⟩

end UdpNetwork

/-! ## The account of a run -/

section Account

variable {digest : HmacDigest} {addresses : Node → Endpoint} {host : Node}
  {sharedSecret : ByteString} {events : List (StarEvent Node)} {network next : UdpNetwork Node}

/-- The states on their way to a node. -/
def heading (host node : Node) (parcels : List (Parcel Node)) : List StatePacket :=
  (parcels.filter fun parcel => parcel.Brings host node).map (·.state)

/-- What is heading for a node among two batches. -/
theorem heading_append (host node : Node) (first second : List (Parcel Node)) :
    heading host node (first ++ second) = heading host node first ++ heading host node second := by
  rw [heading, List.filter_append, List.map_append, heading, heading]

/-- Of the parcels of one state, a node is brought at most one. -/
theorem heading_spread {nodes : List Node} (distinct : nodes.Nodup) {sender : Node}
    {mark : ByteString} {state : StatePacket} {node target : Node}
    (brings : ∀ other ∈ nodes, (other = node ∨ other = host ∧ sender ≠ node) ↔ other = target) :
    heading host node (Parcel.spread sender mark state nodes) =
      if target ∈ nodes then [state] else [] := by
  have chosen : nodes.filter ((fun parcel => decide (parcel.Brings host node)) ∘
      fun other => (⟨sender, other, mark, state⟩ : Parcel Node)) = nodes.filter (· == target) :=
    List.filter_congr fun other member => decide_eq_decide.mpr (brings other member)
  rw [heading, Parcel.spread, List.filter_map, List.map_map, chosen, List.filter_beq,
    List.map_replicate, distinct.count]
  split_ifs <;> rfl

/-- What a node publishes is on its way to every other node. -/
theorem heading_published {nodes : List Node} (distinct : nodes.Nodup) {author node : Node}
    {mark : ByteString} {state : StatePacket}
    (linked : ∀ other, other ∈ nodes ↔ other ≠ author ∧ (author = host ∨ other = host)) :
    heading host node (Parcel.spread author mark state nodes) =
      if author = node then [] else [state] := by
  by_cases own : author = node
  · rw [if_pos own, @heading_spread _ _ _ _ distinct _ _ _ _ author, if_neg]
    · exact fun member => ((linked author).mp member).1 rfl
    · intro other member
      have apart := ((linked other).mp member).1
      simp [own]
  · rw [if_neg own]
    by_cases here : author = host
    · rw [@heading_spread _ _ _ _ distinct _ _ _ _ node,
        if_pos ((linked node).mpr ⟨Ne.symm own, .inl here⟩)]
      intro other member
      have apart := ((linked other).mp member).1
      simp [← here, apart]
    · rw [@heading_spread _ _ _ _ distinct _ _ _ _ host,
        if_pos ((linked host).mpr ⟨Ne.symm here, .inr rfl⟩)]
      intro other member
      have link := ((linked other).mp member).2.resolve_left here
      simp [link, own]

/-- What arrives is handed over or goes on to those it was meant for. -/
theorem heading_relayed {nodes : List Node} (distinct : nodes.Nodup) {parcel : Parcel Node}
    (linked : ∀ other, other ∈ nodes ↔
      parcel.receiver = host ∧ other ≠ parcel.sender ∧ other ≠ host) (node : Node)
    (mark : ByteString) :
    heading host node [parcel] = (if parcel.receiver = node then [parcel.state] else []) ++
      heading host node (Parcel.spread parcel.receiver mark parcel.state nodes) := by
  have brings : ∀ other ∈ nodes,
      (other = node ∨ other = host ∧ parcel.receiver ≠ node) ↔ other = node := by
    intro other member
    have apart := ((linked other).mp member).2.2
    simp [apart]
  have arrives : heading host node [parcel] =
      if parcel.Brings host node then [parcel.state] else [] := by
    by_cases way : parcel.Brings host node <;> simp [heading, way]
  rw [heading_spread distinct brings, arrives]
  simp only [linked, Parcel.Brings]
  by_cases here : parcel.receiver = node
  · subst here
    by_cases inside : parcel.receiver = host <;> simp [inside]
  · by_cases inside : parcel.receiver = host
    · have apart : node ≠ host := fun same => here (inside.trans same.symm)
      simp [inside, apart, Ne.symm apart, eq_comm]
    · simp [here, inside]

omit [DecidableEq Node] in
/-- What is on its way to a node is a parcel for it. -/
theorem exists_arriving (injective : Function.Injective addresses) {parcels : List (Parcel Node)}
    {node : Node} {packet : ByteString} {source : Endpoint} {before after : List Flight}
    (transit : parcels.map (Parcel.flight digest addresses sharedSecret) =
      before ++ ⟨source, ⟨packet, addresses node⟩⟩ :: after) :
    ∃ first parcel rest, parcels = first ++ parcel :: rest ∧
      first.map (Parcel.flight digest addresses sharedSecret) = before ∧
      rest.map (Parcel.flight digest addresses sharedSecret) = after ∧
      addresses parcel.sender = source ∧
      Parcel.packet digest sharedSecret parcel.mark parcel.state = packet ∧
      parcel.receiver = node := by
  obtain ⟨first, later, rfl, front, arriving⟩ := List.map_eq_append_iff.mp transit
  obtain ⟨parcel, rest, rfl, flight, behind⟩ := List.map_eq_cons_iff.mp arriving
  obtain ⟨source, packet, there⟩ : addresses parcel.sender = source ∧
      Parcel.packet digest sharedSecret parcel.mark parcel.state = packet ∧
      addresses parcel.receiver = addresses node := by
    simpa [Parcel.flight] using flight
  exact ⟨first, parcel, rest, rfl, front, behind, source, packet, injective there⟩

/-- The receiver of a parcel touches its sender and queues the packet, and the host sends it on. -/
theorem Parcel.Routed.exists_next {parcel : Parcel Node} {now : Nat}
    (routed : parcel.Routed digest sharedSecret host network.transports)
    (star : Star addresses host sharedSecret network.transports)
    (injective : Function.Injective addresses)
    (computes : sharedSecret ≠ [] → ∀ data, (digest sharedSecret data).isSome)
    {sent : List Flight}
    (received : { network with sent }.receive digest addresses parcel.receiver
      (packet digest sharedSecret parcel.mark parcel.state) (addresses parcel.sender) now =
        .ok next) :
    ∃ touched : UdpTransport, ∃ nodes : List Node, nodes.Nodup ∧
      Star addresses host sharedSecret
        (Function.update network.transports parcel.receiver touched) ∧
      (∀ node, (Function.update network.transports parcel.receiver touched node).instanceID =
        (network.transports node).instanceID) ∧
      (∀ other, other ∈ nodes ↔
        parcel.receiver = host ∧ other ≠ parcel.sender ∧ other ≠ host) ∧
      next = (({ network with sent }.setTransport parcel.receiver touched).setPacketTasks
        parcel.receiver (network.packetTasks parcel.receiver ++
          [packet digest sharedSecret parcel.mark parcel.state])).post addresses parcel.receiver
        (nodes.map fun other =>
          ⟨packet digest sharedSecret (ascii "1") parcel.state, addresses other⟩) := by
  obtain ⟨whole, accepted, _⟩ := packet_delivers computes routed.generated routed.named
    routed.receivable.addressable routed.plain
  obtain ⟨touched, touch, turn⟩ := @receive_parcel digest sharedSecret parcel.mark parcel.state
    (network.transports parcel.receiver) (addresses parcel.sender) now (star.keyed _)
    routed.generated routed.plain routed.foreign whole accepted
    (routed.receivable.fits _ routed.marked)
  have later := star.touch (routed.knows star) touch
  obtain ⟨nodes, distinct, relayed, linked⟩ := routed.exists_relayed later injective computes
  refine ⟨touched, nodes, distinct, later, fun other => ?_, linked, ?_⟩
  · by_cases here : other = parcel.receiver
    · rw [here, Function.update_self, UdpTransport.sameIdentity_touchGameplayPeer touch]
    · rw [Function.update_of_ne here]
  · rw [Function.update_self] at relayed
    simp only [UdpNetwork.receive, turn, relayed, bind, Except.bind, pure, Except.pure,
      Except.ok.injEq] at received
    exact received.symm

/-- The host's copies of a guest's parcel are routed like it. -/
theorem Parcel.Routed.copy {parcel : Parcel Node}
    (routed : parcel.Routed digest sharedSecret host network.transports)
    (star : Star addresses host sharedSecret network.transports) {receiver : Node}
    (linked : parcel.receiver = host ∧ receiver ≠ parcel.sender ∧ receiver ≠ host) :
    (⟨parcel.receiver, receiver, ascii "1", parcel.state⟩ : Parcel Node).Routed digest
      sharedSecret host network.transports := by
  obtain ⟨inside, apart, outside⟩ := linked
  refine ⟨.inr ⟨inside, outside⟩, by simp, ?_, routed.generated, routed.named, routed.receivable⟩
  rcases routed.route with ⟨_, _, _, identity⟩ | ⟨_, elsewhere⟩
  · rw [identity]
    exact fun same => apart (star.unique _ _ same).symm
  · exact absurd inside elsewhere

/-- A delivery hands its state to the receiver. -/
theorem handedStates_deliver {receiver : Node} {packet : ByteString} {state : StatePacket}
    (reads : readStatePacket packet = .ok (some state)) {source : Endpoint} {now : Nat}
    {node : Node} :
    handedStates (events ++ [.deliver receiver packet source now (some packet)]) node =
      handedStates events node ++ if receiver = node then [state] else [] := by
  have read : (readStatePacket packet).toOption.join = some state := by
    rw [reads]
    rfl
  by_cases here : receiver = node <;> simp [handedStates, here, read]

/-- A delivery publishes nothing. -/
theorem publishedToOthers_deliver {receiver : Node} {packet : ByteString} {source : Endpoint}
    {now : Nat} {handed : Option ByteString} {node : Node} :
    publishedToOthers (events ++ [.deliver receiver packet source now handed]) node =
      publishedToOthers events node := by
  simp [publishedToOthers]

/-- The account still balances when a parcel is handed over and sent on. -/
theorem perm_relayed {nodes : List Node} (distinct : nodes.Nodup) {parcel : Parcel Node}
    (linked : ∀ other, other ∈ nodes ↔
      parcel.receiver = host ∧ other ≠ parcel.sender ∧ other ≠ host) {node : Node}
    {first rest : List (Parcel Node)} {mark : ByteString} {handed published : List StatePacket}
    (account : (handed ++ heading host node (first ++ parcel :: rest)).Perm published) :
    ((handed ++ if parcel.receiver = node then [parcel.state] else []) ++ heading host node
      (first ++ rest ++ Parcel.spread parcel.receiver mark parcel.state nodes)).Perm
        published := by
  have balance := heading_relayed distinct linked node mark
  rw [← List.singleton_append, heading_append, heading_append, balance] at account
  rw [heading_append, heading_append]
  rw [List.perm_iff_count] at account ⊢
  intro state
  have count := account state
  simp only [List.count_append] at count ⊢
  omega

/-- Every state that was published to a node was handed to it or is on its way. -/
structure Accounted (digest : HmacDigest) (addresses : Node → Endpoint) (host : Node)
    (sharedSecret : ByteString) (events : List (StarEvent Node)) (network : UdpNetwork Node) :
    Prop where
  star : Star addresses host sharedSecret network.transports
  account : ∃ parcels : List (Parcel Node),
    network.sent = parcels.map (Parcel.flight digest addresses sharedSecret) ∧
    (∀ parcel ∈ parcels, parcel.Routed digest sharedSecret host network.transports) ∧
    ∀ node, (handedStates events node ++ heading host node parcels).Perm
      (publishedToOthers events node)

namespace Accounted

/-- Nothing happens to the datagrams when a node works on what it has. -/
theorem of_same (accounted : Accounted digest addresses host sharedSecret events network)
    {event : StarEvent Node} (sent : next.sent = network.sent)
    (transports : next.transports = network.transports)
    (quiet : ∀ node, handedStates [event] node = [] ∧ publishedToOthers [event] node = []) :
    Accounted digest addresses host sharedSecret (events ++ [event]) next := by
  obtain ⟨parcels, shape, routed, account⟩ := accounted.account
  refine ⟨transports ▸ accounted.star, parcels, sent.trans shape, transports ▸ routed,
    fun node => ?_⟩
  rw [handedStates, publishedToOthers, List.filterMap_append, List.filterMap_append,
    ← handedStates, ← handedStates, ← publishedToOthers, ← publishedToOthers, (quiet node).1,
    (quiet node).2, List.append_nil, List.append_nil]
  exact account node

/-- A captured state goes to the nodes its author is linked to. -/
theorem capture (accounted : Accounted digest addresses host sharedSecret events network)
    (injective : Function.Injective addresses) (guests : ∃ guest, guest ≠ host)
    (computes : sharedSecret ≠ [] → ∀ data, (digest sharedSecret data).isSome)
    {node : Node} {slots : SlotState} {now : Nat} {published : Option StatePacket}
    (receivable : ∀ state ∈ published, Receivable digest sharedSecret state)
    (captured : network.capture digest addresses node slots now = .ok (next, published)) :
    Accounted digest addresses host sharedSecret
      (events ++ [.capture node slots now published]) next := by
  obtain ⟨kept, _, _, ⟨rfl, _, quiet⟩ |
      ⟨state, datagrams, rfl, identity, name, _, _, sent, posted⟩⟩ :=
    UdpNetwork.capture_cases captured
  · exact accounted.of_same quiet kept fun other => ⟨rfl, by simp [publishedToOthers]⟩
  · obtain ⟨parcels, shape, routed, account⟩ := accounted.account
    have star := accounted.star
    have generated : GeneratedInstanceID state.instanceID := identity ▸ star.generated node
    have named : state.sender ≠ [] := name ▸ star.named node
    have fits := receivable state rfl
    obtain ⟨nodes, distinct, known, linked⟩ := star.exists_destinations injective node none
    replace linked (other : Node) :
        other ∈ nodes ↔ other ≠ node ∧ (node = host ∨ other = host) := by
      simpa using linked other
    have somewhere : nodes ≠ [] := by
      obtain ⟨guest, apart⟩ := guests
      by_cases here : node = host
      · exact List.ne_nil_of_mem ((linked guest).mpr ⟨here ▸ apart, .inl here⟩)
      · exact List.ne_nil_of_mem ((linked host).mpr ⟨Ne.symm here, .inr rfl⟩)
    rw [send_state (star.keyed node) (plain_of_generated (star.generated node)).1 identity name
      somewhere known (packet_delivers computes generated named fits.addressable plain_zero).1] at sent
    cases sent
    refine ⟨kept ▸ star, parcels ++ Parcel.spread node (ascii "0") state nodes,
      ?_, ?_, fun other => ?_⟩
    · rw [posted, shape, Parcel.spread, List.map_append, List.map_map, List.map_map]
      rfl
    · rw [kept, List.forall_mem_append, Parcel.spread, List.forall_mem_map]
      refine ⟨routed, fun other member => ?_⟩
      obtain ⟨apart, link⟩ := (linked other).mp member
      refine ⟨?_, List.mem_cons_self, ?_, generated, named, fits⟩
      · by_cases here : node = host
        · exact .inr ⟨here, here ▸ apart⟩
        · exact .inl ⟨link.resolve_left here, here, rfl, identity⟩
      · rw [identity]
        exact fun same => apart (star.unique _ _ same).symm
    · have handed : handedStates (events ++ [.capture node slots now (some state)]) other =
          handedStates events other := by
        simp [handedStates]
      have published : publishedToOthers (events ++ [.capture node slots now (some state)]) other =
          publishedToOthers events other ++ if node = other then [] else [state] := by
        by_cases own : node = other <;> simp [publishedToOthers, own]
      rw [handed, published, heading_append, heading_published distinct linked,
        ← List.append_assoc]
      exact (account other).append_right _

/-- What arrives is handed over, and the host sends it on. -/
theorem deliver (accounted : Accounted digest addresses host sharedSecret events network)
    (injective : Function.Injective addresses)
    (computes : sharedSecret ≠ [] → ∀ data, (digest sharedSecret data).isSome)
    {node : Node} {packet : ByteString} {source : Endpoint} {now : Nat}
    {handed : Option ByteString} {before after : List Flight}
    (transit : network.sent = before ++ ⟨source, ⟨packet, addresses node⟩⟩ :: after)
    (received : { network with sent := before ++ after }.receive digest addresses node packet
      source now = .ok next)
    (queued : next.packetTasks node = network.packetTasks node ++ handed.toList) :
    Accounted digest addresses host sharedSecret
      (events ++ [.deliver node packet source now handed]) next := by
  obtain ⟨parcels, shape, routed, account⟩ := accounted.account
  obtain ⟨first, parcel, rest, rfl, rfl, rfl, rfl, rfl, rfl⟩ :=
    exists_arriving injective (shape.symm.trans transit)
  have route := routed parcel (by simp)
  obtain ⟨touched, nodes, distinct, later, same, linked, rfl⟩ :=
    route.exists_next accounted.star injective computes received
  have all : handed = some (Parcel.packet digest sharedSecret parcel.mark parcel.state) := by
    simpa [UdpNetwork.post, UdpNetwork.setPacketTasks, Option.toList_eq_singleton_iff, eq_comm]
      using queued
  subst all
  refine ⟨later, first ++ rest ++ Parcel.spread parcel.receiver (ascii "1") parcel.state nodes,
    ?_, fun other member => ?_, fun other => ?_⟩
  · simp only [UdpNetwork.post, UdpNetwork.setPacketTasks, UdpNetwork.setTransport,
      Parcel.spread, List.map_append, List.map_map]
    rfl
  · refine Parcel.Routed.of_same ?_ same
    rcases List.mem_append.mp member with earlier | copy
    · refine routed other ?_
      rcases List.mem_append.mp earlier with inside | inside <;> simp [inside]
    · obtain ⟨receiver, among, rfl⟩ := List.mem_map.mp copy
      exact route.copy accounted.star ((linked receiver).mp among)
  · rw [handedStates_deliver (packet_delivers computes route.generated route.named
      route.receivable.addressable route.plain).2.2, publishedToOthers_deliver]
    exact perm_relayed distinct linked (account other)

/-- Running a queued task sends nothing. -/
theorem runPacketTask (accounted : Accounted digest addresses host sharedSecret events network)
    {node : Node} {world : GameWorld} (handled : network.runPacketTask node world = .ok next) :
    Accounted digest addresses host sharedSecret (events ++ [.runPacketTask node world]) next := by
  obtain ⟨_, rfl⟩ | ⟨_, _, _, _, _, rfl⟩ := UdpNetwork.runPacketTask_cases handled
  · exact accounted.of_same rfl rfl fun _ => ⟨rfl, rfl⟩
  · exact accounted.of_same rfl rfl fun _ => ⟨rfl, rfl⟩

/-- Everything is accounted for at the start. -/
theorem initial (initial : (starNetwork digest addresses host sharedSecret).Initial network) :
    Accounted digest addresses host sharedSecret [] network := by
  obtain ⟨silent, star, _⟩ := initial
  exact ⟨star, [], silent, by simp, fun node => by simp [handedStates, publishedToOthers, heading]⟩

/-- Every step keeps the account. -/
theorem step (accounted : Accounted digest addresses host sharedSecret events network)
    (injective : Function.Injective addresses) (guests : ∃ guest, guest ≠ host)
    (computes : sharedSecret ≠ [] → ∀ data, (digest sharedSecret data).isSome)
    {event : StarEvent Node}
    (step : (starNetwork digest addresses host sharedSecret).Step network event next) :
    Accounted digest addresses host sharedSecret (events ++ [event]) next := by
  cases event with
  | capture node slots now published =>
      exact accounted.capture injective guests computes step.1 step.2
  | deliver node packet source now handed =>
      obtain ⟨before, after, transit, received, queued⟩ := step
      exact accounted.deliver injective computes transit received queued
  | runPacketTask node world => exact accounted.runPacketTask step
  | refreshProxies node world =>
      obtain rfl := step
      exact accounted.of_same rfl rfl fun _ => ⟨rfl, rfl⟩
  | resetService node world =>
      obtain rfl := step
      exact accounted.of_same rfl rfl fun _ => ⟨rfl, rfl⟩

/-- What was handed to a node is part of what was published to it. -/
theorem subperm (accounted : Accounted digest addresses host sharedSecret events network)
    (node : Node) : (handedStates events node).Subperm (publishedToOthers events node) := by
  obtain ⟨parcels, _, _, account⟩ := accounted.account
  exact (List.sublist_append_left _ _).subperm.trans (account node).subperm

/-- If nothing is on its way, a node was handed what was published to it. -/
theorem perm (accounted : Accounted digest addresses host sharedSecret events network)
    (arrived : network.sent = []) (node : Node) :
    (handedStates events node).Perm (publishedToOthers events node) := by
  obtain ⟨parcels, shape, _, account⟩ := accounted.account
  rw [arrived, eq_comm, List.map_eq_nil_iff] at shape
  subst shape
  simpa [heading] using account node

end Accounted

/-- Everything is accounted for after every run. -/
theorem accounted_of_runs (injective : Function.Injective addresses)
    (guests : ∃ guest, guest ≠ host)
    (computes : sharedSecret ≠ [] → ∀ data, (digest sharedSecret data).isSome)
    (run : (starNetwork digest addresses host sharedSecret).Runs events network) :
    Accounted digest addresses host sharedSecret events network :=
  run.invariant (Accounted digest addresses host sharedSecret) Accounted.initial
    fun _ accounted step => accounted.step injective guests computes step

/-- In a star no state is handed to a node more often than the others published it, and once
every datagram has arrived, exactly as often. -/
theorem star_delivers_once (injective : Function.Injective addresses)
    (guests : ∃ guest, guest ≠ host)
    (computes : sharedSecret ≠ [] → ∀ data, (digest sharedSecret data).isSome)
    (run : (starNetwork digest addresses host sharedSecret).Runs events network) (node : Node) :
    (handedStates events node).Subperm (publishedToOthers events node) ∧
      (network.sent = [] → (handedStates events node).Perm (publishedToOthers events node)) :=
  have accounted := accounted_of_runs injective guests computes run
  ⟨accounted.subperm node, fun arrived => accounted.perm arrived node⟩

end Account

end Star

/-! ## A relay with two guests -/

/-- The address of the relay. -/
def relayEndpoint : Endpoint := { guest with port := 38472 }

/-- The relay, Lydia and Serana. -/
def starTransports : Option Bool → UdpTransport
  | none => { lydiaTransport with
      localPlayerName := ascii "Relay"
      instanceID := ascii "00001002-0000000000100002"
      configuredPeers := [senderEndpoint, guest] }
  | some false => { lydiaTransport with relayMode := false, configuredPeers := [relayEndpoint] }
  | some true => { seranaTransport with relayMode := false, configuredPeers := [relayEndpoint] }

/-- The addresses of the relay and of the two guests. -/
def starAddresses : Option Bool → Endpoint
  | none => relayEndpoint
  | some serana => swordAddresses serana

/-- The star before the first capture. -/
def starQuiet : UdpNetwork (Option Bool) where
  transports := starTransports
  services _ := { SyncService.initial false 1000 with revision := 6 }
  packetTasks _ := []
  sent := []

/-- The relay's copy of Lydia's packet. -/
def swordCopy : ByteString := signed lydiaDigest (ascii "secret") (swordContent (ascii "1"))

/-- Lydia's state is on its way to the relay. -/
def starCaptured : UdpNetwork (Option Bool) :=
  (starQuiet.setService (some false) swordService).post starAddresses (some false)
    [⟨swordPacket, relayEndpoint⟩]

/-- The entry of a sender under its address. -/
def heardFrom (transport : UdpTransport) (source : Endpoint) (now : Nat) : UdpTransport :=
  { transport with
    peers := transport.peers.insert (ascii "gameplay|" ++ addressToString source)
      ⟨source, ascii "Lydia", ascii "gameplay|" ++ addressToString source, now⟩ }

/-- The relay has queued the packet and forwarded a copy of it. -/
def starRelayed : UdpNetwork (Option Bool) :=
  (({ starCaptured with sent := [] }.setTransport none
    (heardFrom (starTransports none) senderEndpoint 6)).setPacketTasks none [swordPacket]).post
      starAddresses none [⟨swordCopy, guest⟩]

/-- The other guest has queued the copy. -/
def starArrived : UdpNetwork (Option Bool) :=
  (({ starRelayed with sent := [] }.setTransport (some true)
    (heardFrom (starTransports (some true)) relayEndpoint 7)).setPacketTasks (some true)
      [swordCopy]).post starAddresses (some true) []

/-- The transports form a star around the relay. -/
theorem star_starTransports :
    Star starAddresses none (ascii "secret") starTransports where
  keyed := by decide
  generated node := by
    rcases node with _ | _ | _
    · exact .inl ⟨0x1002, 0x100002, by decide⟩
    · exact .inl ⟨0x1000, 0x100000, by decide⟩
    · exact .inl ⟨0x1001, 0x100001, by decide⟩
  unique := by decide
  named := by decide
  relays := by decide
  table := by
    rintro (_ | _ | _) key peer found <;> cases found
  knows := by
    have ends : ∀ node, (starTransports node).endpoints =
        (match node with
          | none => [senderEndpoint, guest]
          | some _ => [relayEndpoint]) := by
      decide
    rintro (_ | _ | _) endpoint <;> rw [← UdpTransport.mem_endpoints, ends] <;>
      simp [Option.exists, starAddresses, swordAddresses, eq_comm]

/-- The capture of a sword is published. -/
theorem capture_starQuiet :
    starQuiet.capture lydiaDigest starAddresses (some false) swordSlots 5 =
      .ok (starCaptured, some publishedSword) := by
  have built : (starQuiet.transports (some false)).builtPacket lydiaDigest
      (statePayload 7 swordSlots) = .ok swordPacket := builtPacket_statePayload (by decide)
  have captured : (starQuiet.services (some false)).onLocalCapture swordSlots 5 =
      (swordService, some (statePayload 7 swordSlots)) := rfl
  have known : (starQuiet.transports (some false)).snapshotDestinations none =
      [relayEndpoint] := rfl
  have sent : (starQuiet.transports (some false)).send lydiaDigest (statePayload 7 swordSlots) =
      .ok [⟨swordPacket, relayEndpoint⟩] := by
    rw [UdpTransport.send, built, known]
    rfl
  simp only [UdpNetwork.capture, captured, sent]
  rfl

set_option maxRecDepth 20000 in
/-- The relay takes the packet and forwards it. -/
theorem relay_swordPacket :
    (starTransports none).receive lydiaDigest swordPacket senderEndpoint 6 =
      .ok ⟨heardFrom (starTransports none) senderEndpoint 6, [⟨swordCopy, guest⟩],
        some swordPacket⟩ := by
  rfl

set_option maxRecDepth 20000 in
/-- The other guest takes the copy. -/
theorem receive_swordCopy :
    (starTransports (some true)).receive lydiaDigest swordCopy relayEndpoint 7 =
      .ok ⟨heardFrom (starTransports (some true)) relayEndpoint 7, [], some swordCopy⟩ := by
  rfl

/-- The packet fits into the buffer of a receiver. -/
theorem fits_swordPacket : swordPacket.length ≤ receiveCapacity := by
  decide +kernel

/-- The copy fits as well. -/
theorem fits_swordCopy : swordCopy.length ≤ receiveCapacity := by
  decide +kernel

/-- The packet arrives at the relay. -/
theorem receive_starCaptured :
    { starCaptured with sent := [] }.receive lydiaDigest starAddresses none swordPacket
      senderEndpoint 6 = .ok starRelayed := by
  have turn : (starCaptured.transports none).receiverTurn lydiaDigest swordPacket senderEndpoint 6 =
      .ok ⟨heardFrom (starTransports none) senderEndpoint 6, [⟨swordCopy, guest⟩],
        some swordPacket⟩ :=
    (UdpTransport.receiverTurn_of_fits fits_swordPacket).trans relay_swordPacket
  simp only [UdpNetwork.receive, turn]
  rfl

/-- The copy arrives at the other guest. -/
theorem receive_starRelayed :
    { starRelayed with sent := [] }.receive lydiaDigest starAddresses (some true) swordCopy
      relayEndpoint 7 = .ok starArrived := by
  have turn : (starRelayed.transports (some true)).receiverTurn lydiaDigest swordCopy
      relayEndpoint 7 =
      .ok ⟨heardFrom (starTransports (some true)) relayEndpoint 7, [], some swordCopy⟩ :=
    (UdpTransport.receiverTurn_of_fits fits_swordCopy).trans receive_swordCopy
  simp only [UdpNetwork.receive, turn]
  rfl

/-- The published sword can be received with either mark. -/
theorem receivable_publishedSword :
    ∀ state ∈ some publishedSword, Receivable lydiaDigest (ascii "secret") state := by
  intro state published
  cases published
  refine ⟨by decide, fun mark member => ?_⟩
  simp only [List.mem_cons, List.not_mem_nil, or_false] at member
  rcases member with rfl | rfl
  · exact fits_swordPacket
  · exact fits_swordCopy

/-- The star is one a run can start from. -/
theorem initial_starQuiet :
    (starNetwork lydiaDigest starAddresses none (ascii "secret")).Initial starQuiet :=
  ⟨rfl, star_starTransports, fun _ => ⟨rfl, rfl, rfl⟩⟩

/-- Serana is handed Lydia's state once. -/
theorem sword_delivered_once :
    (handedStates [.capture (some false) swordSlots 5 (some publishedSword),
        .deliver none swordPacket senderEndpoint 6 (some swordPacket),
        .deliver (some true) swordCopy relayEndpoint 7 (some swordCopy)] (some true)).Perm
      [publishedSword] := by
  have apart : Function.Injective starAddresses := by decide
  have run : (starNetwork lydiaDigest starAddresses none (ascii "secret")).Runs
      [.capture (some false) swordSlots 5 (some publishedSword),
        .deliver none swordPacket senderEndpoint 6 (some swordPacket),
        .deliver (some true) swordCopy relayEndpoint 7 (some swordCopy)] starArrived :=
    .of_follows initial_starQuiet ⟨starCaptured, ⟨receivable_publishedSword, capture_starQuiet⟩,
      starRelayed, ⟨[], [], rfl, receive_starCaptured, rfl⟩,
      starArrived, ⟨[], [], rfl, receive_starRelayed, rfl⟩, rfl⟩
  exact (star_delivers_once apart ⟨some false, by decide⟩ (fun _ => lydiaDigest_isSome _) run
    (some true)).2 rfl

end IEDSyncTogether
