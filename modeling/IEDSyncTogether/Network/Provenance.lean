import IEDSyncTogether.Network.UdpNetwork
import IEDSyncTogether.Service.Staleness

/-!
# Where stored states come from

With a secret in every process, a tag vouches for the content it covers: an arriving packet
that passes the check has the content of a packet that was sent. The contents that are
signed are hellos and published states, with the mark of their sender or of a relay, so
whatever is injected, repeated, reordered or relayed, a snapshot holds a state that an
instance of that name published from its own capture.
-/

namespace IEDSyncTogether

open Base

variable {Node : Type} {digest : HmacDigest}

/-- A capture of the node handed the state to `Send`. -/
def Published (events : List (NetworkEvent Node)) (author : Node) (state : StatePacket) : Prop :=
  ∃ slots now, NetworkEvent.capture author slots now (some state) ∈ events

/-- The slots came from a capture of the node. -/
def Captured (events : List (NetworkEvent Node)) (node : Node) (slots : SlotState) : Prop :=
  ∃ now published, NetworkEvent.capture node slots now published ∈ events

/-- What was published stays published. -/
theorem Published.append {events : List (NetworkEvent Node)} {author : Node} {state : StatePacket}
    (published : Published events author state) (further : List (NetworkEvent Node)) :
    Published (events ++ further) author state := by
  obtain ⟨slots, now, member⟩ := published
  exact ⟨slots, now, List.mem_append_left _ member⟩

/-- What was captured stays captured. -/
theorem Captured.append {events : List (NetworkEvent Node)} {node : Node} {slots : SlotState}
    (captured : Captured events node slots) (further : List (NetworkEvent Node)) :
    Captured (events ++ further) node slots := by
  obtain ⟨now, published, member⟩ := captured
  exact ⟨now, published, List.mem_append_left _ member⟩

/-- The text that is signed for a state under a mark. -/
def stateText (state : StatePacket) (mark : ByteString) : ByteString :=
  gameplayText (stateFields state.instanceID state.sender mark state.revision state.slots)

/-- The contents a process signs. -/
def Genuine (events : List (NetworkEvent Node)) (content : ByteString) : Prop :=
  (∃ fields, content = discoveryText fields) ∨
    ∃ author state, Published events author state ∧
      (content = stateText state (ascii "0") ∨ content = stateText state (ascii "1"))

/-- What is genuine stays genuine. -/
theorem Genuine.append {events : List (NetworkEvent Node)} {content : ByteString}
    (genuine : Genuine events content) (further : List (NetworkEvent Node)) :
    Genuine (events ++ further) content := by
  rcases genuine with hello | ⟨author, state, published, text⟩
  · exact .inl hello
  · exact .inr ⟨author, state, published.append further, text⟩

/-- A state that can be sent. -/
structure StatePacket.Sendable (state : StatePacket) : Prop where
  generated : GeneratedInstanceID state.instanceID
  named : state.sender ≠ []

/-- An arriving packet with a valid tag has the content of a packet that was sent. -/
def Unforged [DecidableEq Node] (digest : HmacDigest) (network : UdpNetwork Node)
    (event : NetworkEvent Node) : Prop :=
  (∀ node, (network.transports node).sharedSecret ≠ []) ∧
    match event with
    | .receive node packet _ _ =>
      authenticatePacket digest (network.transports node).sharedSecret packet = .ok true →
        ∃ flight ∈ network.sent,
          removeAuthField flight.datagram.packet = removeAuthField packet
    | _ => True

section Contents

variable {events : List (NetworkEvent Node)} {sharedSecret content packet copy : ByteString}
  {state : StatePacket} {mark : ByteString}

/-- What was signed is what the check sees. -/
theorem withoutAuth_of_signed (keyed : sharedSecret ≠ [])
    (present : signed digest sharedSecret content ≠ []) :
    withoutAuth (signed digest sharedSecret content) = content := by
  cases computed : computeHmacSha256 digest sharedSecret content with
  | none => simp [signed, keyed, computed] at present
  | some tag => exact withoutAuth_signed keyed computed

/-- A gameplay packet has no discovery text as its content. -/
theorem stateText_of_genuine (genuine : Genuine events (withoutAuth packet))
    (gameplay : kGameplayPrefix.isPrefixOf packet = true) :
    ∃ author state, Published events author state ∧
      (withoutAuth packet = stateText state (ascii "0") ∨
        withoutAuth packet = stateText state (ascii "1")) := by
  rcases genuine with ⟨fields, hello⟩ | found
  · obtain ⟨others, _, free, rfl⟩ := exists_gameplayText gameplay
    rw [withoutAuth_gameplayText free] at hello
    simp [gameplayText, discoveryText, joined, ascii, byteOf] at hello
  · exact found

/-- A state is read from the values of four keys. -/
theorem fields_of_readStatePacket (reads : readStatePacket packet = .ok (some state)) :
    kGameplayPrefix.isPrefixOf packet = true ∧
      decodeStateFields (fieldValue packet (ascii "id")) (fieldValue packet (ascii "from"))
        (fieldValue packet (ascii "rev")) (fieldValue packet (ascii "slots")) = some state := by
  unfold readStatePacket at reads
  split at reads
  · cases reads
  · next known =>
      simp only [readField_eq, bind, Except.bind, pure, Except.pure, Except.ok.injEq] at reads
      exact ⟨not_not.mp (not_or.mp known).1, reads⟩

/-- The receiver reads from an authentic packet the state its content was signed for. -/
theorem state_of_authentic (keyed : sharedSecret ≠ [])
    (accepted : authentic digest sharedSecret packet = true) (sendable : state.Sendable)
    (flag : Plain mark) (content : withoutAuth packet = stateText state mark) {read : StatePacket}
    (reads : readStatePacket packet = .ok (some read)) : read = state := by
  obtain ⟨peer, present⟩ := plain_of_generated sendable.generated
  have value {key : ByteString} (known : key ∈ handlerKeys) :
      fieldValue packet key = fieldValue (stateText state mark) key := by
    rw [← content]
    exact fieldValue_withoutAuth keyed accepted known
  obtain ⟨_, decoded⟩ := fields_of_readStatePacket reads
  rw [value (by decide), value (by decide), value (by decide), value (by decide)] at decoded
  have whole : readStatePacket (stateText state mark) =
      .ok (if Addressable state.slots then some state else none) := by
    have fields := @readStatePacket_stateFields state.instanceID state.sender mark state.revision
      state.slots peer present sendable.named flag []
    rwa [List.append_nil] at fields
  have shaped : ¬ (¬ kGameplayPrefix.isPrefixOf (stateText state mark) = true ∨
      findText (ascii "|STATE|") (stateText state mark) = none) := by
    rw [not_or, not_not, findText_eq_none_iff, not_not]
    exact ⟨isPrefixOf_gameplayText (List.cons_ne_nil _ _),
      infix_gameplayText [_, _, _] (ascii "STATE") _ [_]⟩
  have again : readStatePacket (stateText state mark) = .ok (some read) := by
    rw [readStatePacket, if_neg shaped]
    simp only [readField_eq, bind, Except.bind, pure, Except.pure, decoded]
  rw [whole] at again
  split_ifs at again
  · cases again
    rfl
  · cases again

/-- A relay signs the state of the packet it forwards, with its mark. -/
theorem copy_of_authentic {transport : UdpTransport} (keyed : transport.sharedSecret ≠ [])
    (accepted : authentic digest transport.sharedSecret packet = true) (sendable : state.Sendable)
    (content : withoutAuth packet = stateText state (ascii "0") ∨
      withoutAuth packet = stateText state (ascii "1"))
    (relayed : transport.relayedPacket digest packet = .ok (some copy)) :
    withoutAuth copy = stateText state (ascii "1") := by
  obtain ⟨peer, present⟩ := plain_of_generated sendable.generated
  have mark : fieldValue packet (ascii "relay") = fieldValue (withoutAuth packet) (ascii "relay") :=
    fieldValue_withoutAuth keyed accepted (by decide)
  have value {flag : ByteString} (plain : Plain flag) :
      fieldValue (stateText state flag) (ascii "relay") = some flag := by
    have read := @findSome?_stateFields state.instanceID state.sender flag state.revision
      state.slots (ascii "relay") (by decide) peer plain []
    rw [List.append_nil, if_neg (by decide), if_neg (by decide), if_pos (by decide)] at read
    rw [stateText, fieldValue_gameplayText (by decide), read]
  unfold UdpTransport.relayedPacket at relayed
  split at relayed
  · cases relayed
  · simp only [readField_eq, bind, Except.bind, pure, Except.pure] at relayed
    rcases content with original | marked
    · have replaced : replaceInner (ascii "relay=0") (ascii "relay=1")
          (stateFields state.instanceID state.sender (ascii "0") state.revision state.slots) =
          some (stateFields state.instanceID state.sender (ascii "1") state.revision
            state.slots) := by
        simp [stateFields, labelled, replaceInner, ascii, byteOf]
      have made : markRelayed digest transport.sharedSecret packet =
          .ok (signed digest transport.sharedSecret (stateText state (ascii "1"))) := by
        rw [markRelayed_eq, original, stateText,
          replaceFirst_gameplayText (freeOf_stateFields peer plain_zero), replaced, Option.map_some]
        simp only
        rw [withoutAuth_gameplayText (freeOf_stateFields peer plain_one),
          eraseLast_of_any_eq_false any_isAuth_stateFields, stateText]
      simp only [made] at relayed
      split at relayed
      · cases relayed
      · split at relayed
        · cases relayed
        · next signable =>
            obtain rfl := Option.some.inj (Except.ok.inj relayed)
            exact withoutAuth_of_signed keyed signable
    · rw [mark, marked, value plain_one, if_pos (by decide)] at relayed
      cases relayed

end Contents

/-! ## What a step leaves -/

namespace UdpTransport

variable {transport : UdpTransport}

/-- `SendHello` sends hellos. -/
theorem sendsHellos_sendHello (own : Plain transport.instanceID) {sent : List Datagram}
    (greeted : transport.sendHello digest = .ok sent) : SendsHellos digest transport sent := by
  rw [sendHello_eq own, Except.ok.injEq] at greeted
  subst greeted
  intro datagram member
  rcases List.mem_append.mp member with announced | later
  · split at announced
    · exact sendsHellos_sendPacketTo digest transport false _ datagram announced
    · cases announced
  · obtain ⟨peer, _, inside⟩ := List.mem_flatMap.mp later
    exact sendsHellos_sendPacketTo digest transport true peer datagram inside

/-- `Send` sends no empty packet. -/
theorem packet_ne_nil_of_send {payload : ByteString} {sent : List Datagram}
    (done : transport.send digest payload = .ok sent) :
    ∀ datagram ∈ sent, datagram.packet ≠ [] := by
  unfold send at done
  split at done
  · cases done
    exact fun _ member => by cases member
  · cases built : transport.builtPacket digest payload with
    | error thrown => simp [built, bind, Except.bind] at done
    | ok packet =>
        simp only [built, bind, Except.bind, pure, Except.pure] at done
        cases done
        intro datagram member
        obtain ⟨destination, _, copy⟩ := List.mem_flatMap.mp member
        unfold sendPacketTo at copy
        split at copy
        · cases copy
        · next present =>
            rw [List.mem_singleton.mp copy]
            exact present

/-- A hello is genuine. -/
theorem SendsHellos.genuine {events : List (NetworkEvent Node)} {sent : List Datagram}
    (keyed : transport.sharedSecret ≠ []) (hellos : SendsHellos digest transport sent) :
    ∀ datagram ∈ sent, Genuine events (withoutAuth datagram.packet) := by
  intro datagram member
  obtain ⟨present, observed, shape⟩ := hellos datagram member
  rw [shape] at present
  exact .inl ⟨_, by rw [shape, helloPacket, withoutAuth_of_signed keyed present]⟩

end UdpTransport

namespace SyncService

variable {service : SyncService} {world : GameWorld}

/-- The slots of a service after a capture are the captured ones or those it had. -/
theorem localSlots_onLocalCapture (service : SyncService) (slots : SlotState) (now : Nat) :
    (service.onLocalCapture slots now).1.remoteSnapshots = service.remoteSnapshots ∧
      ((service.onLocalCapture slots now).1.localSlots = slots ∨
        service.hasLocalSlots = true ∧
          (service.onLocalCapture slots now).1.localSlots = service.localSlots) := by
  cases known : service.hasLocalSlots with
  | false => simp [onLocalCapture, known]
  | true =>
      by_cases same : slots = service.localSlots
      · by_cases due : service.resendIntervalMs ≤ now - service.lastSend <;>
          simp [onLocalCapture, known, same, due]
      · simp [onLocalCapture, known, same]

/-- A packet is held whole, or is older than what is held of its character. -/
theorem RemoteSnapshot.heldState_receive (snapshot : RemoteSnapshot) (packet : StatePacket)
    (proxy : FormID) :
    (snapshot.receive packet proxy).heldState packet.instanceID = packet ∨
      packet.revision < snapshot.revision ∧
        (snapshot.characterName = [] ∨ snapshot.receive packet proxy = snapshot) := by
  by_cases older : packet.revision < snapshot.revision
  · by_cases same : snapshot.characterName = packet.sender
    · exact .inr ⟨older, .inr (receive_of_lt older same)⟩
    · by_cases unnamed : snapshot.characterName = []
      · exact .inr ⟨older, .inl unnamed⟩
      · left
        simp [receive, rename, unnamed, same, empty, heldState]
  · rw [UInt64.not_lt] at older
    rw [receive_of_le older]
    exact .inl rfl

/-- Every snapshot holds a published state. -/
def HoldsPublished (events : List (NetworkEvent Node)) (service : SyncService) : Prop :=
  ∀ instanceID snapshot, service.remoteSnapshots.lookup instanceID = some snapshot →
    ∃ author, Published events author (snapshot.heldState instanceID)

/-- Storing a published state keeps that. -/
theorem HoldsPublished.storePacket {events : List (NetworkEvent Node)}
    (holds : service.HoldsPublished events) {packet : StatePacket}
    (named : ∀ author state, Published events author state → state.sender ≠ [])
    (published : ∃ author, Published events author packet) :
    (service.storePacket world packet).HoldsPublished events := by
  intro instanceID snapshot known
  by_cases here : instanceID = packet.instanceID
  · subst here
    rw [lookup_storePacket, Option.some.injEq] at known
    subst known
    rcases (service.snapshotOf packet.instanceID).heldState_receive packet
      (world.proxyOf packet.sender) with whole | ⟨older, kept⟩
    · rwa [whole]
    · cases before : service.remoteSnapshots.lookup packet.instanceID with
      | none =>
          rw [snapshotOf, before] at older
          exact absurd older (UInt64.not_lt.mpr UInt64.zero_le)
      | some snapshot =>
          obtain ⟨author, held⟩ := holds packet.instanceID snapshot before
          rw [snapshotOf, before, Option.getD_some] at kept ⊢
          rcases kept with unnamed | same
          · exact absurd unnamed (named author _ held)
          · rw [same]
            exact ⟨author, held⟩
  · rw [lookup_storePacket_ne here] at known
    exact holds instanceID snapshot known

/-- Rebinding changes no state. -/
theorem HoldsPublished.refreshProxyMitigation {events : List (NetworkEvent Node)}
    (holds : service.HoldsPublished events) :
    (service.refreshProxyMitigation world).1.HoldsPublished events := by
  intro instanceID snapshot known
  have bound : (service.bindProxies world).remoteSnapshots.lookup instanceID = some snapshot := known
  rw [lookup_bindProxies] at bound
  obtain ⟨before, found, rfl⟩ := Option.map_eq_some_iff.mp bound
  exact holds instanceID before found

end SyncService

/-! ## The law of a run -/

namespace UdpNetwork

variable {addresses : Node → Endpoint} {events : List (NetworkEvent Node)}
  {network next : UdpNetwork Node}

/-- What was sent, queued and stored goes back to what was published. -/
structure Traceable (events : List (NetworkEvent Node)) (network : UdpNetwork Node) : Prop where
  generated : ∀ node, GeneratedInstanceID (network.transports node).instanceID
  named : ∀ node, (network.transports node).localPlayerName ≠ []
  published : ∀ author state, Published events author state →
    state.Sendable ∧ state.instanceID = (network.transports author).instanceID ∧
      Captured events author state.slots
  localSlots : ∀ node, (network.services node).hasLocalSlots = true →
    Captured events node (network.services node).localSlots
  sent : ∀ flight ∈ network.sent, Genuine events (withoutAuth flight.datagram.packet)
  tasks : ∀ node, ∀ packet ∈ network.packetTasks node, ∀ state,
    readStatePacket packet = .ok (some state) → ∃ author, Published events author state
  snapshots : ∀ node, (network.services node).HoldsPublished events

namespace Traceable

/-- A further event keeps the law if it publishes a state of its author. -/
theorem extend (traceable : Traceable events network) (event : NetworkEvent Node)
    (fresh : ∀ author slots now state, event = .capture author slots now (some state) →
      state.Sendable ∧ state.instanceID = (network.transports author).instanceID ∧
        Captured (events ++ [event]) author state.slots) :
    Traceable (events ++ [event]) network where
  generated := traceable.generated
  named := traceable.named
  published := by
    rintro author state ⟨slots, now, member⟩
    rcases List.mem_append.mp member with earlier | last
    · obtain ⟨sendable, own, captured⟩ := traceable.published author state ⟨slots, now, earlier⟩
      exact ⟨sendable, own, captured.append _⟩
    · exact fresh author slots now state (List.mem_singleton.mp last).symm
  localSlots := fun node known => (traceable.localSlots node known).append _
  sent := fun flight member => (traceable.sent flight member).append _
  tasks := by
    intro node packet member state reads
    obtain ⟨author, published⟩ := traceable.tasks node packet member state reads
    exact ⟨author, published.append _⟩
  snapshots := by
    intro node instanceID snapshot known
    obtain ⟨author, published⟩ := traceable.snapshots node instanceID snapshot known
    exact ⟨author, published.append _⟩

/-- Genuine packets may be sent. -/
theorem post (traceable : Traceable events network) (node : Node) {datagrams : List Datagram}
    (genuine : ∀ datagram ∈ datagrams, Genuine events (withoutAuth datagram.packet)) :
    Traceable events (network.post addresses node datagrams) :=
  { traceable with
    sent := by
      intro flight member
      rcases List.mem_append.mp member with earlier | new
      · exact traceable.sent flight earlier
      · obtain ⟨datagram, among, rfl⟩ := List.mem_map.mp new
        exact genuine datagram among }

variable [DecidableEq Node]

/-- A transport may change as long as it keeps its instance and has a name. -/
theorem setTransport (traceable : Traceable events network) {node : Node}
    {transport : UdpTransport}
    (own : transport.instanceID = (network.transports node).instanceID)
    (named : transport.localPlayerName ≠ []) :
    Traceable events (network.setTransport node transport) := by
  have identity (other : Node) : ((network.setTransport node transport).transports
      other).instanceID = (network.transports other).instanceID := by
    by_cases here : other = node
    · subst here
      simpa [UdpNetwork.setTransport] using own
    · simp [UdpNetwork.setTransport, Function.update_of_ne here]
  refine { traceable with generated := ?_, named := ?_, published := ?_ }
  · intro other
    rw [identity]
    exact traceable.generated other
  · intro other
    by_cases here : other = node
    · subst here
      simpa [UdpNetwork.setTransport] using named
    · simpa [UdpNetwork.setTransport, Function.update_of_ne here] using traceable.named other
  · intro author state published
    rw [identity]
    exact traceable.published author state published

/-- A service may change as long as it holds captured slots and published states. -/
theorem setService (traceable : Traceable events network) {node : Node} {service : SyncService}
    (localSlots : service.hasLocalSlots = true → Captured events node service.localSlots)
    (holds : service.HoldsPublished events) :
    Traceable events (network.setService node service) := by
  refine { traceable with localSlots := ?_, snapshots := ?_ }
  · intro other
    by_cases here : other = node
    · subst here
      simpa [UdpNetwork.setService] using localSlots
    · simpa [UdpNetwork.setService, Function.update_of_ne here] using traceable.localSlots other
  · intro other
    by_cases here : other = node
    · subst here
      simpa [UdpNetwork.setService] using holds
    · simpa [UdpNetwork.setService, Function.update_of_ne here] using traceable.snapshots other

/-- Queued packets with published states leave everything traceable. -/
theorem setPacketTasks (traceable : Traceable events network) {node : Node}
    {packets : List ByteString}
    (genuine : ∀ packet ∈ packets, ∀ state, readStatePacket packet = .ok (some state) →
      ∃ author, Published events author state) :
    Traceable events (network.setPacketTasks node packets) := by
  refine { traceable with tasks := ?_ }
  intro other
  by_cases here : other = node
  · subst here
    simpa [UdpNetwork.setPacketTasks] using genuine
  · simpa [UdpNetwork.setPacketTasks, Function.update_of_ne here] using traceable.tasks other

/-- A capture publishes the slots its service keeps. -/
theorem capture (traceable : Traceable events network) {node : Node} {slots : SlotState}
    {now : Nat} {published : Option StatePacket}
    (keyed : (network.transports node).sharedSecret ≠ [])
    (captured : network.capture digest addresses node slots now = .ok (next, published)) :
    Traceable (events ++ [.capture node slots now published]) next := by
  obtain ⟨snapshots, kept⟩ := (network.services node).localSlots_onLocalCapture slots now
  obtain ⟨_, payloads, _⟩ := (network.services node).onLocalCapture_cases slots now
  have here : Captured (events ++ [.capture node slots now published]) node
      ((network.services node).onLocalCapture slots now).1.localSlots := by
    rcases kept with fresh | ⟨known, same⟩
    · rw [fresh]
      exact ⟨now, published, List.mem_append_right _ List.mem_cons_self⟩
    · rw [same]
      exact (traceable.localSlots node known).append _
  have holds (further : List (NetworkEvent Node)) :
      ((network.services node).onLocalCapture slots now).1.HoldsPublished (events ++ further) := by
    intro instanceID snapshot known
    rw [snapshots] at known
    obtain ⟨author, held⟩ := traceable.snapshots node instanceID snapshot known
    exact ⟨author, held.append _⟩
  simp only [UdpNetwork.capture, bind, Except.bind, pure, Except.pure] at captured
  cases offered : ((network.services node).onLocalCapture slots now).2 with
  | none =>
      simp only [offered, Except.ok.injEq, Prod.mk.injEq] at captured
      obtain ⟨rfl, rfl⟩ := captured
      exact (traceable.extend _ fun _ _ _ _ same => by cases same).setService (fun _ => here)
        (holds _)
  | some payload =>
      obtain rfl := payloads payload offered
      obtain ⟨peer, _⟩ := plain_of_generated (traceable.generated node)
      have built := @builtPacket_statePayload digest
        ((network.services node).onLocalCapture slots now).1.revision
        ((network.services node).onLocalCapture slots now).1.localSlots (network.transports node) peer
      obtain ⟨datagrams, sent, packets⟩ := send_statePayload built
      simp only [offered, sent, Except.ok.injEq, Prod.mk.injEq] at captured
      obtain ⟨rfl, rfl⟩ := captured
      have published : Published (events ++ [.capture node slots now (some
          ⟨(network.transports node).instanceID, (network.transports node).localPlayerName,
            ((network.services node).onLocalCapture slots now).1.revision,
            ((network.services node).onLocalCapture slots now).1.localSlots⟩)]) node _ :=
        ⟨slots, now, List.mem_append_right _ List.mem_cons_self⟩
      refine ((traceable.extend _ ?_).setService (fun _ => here) (holds _)).post node ?_
      · intro author _ _ state same
        cases same
        exact ⟨⟨traceable.generated node, traceable.named node⟩, rfl, here⟩
      · intro datagram member
        have shape := packets datagram member
        have present := UdpTransport.packet_ne_nil_of_send sent datagram member
        rw [shape] at present ⊢
        rw [withoutAuth_of_signed keyed present]
        exact .inr ⟨node, _, published, .inl rfl⟩

/-- A turn sends and queues what its packet's content was signed for. -/
theorem receive (traceable : Traceable events network) {node : Node} {packet : ByteString}
    {source : Endpoint} {now : Nat}
    (unforged : Unforged digest network (.receive node packet source now))
    (received : network.receive digest addresses node packet source now = .ok next) :
    Traceable events next := by
  obtain ⟨keyed, vouched⟩ := unforged
  obtain ⟨own, _⟩ := plain_of_generated (traceable.generated node)
  have genuine (accepted : authentic digest (network.transports node).sharedSecret packet = true) :
      Genuine events (withoutAuth packet) := by
    obtain ⟨flight, member, same⟩ := vouched (by rw [authenticatePacket_eq, accepted])
    rw [removeAuthField_eq, removeAuthField_eq, Except.ok.injEq] at same
    rw [← same]
    exact traceable.sent flight member
  obtain ⟨reception, turn, rfl⟩ := UdpNetwork.exists_reception received
  obtain ⟨same, outcome⟩ := UdpTransport.turn_cases own turn
  have identity : reception.transport.instanceID = (network.transports node).instanceID := by
    rw [same]
  have name : reception.transport.localPlayerName ≠ [] := by
    rw [same]
    exact traceable.named node
  refine ((traceable.setTransport identity name).setPacketTasks ?_).post node ?_
  · intro queued member
    rcases List.mem_append.mp member with earlier | delivered
    · exact traceable.tasks node queued earlier
    · rcases outcome with rfl | ⟨_, _, nothing, _⟩ | ⟨accepted, gameplay, whole, _⟩
      · cases delivered
      · simp [nothing] at delivered
      · obtain rfl : queued = packet := by simpa [whole] using delivered
        obtain ⟨author, state, published, content⟩ :=
          stateText_of_genuine (genuine accepted) gameplay
        obtain ⟨sendable, _⟩ := traceable.published author state published
        intro read reads
        refine ⟨author, ?_⟩
        rcases content with original | marked
        · rwa [state_of_authentic (keyed node) accepted sendable plain_zero original reads]
        · rwa [state_of_authentic (keyed node) accepted sendable plain_one marked reads]
  · intro datagram member
    rcases outcome with rfl | ⟨_, _, _, hellos⟩ | ⟨accepted, gameplay, _, _, copies⟩
    · cases member
    · exact hellos.genuine (keyed node) datagram member
    · obtain ⟨author, state, published, content⟩ :=
        stateText_of_genuine (genuine accepted) gameplay
      obtain ⟨sendable, _⟩ := traceable.published author state published
      exact .inr ⟨author, state, published, .inr
        (copy_of_authentic (keyed node) accepted sendable content (copies datagram member))⟩

/-- Handling a queued packet stores a published state or nothing. -/
theorem runPacketTask (traceable : Traceable events network) {node : Node} {world : GameWorld}
    (handled : network.runPacketTask node world = .ok next) : Traceable events next := by
  rw [UdpNetwork.runPacketTask] at handled
  split at handled
  · cases handled
    exact traceable
  · next packet packets queue =>
      obtain ⟨state, read⟩ := readStatePacket_ok packet
      rw [SyncService.handlePacket_of_read read] at handled
      simp only [bind, Except.bind, pure, Except.pure] at handled
      cases handled
      have later : ∀ other ∈ packets, ∀ state, readStatePacket other = .ok (some state) →
          ∃ author, Published events author state := fun other member =>
        traceable.tasks node other (by rw [queue]; exact List.mem_cons_of_mem _ member)
      refine (traceable.setService ?_ ?_).setPacketTasks later
      · cases state with
        | none => exact traceable.localSlots node
        | some state => exact traceable.localSlots node
      · cases state with
        | none => exact traceable.snapshots node
        | some state =>
            exact (traceable.snapshots node).storePacket
              (fun author other published => (traceable.published author other published).1.named)
              (traceable.tasks node packet (by rw [queue]; exact List.mem_cons_self) state read)

/-- Every step keeps the law. -/
theorem step {peerTimeoutMs : Node → Nat} (traceable : Traceable events network)
    {event : NetworkEvent Node} (unforged : Unforged digest network event)
    (step : (udpNetwork digest addresses peerTimeoutMs).Step network event next) :
    Traceable (events ++ [event]) next := by
  have quiet (silent : ∀ author slots now state,
      event ≠ .capture author slots now (some state)) : Traceable (events ++ [event]) network :=
    traceable.extend event fun author slots now state same =>
      absurd same (silent author slots now state)
  cases event with
  | capture node slots now published => exact traceable.capture (unforged.1 node) step
  | renamePlayer node playerName =>
      obtain rfl := step
      exact (quiet fun _ _ _ _ same => by cases same).setTransport rfl (sanitizeField_ne_nil playerName)
  | sendHello node =>
      have done : network.sendHello digest addresses node = .ok next := step
      simp only [UdpNetwork.sendHello, bind, Except.bind, pure, Except.pure] at done
      cases greeted : (network.transports node).sendHello digest with
      | error thrown => simp [greeted] at done
      | ok datagrams =>
          simp only [greeted] at done
          cases done
          obtain ⟨own, _⟩ := plain_of_generated (traceable.generated node)
          exact (quiet fun _ _ _ _ same => by cases same).post node
            ((UdpTransport.sendsHellos_sendHello own greeted).genuine (unforged.1 node))
  | receive node packet source now =>
      exact (quiet fun _ _ _ _ same => by cases same).receive unforged step
  | expirePeers node now =>
      obtain rfl := step
      exact (quiet fun _ _ _ _ same => by cases same).setTransport rfl (traceable.named node)
  | runPacketTask node world => exact (quiet fun _ _ _ _ same => by cases same).runPacketTask step
  | refreshProxies node world =>
      obtain rfl := step
      have still := quiet fun _ _ _ _ same => by cases same
      exact still.setService (still.localSlots node) (still.snapshots node).refreshProxyMitigation
  | resetService node world =>
      obtain rfl := step
      refine (quiet fun _ _ _ _ same => by cases same).setService (fun known => by cases known) ?_
      intro instanceID snapshot known
      cases known

end Traceable

/-- Without packets everything is traceable. -/
theorem traceable_of_initial {peerTimeoutMs : Node → Nat} [DecidableEq Node]
    (initial : (udpNetwork digest addresses peerTimeoutMs).Initial network) :
    Traceable [] network := by
  obtain ⟨sent, nodes⟩ := initial
  have silent {author : Node} {state : StatePacket} : ¬ Published [] author state := by
    rintro ⟨slots, now, member⟩
    cases member
  refine ⟨fun node => (nodes node).1, fun node => (nodes node).2.1,
    fun author state published => absurd published silent, ?_, ?_, ?_, ?_⟩
  · intro node known
    rw [(nodes node).2.2.2.1] at known
    cases known
  · intro flight member
    rw [sent] at member
    cases member
  · intro node packet member
    rw [(nodes node).2.2.2.2.2] at member
    cases member
  · intro node instanceID snapshot known
    rw [(nodes node).2.2.2.2.1] at known
    cases known

/-- Everything is traceable after every run without forgery. -/
theorem traceable_of_runs {peerTimeoutMs : Node → Nat} [DecidableEq Node]
    (run : ((udpNetwork digest addresses peerTimeoutMs).guarded (Unforged digest)).Runs events
      network) : Traceable events network := by
  refine run.invariant Traceable ?_ ?_
  · intro network initial
    exact @traceable_of_initial _ digest addresses network peerTimeoutMs _ initial
  · rintro events network event next _ traceable ⟨unforged, step⟩
    exact traceable.step unforged step

end UdpNetwork

/-- Whatever arrives, a stored snapshot is a state that a process with that instance ID
captured and published, under the name its character had then. -/
theorem snapshots_published [DecidableEq Node] {addresses : Node → Endpoint}
    {peerTimeoutMs : Node → Nat} {events : List (NetworkEvent Node)} {network : UdpNetwork Node}
    (run : ((udpNetwork digest addresses peerTimeoutMs).guarded (Unforged digest)).Runs events
      network)
    {node : Node} {instanceID : ByteString} {snapshot : SyncService.RemoteSnapshot}
    (stored : (network.services node).remoteSnapshots.lookup instanceID = some snapshot) :
    ∃ author, (network.transports author).instanceID = instanceID ∧
      Captured events author snapshot.slots ∧
      Published events author
        ⟨instanceID, snapshot.characterName, snapshot.revision, snapshot.slots⟩ := by
  have traceable := UdpNetwork.traceable_of_runs run
  obtain ⟨author, published⟩ := traceable.snapshots node instanceID snapshot stored
  obtain ⟨_, own, captured⟩ := traceable.published author _ published
  exact ⟨author, own.symm, captured, published⟩

/-! ## Two processes -/

/-- Lydia, who knows Serana's address, and Serana. -/
def swordNetwork : UdpNetwork Bool where
  transports serana :=
    if serana then seranaTransport else { lydiaTransport with configuredPeers := [guest] }
  services _ := { SyncService.initial false 1000 with revision := 6 }
  packetTasks _ := []
  sent := []

/-- The addresses of the two players. -/
def swordAddresses (serana : Bool) : Endpoint := if serana then guest else senderEndpoint

/-- The state with the sword. -/
def publishedSword : StatePacket := ⟨lydiaTransport.instanceID, ascii "Lydia", 7, swordSlots⟩

/-- The packet of the sword. -/
def swordPacket : ByteString := signed lydiaDigest (ascii "secret") (swordContent (ascii "0"))

/-- Lydia's service after the capture. -/
def swordService : SyncService :=
  { SyncService.initial false 1000 with
    localSlots := swordSlots, hasLocalSlots := true, revision := 7, lastSend := 5 }

/-- The packet is under way. -/
def swordSent : UdpNetwork Bool :=
  (swordNetwork.setService false swordService).post swordAddresses false [⟨swordPacket, guest⟩]

/-- The capture of the sword is published. -/
theorem capture_swordNetwork :
    swordNetwork.capture lydiaDigest swordAddresses false swordSlots 5 =
      .ok (swordSent, some publishedSword) := by
  have built : (swordNetwork.transports false).builtPacket lydiaDigest (statePayload 7 swordSlots) =
      .ok swordPacket := builtPacket_statePayload (by decide)
  have captured : (swordNetwork.services false).onLocalCapture swordSlots 5 =
      (swordService, some (statePayload 7 swordSlots)) := rfl
  have known : (swordNetwork.transports false).snapshotDestinations none = [guest] := rfl
  have sent : (swordNetwork.transports false).send lydiaDigest (statePayload 7 swordSlots) =
      .ok [⟨swordPacket, guest⟩] := by
    rw [UdpTransport.send, built, known]
    rfl
  simp only [UdpNetwork.capture, captured, sent]
  rfl

/-- Serana's transport once it heard from Lydia. -/
def touchedSerana : UdpTransport :=
  { seranaTransport with
    peers := (∅ : UnorderedMap ByteString Peer).insert
      (ascii "gameplay|" ++ addressToString senderEndpoint)
      ⟨senderEndpoint, ascii "Lydia", ascii "gameplay|" ++ addressToString senderEndpoint, 6⟩ }

set_option maxRecDepth 20000 in
/-- The packet is authentic and handed on. -/
theorem receive_swordPacket :
    seranaTransport.receive lydiaDigest swordPacket senderEndpoint 6 =
      .ok ⟨touchedSerana, [], some swordPacket⟩ := by
  rfl

/-- The packet is queued at the receiver. -/
def swordQueued : UdpNetwork Bool :=
  ((swordSent.setTransport true touchedSerana).setPacketTasks true [swordPacket]).post
    swordAddresses true []

/-- The receiver has stored the sword. -/
def swordStored : UdpNetwork Bool :=
  (swordQueued.setService true
    ((swordQueued.services true).storePacket emptyWorld publishedSword)).setPacketTasks true []

/-- Serana stores what Lydia published. -/
theorem sword_snapshot_published :
    ∃ author, (swordStored.transports author).instanceID = lydiaTransport.instanceID ∧
      Captured [.capture false swordSlots 5 (some publishedSword),
        .receive true swordPacket senderEndpoint 6, .runPacketTask true emptyWorld]
        author swordSlots ∧
      Published [.capture false swordSlots 5 (some publishedSword),
        .receive true swordPacket senderEndpoint 6, .runPacketTask true emptyWorld]
        author publishedSword := by
  have stored : (swordStored.services true).remoteSnapshots.lookup lydiaTransport.instanceID =
      some ⟨swordSlots, 7, ascii "Lydia", 0⟩ := by
    simp only [swordStored, UdpNetwork.setPacketTasks, UdpNetwork.setService,
      Function.update_self]
    exact SyncService.lookup_storePacket publishedSword
  refine @snapshots_published _ lydiaDigest _ swordAddresses (fun _ => 10000) _ _ ?_ true _ _ stored
  have keyed : ∀ node, (swordNetwork.transports node).sharedSecret ≠ [] := by decide
  have keyedAfter : ∀ node, (swordQueued.transports node).sharedSecret ≠ [] := by decide
  have read : readStatePacket swordPacket = .ok (some publishedSword) :=
    (delivers_signed (fun _ => lydiaDigest_isSome _) (by decide) (by decide) (by decide) plain_zero
      (by decide)).2.2
  have carried : ⟨senderEndpoint, ⟨swordPacket, guest⟩⟩ ∈ swordSent.sent := List.mem_cons_self
  have initial : (udpNetwork lydiaDigest swordAddresses fun _ => 10000).Initial swordNetwork := by
    refine ⟨rfl, fun serana => ?_⟩
    cases serana with
    | false => exact ⟨.inl ⟨0x1000, 0x100000, by decide⟩, by decide, rfl, rfl, rfl, rfl⟩
    | true => exact ⟨.inl ⟨0x1001, 0x100001, by decide⟩, by decide, rfl, rfl, rfl, rfl⟩
  have received : swordSent.receive lydiaDigest swordAddresses true swordPacket senderEndpoint 6 =
      .ok swordQueued := by
    have turn : (swordSent.transports true).receiverTurn lydiaDigest swordPacket senderEndpoint 6 =
        .ok ⟨touchedSerana, [], some swordPacket⟩ :=
      (UdpTransport.receiverTurn_of_fits (by decide +kernel)).trans receive_swordPacket
    rw [UdpNetwork.receive, turn]
    rfl
  have handled : swordQueued.runPacketTask true emptyWorld = .ok swordStored := by
    have queue : swordQueued.packetTasks true = [swordPacket] := rfl
    simp only [UdpNetwork.runPacketTask, queue, SyncService.handlePacket_of_read read]
    rfl
  refine .of_follows ?_ ⟨swordSent, ⟨⟨keyed, trivial⟩, capture_swordNetwork⟩, swordQueued,
    ⟨⟨keyed, fun _ => ⟨_, carried, rfl⟩⟩, received⟩, swordStored, ⟨⟨keyedAfter, trivial⟩, handled⟩,
    rfl⟩
  exact initial

end IEDSyncTogether
