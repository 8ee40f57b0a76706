import IEDSyncTogether.Base.Distinct
import IEDSyncTogether.Base.Execution
import IEDSyncTogether.Network.UdpTransport

/-!
# Where packets are sent

The same endpoint may be configured and stand in the peer table under several keys. The
text of an address tells two endpoints apart, so `SnapshotDestinations` lists every
configured or known endpoint once, and a relay sends to each of them but its source.
-/

namespace IEDSyncTogether

open Base

/-! ## Address texts -/

/-- The octets of an address with dots between them. -/
abbrev dottedOctets (address : Endpoint) : ByteString :=
  [byteOf '.'].intercalate (address.octets.toList.map fun octet => formatNat octet.toNat)

/-- Octets are printed with digits and dots. -/
theorem not_mem_dottedOctets (address : Endpoint) {byte : UInt8} (noDot : byte ≠ byteOf '.')
    (other : byte < 48 ∨ 57 < byte) : byte ∉ dottedOctets address := by
  intro member
  rcases mem_or_mem_of_mem_intercalate member with dot | ⟨part, among, inside⟩
  · exact noDot (List.mem_singleton.mp dot)
  · obtain ⟨octet, _, rfl⟩ := List.mem_map.mp among
    exact not_mem_formatNat other inside

/-- No address text has a bar. -/
theorem bar_not_mem_addressToString (address : Endpoint) : bar ∉ addressToString address := by
  rw [addressToString, List.mem_append, List.mem_cons]
  rintro (inside | colon | behind)
  · exact not_mem_dottedOctets address (by decide) (by decide) inside
  · exact absurd colon (by decide)
  · exact not_mem_formatNat (by decide) behind

/-- Different endpoints have different texts. -/
theorem addressToString_injective : Function.Injective addressToString := by
  intro first second same
  have plain (address : Endpoint) : byteOf ':' ∉ dottedOctets address :=
    not_mem_dottedOctets address (by decide) (by decide)
  have parts (address : Endpoint) : (dottedOctets address).splitOn (byteOf '.') =
      address.octets.toList.map fun octet => formatNat octet.toNat := by
    apply List.splitOn_intercalate
    · intro part among
      obtain ⟨octet, _, rfl⟩ := List.mem_map.mp among
      exact not_mem_formatNat (by decide)
    · intro empty
      have size := congrArg List.length empty
      simp at size
  obtain ⟨octets, ports⟩ := append_cons_inj (plain first) (plain second) same
  have texts := congrArg (List.splitOn (byteOf '.')) octets
  rw [parts, parts] at texts
  have octetsEqual : first.octets = second.octets := by
    have injective : Function.Injective fun octet : UInt8 => formatNat octet.toNat :=
      fun one other printed => UInt8.toNat_inj.mp (formatNat_injective printed)
    exact Vector.toList_inj.mp (injective.list_map texts)
  have portsEqual : first.port = second.port := UInt16.toNat_inj.mp (formatNat_injective ports)
  cases first
  cases second
  simp_all

/-- The text of an address can be told from what stands in front of it. -/
theorem append_addressToString_inj {first second : ByteString} {one two : Endpoint}
    (same : first ++ bar :: addressToString one = second ++ bar :: addressToString two) :
    one = two :=
  addressToString_injective
    (append_cons_inj_last (bar_not_mem_addressToString one) (bar_not_mem_addressToString two) same).2

namespace UdpTransport

/-! ## The peer table -/

/-- An operation on the peer table, with the clock of that moment. -/
inductive PeerEvent where
  | registerPeer (source : Endpoint) (advertisedPort : UInt16) (name instanceID : ByteString)
      (now : Nat)
  | touchGameplayPeer (packet : ByteString) (source : Endpoint) (now : Nat)
  | expirePeers (now : Nat)

/-- The peer table of a transport over its operations. -/
def peerTable (digest : HmacDigest) (peerTimeoutMs : Nat) :
    TransitionSystem UdpTransport PeerEvent where
  Initial transport := transport.peers = ∅
  Step transport event next :=
    match event with
    | .registerPeer source advertisedPort name instanceID now => ∃ sent,
      transport.registerPeer digest source advertisedPort name instanceID now = .ok (next, sent)
    | .touchGameplayPeer packet source now =>
      transport.touchGameplayPeer packet source now = .ok next
    | .expirePeers now => next = transport.expirePeers peerTimeoutMs now

/-- The key of every peer ends with the text of its address. -/
def KeyedByAddress (peers : UnorderedMap ByteString Peer) : Prop :=
  ∀ key, ∀ peer ∈ peers.lookup key, ∃ label, key = label ++ bar :: addressToString peer.address

variable {digest : HmacDigest} {peerTimeoutMs : Nat} {transport next : UdpTransport}

/-- A peer entered under its own address keeps the keys. -/
theorem KeyedByAddress.insert {peers : UnorderedMap ByteString Peer} (keyed : KeyedByAddress peers)
    (label : ByteString) (peer : Peer) :
    KeyedByAddress (peers.insert (label ++ bar :: addressToString peer.address) peer) := by
  intro key other found
  by_cases here : key = label ++ bar :: addressToString peer.address
  · subst here
    rw [AList.lookup_insert, Option.mem_some_iff] at found
    exact ⟨label, by rw [found]⟩
  · rw [AList.lookup_insert_ne here] at found
    exact keyed key other found

/-- A hello keeps the keys. -/
theorem keyedByAddress_registerPeer {source : Endpoint} {advertisedPort : UInt16}
    {name instanceID : ByteString} {now : Nat} {sent : List Datagram}
    (keyed : KeyedByAddress transport.peers)
    (done : transport.registerPeer digest source advertisedPort name instanceID now =
      .ok (next, sent)) : KeyedByAddress next.peers := by
  rw [registerPeer] at done
  split at done
  · cases done
    exact keyed
  · have inserted :=
      keyed.insert instanceID ⟨{ source with port := advertisedPort }, name, instanceID, now⟩
    simp only [List.append_assoc, List.singleton_append, bind, Except.bind] at done
    split at done
    · split at done
      · cases done
      · cases done
        exact inserted
    · cases done
      exact inserted

/-- A gameplay packet keeps the keys. -/
theorem keyedByAddress_touchGameplayPeer {packet : ByteString} {source : Endpoint} {now : Nat}
    (keyed : KeyedByAddress transport.peers)
    (done : transport.touchGameplayPeer packet source now = .ok next) :
    KeyedByAddress next.peers := by
  have label : ascii "gameplay|" = ascii "gameplay" ++ [bar] := rfl
  rw [touchGameplayPeer] at done
  split at done
  · cases done
    exact keyed
  · simp only [readField_eq, label, List.append_assoc, List.singleton_append, bind,
      Except.bind] at done
    cases done
    exact keyed.insert (ascii "gameplay") ⟨source, _, _, now⟩

/-- In every run the key of a peer gives its address. -/
theorem keyedByAddress_of_runs {events : List PeerEvent}
    (run : (peerTable digest peerTimeoutMs).Runs events transport) :
    KeyedByAddress transport.peers := by
  refine run.invariant (fun _ transport => KeyedByAddress transport.peers) ?_ ?_
  · intro transport initial key peer found
    rw [show transport.peers = ∅ from initial] at found
    cases found
  · intro events transport event next _ keyed step
    cases event with
    | registerPeer source advertisedPort name instanceID now =>
        obtain ⟨sent, done⟩ := step
        exact keyedByAddress_registerPeer keyed done
    | touchGameplayPeer packet source now => exact keyedByAddress_touchGameplayPeer keyed step
    | expirePeers now =>
        obtain rfl := step
        exact fun key peer found =>
          keyed key peer (UnorderedMap.mem_lookup_of_eraseValues _ found)

/-! ## The list of destinations -/

/-- The loops keep the first place of every endpoint that is not excluded. -/
theorem foldl_pushDestination (excluded : Option Endpoint) (addresses : List Endpoint)
    (seen : List ByteString) (result : List Endpoint) :
    (addresses.foldl (pushDestination excluded) (seen, result)).2 =
      result ++ distinctFrom addressToString seen (addresses.filter (excluded ≠ some ·)) := by
  induction addresses generalizing seen result with
  | nil => simp [distinctFrom]
  | cons address addresses ih =>
      rw [List.foldl_cons, pushDestination]
      by_cases source : excluded = some address
      · rw [if_pos source, ih, List.filter_cons_of_neg (by simpa using source)]
      · rw [if_neg source, List.filter_cons_of_pos (by simpa using source)]
        by_cases known : addressToString address ∈ seen
        · rw [if_pos known, ih, distinctFrom_cons_of_mem known]
        · rw [if_neg known, ih, distinctFrom_cons_of_not_mem known, List.append_assoc,
            List.singleton_append]

/-- The configured endpoints and those of the peer table. -/
def endpoints (transport : UdpTransport) : List Endpoint :=
  transport.configuredPeers ++ transport.peers.entries.map fun entry => entry.2.address

/-- The destinations are the endpoints with different addresses, without the excluded one. -/
theorem snapshotDestinations_eq (transport : UdpTransport) (excluded : Option Endpoint) :
    transport.snapshotDestinations excluded =
      distinctFrom addressToString [] (transport.endpoints.filter (excluded ≠ some ·)) := by
  have loops := foldl_pushDestination excluded transport.endpoints [] []
  rw [endpoints, List.foldl_append, List.foldl_map, List.nil_append] at loops
  exact loops

/-- An endpoint that is configured or is the address of a peer of the table. -/
def Knows (transport : UdpTransport) (endpoint : Endpoint) : Prop :=
  endpoint ∈ transport.configuredPeers ∨
    ∃ key, ∃ peer ∈ transport.peers.lookup key, peer.address = endpoint

/-- The endpoints are those of configured peers and of entries. -/
theorem mem_endpoints {endpoint : Endpoint} :
    endpoint ∈ transport.endpoints ↔ transport.Knows endpoint := by
  rw [endpoints, List.mem_append, List.mem_map, Knows]
  refine or_congr_right ⟨?_, ?_⟩
  · rintro ⟨entry, member, rfl⟩
    exact ⟨entry.1, entry.2, AList.mem_lookup_iff.mpr member, rfl⟩
  · rintro ⟨key, peer, found, rfl⟩
    exact ⟨⟨key, peer⟩, AList.mem_lookup_iff.mp found, rfl⟩

/-- The destinations are the known endpoints but the excluded one. -/
theorem mem_snapshotDestinations {excluded : Option Endpoint} {endpoint : Endpoint} :
    endpoint ∈ transport.snapshotDestinations excluded ↔
      excluded ≠ some endpoint ∧ transport.Knows endpoint := by
  rw [snapshotDestinations_eq, mem_distinctFrom_of_injective addressToString_injective,
    List.mem_filter, mem_endpoints, decide_eq_true_eq]
  simp [and_comm]

/-- No destination occurs twice. -/
theorem nodup_snapshotDestinations (transport : UdpTransport) (excluded : Option Endpoint) :
    (transport.snapshotDestinations excluded).Nodup := by
  rw [snapshotDestinations_eq]
  exact (nodup_map_distinctFrom addressToString [] _).of_map _

/-- A relayed packet goes to every destination but its source. -/
theorem destinations_of_relay {packet : ByteString} {source : Endpoint} {sent : List Datagram}
    (relayed : transport.relayGameplayPacket digest packet source = .ok sent) :
    sent = [] ∨ sent.map (·.destination) = transport.snapshotDestinations (some source) := by
  rw [relayGameplayPacket] at relayed
  cases forwarded : transport.relayedPacket digest packet with
  | error thrown => simp [forwarded, bind, Except.bind] at relayed
  | ok copy =>
      cases copy with
      | none =>
          simp only [forwarded, bind, Except.bind] at relayed
          cases relayed
          exact .inl rfl
      | some copy =>
          simp only [forwarded, readField_eq, bind, Except.bind] at relayed
          cases relayed
          by_cases empty : copy = []
          · have each : sendPacketTo copy = fun _ => [] := funext fun _ => if_pos empty
            left
            simp [each]
          · have each : sendPacketTo copy = fun destination => [⟨copy, destination⟩] :=
              funext fun _ => if_neg empty
            right
            simp [each, List.map_flatMap]

/-- Whatever happened to the peer table, every endpoint that is configured or has an entry
under some key is a destination once, the excluded one is none, and a relay sends a packet to
each of the others exactly once. -/
theorem each_endpoint_once {events : List PeerEvent}
    (run : (peerTable digest peerTimeoutMs).Runs events transport) :
    (∀ endpoint, transport.Knows endpoint ↔ endpoint ∈ transport.configuredPeers ∨
      ∃ label, (transport.peers.lookup (label ++ bar :: addressToString endpoint)).isSome) ∧
    (∀ excluded, (transport.snapshotDestinations excluded).Nodup ∧
      ∀ endpoint, endpoint ∈ transport.snapshotDestinations excluded ↔
        excluded ≠ some endpoint ∧ transport.Knows endpoint) ∧
    ∀ packet source sent, transport.relayGameplayPacket digest packet source = .ok sent →
      (sent.map (·.destination)).Nodup ∧ source ∉ sent.map (·.destination) ∧
      (sent ≠ [] → ∀ endpoint ≠ source, transport.Knows endpoint →
        endpoint ∈ sent.map (·.destination)) := by
  refine ⟨fun endpoint => or_congr_right ⟨?_, ?_⟩, fun excluded =>
    ⟨nodup_snapshotDestinations transport excluded, fun _ => mem_snapshotDestinations⟩, ?_⟩
  · rintro ⟨key, peer, found, rfl⟩
    obtain ⟨label, rfl⟩ := keyedByAddress_of_runs run key peer found
    exact ⟨label, Option.isSome_iff_exists.mpr ⟨peer, found⟩⟩
  · rintro ⟨label, present⟩
    obtain ⟨peer, found⟩ := Option.isSome_iff_exists.mp present
    obtain ⟨other, same⟩ := keyedByAddress_of_runs run _ peer found
    exact ⟨_, peer, found, (append_addressToString_inj same).symm⟩
  · intro packet source sent relayed
    rcases destinations_of_relay relayed with rfl | destinations
    · simp
    · rw [destinations]
      refine ⟨nodup_snapshotDestinations transport _, ?_, ?_⟩
      · rw [mem_snapshotDestinations]
        exact fun member => member.1 rfl
      · intro _ endpoint other known
        rw [mem_snapshotDestinations]
        exact ⟨fun same => other (Option.some.inj same).symm, known⟩

end UdpTransport

/-- A guest of a relay, configured there too. -/
def guest : Endpoint := ⟨#v[192, 168, 1, 7], 38471⟩

/-- A relay that heard from the guest. -/
def touchedRelay : UdpTransport where
  relayMode := true
  autoDiscovery := false
  localPort := 38471
  localPlayerName := ascii "Relay"
  instanceID := ascii "00001000-0000000000100000"
  sharedSecret := []
  configuredPeers := [guest]
  peers := (∅ : UnorderedMap ByteString Peer).insert (ascii "gameplay|" ++ addressToString guest)
    ⟨guest, ascii "B", ascii "gameplay|" ++ addressToString guest, 10⟩

/-- The transport before it heard from anyone. -/
def freshRelay : UdpTransport := { touchedRelay with peers := ∅ }

/-- A relay with a configured peer and a discovered one sends to both. -/
theorem touchedRelay_destinations :
    (∀ endpoint, touchedRelay.Knows endpoint ↔ endpoint ∈ touchedRelay.configuredPeers ∨
      ∃ label, (touchedRelay.peers.lookup (label ++ bar :: addressToString endpoint)).isSome) ∧
    (∀ excluded, (touchedRelay.snapshotDestinations excluded).Nodup ∧
      ∀ endpoint, endpoint ∈ touchedRelay.snapshotDestinations excluded ↔
        excluded ≠ some endpoint ∧ touchedRelay.Knows endpoint) ∧
    ∀ packet source sent,
      touchedRelay.relayGameplayPacket (fun _ _ => none) packet source = .ok sent →
      (sent.map (·.destination)).Nodup ∧ source ∉ sent.map (·.destination) ∧
      (sent ≠ [] → ∀ endpoint ≠ source, touchedRelay.Knows endpoint →
        endpoint ∈ sent.map (·.destination)) := by
  have touched : (UdpTransport.peerTable (fun _ _ => none) 10000).Step freshRelay
      (.touchGameplayPeer (ascii "IEDST|v1|id=A|from=42|relay=0|STATE") guest 10) touchedRelay := by
    simp only [UdpTransport.peerTable, UdpTransport.touchGameplayPeer, readField_eq]
    rfl
  exact UdpTransport.each_endpoint_once ((TransitionSystem.Runs.initial rfl).step touched)

end IEDSyncTogether
