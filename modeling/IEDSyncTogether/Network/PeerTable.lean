import IEDSyncTogether.Base.Leases
import IEDSyncTogether.Base.Toggles
import IEDSyncTogether.Network.Hello

/-!
# The peer table over time

The peer table holds leases: an endpoint that is heard renews its entry, and `ExpirePeers`
sweeps. A peer is announced as discovered, and greeted, when it enters the table and as
expired when it leaves it.
-/

namespace IEDSyncTogether

open Base

/-- The clock of an operation. -/
def UdpTransport.PeerEvent.now : UdpTransport.PeerEvent → Nat
  | .registerPeer _ _ _ _ now => now
  | .touchGameplayPeer _ _ now => now
  | .expirePeers now => now

/-- The entry an operation renews in the table of an instance, or its sweep. -/
def UdpTransport.PeerEvent.lease (own : ByteString) :
    UdpTransport.PeerEvent → Option (LeaseEvent ByteString Peer)
  | .registerPeer source advertisedPort name instanceID now =>
    if instanceID = [] ∨ instanceID = own then none
    else some (.renew (UdpTransport.peerKey instanceID { source with port := advertisedPort })
      ⟨{ source with port := advertisedPort }, name, instanceID, now⟩)
  | .touchGameplayPeer packet source now =>
    if kGameplayPrefix.isPrefixOf packet then
      some (.renew (UdpTransport.peerKey (ascii "gameplay") source)
        ⟨source, ((fieldValue packet (ascii "from")).bind hexDecode).getD (ascii "Peer"),
          UdpTransport.peerKey (ascii "gameplay") source, now⟩)
    else none
  | .expirePeers now => some (.sweep now)

namespace UdpTransport

variable {digest : HmacDigest} {peerTimeoutMs : Nat} {transport next : UdpTransport}

/-- Inserting an entry renews its lease. -/
theorem lookup_insert (peers : UnorderedMap ByteString Peer) (key : ByteString) (peer : Peer) :
    (fun other => (peers.insert key peer).lookup other) =
      (LeaseEvent.renew key peer).act Peer.lastSeen peerTimeoutMs fun other => peers.lookup other := by
  funext other
  by_cases here : other = key
  · subst here
    rw [AList.lookup_insert, LeaseEvent.act, Function.update_self]
  · rw [AList.lookup_insert_ne here, LeaseEvent.act, Function.update_of_ne here]

/-- What registering a peer does to the table and to the reports. -/
theorem lookup_registerPeer {source : Endpoint} {advertisedPort : UInt16}
    {name instanceID : ByteString} {now : Nat} {sent : List Datagram}
    (done : transport.registerPeer digest source advertisedPort name instanceID now =
      .ok (next, sent)) :
    next.instanceID = transport.instanceID ∧
      next.peers = if instanceID = [] ∨ instanceID = transport.instanceID then transport.peers
        else transport.peers.insert
          (peerKey instanceID { source with port := advertisedPort })
          ⟨{ source with port := advertisedPort }, name, instanceID, now⟩ := by
  have key : instanceID ++ [bar] ++ addressToString { source with port := advertisedPort } =
      peerKey instanceID { source with port := advertisedPort } := by
    simp [peerKey]
  unfold registerPeer at done
  dsimp only at done
  rw [key] at done
  by_cases ignored : instanceID = [] ∨ instanceID = transport.instanceID
  · rw [if_pos ignored] at done ⊢
    cases done
    exact ⟨rfl, rfl⟩
  · rw [if_neg ignored] at done ⊢
    simp only [sendHelloTo, signPacket_eq, bind, Except.bind, pure, Except.pure] at done
    split at done
    · cases done
      exact ⟨rfl, rfl⟩
    · cases done
      exact ⟨rfl, rfl⟩

/-- What an operation does to the table it does to the leases. -/
theorem lookup_of_step {event : PeerEvent}
    (step : (peerTable digest peerTimeoutMs).Step transport event next) :
    next.instanceID = transport.instanceID ∧ (fun key => next.peers.lookup key) =
      match event.lease transport.instanceID with
      | none => fun key => transport.peers.lookup key
      | some lease => lease.act Peer.lastSeen peerTimeoutMs fun key => transport.peers.lookup key := by
  cases event with
  | registerPeer source advertisedPort name instanceID now =>
      obtain ⟨sent, done⟩ := step
      obtain ⟨own, peers⟩ := lookup_registerPeer done
      refine ⟨own, ?_⟩
      rw [peers, PeerEvent.lease]
      split_ifs
      · rfl
      · exact lookup_insert _ _ _
  | touchGameplayPeer packet source now =>
      have touched : transport.touchGameplayPeer packet source now = .ok next := step
      have label : ascii "gameplay|" ++ addressToString source =
          peerKey (ascii "gameplay") source := rfl
      rw [touchGameplayPeer, label] at touched
      rw [PeerEvent.lease]
      by_cases gameplay : kGameplayPrefix.isPrefixOf packet = true
      · rw [if_neg (not_not.mpr gameplay)] at touched
        simp only [readField_eq, bind, Except.bind, pure, Except.pure, Except.ok.injEq] at touched
        subst touched
        rw [if_pos gameplay]
        exact ⟨rfl, lookup_insert _ _ _⟩
      · rw [if_pos gameplay] at touched
        cases touched
        rw [if_neg gameplay]
        exact ⟨rfl, rfl⟩
  | expirePeers now =>
      obtain rfl := step
      refine ⟨rfl, funext fun key => ?_⟩
      rw [expirePeers, UnorderedMap.lookup_eraseValues]
      have fresh : (fun peer : Peer => !decide (peerTimeoutMs < now - peer.lastSeen)) =
          Unswept Peer.lastSeen peerTimeoutMs (some now) := by
        funext peer
        simp only [Unswept, Option.all_some, ← decide_not, Nat.not_lt]
      rw [fresh]
      rfl

/-- The leases of a run. -/
def leases (own : ByteString) (events : List PeerEvent) : List (LeaseEvent ByteString Peer) :=
  events.filterMap (PeerEvent.lease own)

/-- The table of a run holds its leases. -/
theorem lookup_eq_held {events : List PeerEvent}
    (run : (peerTable digest peerTimeoutMs).Runs events transport) :
    (fun key => transport.peers.lookup key) =
      held Peer.lastSeen peerTimeoutMs (leases transport.instanceID events) := by
  refine run.invariant (fun events transport => (fun key => transport.peers.lookup key) =
    held Peer.lastSeen peerTimeoutMs (leases transport.instanceID events)) ?_ ?_
  · intro transport initial
    rw [show transport.peers = ∅ from initial]
    rfl
  · intro events transport event next _ table step
    obtain ⟨own, peers⟩ := lookup_of_step step
    rw [peers, own, leases, List.filterMap_append]
    cases lease : event.lease transport.instanceID with
    | none =>
        rw [List.filterMap_cons_none lease, List.filterMap_nil, List.append_nil]
        exact table
    | some lease =>
        rw [List.filterMap_cons_some ‹_›, List.filterMap_nil, held_concat, ← leases, ← table]

/-- If the clock does not go back, the peer table is what the last hearing of every key and
the last expiry make of it: a peer is there, as last heard, unless it had been silent for
longer than the timeout at the last expiry. -/
theorem peer_table_leases {events : List PeerEvent}
    (run : (peerTable digest peerTimeoutMs).Runs events transport)
    (ascending : (events.map PeerEvent.now).Pairwise (· ≤ ·)) (key : ByteString) :
    transport.peers.lookup key = (lastRenewal (leases transport.instanceID events) key).filter
      (Unswept Peer.lastSeen peerTimeoutMs (lastSweep (leases transport.instanceID events))) := by
  have times (event : PeerEvent) (lease : LeaseEvent ByteString Peer)
      (made : event.lease transport.instanceID = some lease) :
      lease.time Peer.lastSeen = event.now := by
    cases event with
    | registerPeer source advertisedPort name instanceID now =>
        rw [PeerEvent.lease] at made
        split at made
        · cases made
        · cases made
          rfl
    | touchGameplayPeer packet source now =>
        rw [PeerEvent.lease] at made
        split at made
        · cases made
          rfl
        · cases made
    | expirePeers now =>
        cases made
        rfl
  have order : ((leases transport.instanceID events).map
      (LeaseEvent.time Peer.lastSeen)).Pairwise (· ≤ ·) :=
    ascending.sublist (map_filterMap_sublist times events)
  rw [← held_eq order, ← lookup_eq_held run]

/-- A guest that was touched has its lease. -/
theorem guest_lease :
    touchedRelay.peers.lookup (ascii "gameplay|" ++ addressToString guest) =
      (lastRenewal (leases touchedRelay.instanceID
        [.touchGameplayPeer (ascii "IEDST|v1|id=A|from=42|relay=0|STATE") guest 10,
          .expirePeers 5000]) (ascii "gameplay|" ++ addressToString guest)).filter
        (Unswept Peer.lastSeen 10000 (lastSweep (leases touchedRelay.instanceID
          [.touchGameplayPeer (ascii "IEDST|v1|id=A|from=42|relay=0|STATE") guest 10,
            .expirePeers 5000]))) := by
  have touched : (peerTable (fun _ _ => none) 10000).Step freshRelay
      (.touchGameplayPeer (ascii "IEDST|v1|id=A|from=42|relay=0|STATE") guest 10) touchedRelay := by
    simp only [peerTable, touchGameplayPeer, readField_eq]
    rfl
  have swept : (peerTable (fun _ _ => none) 10000).Step touchedRelay (.expirePeers 5000)
      touchedRelay := rfl
  exact peer_table_leases (((TransitionSystem.Runs.initial rfl).step touched).step swept)
    (by decide) _

/-! ## Discovered and expired -/

/-- The keys `RegisterPeer` reports as discovered. -/
def discoveredKeys (transport : UdpTransport) (source : Endpoint) (advertisedPort : UInt16)
    (instanceID : ByteString) : List ByteString :=
  let key := peerKey instanceID { source with port := advertisedPort }
  if instanceID = [] ∨ instanceID = transport.instanceID then []
  else if transport.peers.lookup key = none then [key]
  else []

/-- The keys `ExpirePeers` reports as expired. -/
def expiredKeys (transport : UdpTransport) (peerTimeoutMs now : Nat) : List ByteString :=
  (transport.peers.entries.filter fun entry => peerTimeoutMs < now - entry.2.lastSeen).keys

/-- An operation with what it sends and reports. -/
structure PeerRecord where
  event : PeerEvent
  sent : List Datagram
  discovered : List ByteString
  expired : List ByteString

/-- The peer table with the hellos it sends and the reports it makes. -/
def reportedTable (digest : HmacDigest) (peerTimeoutMs : Nat) :
    TransitionSystem UdpTransport PeerRecord where
  Initial transport := GeneratedInstanceID transport.instanceID ∧ transport.peers = ∅
  Step transport record next :=
    match record.event with
    | .registerPeer source advertisedPort name instanceID now =>
      transport.registerPeer digest source advertisedPort name instanceID now =
        .ok (next, record.sent) ∧
      record.discovered = transport.discoveredKeys source advertisedPort instanceID ∧
      record.expired = []
    | .touchGameplayPeer packet source now =>
      transport.touchGameplayPeer packet source now = .ok next ∧ record.sent = [] ∧
        record.discovered = [] ∧ record.expired = []
    | .expirePeers now =>
      next = transport.expirePeers peerTimeoutMs now ∧ record.sent = [] ∧
        record.discovered = [] ∧ record.expired = transport.expiredKeys peerTimeoutMs now

/-- A key under which gameplay packets enter their source, without a report. -/
def isGameplayKey : ByteString → Bool := (ascii "gameplay|").isPrefixOf

/-- The reports of the operations about discovered instances. -/
def reports (records : List PeerRecord) : List (ByteString × Bool) :=
  (records.flatMap fun record =>
    record.discovered.map (·, true) ++ record.expired.map (·, false)).filter
      fun report => !isGameplayKey report.1

/-- The instances in the table. -/
def discoveredPeers (transport : UdpTransport) : List ByteString :=
  transport.peers.keys.filter fun key => !isGameplayKey key

/-- A hello goes with every report of a discovery, and with no other. -/
def GreetsDiscovered (digest : HmacDigest) (transport : UdpTransport) (record : PeerRecord) : Prop :=
  (record.sent = [] ∧ record.discovered = []) ∨
    ∃ instanceID address, record.discovered = [peerKey instanceID address] ∧
      record.sent = [⟨transport.helloPacket digest true, address⟩]

/-- What an operation reports: the rest of the transport stays, the discovered keys are new, the
expired ones were there, and an instance is in the table afterwards if it was there or is
discovered, unless it expires. -/
structure Reported (transport : UdpTransport) (record : PeerRecord) (next : UdpTransport) :
    Prop where
  frame : next = { transport with peers := next.peers }
  new : ∀ key ∈ record.discovered, key ∉ transport.peers
  distinct : record.discovered.Nodup
  lapsed : ∀ key ∈ record.expired, key ∈ transport.peers ∨ key ∈ record.discovered
  lapses : record.expired.Nodup
  keys : ∀ key, isGameplayKey key = false →
    (key ∈ next.peers ↔ (key ∈ transport.peers ∨ key ∈ record.discovered) ∧ key ∉ record.expired)

/-- A registration reports a discovery exactly for a new peer. -/
theorem reported_registerPeer (own : Plain transport.instanceID) {source : Endpoint}
    {advertisedPort : UInt16} {name instanceID : ByteString} {now : Nat} {sent : List Datagram}
    (done : transport.registerPeer digest source advertisedPort name instanceID now =
      .ok (next, sent)) :
    let record : PeerRecord := ⟨.registerPeer source advertisedPort name instanceID now, sent,
      transport.discoveredKeys source advertisedPort instanceID, []⟩
    Reported transport record next ∧
      ((∀ observed, transport.helloPacket digest observed ≠ []) →
        GreetsDiscovered digest transport record) := by
  rw [registerPeer_eq own] at done
  unfold discoveredKeys
  dsimp only
  by_cases ignored : instanceID = [] ∨ instanceID = transport.instanceID
  · rw [if_pos ignored] at done ⊢
    cases done
    exact ⟨⟨rfl, by simp, by simp, by simp, by simp, by simp⟩, fun _ => .inl ⟨rfl, rfl⟩⟩
  · rw [if_neg ignored] at done ⊢
    cases done
    by_cases new : transport.peers.lookup
        (peerKey instanceID { source with port := advertisedPort }) = none
    · rw [if_pos new, if_pos new]
      have absent := AList.lookup_eq_none.mp new
      refine ⟨⟨rfl, ?_, List.nodup_singleton _, by simp, by simp, ?_⟩, ?_⟩
      · intro key discovered
        rwa [List.mem_singleton.mp discovered]
      · intro key _
        simp only [enterPeer, AList.mem_insert, List.mem_singleton, List.not_mem_nil,
          not_false_eq_true, and_true, or_comm]
      · intro present
        exact .inr ⟨_, _, rfl, by rw [sendPacketTo, if_neg (present true)]⟩
    · rw [if_neg new, if_neg new]
      have present := not_not.mp (mt AList.lookup_eq_none.mpr new)
      refine ⟨⟨rfl, by simp, by simp, by simp, by simp, ?_⟩, fun _ => .inl ⟨rfl, rfl⟩⟩
      intro key _
      simp only [enterPeer, AList.mem_insert, List.not_mem_nil, not_false_eq_true, and_true,
        or_false]
      exact ⟨fun either => either.elim (fun same => same ▸ present) id, .inr⟩

/-- A gameplay packet leaves the other keys. -/
theorem reported_touchGameplayPeer {packet : ByteString} {source : Endpoint} {now : Nat}
    (done : transport.touchGameplayPeer packet source now = .ok next) :
    Reported transport ⟨.touchGameplayPeer packet source now, [], [], []⟩ next := by
  rw [touchGameplayPeer] at done
  split at done
  · cases done
    exact ⟨rfl, by simp, by simp, by simp, by simp, by simp⟩
  · simp only [readField_eq, bind, Except.bind, pure, Except.pure, Except.ok.injEq] at done
    subst done
    refine ⟨rfl, by simp, by simp, by simp, by simp, fun key other => ?_⟩
    have differs : key ≠ ascii "gameplay|" ++ addressToString source := by
      rintro rfl
      rw [isGameplayKey, List.isPrefixOf_iff_prefix.mpr (List.prefix_append _ _)] at other
      cases other
    simp [AList.mem_insert, differs]

/-- An expiry reports exactly the peers it removes. -/
theorem reported_expirePeers (transport : UdpTransport) (peerTimeoutMs now : Nat) :
    Reported transport ⟨.expirePeers now, [], [], transport.expiredKeys peerTimeoutMs now⟩
      (transport.expirePeers peerTimeoutMs now) := by
  refine ⟨rfl, by simp, by simp, ?_, ?_, fun key _ => ?_⟩
  · intro key expired
    exact .inl ((List.filter_sublist.map _).mem expired)
  · exact List.NodupKeys.sublist List.filter_sublist transport.peers.nodupKeys
  · rw [expirePeers, UnorderedMap.mem_eraseValues, expiredKeys]
    simp

/-- What is reported about the operations is reported about each. -/
theorem reports_concat (records : List PeerRecord) (record : PeerRecord) :
    reports (records ++ [record]) = reports records ++
      (record.discovered.filter fun key => !isGameplayKey key).map (·, true) ++
      (record.expired.filter fun key => !isGameplayKey key).map (·, false) := by
  simp only [reports, List.flatMap_append, List.flatMap_singleton, List.filter_append,
    List.filter_map, List.append_assoc]
  rfl

/-- The reports stay balanced. -/
theorem Reported.balanced {records : List PeerRecord} {record : PeerRecord}
    (reported : Reported transport record next)
    (balanced : Balanced (reports records) transport.discoveredPeers) :
    Balanced (reports (records ++ [record])) next.discoveredPeers := by
  have member (transport : UdpTransport) (key : ByteString) :
      key ∈ transport.discoveredPeers ↔ key ∈ transport.peers ∧ isGameplayKey key = false := by
    rw [discoveredPeers, List.mem_filter, AList.mem_keys, Bool.not_eq_true']
  rw [reports_concat]
  refine (balanced.append_on ?_ (reported.distinct.filter _)).append_off ?_
    (reported.lapses.filter _) ?_
  · intro key discovered present
    exact reported.new key (List.mem_filter.mp discovered).1 ((member _ _).mp present).1
  · intro key expired
    obtain ⟨gone, other⟩ := List.mem_filter.mp expired
    rw [List.mem_append, member, List.mem_filter]
    rcases reported.lapsed key gone with there | new
    · exact .inl ⟨there, by simpa using other⟩
    · exact .inr ⟨new, other⟩
  · intro key
    rw [member, List.mem_append, member, List.mem_filter, List.mem_filter, Bool.not_eq_true']
    by_cases other : isGameplayKey key = false
    · rw [reported.keys key other]
      simp only [other, and_true]
    · simp [other]

/-- What a step of the table reports. -/
theorem reported_of_step {record : PeerRecord} (own : Plain transport.instanceID)
    (sends : ∀ observed, transport.helloPacket digest observed ≠ [])
    (step : (reportedTable digest peerTimeoutMs).Step transport record next) :
    Reported transport record next ∧ GreetsDiscovered digest transport record := by
  obtain ⟨event, sent, discovered, expired⟩ := record
  cases event with
  | registerPeer source advertisedPort name instanceID now =>
      obtain ⟨done, rfl, rfl⟩ := step
      obtain ⟨reported, greets⟩ := reported_registerPeer own done
      exact ⟨reported, greets sends⟩
  | touchGameplayPeer packet source now =>
      obtain ⟨done, rfl, rfl, rfl⟩ := step
      exact ⟨reported_touchGameplayPeer done, .inl ⟨rfl, rfl⟩⟩
  | expirePeers now =>
      obtain ⟨rfl, rfl, rfl, rfl⟩ := step
      exact ⟨reported_expirePeers transport peerTimeoutMs now, .inl ⟨rfl, rfl⟩⟩

/-- An instance in the table was discovered and has not expired since, it is not discovered
again before it has expired, and exactly the discovered are greeted. -/
theorem discovery_balanced {records : List PeerRecord}
    (computes : ∀ sharedSecret data, (digest sharedSecret data).isSome)
    (run : (reportedTable digest peerTimeoutMs).Runs records transport) :
    Balanced (reports records) transport.discoveredPeers ∧
      ∀ record ∈ records, GreetsDiscovered digest transport record := by
  suffices kept : Plain transport.instanceID ∧
      Balanced (reports records) transport.discoveredPeers ∧
      ∀ record ∈ records, GreetsDiscovered digest transport record from kept.2
  refine run.invariant (fun records transport => Plain transport.instanceID ∧
    Balanced (reports records) transport.discoveredPeers ∧
    ∀ record ∈ records, GreetsDiscovered digest transport record) ?_ ?_
  · rintro transport ⟨generated, empty⟩
    refine ⟨(plain_of_generated generated).1, ?_, by simp⟩
    rw [discoveredPeers, empty]
    exact balanced_nil
  · rintro records transport record next _ ⟨own, balanced, greets⟩ step
    obtain ⟨reported, greeted⟩ :=
      reported_of_step own (helloPacket_ne_nil fun _ => computes _) step
    have same (record : PeerRecord) (greets : GreetsDiscovered digest transport record) :
        GreetsDiscovered digest next record := by
      rw [reported.frame]
      exact greets
    refine ⟨by rw [reported.frame]; exact own, reported.balanced balanced, ?_⟩
    intro other member
    rcases List.mem_append.mp member with earlier | here
    · exact same other (greets other earlier)
    · exact List.mem_singleton.mp here ▸ same record greeted

/-- Serana discovers Lydia and later gives her up. -/
def lydiaRecords : List PeerRecord :=
  let lydia := peerKey lydiaTransport.instanceID guest
  [⟨.registerPeer guest guest.port (ascii "Lydia") lydiaTransport.instanceID 7,
      [⟨seranaTransport.helloPacket helloDigest true, guest⟩], [lydia], []⟩,
    ⟨.expirePeers 20000, [], [], [lydia]⟩]

/-- Lydia is discovered and greeted, and expires. -/
theorem lydia_discovered_and_expired :
    Balanced (reports lydiaRecords) seranaTransport.discoveredPeers ∧
      ∀ record ∈ lydiaRecords, GreetsDiscovered helloDigest seranaTransport record := by
  have generated : GeneratedInstanceID seranaTransport.instanceID :=
    .inl ⟨0x1001, 0x100001, by decide⟩
  have sends : seranaTransport.helloPacket helloDigest true ≠ [] :=
    helloPacket_ne_nil (fun _ => helloDigest_isSome _) true
  have greeted : seranaTransport.registerPeer helloDigest guest guest.port (ascii "Lydia")
      lydiaTransport.instanceID 7 =
        .ok (seranaTransport.enterPeer guest (ascii "Lydia") lydiaTransport.instanceID 7,
          [⟨seranaTransport.helloPacket helloDigest true, guest⟩]) := by
    have new : seranaTransport.peers.lookup (peerKey lydiaTransport.instanceID guest) = none := rfl
    rw [registerPeer_eq (plain_of_generated generated).1, if_neg (by decide), if_pos new,
      sendPacketTo, if_neg sends]
  have entered : (reportedTable helloDigest 10000).Step seranaTransport
      ⟨.registerPeer guest guest.port (ascii "Lydia") lydiaTransport.instanceID 7,
        [⟨seranaTransport.helloPacket helloDigest true, guest⟩],
        [peerKey lydiaTransport.instanceID guest], []⟩
      (seranaTransport.enterPeer guest (ascii "Lydia") lydiaTransport.instanceID 7) :=
    ⟨greeted, rfl, rfl⟩
  have swept : (reportedTable helloDigest 10000).Step
      (seranaTransport.enterPeer guest (ascii "Lydia") lydiaTransport.instanceID 7)
      ⟨.expirePeers 20000, [], [], [peerKey lydiaTransport.instanceID guest]⟩
      seranaTransport := ⟨rfl, rfl, rfl, rfl⟩
  have empty : (reportedTable helloDigest 10000).Initial seranaTransport := ⟨generated, rfl⟩
  exact discovery_balanced helloDigest_isSome
    (((TransitionSystem.Runs.initial empty).step entered).step swept)

end UdpTransport

end IEDSyncTogether
