import IEDSyncTogether.Base.Execution
import IEDSyncTogether.Base.Register
import IEDSyncTogether.Service.SyncService

/-!
# Stale packets

One sender, the packets it has put on the network, and one receiver. Packets arrive in
any order, any number of times or never, directly or through a relay; between them the
receiver handles other instances and rebinds proxies. `HandlePacket` forgets the revision
of a snapshot whose character changes before it compares revisions, so a late packet of an
earlier character overwrites the newer state. Every other delivery refines an offer to a
register of the newest version.
-/

namespace IEDSyncTogether

open Base

/-- A packet on the network and the state it was built from. -/
structure SentPacket where
  state : StatePacket
  packet : ByteString

/-- A sender and a receiver with the packets under way between them. -/
structure PeerSession where
  sender : SyncService
  transport : UdpTransport
  network : List SentPacket
  receiver : SyncService

/-- What happens on either side. -/
inductive SessionEvent where
  | capture (slots : SlotState) (now : Nat)
  | resetSender (world : GameWorld) (playerName : ByteString)
  | deliver (sent : SentPacket) (packet : ByteString) (world : GameWorld)
  | otherPacket (packet : ByteString) (world : GameWorld)
  | refresh (world : GameWorld)

namespace PeerSession

variable (digest : HmacDigest)

/-- A capture of the sender; a packet that cannot be signed is not sent. -/
def capture (session : PeerSession) (slots : SlotState) (now : Nat) :
    Except StringError PeerSession := do
  let (sender, payload) := session.sender.onLocalCapture slots now
  match payload with
  | none => return { session with sender := sender }
  | some payload =>
    let packet ← session.transport.builtPacket digest payload
    let state : StatePacket := ⟨session.transport.instanceID, session.transport.localPlayerName,
      sender.revision, sender.localSlots⟩
    return { session with
      sender := sender
      network := session.network ++ (if packet = [] then [] else [⟨state, packet⟩]) }

/-- The sender starts another game, with the name of its character. -/
def resetSender (session : PeerSession) (world : GameWorld) (playerName : ByteString) :
    PeerSession :=
  { session with
    sender := (session.sender.reset world).1
    transport := { session.transport with localPlayerName := sanitizeField playerName } }

/-- The packet of a sender arrives as it was sent or with a relay's mark. -/
def Arrives (session : PeerSession) (sent : SentPacket) (packet : ByteString) : Prop :=
  packet = sent.packet ∨
    (markRelayed digest session.transport.sharedSecret sent.packet = .ok packet ∧ packet ≠ [])

/-- The receiver's snapshot of the sender. -/
def snapshot (session : PeerSession) : SyncService.RemoteSnapshot :=
  session.receiver.snapshotOf session.transport.instanceID

end PeerSession

/-- A sender with a generated instance ID that has sent nothing, and a receiver that has no
snapshot of it; revisions increase. -/
def sessionSystem (digest : HmacDigest) : TransitionSystem PeerSession SessionEvent where
  Initial session :=
    GeneratedInstanceID session.transport.instanceID ∧ session.transport.localPlayerName ≠ [] ∧
      session.sender.hasLocalSlots = false ∧ session.network = [] ∧
      session.receiver.remoteSnapshots.lookup session.transport.instanceID = none
  Step session event next :=
    match event with
    | .capture slots now =>
      session.capture digest slots now = .ok next ∧ session.sender.revision ≤ next.sender.revision
    | .resetSender world playerName => next = session.resetSender world playerName
    | .deliver sent packet world =>
      sent ∈ session.network ∧ session.Arrives digest sent packet ∧
        ∃ receiver, session.receiver.handlePacket world packet = .ok receiver ∧
          next = { session with receiver := receiver }
    | .otherPacket packet world =>
      (∀ state, readStatePacket packet = .ok (some state) →
        state.instanceID ≠ session.transport.instanceID) ∧
      ∃ receiver, session.receiver.handlePacket world packet = .ok receiver ∧
        next = { session with receiver := receiver }
    | .refresh world =>
      next = { session with receiver := (session.receiver.refreshProxyMitigation world).1 }

/-- The state an event delivers. -/
def SessionEvent.delivered : SessionEvent → Option StatePacket
  | .deliver sent _ _ => some sent.state
  | _ => none

/-- The states of the packets delivered, in their order. -/
def deliveredStates (events : List SessionEvent) : List StatePacket :=
  events.filterMap SessionEvent.delivered

theorem deliveredStates_concat (events : List SessionEvent) (event : SessionEvent) :
    deliveredStates (events ++ [event]) = deliveredStates events ++ event.delivered.toList := by
  cases known : event.delivered <;> simp [deliveredStates, known]

/-- The receiver holds the state of the delivered packet with the highest revision. -/
def HoldsLatest (events : List SessionEvent) (session : PeerSession) : Prop :=
  ∀ state ∈ deliveredStates events,
    (∀ other ∈ deliveredStates events, other.revision ≤ state.revision) →
    ∃ snapshot, session.receiver.remoteSnapshots.lookup session.transport.instanceID = some snapshot ∧
      snapshot.slots = state.slots ∧ snapshot.characterName = state.sender ∧
      snapshot.revision = state.revision

/-- A packet below the stored revision is of the stored character, or is refused; any other
packet is accepted. -/
def InOrder (session : PeerSession) : SessionEvent → Prop
  | .deliver sent _ _ =>
    if sent.state.revision < session.snapshot.revision then
      session.snapshot.characterName = sent.state.sender ∨ ¬ Addressable sent.state.slots
    else Addressable sent.state.slots
  | _ => True

namespace PeerSession

variable {digest : HmacDigest} {session next : PeerSession}

/-- The packet a sender puts on the network for a state. -/
def packetOf (digest : HmacDigest) (session : PeerSession) (state : StatePacket) : ByteString :=
  signed digest session.transport.sharedSecret
    (gameplayText (stateFields state.instanceID state.sender (ascii "0") state.revision state.slots))

/-- A capture leaves the receiver and adds at most one packet, of the slots it keeps. -/
theorem capture_cases {slots : SlotState} {now : Nat} (peer : Plain session.transport.instanceID)
    (captured : session.capture digest slots now = .ok next) :
    next.sender = (session.sender.onLocalCapture slots now).1 ∧
      next.transport = session.transport ∧ next.receiver = session.receiver ∧
      session.network ⊆ next.network ∧
      ∀ sent ∈ next.network, sent ∈ session.network ∨
        (sent.state = ⟨session.transport.instanceID, session.transport.localPlayerName,
            next.sender.revision, next.sender.localSlots⟩ ∧
          sent.packet = session.packetOf digest sent.state ∧ sent.packet ≠ []) := by
  obtain ⟨_, payloads, _⟩ := SyncService.onLocalCapture_cases session.sender slots now
  simp only [capture, bind, Except.bind, pure, Except.pure] at captured
  cases offered : (session.sender.onLocalCapture slots now).2 with
  | none =>
      rw [offered] at captured
      cases captured
      exact ⟨rfl, rfl, rfl, List.Subset.refl _, fun sent member => .inl member⟩
  | some payload =>
      obtain rfl := payloads payload offered
      simp only [offered, builtPacket_statePayload peer] at captured
      cases captured
      refine ⟨rfl, rfl, rfl, List.subset_append_left _ _, fun sent member => ?_⟩
      rcases List.mem_append.mp member with earlier | added
      · exact .inl earlier
      · split at added
        · cases added
        · next present =>
            rw [List.mem_singleton.mp added]
            exact .inr ⟨rfl, rfl, present⟩

/-- The packets on the network carry their states, and a revision stands for one state. -/
structure Numbered (digest : HmacDigest) (session : PeerSession) : Prop where
  generated : GeneratedInstanceID session.transport.instanceID
  named : session.transport.localPlayerName ≠ []
  carried : ∀ sent ∈ session.network,
    sent.state.instanceID = session.transport.instanceID ∧ sent.state.sender ≠ [] ∧
      sent.packet = session.packetOf digest sent.state ∧ sent.packet ≠ []
  bounded : ∀ sent ∈ session.network, sent.state.revision ≤ session.sender.revision
  current : session.sender.hasLocalSlots = true → ∀ sent ∈ session.network,
    sent.state.revision = session.sender.revision →
    sent.state = ⟨session.transport.instanceID, session.transport.localPlayerName,
      session.sender.revision, session.sender.localSlots⟩
  unique : ∀ one ∈ session.network, ∀ two ∈ session.network,
    one.state.revision = two.state.revision → one.state = two.state

namespace Numbered

/-- A capture numbers new slots above everything sent. -/
theorem capture {slots : SlotState} {now : Nat} (numbered : session.Numbered digest)
    (captured : session.capture digest slots now = .ok next)
    (increasing : session.sender.revision ≤ next.sender.revision) : next.Numbered digest := by
  obtain ⟨sender, transport, _, _, packets⟩ :=
    capture_cases (plain_of_generated numbered.generated).1 captured
  obtain ⟨_, _, counted⟩ := SyncService.onLocalCapture_cases session.sender slots now
  rw [← sender] at counted
  have current : ∀ sent ∈ next.network, sent.state.revision = next.sender.revision →
      sent.state = ⟨session.transport.instanceID, session.transport.localPlayerName,
        next.sender.revision, next.sender.localSlots⟩ := by
    intro sent member same
    rcases packets sent member with earlier | ⟨state, _⟩
    · rcases counted with ⟨known, revision, localSlots⟩ | advanced
      · rw [revision] at same
        rw [numbered.current known sent earlier same, revision, localSlots]
      · have bound := numbered.bounded sent earlier
        rw [same, advanced] at bound
        rw [advanced] at increasing
        have stuck := UInt64.le_antisymm increasing bound
        simp at stuck
    · exact state
  refine ⟨transport ▸ numbered.generated, transport ▸ numbered.named, ?_, ?_, ?_, ?_⟩
  · intro sent member
    rw [packetOf, transport]
    rcases packets sent member with earlier | ⟨state, packet, present⟩
    · exact numbered.carried sent earlier
    · exact ⟨by rw [state], by rw [state]; exact numbered.named, packet, present⟩
  · intro sent member
    rcases packets sent member with earlier | ⟨state, _⟩
    · exact UInt64.le_trans (numbered.bounded sent earlier) increasing
    · rw [state]
      exact UInt64.le_refl _
  · intro _ sent member same
    rw [transport, current sent member same]
  · intro one first two second same
    rcases packets one first with oneEarlier | ⟨oneState, _⟩
    · rcases packets two second with twoEarlier | ⟨twoState, _⟩
      · exact numbered.unique one oneEarlier two twoEarlier same
      · rw [current one first (by rw [same, twoState]), twoState]
    · rw [current two second (by rw [← same, oneState]), oneState]

/-- After a reset the next capture gets a new revision. -/
theorem resetSender (numbered : session.Numbered digest) (world : GameWorld)
    (playerName : ByteString) : (session.resetSender world playerName).Numbered digest where
  generated := numbered.generated
  named := sanitizeField_ne_nil playerName
  carried := numbered.carried
  bounded := numbered.bounded
  current := fun known => by cases known
  unique := numbered.unique

/-- The receiver does not touch the sender. -/
theorem withReceiver (numbered : session.Numbered digest) (receiver : SyncService) :
    { session with receiver := receiver }.Numbered digest :=
  { numbered with }

/-- A packet that arrives is read as the state it was built from, if that is addressable. -/
theorem read_of_arrives (numbered : session.Numbered digest) {sent : SentPacket}
    {packet : ByteString} (member : sent ∈ session.network)
    (arrives : session.Arrives digest sent packet) :
    readStatePacket packet =
      .ok (if Addressable sent.state.slots then some sent.state else none) := by
  obtain ⟨instance_, named, shape, present⟩ := numbered.carried sent member
  obtain ⟨peer, identified⟩ := plain_of_generated numbered.generated
  rw [← instance_] at peer identified
  rw [shape, packetOf] at present
  rcases arrives with rfl | ⟨relayed, copied⟩
  · rw [shape, packetOf, readStatePacket_signed peer identified named plain_zero present]
  · rw [shape, packetOf, markRelayed_signed peer present] at relayed
    cases relayed
    rw [readStatePacket_signed peer identified named plain_one copied]

end Numbered

/-- Every step keeps the numbering. -/
theorem Numbered.step {event : SessionEvent} (numbered : session.Numbered digest)
    (step : (sessionSystem digest).Step session event next) : next.Numbered digest := by
  cases event with
  | capture slots now => exact numbered.capture step.1 step.2
  | resetSender world playerName =>
      obtain rfl := step
      exact numbered.resetSender world playerName
  | deliver sent packet world =>
      obtain ⟨_, _, receiver, _, rfl⟩ := step
      exact numbered.withReceiver receiver
  | otherPacket packet world =>
      obtain ⟨_, receiver, _, rfl⟩ := step
      exact numbered.withReceiver receiver
  | refresh world =>
      obtain rfl := step
      exact numbered.withReceiver _

/-- What was sent stays on the network, and only what is on the network is delivered. -/
theorem network_of_step {event : SessionEvent} (numbered : session.Numbered digest)
    (step : (sessionSystem digest).Step session event next) :
    session.network ⊆ next.network ∧
      ∀ state, event.delivered = some state → ∃ sent ∈ session.network, sent.state = state := by
  cases event with
  | capture slots now =>
      obtain ⟨_, _, _, network, _⟩ :=
        capture_cases (plain_of_generated numbered.generated).1 step.1
      exact ⟨network, fun state delivered => by cases delivered⟩
  | resetSender world playerName =>
      obtain rfl := step
      exact ⟨List.Subset.refl _, fun state delivered => by cases delivered⟩
  | deliver sent packet world =>
      obtain ⟨member, _, receiver, _, rfl⟩ := step
      refine ⟨List.Subset.refl _, fun state delivered => ⟨sent, member, ?_⟩⟩
      exact Option.some.inj delivered
  | otherPacket packet world =>
      obtain ⟨_, receiver, _, rfl⟩ := step
      exact ⟨List.Subset.refl _, fun state delivered => by cases delivered⟩
  | refresh world =>
      obtain rfl := step
      exact ⟨List.Subset.refl _, fun state delivered => by cases delivered⟩

end PeerSession

/-- The version of a state in a register. -/
def StatePacket.version (state : StatePacket) : Nat :=
  state.revision.toNat

/-- The state of an instance that its snapshot holds. -/
def SyncService.RemoteSnapshot.heldState (snapshot : SyncService.RemoteSnapshot)
    (instanceID : ByteString) : StatePacket :=
  ⟨instanceID, snapshot.characterName, snapshot.revision, snapshot.slots⟩

/-- A packet that is newer, or older and of the stored character, is offered to a register. -/
theorem SyncService.RemoteSnapshot.receive_eq_offer {held : Option SyncService.RemoteSnapshot}
    {state : StatePacket}
    (inOrder : state.revision < (held.getD .empty).revision →
      (held.getD .empty).characterName = state.sender) (proxy : FormID) :
    some (((held.getD .empty).receive state proxy).heldState state.instanceID) =
      offer StatePacket.version (held.map (·.heldState state.instanceID)) state := by
  by_cases older : state.revision < (held.getD .empty).revision
  · rw [receive_of_lt older (inOrder older)]
    cases held with
    | none => exact absurd older UInt64.not_lt_zero
    | some snapshot => exact (if_pos older).symm
  · rw [receive_of_le (UInt64.not_lt.mp older)]
    cases held with
    | none => rfl
    | some snapshot => exact (if_neg older).symm

namespace PeerSession

variable {digest : HmacDigest} {session next : PeerSession}

/-- The state of the sender that the receiver holds. -/
def received (session : PeerSession) : Option StatePacket :=
  (session.receiver.remoteSnapshots.lookup session.transport.instanceID).map
    (·.heldState session.transport.instanceID)

/-- The stored revision is that of the state received. -/
theorem snapshot_revision (session : PeerSession) :
    session.snapshot.revision = (session.received.map StatePacket.revision).getD 0 := by
  rw [snapshot, SyncService.snapshotOf, received]
  cases session.receiver.remoteSnapshots.lookup session.transport.instanceID <;> rfl

/-- A delivery in order offers its state. -/
theorem received_deliver {sent : SentPacket} {packet : ByteString} {world : GameWorld}
    {receiver : SyncService} (numbered : session.Numbered digest) (member : sent ∈ session.network)
    (arrives : session.Arrives digest sent packet)
    (inOrder : InOrder session (.deliver sent packet world))
    (handled : session.receiver.handlePacket world packet = .ok receiver) :
    { session with receiver := receiver }.received =
      offer StatePacket.version session.received sent.state := by
  obtain ⟨instance_, _⟩ := numbered.carried sent member
  rw [SyncService.handlePacket_of_read (numbered.read_of_arrives member arrives),
    Except.ok.injEq] at handled
  rw [InOrder] at inOrder
  by_cases addressable : Addressable sent.state.slots
  · rw [if_pos addressable, Option.elim_some] at handled
    have older : sent.state.revision < session.snapshot.revision →
        session.snapshot.characterName = sent.state.sender := by
      intro older
      rw [if_pos older] at inOrder
      exact inOrder.resolve_right (not_not.mpr addressable)
    rw [snapshot, ← instance_] at older
    rw [received, received, ← handled, ← instance_, SyncService.lookup_storePacket, Option.map_some]
    exact SyncService.RemoteSnapshot.receive_eq_offer older _
  · rw [if_neg addressable, Option.elim_none] at handled
    have older : sent.state.revision < session.snapshot.revision := by
      split at inOrder
      · assumption
      · exact absurd inOrder addressable
    rw [snapshot_revision] at older
    rw [← handled]
    cases held : session.received with
    | none =>
        rw [held] at older
        exact absurd older UInt64.not_lt_zero
    | some state =>
        rw [held] at older
        exact (if_pos older).symm

/-- A step in order offers what it delivers. -/
theorem received_of_step {event : SessionEvent} (numbered : session.Numbered digest)
    (inOrder : InOrder session event) (step : (sessionSystem digest).Step session event next) :
    next.received =
      event.delivered.elim session.received (offer StatePacket.version session.received) := by
  cases event with
  | capture slots now =>
      obtain ⟨_, transport, receiver, _⟩ :=
        capture_cases (plain_of_generated numbered.generated).1 step.1
      rw [received, receiver, transport]
      rfl
  | resetSender world playerName =>
      obtain rfl := step
      rfl
  | deliver sent packet world =>
      obtain ⟨member, arrives, receiver, handled, rfl⟩ := step
      exact received_deliver numbered member arrives inOrder handled
  | otherPacket packet world =>
      obtain ⟨other, receiver, handled, rfl⟩ := step
      obtain ⟨state, read⟩ := readStatePacket_ok packet
      rw [SyncService.handlePacket_of_read read, Except.ok.injEq] at handled
      rw [← handled]
      cases state with
      | none => rfl
      | some state =>
          rw [received, Option.elim_some, SyncService.lookup_storePacket_ne (other state read).symm]
          rfl
  | refresh world =>
      obtain rfl := step
      have bound := session.receiver.lookup_bindProxies world session.transport.instanceID
      rw [received]
      refine (congrArg _ bound).trans ?_
      rw [Option.map_map]
      rfl

/-- A step in order does not lower the revision of the snapshot. -/
theorem revision_le_of_step {event : SessionEvent} (numbered : session.Numbered digest)
    (inOrder : InOrder session event) (step : (sessionSystem digest).Step session event next) :
    session.snapshot.revision ≤ next.snapshot.revision := by
  have received := received_of_step numbered inOrder step
  rw [snapshot_revision, snapshot_revision, received]
  cases event.delivered with
  | none => exact UInt64.le_refl _
  | some state =>
      rw [Option.elim_some]
      cases session.received with
      | none => exact UInt64.zero_le
      | some kept =>
          obtain ⟨held, offered, above⟩ :=
            @exists_offer_some StatePacket Nat _ StatePacket.version kept state
          rw [offered]
          exact above

/-- What the deliveries so far have left on both sides. -/
structure Latest (digest : HmacDigest) (events : List SessionEvent) (session : PeerSession) :
    Prop where
  numbered : session.Numbered digest
  sent : ∀ state ∈ deliveredStates events, ∃ sent ∈ session.network, sent.state = state
  newest : session.received = newest StatePacket.version (deliveredStates events)

/-- One step in order. -/
theorem Latest.step {events : List SessionEvent} {event : SessionEvent}
    (latest : session.Latest digest events) (inOrder : InOrder session event)
    (step : (sessionSystem digest).Step session event next) :
    next.Latest digest (events ++ [event]) := by
  have received := received_of_step latest.numbered inOrder step
  obtain ⟨network, fromNetwork⟩ := network_of_step latest.numbered step
  refine ⟨latest.numbered.step step, ?_, ?_⟩
  · intro state member
    rw [deliveredStates_concat, List.mem_append, Option.mem_toList] at member
    rcases member with earlier | delivered
    · obtain ⟨sent, among, carries⟩ := latest.sent state earlier
      exact ⟨sent, network among, carries⟩
    · obtain ⟨sent, among, carries⟩ := fromNetwork state delivered
      exact ⟨sent, network among, carries⟩
  · rw [received, latest.newest, deliveredStates_concat]
    cases event.delivered with
    | none => rw [Option.elim_none, Option.toList_none, List.append_nil]
    | some state => exact (newest_concat _ _).symm

/-- A fresh session is numbered. -/
theorem numbered_initial (initial : (sessionSystem digest).Initial session) :
    session.Numbered digest := by
  obtain ⟨generated, named, unknown, unsent, _⟩ := initial
  refine ⟨generated, named, ?_, ?_, ?_, ?_⟩ <;> simp [unsent]

/-- Deliveries in order leave the newest state, whatever else happens. -/
theorem latest_of_runs {events : List SessionEvent}
    (run : ((sessionSystem digest).guarded InOrder).Runs events session) :
    session.Latest digest events := by
  apply TransitionSystem.Runs.invariant (fun events session => session.Latest digest events) _ _ run
  · intro session initial
    refine ⟨numbered_initial initial, ?_, ?_⟩
    · intro state member
      cases member
    · obtain ⟨_, _, _, _, unstored⟩ := initial
      rw [received, unstored]
      rfl
  · rintro events session event next _ latest ⟨inOrder, step⟩
    exact latest.step inOrder step

end PeerSession

/-- In a run whose deliveries are in order the receiver holds the state of the delivered
packet with the highest revision, and a further step in order does not lower it. -/
theorem latest_packet_held {digest : HmacDigest} {events : List SessionEvent}
    {session : PeerSession} (run : ((sessionSystem digest).guarded InOrder).Runs events session) :
    HoldsLatest events session ∧
      ∀ event next, InOrder session event → (sessionSystem digest).Step session event next →
        session.snapshot.revision ≤ next.snapshot.revision := by
  have latest := PeerSession.latest_of_runs run
  refine ⟨?_, fun event next => PeerSession.revision_le_of_step latest.numbered⟩
  intro state member highest
  cases held : newest StatePacket.version (deliveredStates events) with
  | none =>
      rw [newest_eq_none_iff.mp held] at member
      cases member
  | some last =>
      obtain ⟨among, above⟩ := newest_spec held
      obtain ⟨one, oneSent, rfl⟩ := latest.sent state member
      obtain ⟨two, twoSent, rfl⟩ := latest.sent last among
      have same := latest.numbered.unique one oneSent two twoSent
        (UInt64.le_antisymm (above _ member) (highest _ among))
      obtain ⟨snapshot, known, holds⟩ := Option.map_eq_some_iff.mp (latest.newest.trans held)
      rw [same, ← holds]
      exact ⟨snapshot, known, rfl, rfl, rfl⟩

/-- A capture of new slots without a secret. -/
theorem PeerSession.capture_changed {digest : HmacDigest} {session : PeerSession}
    (peer : Plain session.transport.instanceID) {slots : SlotState}
    (changed : session.sender.hasLocalSlots = false ∨ slots ≠ session.sender.localSlots)
    (unset : session.transport.sharedSecret = []) (now : Nat) :
    let sender := { session.sender with
      localSlots := slots
      hasLocalSlots := true
      revision := session.sender.revision + 1
      lastSend := now }
    let state : StatePacket := ⟨session.transport.instanceID, session.transport.localPlayerName,
      session.sender.revision + 1, slots⟩
    session.capture digest slots now = .ok { session with
      sender := sender
      network := session.network ++ [⟨state, session.packetOf digest state⟩] } := by
  intro sender state
  have present : session.packetOf digest state ≠ [] := by
    rw [packetOf, unset, signed, if_pos rfl]
    exact gameplayText_ne_nil _
  have captured : session.sender.onLocalCapture slots now =
      (sender, some (statePayload sender.revision slots)) := by
    rcases changed with fresh | other
    · simp [SyncService.onLocalCapture, fresh, sender]
    · simp [SyncService.onLocalCapture, other, sender]
  simp only [capture, captured, builtPacket_statePayload peer, bind, Except.bind, pure,
    Except.pure]
  rw [packetOf] at present
  rw [if_neg present]
  rfl

/-- An addressable packet is stored as it arrives. -/
theorem PeerSession.Numbered.handlePacket {digest : HmacDigest} {session : PeerSession}
    (numbered : session.Numbered digest) {sent : SentPacket} (member : sent ∈ session.network)
    (addressable : Addressable sent.state.slots) (world : GameWorld) :
    session.receiver.handlePacket world sent.packet =
      .ok (session.receiver.storePacket world sent.state) := by
  have read := numbered.read_of_arrives member (.inl rfl)
  rw [SyncService.handlePacket_of_read read, if_pos addressable, Option.elim_some]

/-- A world without actors. -/
def emptyWorld : GameWorld where
  processLists := none
  hasLocalPlayer := true
  lookupActor _ := none
  formID_lookupActor := by simp

/-- The sender plays Lydia; no secret is set. -/
def lydiaSession : PeerSession where
  sender := .initial false 5000
  transport := { openRelay with localPlayerName := ascii "Lydia" }
  network := []
  receiver := .initial false 5000

theorem lydiaSession_initial (digest : HmacDigest) :
    (sessionSystem digest).Initial lydiaSession :=
  ⟨.inl ⟨0x1000, 0x100000, by decide⟩, by decide, rfl, rfl, rfl⟩

/-- Lydia's empty slots in her first revision. -/
def lydiaState : StatePacket := ⟨openRelay.instanceID, ascii "Lydia", 1, Vector.replicate 19 none⟩

/-- The packet of Lydia's empty slots. -/
def lydiaPacket : SentPacket := ⟨lydiaState, lydiaSession.packetOf (fun _ _ => none) lydiaState⟩

/-- Lydia's first capture is on the network. -/
def capturedLydia : PeerSession :=
  { lydiaSession with
    sender := { lydiaSession.sender with hasLocalSlots := true, revision := 1 }
    network := [lydiaPacket] }

/-- Lydia captures her empty slots. -/
theorem capture_lydia :
    lydiaSession.capture (fun _ _ => none) (Vector.replicate 19 none) 0 = .ok capturedLydia :=
  PeerSession.capture_changed
    (plain_of_generated (lydiaSession_initial fun _ _ => none).1).1 (.inl rfl) rfl 0

/-- Lydia's sword in her second revision. -/
def drawnState : StatePacket := ⟨openRelay.instanceID, ascii "Lydia", 2, swordSlots⟩

/-- The packet of Lydia's sword. -/
def drawnPacket : SentPacket := ⟨drawnState, lydiaSession.packetOf (fun _ _ => none) drawnState⟩

/-- Lydia has drawn a sword and captured it. -/
def drawnLydia : PeerSession :=
  { lydiaSession with
    sender := { lydiaSession.sender with
      localSlots := swordSlots
      hasLocalSlots := true
      revision := 2 }
    network := [lydiaPacket, drawnPacket] }

/-- The receiver stores a state of Lydia. -/
def PeerSession.storing (session : PeerSession) (state : StatePacket) : PeerSession :=
  { session with receiver := session.receiver.storePacket emptyWorld state }

/-- The second packet arrives, then the first, then the second again. -/
def drawnEvents : List SessionEvent :=
  [.capture (Vector.replicate 19 none) 0, .capture swordSlots 0,
    .deliver drawnPacket drawnPacket.packet emptyWorld,
    .deliver lydiaPacket lydiaPacket.packet emptyWorld,
    .deliver drawnPacket drawnPacket.packet emptyWorld]

/-- The receiver holds the sword through the late and the repeated packet. -/
theorem lydia_held :
    let last := ((drawnLydia.storing drawnState).storing lydiaState).storing drawnState
    HoldsLatest drawnEvents last ∧
      ∀ event next, InOrder last event → (sessionSystem fun _ _ => none).Step last event next →
        last.snapshot.revision ≤ next.snapshot.revision := by
  intro last
  have initial := lydiaSession_initial fun _ _ => none
  have first := (PeerSession.numbered_initial initial).capture capture_lydia (by decide)
  have captured : capturedLydia.capture (fun _ _ => none) swordSlots 0 = .ok drawnLydia :=
    PeerSession.capture_changed (plain_of_generated first.generated).1 (.inr (by decide)) rfl 0
  have numbered := first.capture captured (by decide)
  have drawn (receiver : SyncService) :
      receiver.handlePacket emptyWorld drawnPacket.packet =
        .ok (receiver.storePacket emptyWorld drawnState) :=
    (numbered.withReceiver receiver).handlePacket
      (show drawnPacket ∈ _ by simp [drawnLydia]) (by decide) emptyWorld
  have bare (receiver : SyncService) :
      receiver.handlePacket emptyWorld lydiaPacket.packet =
        .ok (receiver.storePacket emptyWorld lydiaState) :=
    (numbered.withReceiver receiver).handlePacket
      (show lydiaPacket ∈ _ by simp [drawnLydia]) (by decide) emptyWorld
  have start : ((sessionSystem fun _ _ => none).guarded InOrder).Initial lydiaSession := initial
  apply latest_packet_held
  refine .of_follows start ?_
  exact ⟨capturedLydia, ⟨trivial, capture_lydia, by decide⟩,
    drawnLydia, ⟨trivial, captured, by decide⟩,
    drawnLydia.storing drawnState,
    ⟨by unfold InOrder; decide, .tail _ (.head _), .inl rfl, _, drawn _, rfl⟩,
    (drawnLydia.storing drawnState).storing lydiaState,
    ⟨by unfold InOrder; decide, .head _, .inl rfl, _, bare _, rfl⟩, last,
    ⟨by unfold InOrder; decide, .tail _ (.head _), .inl rfl, _, drawn _, rfl⟩, rfl⟩

/-- The packet of the next character. -/
def seranaState : StatePacket := ⟨openRelay.instanceID, ascii "Serana", 2, swordSlots⟩

/-- The packet of Serana's sword, from the same instance. -/
def seranaPacket : SentPacket := ⟨seranaState, lydiaSession.packetOf (fun _ _ => none) seranaState⟩

/-- The sender has loaded Serana's game and captured her sword. -/
def capturedSerana : PeerSession :=
  { lydiaSession with
    sender := { lydiaSession.sender with
      localSlots := swordSlots
      hasLocalSlots := true
      revision := 2 }
    transport := { openRelay with localPlayerName := ascii "Serana" }
    network := [lydiaPacket, seranaPacket] }

/-- Lydia's packet arrives after Serana's and overwrites it. -/
theorem late_packet_overwrites :
    let first := { capturedSerana with
      receiver := capturedSerana.receiver.storePacket emptyWorld seranaState }
    let last := { first with receiver := first.receiver.storePacket emptyWorld lydiaState }
    let events : List SessionEvent := [.capture (Vector.replicate 19 none) 0,
      .resetSender emptyWorld (ascii "Serana"), .capture swordSlots 0,
      .deliver seranaPacket seranaPacket.packet emptyWorld,
      .deliver lydiaPacket lydiaPacket.packet emptyWorld]
    (sessionSystem fun _ _ => none).Runs events last ∧ ¬ HoldsLatest events last := by
  intro first last events
  have initial := lydiaSession_initial fun _ _ => none
  have numbered := ((PeerSession.numbered_initial initial).capture capture_lydia
    (by decide)).resetSender emptyWorld (ascii "Serana")
  have captured : (capturedLydia.resetSender emptyWorld (ascii "Serana")).capture (fun _ _ => none)
      swordSlots 0 = .ok capturedSerana :=
    PeerSession.capture_changed (plain_of_generated numbered.generated).1 (.inl rfl) rfl 0
  have both := numbered.capture captured (by decide)
  have serana := both.handlePacket (show seranaPacket ∈ _ by simp [capturedSerana]) (by decide)
    emptyWorld
  have lydia := (both.withReceiver first.receiver).handlePacket
    (show lydiaPacket ∈ _ by simp [capturedSerana]) (by decide) emptyWorld
  constructor
  · refine .of_follows initial ?_
    exact ⟨_, ⟨capture_lydia, by decide⟩, _, rfl, capturedSerana, ⟨captured, by decide⟩, first,
      ⟨by simp [capturedSerana], .inl rfl, _, serana, rfl⟩, last,
      ⟨by simp [first, capturedSerana], .inl rfl, _, lydia, rfl⟩, rfl⟩
  · intro held
    obtain ⟨snapshot, known, _, name, _⟩ := held seranaState (by simp [events, deliveredStates,
      SessionEvent.delivered, seranaPacket]) (by decide)
    have shown : last.receiver.remoteSnapshots.lookup last.transport.instanceID = some _ :=
      SyncService.lookup_storePacket lydiaState
    rw [shown, Option.some.injEq] at known
    rw [← known, SyncService.RemoteSnapshot.receive_characterName] at name
    exact absurd name (by decide)

end IEDSyncTogether
