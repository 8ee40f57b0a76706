import IEDSyncTogether.Base.Execution
import IEDSyncTogether.Service.SyncService

/-!
# Slot queries

A query searches the snapshots in the enumeration order of an unordered map and takes the
first one bound to the actor. Snapshots are kept by instance and bound by character name,
so two instances of one character are bound to one actor. As long as such snapshots agree
on their slots, every enumeration order gives the slots received last.
-/

namespace IEDSyncTogether

open Base

/-- What happens to a service; a packet shows the instance whose snapshot it stored. -/
inductive ServiceEvent where
  | packet (packet : ByteString) (world : GameWorld) (stored : Option ByteString)
  | refresh (world : GameWorld)
  | reset (world : GameWorld)

namespace SyncService

/-- A packet is stale if its revision is below the stored one, unless the character changed. -/
def Stale (service : SyncService) (packet : StatePacket) : Prop :=
  packet.revision < ((service.snapshotOf packet.instanceID).rename packet.sender).revision

instance (service : SyncService) (packet : StatePacket) : Decidable (service.Stale packet) :=
  inferInstanceAs (Decidable (_ < _))

/-- The instance a packet stores a snapshot for. -/
def storedInstance (service : SyncService) (packet : ByteString) : Option ByteString :=
  match readStatePacket packet with
  | .ok (some packet) => if service.Stale packet then none else some packet.instanceID
  | _ => none

end SyncService

/-- A service from its construction on, in any worlds. -/
def serviceSystem : TransitionSystem SyncService ServiceEvent where
  Initial service := ∃ suppress resend, service = .initial suppress resend
  Step service event next :=
    match event with
    | .packet packet world stored =>
      service.handlePacket world packet = .ok next ∧ stored = service.storedInstance packet
    | .refresh world => next = (service.refreshProxyMitigation world).1
    | .reset world => next = (service.reset world).1

/-- The instances whose snapshots were received since the last reset, the last one first. -/
def recentInstances (events : List ServiceEvent) : List ByteString :=
  events.foldl (fun recent event =>
    match event with
    | .packet _ _ stored => stored.toList ++ recent
    | .refresh _ => recent
    | .reset _ => []) []

namespace SyncService

variable {service next : SyncService} {world : GameWorld}

/-- The snapshot of an instance if it is bound to an actor. -/
def boundTo (service : SyncService) (actorFormID : FormID) (instanceID : ByteString) :
    Option RemoteSnapshot :=
  (service.remoteSnapshots.lookup instanceID).filter (·.lastProxy = actorFormID)

/-- The slot of the most recently received snapshot bound to the actor. -/
def currentSlot (service : SyncService) (game : GameData) (world : GameWorld)
    (recent : List ByteString) (actorFormID : FormID) (slotIndex : UInt32) :
    SlotOverrideResult × FormID :=
  if inside : slotIndex.toNat < 19 then
    if ¬ isLikelyRemotePlayerProxy (world.lookupActor actorFormID) then (.kNotRemote, 0)
    else
      match recent.findSome? (service.boundTo actorFormID) with
      | none => (.kNotRemote, 0)
      | some snapshot => answer game (snapshot.slots.get ⟨slotIndex.toNat, inside⟩)
  else (.kNotRemote, 0)

/-- Snapshots bound to one actor have the same slots. -/
def Agree (service : SyncService) : Prop :=
  ∀ one first two second, service.remoteSnapshots.lookup one = some first →
    service.remoteSnapshots.lookup two = some second → first.lastProxy = second.lastProxy →
    first.lastProxy ≠ 0 → first.slots = second.slots

end SyncService

/-- Every query gives the slot received last, in every enumeration order of the snapshots. -/
def QueriesCurrent (game : GameData) (events : List ServiceEvent) (service : SyncService) : Prop :=
  ∀ (world : GameWorld) (actorFormID : FormID) (slotIndex : UInt32)
    (enumeration : UnorderedMap ByteString SyncService.RemoteSnapshot),
    enumeration.entries.Perm service.remoteSnapshots.entries →
    { service with remoteSnapshots := enumeration }.queryRemoteSlot game world actorFormID slotIndex =
      service.currentSlot game world (recentInstances events) actorFormID slotIndex

/-- A stored packet has the slots of every other snapshot bound to its character's actor, and
a refresh binds only snapshots with the same slots to one actor. -/
def BindsApart (service : SyncService) : ServiceEvent → Prop
  | .packet packet world _ =>
    ∀ state, readStatePacket packet = .ok (some state) → ¬ service.Stale state →
      ∀ other snapshot, service.remoteSnapshots.lookup other = some snapshot →
        other ≠ state.instanceID → snapshot.lastProxy = world.proxyOf state.sender →
        snapshot.lastProxy ≠ 0 → snapshot.slots = state.slots
  | .refresh world =>
    ∀ one first two second, service.remoteSnapshots.lookup one = some first →
      service.remoteSnapshots.lookup two = some second →
      world.proxyOf first.characterName = world.proxyOf second.characterName →
      world.proxyOf first.characterName ≠ 0 → first.slots = second.slots
  | .reset _ => True

namespace SyncService

variable {service next : SyncService} {world : GameWorld}

/-- A stale packet leaves slots, revision and proxy of an existing snapshot. -/
theorem exists_of_stale {packet : StatePacket} (stale : service.Stale packet) :
    ∃ snapshot, service.remoteSnapshots.lookup packet.instanceID = some snapshot ∧
      (service.snapshotOf packet.instanceID).receive packet (world.proxyOf packet.sender) =
        { snapshot with characterName := packet.sender } := by
  rw [Stale] at stale
  cases known : service.remoteSnapshots.lookup packet.instanceID with
  | none =>
      have created : service.snapshotOf packet.instanceID = .empty := by
        rw [snapshotOf, known, Option.getD_none]
      rw [created] at stale
      exact absurd (UInt64.lt_of_lt_of_le stale (RemoteSnapshot.rename_revision_le .empty _))
        UInt64.not_lt_zero
  | some snapshot =>
      have existing : service.snapshotOf packet.instanceID = snapshot := by
        rw [snapshotOf, known, Option.getD_some]
      rw [existing] at stale
      refine ⟨snapshot, rfl, ?_⟩
      have kept : snapshot.rename packet.sender = { snapshot with characterName := packet.sender } := by
        by_cases changed : snapshot.characterName ≠ [] ∧ snapshot.characterName ≠ packet.sender
        · rw [RemoteSnapshot.rename, if_pos changed] at stale
          exact absurd stale UInt64.not_lt_zero
        · rw [RemoteSnapshot.rename, if_neg changed]
      rw [existing, RemoteSnapshot.receive, if_pos stale, kept]

/-- A packet that is not stale is stored with its slots and the actor of its character. -/
theorem receive_of_not_stale {packet : StatePacket} (fresh : ¬ service.Stale packet)
    (proxy : FormID) :
    (service.snapshotOf packet.instanceID).receive packet proxy =
      ⟨packet.slots, packet.revision, packet.sender, proxy⟩ := by
  rw [Stale] at fresh
  rw [RemoteSnapshot.receive, if_neg fresh]
  rfl

/-- Agreement depends on the slots and proxies only. -/
theorem Agree.of_same (agree : service.Agree)
    (same : ∀ instanceID snapshot, next.remoteSnapshots.lookup instanceID = some snapshot →
      ∃ earlier, service.remoteSnapshots.lookup instanceID = some earlier ∧
        earlier.slots = snapshot.slots ∧ earlier.lastProxy = snapshot.lastProxy) : next.Agree := by
  intro one first two second oneKnown twoKnown shared bound
  obtain ⟨before, oneBefore, slots, proxy⟩ := same one first oneKnown
  obtain ⟨other, twoBefore, otherSlots, otherProxy⟩ := same two second twoKnown
  rw [← slots, ← otherSlots]
  rw [← proxy] at shared bound
  rw [← otherProxy] at shared
  exact agree one before two other oneBefore twoBefore shared bound

/-- The snapshots agree, and every one was received since the last reset. -/
structure Bound (events : List ServiceEvent) (service : SyncService) : Prop where
  agree : service.Agree
  received : ∀ instanceID snapshot, service.remoteSnapshots.lookup instanceID = some snapshot →
    instanceID ∈ recentInstances events

/-- A service without snapshots is bound. -/
theorem Bound.of_empty {events : List ServiceEvent} {service : SyncService}
    (empty : service.remoteSnapshots = ∅) : service.Bound events where
  agree one first two second known := by
    rw [empty] at known
    cases known
  received instanceID snapshot known := by
    rw [empty] at known
    cases known

/-- A stored packet comes first among the recent instances. -/
theorem recentInstances_packet (events : List ServiceEvent) (packet : ByteString)
    (world : GameWorld) (stored : Option ByteString) :
    recentInstances (events ++ [.packet packet world stored]) =
      stored.toList ++ recentInstances events := by
  simp [recentInstances]

/-- A snapshot behind a packet is the packet's, or another one from before. -/
theorem lookup_storePacket_cases {state : StatePacket} {instanceID : ByteString}
    {snapshot : RemoteSnapshot}
    (known : (service.storePacket world state).remoteSnapshots.lookup instanceID = some snapshot) :
    (instanceID = state.instanceID ∧ snapshot =
        (service.snapshotOf state.instanceID).receive state (world.proxyOf state.sender)) ∨
      (instanceID ≠ state.instanceID ∧
        service.remoteSnapshots.lookup instanceID = some snapshot) := by
  by_cases here : instanceID = state.instanceID
  · subst here
    rw [lookup_storePacket, Option.some.injEq] at known
    exact .inl ⟨rfl, known.symm⟩
  · rw [lookup_storePacket_ne here] at known
    exact .inr ⟨here, known⟩

/-- A stale packet leaves the slots and the proxies. -/
theorem exists_lookup_of_stale {state : StatePacket} (stale : service.Stale state)
    {instanceID : ByteString} {snapshot : RemoteSnapshot}
    (known : (service.storePacket world state).remoteSnapshots.lookup instanceID = some snapshot) :
    ∃ earlier, service.remoteSnapshots.lookup instanceID = some earlier ∧
      earlier.slots = snapshot.slots ∧ earlier.lastProxy = snapshot.lastProxy := by
  obtain ⟨kept, existing, renamed⟩ := @exists_of_stale service world state stale
  rcases lookup_storePacket_cases known with ⟨rfl, rfl⟩ | ⟨_, unchanged⟩
  · exact ⟨kept, existing, by rw [renamed], by rw [renamed]⟩
  · exact ⟨snapshot, unchanged, rfl, rfl⟩

/-- A stored packet that agrees with the snapshots of its actor keeps the agreement. -/
theorem Agree.storePacket {state : StatePacket} (agree : service.Agree)
    (fresh : ¬ service.Stale state)
    (apart : ∀ other snapshot, service.remoteSnapshots.lookup other = some snapshot →
      other ≠ state.instanceID → snapshot.lastProxy = world.proxyOf state.sender →
      snapshot.lastProxy ≠ 0 → snapshot.slots = state.slots) :
    (service.storePacket world state).Agree := by
  have placed := receive_of_not_stale fresh (world.proxyOf state.sender)
  intro one first two second oneKnown twoKnown shared linked
  rcases lookup_storePacket_cases oneKnown with ⟨rfl, rfl⟩ | ⟨oneOther, oneBefore⟩
  · rcases lookup_storePacket_cases twoKnown with ⟨rfl, rfl⟩ | ⟨twoOther, twoBefore⟩
    · rfl
    · rw [placed] at shared linked ⊢
      exact (apart two second twoBefore twoOther shared.symm (shared ▸ linked)).symm
  · rcases lookup_storePacket_cases twoKnown with ⟨rfl, rfl⟩ | ⟨twoOther, twoBefore⟩
    · rw [placed] at shared ⊢
      exact apart one first oneBefore oneOther shared linked
    · exact agree one first two second oneBefore twoBefore shared linked

/-- A packet keeps the invariant. -/
theorem Bound.storePacket {events : List ServiceEvent} {packet : ByteString} {state : StatePacket}
    (bound : service.Bound events) (read : readStatePacket packet = .ok (some state))
    (apart : BindsApart service (.packet packet world (service.storedInstance packet))) :
    (service.storePacket world state).Bound
      (events ++ [.packet packet world (service.storedInstance packet)]) := by
  by_cases stale : service.Stale state
  · refine ⟨bound.agree.of_same fun _ _ => exists_lookup_of_stale stale, ?_⟩
    intro instanceID snapshot known
    obtain ⟨earlier, before, _⟩ := exists_lookup_of_stale stale known
    rw [recentInstances_packet, List.mem_append]
    exact .inr (bound.received instanceID earlier before)
  · have stored : service.storedInstance packet = some state.instanceID := by
      rw [storedInstance, read]
      exact if_neg stale
    refine ⟨bound.agree.storePacket stale (apart state read stale), ?_⟩
    intro instanceID snapshot known
    rw [recentInstances_packet, stored, List.mem_append]
    rcases lookup_storePacket_cases known with ⟨rfl, _⟩ | ⟨_, before⟩
    · exact .inl List.mem_cons_self
    · exact .inr (bound.received instanceID snapshot before)

/-- A refresh that binds snapshots apart keeps the invariant. -/
theorem Bound.refresh {events : List ServiceEvent} (bound : service.Bound events)
    (apart : BindsApart service (.refresh world)) :
    (service.refreshProxyMitigation world).1.Bound (events ++ [.refresh world]) := by
  have binds (instanceID : ByteString) (snapshot : RemoteSnapshot)
      (known : (service.refreshProxyMitigation world).1.remoteSnapshots.lookup instanceID =
        some snapshot) : ∃ earlier, service.remoteSnapshots.lookup instanceID = some earlier ∧
      { earlier with lastProxy := world.proxyOf earlier.characterName } = snapshot :=
    Option.map_eq_some_iff.mp ((service.lookup_bindProxies world instanceID).symm.trans known)
  refine ⟨?_, ?_⟩
  · intro one first two second oneKnown twoKnown shared linked
    obtain ⟨before, oneBefore, rfl⟩ := binds one first oneKnown
    obtain ⟨other, twoBefore, rfl⟩ := binds two second twoKnown
    exact apart one before two other oneBefore twoBefore shared linked
  · intro instanceID snapshot known
    obtain ⟨earlier, before, _⟩ := binds instanceID snapshot known
    simpa [recentInstances] using bound.received instanceID earlier before

/-- Every step that binds apart keeps the invariant. -/
theorem Bound.step {events : List ServiceEvent} {event : ServiceEvent}
    (bound : service.Bound events) (apart : BindsApart service event)
    (step : serviceSystem.Step service event next) : next.Bound (events ++ [event]) := by
  cases event with
  | packet packet world stored =>
      obtain ⟨handled, rfl⟩ := step
      obtain ⟨state, read⟩ := readStatePacket_ok packet
      rw [handlePacket_of_read read, Except.ok.injEq] at handled
      rw [← handled]
      cases state with
      | none =>
          have refused : service.storedInstance packet = none := by rw [storedInstance, read]
          refine ⟨bound.agree, fun instanceID snapshot known => ?_⟩
          simpa [recentInstances, refused] using bound.received instanceID snapshot known
      | some state => exact bound.storePacket read apart
  | refresh world =>
      obtain rfl := step
      exact bound.refresh apart
  | reset world =>
      obtain rfl := step
      exact .of_empty rfl

/-- Every guarded run leaves the bindings right. -/
theorem bound_of_runs {events : List ServiceEvent}
    (run : (serviceSystem.guarded BindsApart).Runs events service) : service.Bound events := by
  apply TransitionSystem.Runs.invariant (fun events service => service.Bound events) _ _ run
  · rintro service ⟨suppress, resend, rfl⟩
    exact .of_empty rfl
  · rintro events service event next _ bound ⟨apart, step⟩
    exact bound.step apart step

/-- A snapshot is bound to the actor of its last proxy. -/
theorem boundTo_eq_some_iff {actorFormID : FormID} {instanceID : ByteString}
    {snapshot : RemoteSnapshot} :
    service.boundTo actorFormID instanceID = some snapshot ↔
      service.remoteSnapshots.lookup instanceID = some snapshot ∧
        snapshot.lastProxy = actorFormID := by
  rw [boundTo, Option.filter_eq_some_iff, decide_eq_true_eq]

/-- An actor that is queried as a remote player has a form ID. -/
theorem ne_zero_of_remote {actorFormID : FormID}
    (remote : isLikelyRemotePlayerProxy (world.lookupActor actorFormID) = true) :
    actorFormID ≠ 0 := by
  cases known : world.lookupActor actorFormID with
  | none =>
      rw [known] at remote
      cases remote
  | some actor =>
      rw [known] at remote
      rw [← world.formID_lookupActor actorFormID actor known]
      exact formID_ne_zero_of_proxy remote

/-- A query finds a snapshot with the slots received last. -/
theorem Bound.query {events : List ServiceEvent} (bound : service.Bound events) {game : GameData}
    {actorFormID : FormID} {slotIndex : UInt32}
    {enumeration : UnorderedMap ByteString RemoteSnapshot}
    (perm : enumeration.entries.Perm service.remoteSnapshots.entries) :
    { service with remoteSnapshots := enumeration }.queryRemoteSlot game world actorFormID slotIndex =
      service.currentSlot game world (recentInstances events) actorFormID slotIndex := by
  unfold queryRemoteSlot currentSlot
  split_ifs with inside remote
  · cases recent : (recentInstances events).findSome? (service.boundTo actorFormID) with
    | none =>
        have unbound (entry : Sigma fun _ : ByteString => RemoteSnapshot)
            (known : service.remoteSnapshots.lookup entry.1 = some entry.2) :
            decide (entry.2.lastProxy = actorFormID) = false := by
          rw [decide_eq_false_iff_not]
          intro proxy
          have missing := List.findSome?_eq_none_iff.mp recent entry.1
            (bound.received entry.1 entry.2 known)
          rw [boundTo_eq_some_iff.mpr ⟨known, proxy⟩] at missing
          cases missing
        rw [UnorderedMap.find?_enumeration_eq_none perm unbound]
    | some snapshot =>
        obtain ⟨instanceID, _, linked⟩ := List.exists_of_findSome?_eq_some recent
        obtain ⟨known, shared⟩ := boundTo_eq_some_iff.mp linked
        have agree (entry : Sigma fun _ : ByteString => RemoteSnapshot)
            (among : service.remoteSnapshots.lookup entry.1 = some entry.2)
            (hit : decide (entry.2.lastProxy = actorFormID) = true) :
            entry.2.slots = snapshot.slots := by
          have proxy := of_decide_eq_true hit
          exact bound.agree entry.1 entry.2 instanceID snapshot among known (by rw [proxy, shared])
            (by rw [proxy]; exact ne_zero_of_remote remote)
        obtain ⟨entry, first, slots⟩ := UnorderedMap.exists_find?_enumeration perm known
          (decide_eq_true shared) agree
        simp only [first, slots]
  · rfl
  · rfl

end SyncService

/-- In a run whose bindings are apart every query gives the slot of the most recently
received snapshot bound to the actor, in every enumeration order. -/
theorem queries_current {game : GameData} {events : List ServiceEvent} {service : SyncService}
    (run : (serviceSystem.guarded BindsApart).Runs events service) :
    QueriesCurrent game events service :=
  fun _ _ _ _ perm => (SyncService.bound_of_runs run).query perm

/-- The proxy of a remote Lydia. -/
def lydiaActor : Actor := ⟨0xFF000801, false, some 0xFF000800, some (ascii "Lydia"), 0⟩

/-- A world with that actor. -/
def lydiaWorld : GameWorld where
  processLists := some ⟨[some lydiaActor], [], [], []⟩
  hasLocalPlayer := true
  lookupActor formID := if formID = lydiaActor.formID then some lydiaActor else none
  formID_lookupActor formID actor known := by
    simp only [Option.mem_def, Option.ite_none_right_eq_some, Option.some.injEq] at known
    rw [← known.2, known.1]

/-- The packet of a state without a tag. -/
def untagged (state : StatePacket) : ByteString :=
  gameplayText (stateFields state.instanceID state.sender (ascii "0") state.revision state.slots)

/-- An unsigned state packet is read as the state it was built of. -/
theorem readStatePacket_untagged {state : StatePacket} (peer : Plain state.instanceID)
    (present : state.instanceID ≠ []) (named : state.sender ≠ [])
    (addressable : Addressable state.slots) : readStatePacket (untagged state) = .ok (some state) := by
  have read := @readStatePacket_stateFields state.instanceID state.sender (ascii "0") state.revision
    state.slots peer present named plain_zero []
  rw [List.append_nil, if_pos addressable] at read
  exact read

/-- Lydia with a sword. -/
def armedState : StatePacket := ⟨openRelay.instanceID, ascii "Lydia", 1, swordSlots⟩

/-- Lydia after a restart, with empty slots. -/
def restartedState : StatePacket :=
  ⟨ascii "00002000-0000000000200000", ascii "Lydia", 1, Vector.replicate 19 none⟩

/-- The service that has received the first packet. -/
def armedService : SyncService := (SyncService.initial false 5000).storePacket lydiaWorld armedState

/-- The packet of Lydia's sword is stored. -/
theorem handle_armed :
    (SyncService.initial false 5000).handlePacket lydiaWorld (untagged armedState) =
      .ok armedService :=
  SyncService.handlePacket_of_read
    (readStatePacket_untagged (by decide) (by decide) (by decide) (by decide))

/-- Lydia after a restart, still with the sword. -/
def rearmedState : StatePacket := ⟨ascii "00002000-0000000000200000", ascii "Lydia", 1, swordSlots⟩

/-- The service that knows both instances with the sword. -/
def rearmedService : SyncService := armedService.storePacket lydiaWorld rearmedState

/-- Every snapshot of the two packets holds the sword. -/
theorem slots_armedService {instanceID : ByteString} {snapshot : SyncService.RemoteSnapshot}
    (known : armedService.remoteSnapshots.lookup instanceID = some snapshot) :
    snapshot.slots = swordSlots := by
  rcases SyncService.lookup_storePacket_cases known with ⟨_, rfl⟩ | ⟨_, before⟩
  · decide
  · cases before

/-- Every stored snapshot has the sword in its slot. -/
theorem slots_rearmedService {instanceID : ByteString} {snapshot : SyncService.RemoteSnapshot}
    (known : rearmedService.remoteSnapshots.lookup instanceID = some snapshot) :
    snapshot.slots = swordSlots := by
  rcases SyncService.lookup_storePacket_cases known with ⟨_, rfl⟩ | ⟨_, before⟩
  · decide
  · exact slots_armedService before

/-- Two instances of Lydia hold the same sword, and a refresh binds both to one actor. -/
theorem armed_current :
    QueriesCurrent skyrim [.packet (untagged armedState) lydiaWorld
        ((SyncService.initial false 5000).storedInstance (untagged armedState)),
      .packet (untagged rearmedState) lydiaWorld
        (armedService.storedInstance (untagged rearmedState)),
      .refresh lydiaWorld] (rearmedService.refreshProxyMitigation lydiaWorld).1 := by
  have start : (serviceSystem.guarded BindsApart).Initial (.initial false 5000) := ⟨_, _, rfl⟩
  have read : readStatePacket (untagged rearmedState) = .ok (some rearmedState) :=
    readStatePacket_untagged (by decide) (by decide) (by decide) (by decide)
  have first : BindsApart (.initial false 5000) (.packet (untagged armedState) lydiaWorld
      ((SyncService.initial false 5000).storedInstance (untagged armedState))) := by
    intro _ _ _ _ _ known
    cases known
  have second : BindsApart armedService (.packet (untagged rearmedState) lydiaWorld
      (armedService.storedInstance (untagged rearmedState))) := by
    intro state again _ other snapshot known _ _ _
    obtain rfl : rearmedState = state := by simpa [read] using again
    exact slots_armedService known
  have third : BindsApart rearmedService (.refresh lydiaWorld) := by
    intro _ _ _ _ one two _ _
    rw [slots_rearmedService one, slots_rearmedService two]
  apply queries_current
  exact .of_follows start ⟨armedService, ⟨first, handle_armed, rfl⟩,
    rearmedService, ⟨second, SyncService.handlePacket_of_read read, rfl⟩, _, ⟨third, rfl⟩, rfl⟩

/-- The service that hears of the restarted Lydia without the sword. -/
def restartedService : SyncService := armedService.storePacket lydiaWorld restartedState

/-- Its snapshots in the other order. -/
def reversedSnapshots : UnorderedMap ByteString SyncService.RemoteSnapshot where
  entries := restartedService.remoteSnapshots.entries.reverse
  nodupKeys :=
    (List.perm_nodupKeys (List.reverse_perm _)).mpr restartedService.remoteSnapshots.nodupKeys

/-- The same character under a new instance: the answer depends on the enumeration order. -/
theorem restarted_peer_ambiguous :
    let events : List ServiceEvent := [.packet (untagged armedState) lydiaWorld
        ((SyncService.initial false 5000).storedInstance (untagged armedState)),
      .packet (untagged restartedState) lydiaWorld
        (armedService.storedInstance (untagged restartedState))]
    serviceSystem.Runs events restartedService ∧
      restartedService.queryRemoteSlot skyrim lydiaWorld lydiaActor.formID 0 = (.kEmpty, 0) ∧
      { restartedService with remoteSnapshots := reversedSnapshots }.queryRemoteSlot skyrim lydiaWorld
        lydiaActor.formID 0 = (.kForm, 0x12EB7) ∧
      ¬ QueriesCurrent skyrim events restartedService := by
  intro events
  have inserted : restartedService.queryRemoteSlot skyrim lydiaWorld lydiaActor.formID 0 =
      (.kEmpty, 0) := by decide
  have reversed : { restartedService with remoteSnapshots := reversedSnapshots }.queryRemoteSlot
      skyrim lydiaWorld lydiaActor.formID 0 = (.kForm, 0x12EB7) := by decide
  refine ⟨?_, inserted, reversed, ?_⟩
  · have handled : armedService.handlePacket lydiaWorld (untagged restartedState) =
        .ok restartedService :=
      SyncService.handlePacket_of_read
        (readStatePacket_untagged (by decide) (by decide) (by decide) (by decide))
    have start : serviceSystem.Initial (.initial false 5000) := ⟨_, _, rfl⟩
    refine .of_follows start ?_
    exact ⟨armedService, ⟨handle_armed, rfl⟩, restartedService, ⟨handled, rfl⟩, rfl⟩
  · intro current
    have one := current lydiaWorld lydiaActor.formID 0 restartedService.remoteSnapshots
      (List.Perm.refl _)
    have two := current lydiaWorld lydiaActor.formID 0 reversedSnapshots (List.reverse_perm _)
    have same := one.trans two.symm
    rw [reversed] at same
    exact absurd (inserted.symm.trans same) (by decide)

end IEDSyncTogether
