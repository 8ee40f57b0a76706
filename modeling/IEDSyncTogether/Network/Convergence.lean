import IEDSyncTogether.Network.Star
import IEDSyncTogether.Service.Binding

/-!
# What the guests of a relay come to hold

The revisions of an author order its states, so whatever way and in whatever order they
arrive, the newest is kept. When nothing is on its way or queued any more, the service of
every player holds the current slots of every other.
-/

namespace IEDSyncTogether

open Base

section Convergence

variable {Node : Type} {digest : HmacDigest} {addresses : Node → Endpoint} {host : Node}
  {sharedSecret : ByteString} {events : List (StarEvent Node)} {network next : UdpNetwork Node}

/-- A capture does not reach the end of the revisions. -/
def Unwrapped (network : UdpNetwork Node) : StarEvent Node → Prop
  | .capture node _ _ _ =>
    (network.services node).revision < (network.services node).revision + 1
  | _ => True

/-- A capture of the node handed the state to `Send`. -/
def StarPublished (events : List (StarEvent Node)) (author : Node) (state : StatePacket) : Prop :=
  ∃ slots now, StarEvent.capture author slots now (some state) ∈ events

/-- What is published in one more step was published before or is captured in it. -/
theorem starPublished_append {author : Node} {state : StatePacket} {event : StarEvent Node} :
    StarPublished (events ++ [event]) author state ↔ StarPublished events author state ∨
      ∃ slots now, event = .capture author slots now (some state) := by
  simp only [StarPublished, List.mem_append, List.mem_singleton, exists_or, eq_comm]

/-- A capture publishes the state it sends. -/
theorem starPublished_capture {node author : Node} {slots : SlotState} {now : Nat}
    {state other : StatePacket} :
    StarPublished (events ++ [.capture node slots now (some state)]) author other ↔
      StarPublished events author other ∨ author = node ∧ other = state := by
  rw [starPublished_append]
  refine or_congr_right ⟨?_, ?_⟩
  · rintro ⟨_, _, same⟩
    cases same
    exact ⟨rfl, rfl⟩
  · rintro ⟨rfl, rfl⟩
    exact ⟨slots, now, rfl⟩

variable [DecidableEq Node]

/-- The states published to a node are those of the other authors. -/
theorem mem_publishedToOthers {node : Node} {state : StatePacket} :
    state ∈ publishedToOthers events node ↔ ∃ author ≠ node, StarPublished events author state := by
  simp only [publishedToOthers, List.mem_filterMap, StarPublished]
  constructor
  · rintro ⟨event, member, found⟩
    split at found
    · next author slots now published =>
        split at found
        · cases found
        · next apart =>
            subst found
            exact ⟨author, apart, slots, now, member⟩
    · cases found
  · rintro ⟨author, apart, slots, now, member⟩
    exact ⟨_, member, by simp [apart]⟩

/-- A capture that sends nothing changes nothing. -/
theorem SyncService.onLocalCapture_none {service : SyncService} {slots : SlotState} {now : Nat}
    (nothing : (service.onLocalCapture slots now).2 = none) :
    (service.onLocalCapture slots now).1 = service := by
  unfold onLocalCapture at nothing ⊢
  dsimp only at nothing ⊢
  split
  · rfl
  · next sends =>
      rw [if_neg sends] at nothing
      cases nothing

/-- A capture does not go back to an earlier revision. -/
theorem SyncService.revision_le_onLocalCapture {service : SyncService} {slots : SlotState}
    {now : Nat} (unwrapped : service.revision < service.revision + 1) :
    service.revision ≤ (service.onLocalCapture slots now).1.revision := by
  rcases (service.onLocalCapture_cases slots now).2.2 with ⟨_, same, _⟩ | next
  · rw [same]
    exact UInt64.le_refl _
  · rw [next]
    exact UInt64.le_of_lt unwrapped

/-! ## The states of an author -/

/-- What an author has published carries its identity and the revisions up to its current one,
which stands for the slots it has. -/
structure Dated (events : List (StarEvent Node)) (network : UdpNetwork Node) : Prop where
  identity : ∀ author state, StarPublished events author state →
    state.instanceID = (network.transports author).instanceID ∧
      state.sender = (network.transports author).localPlayerName
  bounded : ∀ author state, StarPublished events author state →
    state.revision ≤ (network.services author).revision
  slots : ∀ author state, StarPublished events author state →
    (network.services author).hasLocalSlots = true →
    state.revision = (network.services author).revision →
    state.slots = (network.services author).localSlots
  current : ∀ author, (network.services author).hasLocalSlots = true →
    ∃ state, StarPublished events author state ∧
      state.revision = (network.services author).revision

namespace Dated

omit [DecidableEq Node] in
/-- A step that publishes nothing keeps the identities and the local slots, or forgets them. -/
theorem of_silent (dated : Dated events network) {event : StarEvent Node}
    (silent : ∀ author slots now state, event ≠ .capture author slots now (some state))
    (same : ∀ node, (next.transports node).instanceID = (network.transports node).instanceID ∧
      (next.transports node).localPlayerName = (network.transports node).localPlayerName)
    (kept : ∀ node, (next.services node).revision = (network.services node).revision ∧
      ((next.services node).hasLocalSlots = true → (network.services node).hasLocalSlots = true ∧
        (next.services node).localSlots = (network.services node).localSlots)) :
    Dated (events ++ [event]) next := by
  have earlier {author : Node} {state : StatePacket} :
      StarPublished (events ++ [event]) author state ↔ StarPublished events author state := by
    rw [starPublished_append, or_iff_left]
    rintro ⟨slots, now, published⟩
    exact silent author slots now state published
  refine ⟨fun author state published => ?_, fun author state published => ?_,
    fun author state published known newest => ?_, fun author known => ?_⟩
  · rw [(same author).1, (same author).2]
    exact dated.identity author state (earlier.mp published)
  · rw [(kept author).1]
    exact dated.bounded author state (earlier.mp published)
  · obtain ⟨before, localSlots⟩ := (kept author).2 known
    rw [(kept author).1] at newest
    rw [localSlots, dated.slots author state (earlier.mp published) before newest]
  · obtain ⟨state, published, newest⟩ := dated.current author ((kept author).2 known).1
    exact ⟨state, earlier.mpr published, by rw [newest, (kept author).1]⟩

/-- A capture publishes its slots under the current revision, or under the next one. -/
theorem capture (dated : Dated events network) {node : Node} {slots : SlotState} {now : Nat}
    {published : Option StatePacket}
    (unwrapped : Unwrapped network (.capture node slots now published))
    (captured : network.capture digest addresses node slots now = .ok (next, published)) :
    Dated (events ++ [.capture node slots now published]) next := by
  obtain ⟨kept, services, _, ⟨rfl, nothing, _⟩ |
      ⟨state, _, rfl, identity, name, revision, taken, _⟩⟩ := UdpNetwork.capture_cases captured
  · rw [SyncService.onLocalCapture_none nothing, Function.update_eq_self] at services
    refine dated.of_silent (fun _ _ _ _ same => by cases same) (fun _ => ?_) fun _ => ?_
    · rw [kept]
      exact ⟨rfl, rfl⟩
    · rw [services]
      exact ⟨rfl, fun known => ⟨known, rfl⟩⟩
  · obtain ⟨known, _, counted⟩ := (network.services node).onLocalCapture_cases slots now
    refine ⟨fun author other published => ?_, fun author other published => ?_,
      fun author other published => ?_, fun author => ?_⟩
    · rw [kept]
      rcases starPublished_capture.mp published with earlier | ⟨rfl, rfl⟩
      · exact dated.identity author other earlier
      · exact ⟨identity, name⟩
    · rw [services]
      rcases starPublished_capture.mp published with earlier | ⟨rfl, rfl⟩
      · have bound := dated.bounded author other earlier
        by_cases here : author = node
        · subst here
          rw [Function.update_self]
          exact UInt64.le_trans bound (SyncService.revision_le_onLocalCapture unwrapped)
        · rwa [Function.update_of_ne here]
      · rw [Function.update_self, revision]
        exact UInt64.le_refl _
    · rw [services]
      rcases starPublished_capture.mp published with earlier | ⟨rfl, rfl⟩
      · by_cases here : author = node
        · subst here
          rw [Function.update_self]
          intro _ newest
          rcases counted with ⟨before, same, unchanged⟩ | next
          · rw [same] at newest
            rw [dated.slots author other earlier before newest, unchanged]
          · have bound := dated.bounded author other earlier
            rw [newest, next] at bound
            exact absurd (UInt64.lt_of_lt_of_le unwrapped bound) (UInt64.lt_irrefl _)
        · rw [Function.update_of_ne here]
          exact dated.slots author other earlier
      · rw [Function.update_self]
        exact fun _ _ => taken
    · rw [services]
      by_cases here : author = node
      · subst here
        rw [Function.update_self]
        exact fun _ => ⟨state, starPublished_capture.mpr (.inr ⟨rfl, rfl⟩), revision⟩
      · rw [Function.update_of_ne here]
        intro before
        obtain ⟨other, published, newest⟩ := dated.current author before
        exact ⟨other, starPublished_capture.mpr (.inl published), newest⟩

/-- Every step keeps the order of the states. -/
theorem step (dated : Dated events network)
    (accounted : Accounted digest addresses host sharedSecret events network)
    {event : StarEvent Node} (unwrapped : Unwrapped network event)
    (step : (starNetwork digest addresses host sharedSecret).Step network event next) :
    Dated (events ++ [event]) next := by
  have own (node : Node) : Plain (network.transports node).instanceID :=
    (plain_of_generated (accounted.star.generated node)).1
  cases event with
  | capture node slots now published => exact dated.capture unwrapped step.2
  | deliver node packet source now handed =>
      obtain ⟨before, after, _, received, _⟩ := step
      obtain ⟨reception, turn, rfl⟩ := UdpNetwork.exists_reception received
      have same := (UdpTransport.turn_cases (own node) turn).1
      refine dated.of_silent (fun _ _ _ _ same => by cases same) (fun other => ?_)
        fun _ => ⟨rfl, fun known => ⟨known, rfl⟩⟩
      by_cases here : other = node
      · subst here
        simp only [UdpNetwork.post, UdpNetwork.setPacketTasks, UdpNetwork.setTransport,
          Function.update_self]
        rw [same]
        exact ⟨rfl, rfl⟩
      · simp [UdpNetwork.post, UdpNetwork.setPacketTasks, UdpNetwork.setTransport,
          Function.update_of_ne here]
  | runPacketTask node world =>
      obtain ⟨_, rfl⟩ | ⟨packet, packets, state, _, _, rfl⟩ := UdpNetwork.runPacketTask_cases step
      · exact dated.of_silent (fun _ _ _ _ same => by cases same) (fun _ => ⟨rfl, rfl⟩)
          fun _ => ⟨rfl, fun known => ⟨known, rfl⟩⟩
      · refine dated.of_silent (fun _ _ _ _ same => by cases same) (fun _ => ⟨rfl, rfl⟩)
          fun other => ?_
        by_cases here : other = node
        · subst here
          cases state <;>
            simp [UdpNetwork.setPacketTasks, UdpNetwork.setService, SyncService.storePacket]
        · simp [UdpNetwork.setPacketTasks, UdpNetwork.setService, Function.update_of_ne here]
  | refreshProxies node world =>
      obtain rfl := step
      refine dated.of_silent (fun _ _ _ _ same => by cases same) (fun _ => ⟨rfl, rfl⟩)
        fun other => ?_
      by_cases here : other = node
      · subst here
        simp [UdpNetwork.setService, SyncService.refreshProxyMitigation, SyncService.bindProxies]
      · simp [UdpNetwork.setService, Function.update_of_ne here]
  | resetService node world =>
      obtain rfl := step
      refine dated.of_silent (fun _ _ _ _ same => by cases same) (fun _ => ⟨rfl, rfl⟩)
        fun other => ?_
      by_cases here : other = node
      · subst here
        simp [UdpNetwork.setService, SyncService.reset]
      · simp [UdpNetwork.setService, Function.update_of_ne here]

end Dated

/-! ## The snapshots of a receiver -/

/-- What a service holds of an instance. -/
def SyncService.held (service : SyncService) (instanceID : ByteString) : Option StatePacket :=
  (service.remoteSnapshots.lookup instanceID).map (·.heldState instanceID)

/-- A stored packet is offered to the snapshot of its instance. -/
theorem SyncService.held_storePacket {service : SyncService} {world : GameWorld}
    {state : StatePacket} (same : ∀ kept ∈ service.held state.instanceID,
      kept.sender = state.sender) :
    (service.storePacket world state).held state.instanceID =
      offer StatePacket.version (service.held state.instanceID) state := by
  rw [held, lookup_storePacket, Option.map_some, snapshotOf]
  refine RemoteSnapshot.receive_eq_offer (fun older => ?_) _
  cases known : service.remoteSnapshots.lookup state.instanceID with
  | none =>
      rw [known] at older
      exact absurd older UInt64.not_lt_zero
  | some snapshot => exact same (snapshot.heldState state.instanceID) (by rw [held, known]; rfl)

/-- A stored packet leaves the snapshots of the other instances. -/
theorem SyncService.held_storePacket_ne {service : SyncService} {world : GameWorld}
    {state : StatePacket} {instanceID : ByteString} (other : instanceID ≠ state.instanceID) :
    (service.storePacket world state).held instanceID = service.held instanceID := by
  rw [held, lookup_storePacket_ne other, held]

/-- A refresh of the mitigation leaves every snapshot. -/
theorem SyncService.held_refreshProxyMitigation (service : SyncService) (world : GameWorld)
    (instanceID : ByteString) :
    (service.refreshProxyMitigation world).1.held instanceID = service.held instanceID := by
  have bound := service.lookup_bindProxies world instanceID
  rw [held]
  refine (congrArg _ bound).trans ?_
  rw [Option.map_map, held]
  rfl

/-- The states in the queue of a node. -/
def queuedStates (network : UdpNetwork Node) (node : Node) : List StatePacket :=
  (network.packetTasks node).filterMap fun packet => (readStatePacket packet).toOption.join

/-- A node has handled some of the states it was handed, and has the others in its queue; of
every instance it holds the newest state it has handled. -/
def HoldsNewest (events : List (StarEvent Node)) (network : UdpNetwork Node) (node : Node) : Prop :=
  ∃ done, handedStates events node = done ++ queuedStates network node ∧
    ∀ instanceID, (network.services node).held instanceID =
      newest StatePacket.version (done.filter fun state => state.instanceID = instanceID)

namespace HoldsNewest

variable {node : Node}

/-- A step that hands nothing to the node and leaves its tasks and snapshots keeps what it
holds. -/
theorem of_same (holds : HoldsNewest events network node) {event : StarEvent Node}
    (nothing : handedStates [event] node = [])
    (tasks : next.packetTasks node = network.packetTasks node)
    (kept : ∀ instanceID, (next.services node).held instanceID =
      (network.services node).held instanceID) :
    HoldsNewest (events ++ [event]) next node := by
  obtain ⟨done, handed, newest⟩ := holds
  refine ⟨done, ?_, fun instanceID => (kept instanceID).trans (newest instanceID)⟩
  rw [queuedStates, tasks, ← queuedStates, ← handed, handedStates, List.filterMap_append,
    ← handedStates, ← handedStates, nothing, List.append_nil]

/-- The oldest queued packet is offered to what is held of its instance. -/
theorem runPacketTask (holds : HoldsNewest events network node) {world : GameWorld}
    (consistent : ∀ one ∈ handedStates events node, ∀ two ∈ handedStates events node,
      one.instanceID = two.instanceID → one.sender = two.sender)
    (handled : network.runPacketTask node world = .ok next) :
    HoldsNewest (events ++ [.runPacketTask node world]) next node := by
  obtain ⟨done, handed, newest⟩ := holds
  obtain ⟨_, rfl⟩ | ⟨packet, packets, state, queue, read, rfl⟩ :=
    UdpNetwork.runPacketTask_cases handled
  · exact of_same ⟨done, handed, newest⟩ rfl rfl fun _ => rfl
  · have split : queuedStates network node = state.toList ++
        packets.filterMap fun packet => (readStatePacket packet).toOption.join := by
      rw [queuedStates, queue, List.filterMap_cons, read]
      cases state <;> rfl
    refine ⟨done ++ state.toList, ?_, fun instanceID => ?_⟩
    · have same : handedStates (events ++ [.runPacketTask node world]) node =
          handedStates events node := by
        simp [handedStates]
      rw [same, handed, split, List.append_assoc]
      simp [queuedStates, UdpNetwork.setPacketTasks]
    · simp only [UdpNetwork.setPacketTasks, UdpNetwork.setService, Function.update_self]
      cases state with
      | none => simpa using newest instanceID
      | some state =>
          rw [Option.elim_some, Option.toList_some, List.filter_append]
          by_cases here : state.instanceID = instanceID
          · subst here
            rw [List.filter_singleton, decide_eq_true rfl, cond_true, newest_concat,
              ← newest]
            refine SyncService.held_storePacket fun kept known => ?_
            rw [Option.mem_def, newest] at known
            obtain ⟨among, _⟩ := newest_spec known
            obtain ⟨inside, same⟩ := List.mem_filter.mp among
            refine consistent kept ?_ state ?_ (of_decide_eq_true same)
            · exact handed ▸ List.mem_append_left _ inside
            · rw [handed, split]
              simp
          · rw [SyncService.held_storePacket_ne (Ne.symm here), newest,
              List.filter_singleton, decide_eq_false here]
            simp

/-- What is handed to a node is queued. -/
theorem deliver (holds : HoldsNewest events network node) {receiver : Node} {packet : ByteString}
    {source : Endpoint} {now : Nat} {handed : Option ByteString}
    (carrying : UdpNetwork Node) (tasks : carrying.packetTasks = network.packetTasks)
    (services : carrying.services = network.services)
    (received : carrying.receive digest addresses receiver packet source now = .ok next)
    (queued : next.packetTasks receiver = network.packetTasks receiver ++ handed.toList) :
    HoldsNewest (events ++ [.deliver receiver packet source now handed]) next node := by
  obtain ⟨done, before, newest⟩ := holds
  obtain ⟨reception, turn, rfl⟩ := UdpNetwork.exists_reception received
  refine ⟨done, ?_, fun instanceID => ?_⟩
  · by_cases here : receiver = node
    · subst here
      have new :
          handedStates (events ++ [.deliver receiver packet source now handed]) receiver =
            handedStates events receiver ++
              handed.toList.filterMap fun packet => (readStatePacket packet).toOption.join := by
        cases handed with
        | none => simp [handedStates]
        | some whole =>
            cases read : (readStatePacket whole).toOption.join <;> simp [handedStates, read]
      rw [new, before, queuedStates, queuedStates, queued, List.filterMap_append,
        List.append_assoc]
    · have new : handedStates (events ++ [.deliver receiver packet source now handed]) node =
          handedStates events node := by
        cases handed <;> simp [handedStates, here]
      rw [new, before]
      simp [queuedStates, UdpNetwork.post, UdpNetwork.setPacketTasks, UdpNetwork.setTransport,
        Function.update_of_ne (Ne.symm here), tasks]
  · simpa [UdpNetwork.post, UdpNetwork.setPacketTasks, UdpNetwork.setTransport, services]
      using newest instanceID

/-- Whatever happens but a reset, the newest states are held. -/
theorem step (holds : HoldsNewest events network node) {event : StarEvent Node}
    (consistent : ∀ one ∈ handedStates events node, ∀ two ∈ handedStates events node,
      one.instanceID = two.instanceID → one.sender = two.sender)
    (kept : ∀ world, event ≠ .resetService node world)
    (step : (starNetwork digest addresses host sharedSecret).Step network event next) :
    HoldsNewest (events ++ [event]) next node := by
  cases event with
  | capture author slots now published =>
      obtain ⟨_, services, tasks, _⟩ := UdpNetwork.capture_cases step.2
      refine holds.of_same rfl (by rw [tasks]) fun instanceID => ?_
      by_cases here : node = author
      · subst here
        rw [services, Function.update_self, SyncService.held,
          ((network.services node).localSlots_onLocalCapture slots now).1, SyncService.held]
      · rw [services, Function.update_of_ne here]
  | deliver receiver packet source now handed =>
      obtain ⟨before, after, _, received, queued⟩ := step
      exact holds.deliver { network with sent := before ++ after } rfl rfl received queued
  | runPacketTask worker world =>
      by_cases here : worker = node
      · subst here
        exact holds.runPacketTask consistent step
      · obtain ⟨_, rfl⟩ | ⟨_, _, _, _, _, rfl⟩ := UdpNetwork.runPacketTask_cases step
        · exact holds.of_same rfl rfl fun _ => rfl
        · refine holds.of_same rfl ?_ fun _ => ?_ <;>
            simp [UdpNetwork.setPacketTasks, UdpNetwork.setService,
              Function.update_of_ne (Ne.symm here)]
  | refreshProxies worker world =>
      obtain rfl := step
      refine holds.of_same rfl rfl fun instanceID => ?_
      by_cases here : node = worker
      · subst here
        simp only [UdpNetwork.setService, Function.update_self]
        exact SyncService.held_refreshProxyMitigation _ world instanceID
      · simp only [UdpNetwork.setService, Function.update_of_ne here]
  | resetService worker world =>
      obtain rfl := step
      have other : node ≠ worker := by
        rintro rfl
        exact kept world rfl
      refine holds.of_same rfl rfl fun instanceID => ?_
      simp only [UdpNetwork.setService, Function.update_of_ne other]

end HoldsNewest

/-! ## When the network is quiet -/

/-- Whoever goes by one instance ID goes by one name. -/
theorem consistent_of_accounted
    (accounted : Accounted digest addresses host sharedSecret events network)
    (dated : Dated events network) {node : Node} {one two : StatePacket}
    (first : one ∈ handedStates events node) (second : two ∈ handedStates events node)
    (same : one.instanceID = two.instanceID) : one.sender = two.sender := by
  obtain ⟨author, _, published⟩ := mem_publishedToOthers.mp ((accounted.subperm node).subset first)
  obtain ⟨other, _, further⟩ := mem_publishedToOthers.mp ((accounted.subperm node).subset second)
  obtain ⟨identity, name⟩ := dated.identity author one published
  obtain ⟨identified, named⟩ := dated.identity other two further
  obtain rfl := accounted.star.unique author other (by rw [← identity, ← identified, same])
  rw [name, named]

/-- What holds in every run of a star whose revisions do not wrap. -/
structure Converging (digest : HmacDigest) (addresses : Node → Endpoint) (host : Node)
    (sharedSecret : ByteString) (events : List (StarEvent Node)) (network : UdpNetwork Node) :
    Prop where
  accounted : Accounted digest addresses host sharedSecret events network
  dated : Dated events network
  holds : ∀ node, (∀ world, .resetService node world ∉ events) → HoldsNewest events network node

/-- Every run of a star with a guest converges. -/
theorem converging_of_runs (injective : Function.Injective addresses)
    (guests : ∃ guest, guest ≠ host)
    (computes : sharedSecret ≠ [] → ∀ data, (digest sharedSecret data).isSome)
    (run : ((starNetwork digest addresses host sharedSecret).guarded Unwrapped).Runs events
      network) : Converging digest addresses host sharedSecret events network := by
  refine run.invariant (Converging digest addresses host sharedSecret) ?_ ?_
  · intro network initial
    refine ⟨Accounted.initial initial, ?_, fun node _ => ⟨[], ?_, fun instanceID => ?_⟩⟩
    · obtain ⟨_, _, fresh⟩ := initial
      refine ⟨?_, ?_, ?_, fun author known => ?_⟩
      · rintro author state ⟨_, _, member⟩
        cases member
      · rintro author state ⟨_, _, member⟩
        cases member
      · rintro author state ⟨_, _, member⟩
        cases member
      · rw [(fresh author).1] at known
        cases known
    · simp [handedStates, queuedStates, (initial.2.2 node).2.2]
    · rw [SyncService.held, (initial.2.2 node).2.1]
      rfl
  · rintro events network event next _ ⟨accounted, dated, holds⟩ ⟨unwrapped, step⟩
    refine ⟨accounted.step injective guests computes step,
      dated.step accounted unwrapped step, fun node kept => ?_⟩
    have before := holds node fun world member => kept world (List.mem_append_left _ member)
    exact before.step (fun _ first _ second => consistent_of_accounted accounted dated first second)
      (fun world same => kept world (by simp [same])) step

namespace Converging

/-- Every snapshot is of another player. -/
theorem exists_author (converging : Converging digest addresses host sharedSecret events network)
    {node : Node} (kept : ∀ world, .resetService node world ∉ events) {instanceID : ByteString}
    {snapshot : SyncService.RemoteSnapshot}
    (stored : (network.services node).remoteSnapshots.lookup instanceID = some snapshot) :
    ∃ author ≠ node, (network.transports author).instanceID = instanceID ∧
      StarPublished events author (snapshot.heldState instanceID) := by
  obtain ⟨done, handed, newest⟩ := converging.holds node kept
  have held := newest instanceID
  rw [SyncService.held, stored, Option.map_some, eq_comm] at held
  obtain ⟨inside, _⟩ := newest_spec held
  have among : snapshot.heldState instanceID ∈ handedStates events node :=
    handed ▸ List.mem_append_left _ (List.mem_filter.mp inside).1
  obtain ⟨author, apart, published⟩ :=
    mem_publishedToOthers.mp ((converging.accounted.subperm node).subset among)
  exact ⟨author, apart, (converging.dated.identity author _ published).1.symm, published⟩

/-- Once nothing is on its way or queued, the snapshots are current. -/
theorem current (converging : Converging digest addresses host sharedSecret events network)
    (arrived : network.sent = []) {node author : Node} (apart : author ≠ node)
    (kept : ∀ world, .resetService node world ∉ events) (handled : network.packetTasks node = [])
    (known : (network.services author).hasLocalSlots = true) :
    ∃ snapshot, (network.services node).remoteSnapshots.lookup
        (network.transports author).instanceID = some snapshot ∧
      snapshot.slots = (network.services author).localSlots ∧
      snapshot.revision = (network.services author).revision ∧
      snapshot.characterName = (network.transports author).localPlayerName := by
  obtain ⟨accounted, dated, holds⟩ := converging
  obtain ⟨done, handed, newest⟩ := holds node kept
  rw [queuedStates, handled, List.filterMap_nil, List.append_nil] at handed
  have published := accounted.perm arrived node
  rw [handed] at published
  obtain ⟨current, own, revision⟩ := dated.current author known
  have among : current ∈ done.filter fun state =>
      state.instanceID = (network.transports author).instanceID :=
    List.mem_filter.mpr ⟨published.mem_iff.mpr (mem_publishedToOthers.mpr ⟨author, apart, own⟩),
      decide_eq_true (dated.identity author current own).1⟩
  have stored := newest (network.transports author).instanceID
  cases held : Base.newest StatePacket.version (done.filter fun state =>
      state.instanceID = (network.transports author).instanceID) with
  | none =>
      rw [newest_eq_none_iff.mp held] at among
      cases among
  | some state =>
      obtain ⟨inside, highest⟩ := newest_spec held
      obtain ⟨member, identified⟩ := List.mem_filter.mp inside
      obtain ⟨other, _, further⟩ := mem_publishedToOthers.mp (published.mem_iff.mp member)
      obtain ⟨identity, name⟩ := dated.identity other state further
      obtain rfl := accounted.star.unique other author
        (by rw [← identity, of_decide_eq_true identified])
      -- no published revision is above the current one, and the newest is not below it
      have latest : state.revision = (network.services other).revision :=
        UInt64.le_antisymm (dated.bounded other state further) (revision ▸ highest current among)
      rw [held, SyncService.held, Option.map_eq_some_iff] at stored
      obtain ⟨snapshot, found, rfl⟩ := stored
      exact ⟨snapshot, found, dated.slots other _ further known latest, latest, name⟩

/-- After a refresh only the snapshot of its own player is bound to an actor. -/
theorem bound (converging : Converging digest addresses host sharedSecret events network)
    {node author : Node} (kept : ∀ world, .resetService node world ∉ events) {world : GameWorld}
    {actorFormID : FormID}
    (others : ∀ other ≠ node, other ≠ author →
      world.proxyOf (network.transports other).localPlayerName ≠ actorFormID)
    {instanceID : ByteString} {snapshot : SyncService.RemoteSnapshot}
    (stored : ((network.services node).bindProxies world).remoteSnapshots.lookup instanceID =
      some snapshot) (proxy : snapshot.lastProxy = actorFormID) :
    instanceID = (network.transports author).instanceID := by
  rw [SyncService.lookup_bindProxies] at stored
  obtain ⟨before, found, rfl⟩ := Option.map_eq_some_iff.mp stored
  obtain ⟨other, apart, identity, published⟩ := converging.exists_author kept found
  by_contra foreign
  refine others other apart ?_ ?_
  · rintro rfl
    exact foreign identity.symm
  · rwa [← (converging.dated.identity other _ published).2]

end Converging

/-- In a star with a new revision for every change, once nothing is on its way and a player
that was not reset has handled its queue, its service holds the current slots of every other
player, under its name and revision. -/
theorem quiet_star_agrees (injective : Function.Injective addresses)
    (guests : ∃ guest, guest ≠ host)
    (computes : sharedSecret ≠ [] → ∀ data, (digest sharedSecret data).isSome)
    (run : ((starNetwork digest addresses host sharedSecret).guarded Unwrapped).Runs events network)
    (arrived : network.sent = []) {node author : Node} (apart : author ≠ node)
    (kept : ∀ world, .resetService node world ∉ events) (handled : network.packetTasks node = [])
    (known : (network.services author).hasLocalSlots = true) :
    ∃ snapshot, (network.services node).remoteSnapshots.lookup
        (network.transports author).instanceID = some snapshot ∧
      snapshot.slots = (network.services author).localSlots ∧
      snapshot.revision = (network.services author).revision ∧
      snapshot.characterName = (network.transports author).localPlayerName :=
  (converging_of_runs injective guests computes run).current arrived apart kept handled known

/-- When the player then refreshes its proxies, every slot query about the proxy of one of the
others, and of no further one, answers with that player's current slot. -/
theorem quiet_star_queries (injective : Function.Injective addresses)
    (guests : ∃ guest, guest ≠ host)
    (computes : sharedSecret ≠ [] → ∀ data, (digest sharedSecret data).isSome)
    (run : ((starNetwork digest addresses host sharedSecret).guarded Unwrapped).Runs events network)
    (arrived : network.sent = []) {node author : Node} (apart : author ≠ node)
    (kept : ∀ world, .resetService node world ∉ events) (handled : network.packetTasks node = [])
    (known : (network.services author).hasLocalSlots = true) {world : GameWorld}
    {actorFormID : FormID}
    (proxy : world.proxyOf (network.transports author).localPlayerName = actorFormID)
    (remote : isLikelyRemotePlayerProxy (world.lookupActor actorFormID) = true)
    (others : ∀ other ≠ node, other ≠ author →
      world.proxyOf (network.transports other).localPlayerName ≠ actorFormID)
    {slotIndex : UInt32} (inside : slotIndex.toNat < 19) (game : GameData)
    {enumeration : UnorderedMap ByteString SyncService.RemoteSnapshot}
    (perm : enumeration.entries.Perm
      ((network.services node).refreshProxyMitigation world).1.remoteSnapshots.entries) :
    { ((network.services node).refreshProxyMitigation world).1 with
        remoteSnapshots := enumeration }.queryRemoteSlot game world actorFormID slotIndex =
      SyncService.answer game
        ((network.services author).localSlots.get ⟨slotIndex.toNat, inside⟩) := by
  have converging := converging_of_runs injective guests computes run
  obtain ⟨snapshot, stored, slots, _, name⟩ :=
    converging.current arrived apart kept handled known
  have refreshed : ((network.services node).bindProxies world).remoteSnapshots.lookup
      (network.transports author).instanceID = some { snapshot with lastProxy := actorFormID } := by
    rw [SyncService.lookup_bindProxies, stored, Option.map_some, name, proxy]
  have only (entry : Sigma fun _ : ByteString => SyncService.RemoteSnapshot)
      (among : ((network.services node).bindProxies world).remoteSnapshots.lookup entry.1 =
        some entry.2) (hit : decide (entry.2.lastProxy = actorFormID) = true) :
      entry.2.slots = snapshot.slots := by
    have here := converging.bound kept others among (of_decide_eq_true hit)
    rw [here, refreshed, Option.some.injEq] at among
    rw [← among]
  obtain ⟨entry, first, same⟩ :=
    UnorderedMap.exists_find?_enumeration perm refreshed (decide_eq_true rfl) only
  rw [SyncService.queryRemoteSlot, dif_pos inside, if_neg (not_not.mpr remote)]
  simp only [first, same, slots]

end Convergence

/-! ## The guests after one state -/

/-- Serana has handled the relay's copy. -/
def starStored : UdpNetwork (Option Bool) :=
  (starArrived.setService (some true)
    ((starArrived.services (some true)).storePacket emptyWorld publishedSword)).setPacketTasks
      (some true) []

/-- The relayed copy of the sword packet is stored by the task that handles it. -/
theorem handle_swordCopy : starArrived.runPacketTask (some true) emptyWorld = .ok starStored := by
  have read : readStatePacket swordCopy = .ok (some publishedSword) :=
    (delivers_signed (fun _ => lydiaDigest_isSome _) (by decide) (by decide) (by decide) plain_one
      (by decide)).2.2
  have queue : starArrived.packetTasks (some true) = [swordCopy] := rfl
  simp only [UdpNetwork.runPacketTask, queue, SyncService.handlePacket_of_read read]
  rfl

/-- A run in which Serana holds Lydia's sword, relayed by the host. -/
theorem starStored_reached :
    ((starNetwork lydiaDigest starAddresses none (ascii "secret")).guarded Unwrapped).Runs
      [.capture (some false) swordSlots 5 (some publishedSword),
        .deliver none swordPacket senderEndpoint 6 (some swordPacket),
        .deliver (some true) swordCopy relayEndpoint 7 (some swordCopy),
        .runPacketTask (some true) emptyWorld] starStored := by
  have unwrapped : (starQuiet.services (some false)).revision <
      (starQuiet.services (some false)).revision + 1 := by decide
  refine .of_follows ?_
    ⟨starCaptured, ⟨unwrapped, receivable_publishedSword, capture_starQuiet⟩,
      starRelayed, ⟨trivial, [], [], rfl, receive_starCaptured, rfl⟩,
      starArrived, ⟨trivial, [], [], rfl, receive_starRelayed, rfl⟩,
      starStored, ⟨trivial, handle_swordCopy⟩, rfl⟩
  exact initial_starQuiet

/-- Serana holds Lydia's slots. -/
theorem sword_agreed :
    ∃ snapshot, (starStored.services (some true)).remoteSnapshots.lookup
        lydiaTransport.instanceID = some snapshot ∧
      snapshot.slots = swordSlots ∧ snapshot.revision = 7 ∧
      snapshot.characterName = ascii "Lydia" := by
  have apart : Function.Injective starAddresses := by decide
  have lydia : some false ≠ some true := by decide
  exact quiet_star_agrees apart ⟨some false, by decide⟩ (fun _ => lydiaDigest_isSome _)
    starStored_reached rfl lydia (fun world member => by simp at member) rfl rfl

/-- Serana sees Lydia's sword. -/
theorem sword_queried :
    ((starStored.services (some true)).refreshProxyMitigation lydiaWorld).1.queryRemoteSlot skyrim
        lydiaWorld 0xFF000801 0 =
      SyncService.answer skyrim (swordSlots.get ⟨0, by decide⟩) := by
  have apart : Function.Injective starAddresses := by decide
  have lydia : some false ≠ some true := by decide
  have others : ∀ other ≠ some true, other ≠ some false →
      lydiaWorld.proxyOf (starStored.transports other).localPlayerName ≠ 0xFF000801 := by
    rintro (_ | _ | _) notSerana notLydia
    · decide
    · exact absurd rfl notLydia
    · exact absurd rfl notSerana
  exact quiet_star_queries apart ⟨some false, by decide⟩ (fun _ => lydiaDigest_isSome _)
    starStored_reached rfl lydia (fun world member => by simp at member) rfl rfl (by decide)
    (by decide) others (by decide) skyrim (List.Perm.refl _)

end IEDSyncTogether
