import IEDSyncTogether.Service.ProxyResolver
import IEDSyncTogether.Service.StatePacket

/-!
# The synchronisation service

`SyncService` numbers and sends the local slots, keeps one snapshot for every instance it
hears of, binds the snapshots to the actors of their characters, and answers slot queries
for these actors. The capture timer and the choice of a transport are left out.
-/

namespace IEDSyncTogether

open Base

/-- The last state of an instance. -/
structure SyncService.RemoteSnapshot where
  slots : SlotState
  revision : UInt64
  characterName : ByteString
  lastProxy : FormID
deriving DecidableEq

/-- The set of blocked proxies is listed in some enumeration order. -/
structure SyncService where
  suppressRemoteNpcDisplays : Bool
  resendIntervalMs : Nat
  localSlots : SlotState
  hasLocalSlots : Bool
  revision : UInt64
  lastSend : Nat
  remoteSnapshots : UnorderedMap ByteString SyncService.RemoteSnapshot
  blockedProxies : List FormID

/-- A call of `SetActorBlocked`. -/
structure BlockCall where
  actor : FormID
  blocked : Bool
deriving DecidableEq

/-- `SlotOverrideResult`: what a slot query answers. -/
inductive SlotOverrideResult where
  | kNotRemote
  | kEmpty
  | kForm
deriving DecidableEq

namespace SyncService

/-- A constructed service with the options of its configuration. -/
def initial (suppressRemoteNpcDisplays : Bool) (resendIntervalMs : Nat) : SyncService where
  suppressRemoteNpcDisplays := suppressRemoteNpcDisplays
  resendIntervalMs := resendIntervalMs
  localSlots := Vector.replicate 19 none
  hasLocalSlots := false
  revision := 0
  lastSend := 0
  remoteSnapshots := ∅
  blockedProxies := []

/-- `SetActorBlocked` on the actor of a form ID, if the lookup finds one. -/
def setActorBlocked (world : GameWorld) (formID : FormID) (blocked : Bool) : List BlockCall :=
  match world.lookupActor formID with
  | none => []
  | some _ => [⟨formID, blocked⟩]

/-- `Reset`: every blocked proxy is released and the snapshots are dropped. -/
def reset (service : SyncService) (world : GameWorld) : SyncService × List BlockCall :=
  ({ service with blockedProxies := [], remoteSnapshots := ∅, hasLocalSlots := false },
    service.blockedProxies.flatMap fun formID => setActorBlocked world formID false)

/-- The service after a capture, and the payload it sends. -/
def onLocalCapture (service : SyncService) (slots : SlotState) (now : Nat) :
    SyncService × Option ByteString :=
  let changed := ¬ service.hasLocalSlots ∨ slots ≠ service.localSlots
  let resendDue := ¬ service.hasLocalSlots ∨ service.resendIntervalMs ≤ now - service.lastSend
  if ¬ changed ∧ ¬ resendDue then (service, none)
  else
    let numbered :=
      if changed then
        { service with localSlots := slots, hasLocalSlots := true, revision := service.revision + 1 }
      else service
    ({ numbered with lastSend := now }, some (statePayload numbered.revision numbered.localSlots))

namespace RemoteSnapshot

/-- A value-initialised snapshot. -/
def empty : RemoteSnapshot := ⟨Vector.replicate 19 none, 0, [], 0⟩

/-- The snapshot with the name of the packet's character, reset if that is another one. -/
def rename (snapshot : RemoteSnapshot) (sender : ByteString) : RemoteSnapshot :=
  let characterChanged := snapshot.characterName ≠ [] ∧ snapshot.characterName ≠ sender
  { (if characterChanged then empty else snapshot) with characterName := sender }

/-- The update of `HandlePacket`: a revision below the stored one is dropped. -/
def receive (snapshot : RemoteSnapshot) (packet : StatePacket) (currentProxy : FormID) :
    RemoteSnapshot :=
  let renamed := snapshot.rename packet.sender
  if packet.revision < renamed.revision then renamed
  else { renamed with slots := packet.slots, revision := packet.revision, lastProxy := currentProxy }

end RemoteSnapshot

/-- The snapshot of an instance, created by its first use. -/
def snapshotOf (service : SyncService) (instanceID : ByteString) : RemoteSnapshot :=
  (service.remoteSnapshots.lookup instanceID).getD .empty

/-- `HandlePacket` on a packet that passed its checks. -/
def storePacket (service : SyncService) (world : GameWorld) (packet : StatePacket) : SyncService :=
  { service with
    remoteSnapshots := service.remoteSnapshots.insert packet.instanceID
      ((service.snapshotOf packet.instanceID).receive packet (world.proxyOf packet.sender)) }

/-- `HandlePacket`: a state packet that is read is stored. -/
def handlePacket (service : SyncService) (world : GameWorld) (packet : ByteString) :
    Except StringError SyncService := do
  match ← readStatePacket packet with
  | none => return service
  | some packet => return service.storePacket world packet

/-- Bind every snapshot to the actor its character has now. -/
def bindProxies (service : SyncService) (world : GameWorld) : SyncService :=
  { service with
    remoteSnapshots := service.remoteSnapshots.mapValues fun _ snapshot =>
      { snapshot with lastProxy := world.proxyOf snapshot.characterName } }

/-- The proxies bound to a snapshot. -/
def boundProxies (service : SyncService) : List FormID :=
  (service.remoteSnapshots.entries.map fun entry => entry.2.lastProxy).filter (· ≠ 0) |>.dedup

/-- Bound proxies are blocked if the option is on, and all others are released. -/
def refreshProxyMitigation (service : SyncService) (world : GameWorld) :
    SyncService × List BlockCall :=
  let bound := service.bindProxies world
  let current := bound.boundProxies
  let added := current.filter fun formID =>
    bound.suppressRemoteNpcDisplays ∧ formID ∉ bound.blockedProxies
  let blocked := bound.blockedProxies ++ added
  let released := blocked.filter fun formID =>
    ¬ bound.suppressRemoteNpcDisplays ∨ formID ∉ current
  let kept := blocked.filter fun formID => bound.suppressRemoteNpcDisplays ∧ formID ∈ current
  ({ bound with blockedProxies := kept },
    added.flatMap (setActorBlocked world · true) ++
      released.flatMap (setActorBlocked world · false))

/-- The answer for one slot of a snapshot. -/
def answer (game : GameData) : Option FormIdentity → SlotOverrideResult × FormID
  | none => (.kEmpty, 0)
  | some identity =>
    match game.resolveFormIdentity identity with
    | none => (.kEmpty, 0)
    | some form => (.kForm, form.formID)

/-- The result and the form of a slot of an actor; the first snapshot bound to it counts. -/
def queryRemoteSlot (service : SyncService) (game : GameData) (world : GameWorld)
    (actorFormID : FormID) (slotIndex : UInt32) : SlotOverrideResult × FormID :=
  if inside : slotIndex.toNat < 19 then
    if ¬ isLikelyRemotePlayerProxy (world.lookupActor actorFormID) then (.kNotRemote, 0)
    else
      match service.remoteSnapshots.entries.find? fun entry => entry.2.lastProxy = actorFormID with
      | none => (.kNotRemote, 0)
      | some entry => answer game (entry.2.slots.get ⟨slotIndex.toNat, inside⟩)
  else (.kNotRemote, 0)

/-! ## What each function does -/

variable {service : SyncService} {world : GameWorld}

/-- A capture repeats the numbered slots, or numbers new ones. -/
theorem onLocalCapture_cases (service : SyncService) (slots : SlotState) (now : Nat) :
    let next := (service.onLocalCapture slots now).1
    next.hasLocalSlots = true ∧
      (∀ payload ∈ (service.onLocalCapture slots now).2,
        payload = statePayload next.revision next.localSlots) ∧
      ((service.hasLocalSlots = true ∧ next.revision = service.revision ∧
          next.localSlots = service.localSlots) ∨
        next.revision = service.revision + 1) := by
  cases known : service.hasLocalSlots with
  | false => simp [onLocalCapture, known]
  | true =>
      by_cases same : slots = service.localSlots
      · by_cases due : service.resendIntervalMs ≤ now - service.lastSend <;>
          simp [onLocalCapture, known, same, due]
      · simp [onLocalCapture, known, same]

namespace RemoteSnapshot

variable {snapshot : RemoteSnapshot} {packet : StatePacket} {proxy : FormID}

/-- Renaming keeps the revision or forgets it. -/
theorem rename_revision_le (snapshot : RemoteSnapshot) (sender : ByteString) :
    (snapshot.rename sender).revision ≤ snapshot.revision := by
  simp only [rename]
  split
  · exact UInt64.zero_le
  · exact UInt64.le_refl _

/-- The name is stored before the revisions are compared. -/
theorem receive_characterName (snapshot : RemoteSnapshot) (packet : StatePacket) (proxy : FormID) :
    (snapshot.receive packet proxy).characterName = packet.sender := by
  simp only [receive]
  split <;> rfl

/-- A packet that is not below the stored revision is stored whole. -/
theorem receive_of_le (newer : snapshot.revision ≤ packet.revision) :
    snapshot.receive packet proxy = ⟨packet.slots, packet.revision, packet.sender, proxy⟩ := by
  have kept : ¬ packet.revision < (snapshot.rename packet.sender).revision :=
    UInt64.not_lt.mpr (UInt64.le_trans (snapshot.rename_revision_le packet.sender) newer)
  simp only [receive, if_neg kept]
  rfl

/-- An older packet of the stored character changes nothing. -/
theorem receive_of_lt (older : packet.revision < snapshot.revision)
    (same : snapshot.characterName = packet.sender) : snapshot.receive packet proxy = snapshot := by
  have renamed : snapshot.rename packet.sender = snapshot := by
    simp [rename, ← same]
  simp only [receive, renamed, if_pos older]

end RemoteSnapshot

/-- A packet is stored if its checks pass. -/
theorem handlePacket_of_read {packet : ByteString} {state : Option StatePacket}
    (read : readStatePacket packet = .ok state) :
    service.handlePacket world packet = .ok (state.elim service (service.storePacket world)) := by
  rw [handlePacket, read]
  cases state <;> rfl

/-- A stored packet is received into the snapshot of its instance. -/
theorem lookup_storePacket (packet : StatePacket) :
    (service.storePacket world packet).remoteSnapshots.lookup packet.instanceID =
      some ((service.snapshotOf packet.instanceID).receive packet (world.proxyOf packet.sender)) :=
  AList.lookup_insert _

/-- Other instances keep their snapshots. -/
theorem lookup_storePacket_ne {packet : StatePacket} {instanceID : ByteString}
    (other : instanceID ≠ packet.instanceID) :
    (service.storePacket world packet).remoteSnapshots.lookup instanceID =
      service.remoteSnapshots.lookup instanceID :=
  AList.lookup_insert_ne other

/-- Binding changes the proxies only. -/
theorem lookup_bindProxies (service : SyncService) (world : GameWorld) (instanceID : ByteString) :
    (service.bindProxies world).remoteSnapshots.lookup instanceID =
      (service.remoteSnapshots.lookup instanceID).map fun snapshot =>
        { snapshot with lastProxy := world.proxyOf snapshot.characterName } :=
  UnorderedMap.lookup_mapValues _ _ _

end SyncService

end IEDSyncTogether
