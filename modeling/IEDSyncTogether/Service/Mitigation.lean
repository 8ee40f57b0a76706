import IEDSyncTogether.Base.Execution
import IEDSyncTogether.Base.Toggles
import IEDSyncTogether.Service.Binding

/-!
# Suppressed proxies

With the option on, `RefreshProxyMitigation` blocks the display of every actor a snapshot is
bound to and releases those that no snapshot is bound to any more; `Reset` releases all. As
long as the lookups of these actors succeed, the set of blocked proxies is the set of actors
whose last call was a block.
-/

namespace IEDSyncTogether

open Base

/-- What happens to a service; the calls for actors are observed. -/
inductive MitigationEvent where
  | packet (packet : ByteString) (world : GameWorld)
  | refresh (world : GameWorld) (calls : List BlockCall)
  | reset (world : GameWorld) (calls : List BlockCall)

namespace MitigationEvent

/-- The block calls of an event. -/
def calls : MitigationEvent → List BlockCall
  | .packet _ _ => []
  | .refresh _ calls => calls
  | .reset _ calls => calls

end MitigationEvent

/-- A service from its construction on, in any worlds. -/
def mitigationSystem : TransitionSystem SyncService MitigationEvent where
  Initial service := ∃ suppress resend, service = .initial suppress resend
  Step service event next :=
    match event with
    | .packet packet world => service.handlePacket world packet = .ok next
    | .refresh world calls => service.refreshProxyMitigation world = (next, calls)
    | .reset world calls => service.reset world = (next, calls)

/-- The block and release calls of a run, in order. -/
def blockCalls (events : List MitigationEvent) : List (FormID × Bool) :=
  events.flatMap fun event => event.calls.map fun call => (call.actor, call.blocked)

/-- The lookups of the actors that are blocked or become bound succeed. -/
def LookupsSucceed (service : SyncService) : MitigationEvent → Prop
  | .packet _ _ => True
  | .refresh world _ => ∀ formID, formID ∈ service.blockedProxies ∨
      formID ∈ (service.bindProxies world).boundProxies → (world.lookupActor formID).isSome
  | .reset world _ => ∀ formID ∈ service.blockedProxies, (world.lookupActor formID).isSome

namespace SyncService

variable {service next : SyncService} {world : GameWorld}

/-- A call is made for every actor the lookup finds. -/
theorem flatMap_setActorBlocked {formIDs : List FormID} (blocked : Bool)
    (found : ∀ formID ∈ formIDs, (world.lookupActor formID).isSome) :
    (formIDs.flatMap (setActorBlocked world · blocked)).map
        (fun call => (call.actor, call.blocked)) = formIDs.map (·, blocked) := by
  induction formIDs with
  | nil => rfl
  | cons formID formIDs ih =>
      obtain ⟨actor, here⟩ := Option.isSome_iff_exists.mp (found formID List.mem_cons_self)
      have single : setActorBlocked world formID blocked = [⟨formID, blocked⟩] := by
        simp only [setActorBlocked, here]
      rw [List.flatMap_cons, single, List.singleton_append, List.map_cons,
        ih fun other member => found other (List.mem_cons_of_mem _ member), List.map_cons]

/-- The bound proxies are the actors of the snapshots that have one. -/
theorem mem_boundProxies {formID : FormID} :
    formID ∈ service.boundProxies ↔ formID ≠ 0 ∧
      ∃ instanceID, ∃ snapshot ∈ service.remoteSnapshots.lookup instanceID,
        snapshot.lastProxy = formID := by
  rw [boundProxies, List.mem_dedup, List.mem_filter, List.mem_map, decide_eq_true_eq, and_comm]
  refine and_congr_right fun _ => ⟨?_, ?_⟩
  · rintro ⟨entry, member, rfl⟩
    exact ⟨entry.1, entry.2, AList.mem_lookup_iff.mpr member, rfl⟩
  · rintro ⟨instanceID, snapshot, found, rfl⟩
    exact ⟨⟨instanceID, snapshot⟩, AList.mem_lookup_iff.mp found, rfl⟩

/-- A refresh leaves the bound proxies blocked if the option is on, and none if it is off. -/
theorem mem_blockedProxies_refresh {formID : FormID} :
    formID ∈ (service.refreshProxyMitigation world).1.blockedProxies ↔
      (service.refreshProxyMitigation world).1.suppressRemoteNpcDisplays = true ∧
        formID ∈ (service.refreshProxyMitigation world).1.boundProxies := by
  have bound : (service.refreshProxyMitigation world).1.boundProxies =
      (service.bindProxies world).boundProxies := rfl
  have suppress : (service.refreshProxyMitigation world).1.suppressRemoteNpcDisplays =
      (service.bindProxies world).suppressRemoteNpcDisplays := rfl
  rw [bound, suppress]
  simp only [refreshProxyMitigation, List.mem_filter, List.mem_append, decide_eq_true_eq]
  constructor
  · exact And.right
  · rintro ⟨on, current⟩
    by_cases blocked : formID ∈ (service.bindProxies world).blockedProxies
    · exact ⟨.inl blocked, on, current⟩
    · exact ⟨.inr ⟨current, on, blocked⟩, on, current⟩

/-- A refresh switches exactly what changes. -/
theorem balanced_refresh {calls : List (FormID × Bool)} {made : List BlockCall}
    (balanced : Balanced calls service.blockedProxies) (distinct : service.blockedProxies.Nodup)
    (found : LookupsSucceed service (.refresh world made))
    (step : service.refreshProxyMitigation world = (next, made)) :
    Balanced (calls ++ made.map fun call => (call.actor, call.blocked)) next.blockedProxies ∧
      next.blockedProxies.Nodup := by
  cases step
  have all : ((service.bindProxies world).blockedProxies ++
      (service.bindProxies world).boundProxies.filter (fun formID =>
        (service.bindProxies world).suppressRemoteNpcDisplays ∧
          formID ∉ (service.bindProxies world).blockedProxies)).Nodup := by
    refine distinct.append ((List.nodup_dedup _).filter _) fun formID blocked added => ?_
    have new := (List.mem_filter.mp added).2
    rw [decide_eq_true_eq] at new
    exact new.2 blocked
  refine ⟨?_, all.filter _⟩
  have known : ∀ formID, formID ∈ (service.bindProxies world).blockedProxies ∨
      formID ∈ (service.bindProxies world).boundProxies → (world.lookupActor formID).isSome := found
  have addedFound : ∀ formID ∈ (service.bindProxies world).boundProxies.filter (fun formID =>
      (service.bindProxies world).suppressRemoteNpcDisplays ∧
        formID ∉ (service.bindProxies world).blockedProxies), (world.lookupActor formID).isSome :=
    fun formID member => known formID (.inr (List.mem_filter.mp member).1)
  rw [List.map_append, flatMap_setActorBlocked true addedFound, flatMap_setActorBlocked false,
    ← List.append_assoc]
  · refine (balanced.append_on ?_ ?_).append_off (fun formID member =>
      (List.mem_filter.mp member).1) (all.filter _) ?_
    · intro formID member
      have new := (List.mem_filter.mp member).2
      rw [decide_eq_true_eq] at new
      exact new.2
    · exact (List.nodup_dedup _).filter _
    · intro formID
      simp only [List.mem_filter, decide_eq_true_eq, not_and, not_or, not_not]
      exact and_congr_right fun member =>
        ⟨fun kept _ => kept, fun kept => kept member⟩
  · intro formID member
    rcases List.mem_append.mp (List.mem_filter.mp member).1 with blocked | added
    · exact known formID (.inl blocked)
    · exact addedFound formID added

/-- A reset keeps the calls balanced and the blocked proxies distinct. -/
theorem balanced_reset {calls : List (FormID × Bool)} {made : List BlockCall}
    (balanced : Balanced calls service.blockedProxies) (distinct : service.blockedProxies.Nodup)
    (found : LookupsSucceed service (.reset world made))
    (step : service.reset world = (next, made)) :
    Balanced (calls ++ made.map fun call => (call.actor, call.blocked)) next.blockedProxies ∧
      next.blockedProxies.Nodup := by
  cases step
  refine ⟨?_, List.nodup_nil⟩
  rw [flatMap_setActorBlocked false found]
  exact balanced.append_off (fun _ member => member) distinct fun formID => by simp

/-- A packet blocks and releases nothing. -/
theorem blockedProxies_handlePacket {packet : ByteString}
    (stored : service.handlePacket world packet = .ok next) :
    next.blockedProxies = service.blockedProxies := by
  rw [handlePacket] at stored
  cases read : readStatePacket packet with
  | error thrown => simp [read, bind, Except.bind] at stored
  | ok state =>
      simp only [read, bind, Except.bind] at stored
      cases state <;> cases stored <;> rfl

end SyncService

/-- In every run the set is kept balanced. -/
theorem balanced_of_runs {events : List MitigationEvent} {service : SyncService}
    (run : (mitigationSystem.guarded LookupsSucceed).Runs events service) :
    Balanced (blockCalls events) service.blockedProxies ∧ service.blockedProxies.Nodup := by
  refine run.invariant (fun events service =>
    Balanced (blockCalls events) service.blockedProxies ∧ service.blockedProxies.Nodup) ?_ ?_
  · rintro _ ⟨suppress, resend, rfl⟩
    exact ⟨balanced_nil, List.nodup_nil⟩
  · rintro events service event next _ ⟨balanced, distinct⟩ ⟨allowed, step⟩
    rw [blockCalls, List.flatMap_append, List.flatMap_singleton]
    cases event with
    | packet packet world =>
        rw [SyncService.blockedProxies_handlePacket step]
        rw [MitigationEvent.calls, List.map_nil, List.append_nil]
        exact ⟨balanced, distinct⟩
    | refresh world made => exact SyncService.balanced_refresh balanced distinct allowed step
    | reset world made => exact SyncService.balanced_reset balanced distinct allowed step

/-- The blocked proxies are those whose last call was a block, no proxy is blocked twice
without a release in between, and a refresh leaves the bound proxies blocked if the option is on
and none if it is off. -/
def SuppressionBalanced (events : List MitigationEvent) (service : SyncService) : Prop :=
  (∀ formID, formID ∈ service.blockedProxies ↔
    lastToggle (blockCalls events) formID = some true) ∧
  (∀ formID before between after, blockCalls events =
    before ++ (formID, true) :: (between ++ (formID, true) :: after) →
      (formID, false) ∈ between) ∧
  ∀ earlier world calls, events = earlier ++ [.refresh world calls] →
    ∀ formID, formID ∈ service.blockedProxies ↔
      service.suppressRemoteNpcDisplays = true ∧ formID ≠ 0 ∧
        ∃ instanceID, ∃ snapshot ∈ service.remoteSnapshots.lookup instanceID,
          snapshot.lastProxy = formID

/-- The suppression is balanced after every step of a run in which the lookups succeed. -/
theorem suppression_balanced {events : List MitigationEvent} {service : SyncService}
    (run : (mitigationSystem.guarded LookupsSucceed).Runs events service) :
    SuppressionBalanced events service := by
  obtain ⟨balanced, _⟩ := balanced_of_runs run
  refine ⟨balanced.exact, ?_, ?_⟩
  · intro formID before between after shape
    exact Alternating.opposite_between (shape ▸ balanced.alternating)
  · intro earlier world calls last formID
    cases run with
    | initial valid => simp at last
    | @step events before event _ prior transition =>
        obtain ⟨rfl, single⟩ := List.append_inj' last rfl
        obtain rfl := (List.cons.inj single).1
        have refreshed : (before.refreshProxyMitigation world).1 = service :=
          congrArg Prod.fst transition.2
        rw [← SyncService.mem_boundProxies, ← refreshed, SyncService.mem_blockedProxies_refresh]

/-- The service that suppresses Lydia's proxy. -/
def suppressingService : SyncService :=
  (((SyncService.initial true 5000).storePacket lydiaWorld armedState).refreshProxyMitigation
    lydiaWorld).1

/-- Blocking Lydia's proxy is balanced. -/
theorem suppressing_balanced :
    SuppressionBalanced [.packet (untagged armedState) lydiaWorld,
      .refresh lydiaWorld [⟨lydiaActor.formID, true⟩]] suppressingService := by
  have start : (mitigationSystem.guarded LookupsSucceed).Initial (.initial true 5000) :=
    ⟨_, _, rfl⟩
  have handled : (SyncService.initial true 5000).handlePacket lydiaWorld (untagged armedState) =
      .ok ((SyncService.initial true 5000).storePacket lydiaWorld armedState) :=
    SyncService.handlePacket_of_read
      (readStatePacket_untagged (by decide) (by decide) (by decide) (by decide))
  apply suppression_balanced
  refine .of_follows start ?_
  refine ⟨_, ⟨trivial, handled⟩, suppressingService, ⟨?_, Prod.ext rfl (by decide)⟩, rfl⟩
  rintro formID (blocked | bound)
  · cases blocked
  · have only : formID ∈ [lydiaActor.formID] := bound
    rw [List.mem_singleton.mp only]
    rfl

end IEDSyncTogether
