import IEDSyncTogether.Adapter.Ghosts
import IEDSyncTogether.Render.Cache

/-!
# The last received state is shown

The ledger keeps the last state received from each connection since the table
last lost it. `OnMessage` stores a state at once, while a removal forgets states
only when its task runs; so a state that arrives before that task is forgotten by
an event older than itself. Without such arrivals, an empty queue means that every
mapped proxy shows the last state of its connection.
-/

namespace IEDSyncTogether

open Base

/-- The last state received from each connection since the table last lost it. -/
abbrev ReceivedLedger := ConnectionID → Option LocalIEDState

/-- What an event does to the state received last from each connection. -/
def ReceivedLedger.record (ledger : ReceivedLedger) : ProcessEvent → ReceivedLedger
  | .message message (some state) => Function.update ledger message.senderID (some state)
  | .changeTable (.removed connectionID _) => Function.update ledger connectionID none
  | .changeTable .cleared => fun _ => none
  | _ => ledger

/-- The states received last after a run of events. -/
def receivedLedger (events : List ProcessEvent) : ReceivedLedger :=
  events.foldl ReceivedLedger.record fun _ => none

theorem receivedLedger_append (events : List ProcessEvent) (event : ProcessEvent) :
    receivedLedger (events ++ [event]) = (receivedLedger events).record event := by
  simp [receivedLedger]

/-- The state an event stores. -/
def ProcessEvent.storedState : ProcessEvent → Option LocalIEDState
  | .message _ stored => stored
  | _ => none

/-- Every state stored in a run. -/
def storedStates (events : List ProcessEvent) : List LocalIEDState :=
  events.filterMap ProcessEvent.storedState

theorem storedStates_append (events : List ProcessEvent) (event : ProcessEvent) :
    storedStates (events ++ [event]) = storedStates events ++ event.storedState.toList := by
  cases stored : event.storedState <;> simp [storedStates, stored]

/-- Actors exist, dispatches are accepted, and the adapter is not reset. -/
def ProcessEvent.Steady : ProcessEvent → Prop
  | .resetAdapter => False
  | .runTask environment _ =>
    (∀ proxyFormID, environment.actorReady proxyFormID = true) ∧
      ∀ index, environment.accepts index = true
  | _ => True

/-- The task forgets the stored state of the connection when it runs. -/
def GameTask.Forgets (connectionID : ConnectionID) : GameTask → Prop
  | .proxyMapping event =>
    match event.type with
    | .kRemoved => event.connectionID = connectionID
    | .kCleared => True
    | _ => False
  | _ => False

/-- The task applies the stored state of the connection when it runs. -/
def GameTask.Applies (connectionID : ConnectionID) : GameTask → Prop
  | .applyRemote other _ => other = connectionID
  | .proxyMapping event =>
    match event.type with
    | .kAdded => event.connectionID = connectionID
    | .kUpdated => event.connectionID = connectionID
    | _ => False
  | _ => False

/-- A state is stored only while no queued task will forget its connection. -/
def StoredAfterRemovals (process : GameProcess) : ProcessEvent → Prop
  | .message message (some _) => ∀ task ∈ process.tasks, ¬ task.Forgets message.senderID
  | _ => True

/-- The proxy shows one of the states, and it has the signature of this one. -/
def ShowsState (game : GameData) (states : List LocalIEDState) (renderer : RemoteIEDRenderer)
    (proxyFormID : ProxyFormID) (state : LocalIEDState) : Prop :=
  ∃ shown ∈ states, encodeLocalIEDState shown = encodeLocalIEDState state ∧
    renderer.displayed proxyFormID = some (trackedObjects game shown)

/-- A cached signature is that of the shown state. -/
def CacheShown (game : GameData) (states : List LocalIEDState) (renderer : RemoteIEDRenderer) :
    Prop :=
  ∀ proxyFormID signature, renderer.signature proxyFormID = some signature →
    ∃ shown ∈ states, encodeLocalIEDState shown = signature ∧
      renderer.displayed proxyFormID = some (trackedObjects game shown)

section Renderer

variable {game : GameData} {states : List LocalIEDState} {renderer : RemoteIEDRenderer}
  {environment : GameEnvironment} {proxyFormID : ProxyFormID} {state : LocalIEDState}

/-- Further states do not hurt. -/
theorem ShowsState.mono {more : List LocalIEDState} (subset : states ⊆ more)
    (shows : ShowsState game states renderer proxyFormID state) :
    ShowsState game more renderer proxyFormID state := by
  obtain ⟨shown, among, same, here⟩ := shows
  exact ⟨shown, subset among, same, here⟩

/-- A renderer's cache stays shown when more states are stored. -/
theorem CacheShown.mono {more : List LocalIEDState} (subset : states ⊆ more)
    (cached : CacheShown game states renderer) : CacheShown game more renderer := by
  intro proxyFormID signature known
  obtain ⟨shown, among, same, here⟩ := cached proxyFormID signature known
  exact ⟨shown, subset among, same, here⟩

/-- Everything is dispatched where IED accepts every call. -/
theorem allDispatched_of_accepts (accepts : ∀ index, environment.accepts index = true)
    (state : LocalIEDState) :
    RemoteIEDRenderer.allDispatched game environment state = true := by
  simp [RemoteIEDRenderer.allDispatched, accepts]

/-- An accepted `Apply` shows its state. -/
theorem CacheShown.apply_shows (cached : CacheShown game states renderer)
    {request : ApplyRequest} (ready : environment.actorReady request.proxyFormID = true)
    (among : request.state ∈ states) :
    ShowsState game states (renderer.apply game environment request).renderer
      request.proxyFormID request.state := by
  by_cases skips : renderer.Skips environment request
  · obtain ⟨shown, member, same, here⟩ := cached _ _ skips.2.2
    refine ⟨shown, member, same, ?_⟩
    rw [renderer.apply_displayed, if_neg fun all => all.2.2 skips, here]
  · refine ⟨request.state, among, rfl, ?_⟩
    rw [renderer.apply_displayed, if_pos ⟨rfl, ready, skips⟩]

/-- An accepted `Apply` keeps every cached signature shown. -/
theorem CacheShown.apply (cached : CacheShown game states renderer) {request : ApplyRequest}
    (accepts : ∀ index, environment.accepts index = true) (among : request.state ∈ states) :
    CacheShown game states (renderer.apply game environment request).renderer := by
  intro other signature known
  rw [renderer.apply_signature] at known
  rw [renderer.apply_displayed]
  by_cases renders : other = request.proxyFormID ∧ renderer.Renders environment request
  · rw [if_pos ⟨renders.1, renders.2, allDispatched_of_accepts accepts _⟩] at known
    rw [if_pos renders]
    exact ⟨request.state, among, Option.some.inj known, rfl⟩
  · rw [if_neg fun all => renders ⟨all.1, all.2.1⟩] at known
    rw [if_neg renders]
    exact cached other signature known

/-- Clearing a proxy clears its signature with it. -/
theorem CacheShown.clearProxy (cached : CacheShown game states renderer) (cleared : ProxyFormID) :
    CacheShown game states (renderer.clearProxy environment cleared).1 := by
  intro other signature known
  rw [renderer.clearProxy_signature] at known
  split_ifs at known with gone
  obtain ⟨shown, among, same, here⟩ := cached other signature known
  exact ⟨shown, among, same, by rw [renderer.clearProxy_displayed, if_neg gone, here]⟩

/-- Another proxy's clear leaves what is shown. -/
theorem ShowsState.clearProxy (shows : ShowsState game states renderer proxyFormID state)
    {cleared : ProxyFormID} (other : proxyFormID = cleared → cleared = kInvalidProxyFormID) :
    ShowsState game states (renderer.clearProxy environment cleared).1 proxyFormID state := by
  obtain ⟨shown, among, same, here⟩ := shows
  refine ⟨shown, among, same, ?_⟩
  rw [renderer.clearProxy_displayed, if_neg fun gone => gone.2 (other gone.1), here]

end Renderer

namespace GameProcess

/-- What holds of the renderer and the stored states, whatever is queued. -/
structure Stores (game : GameData) (states : List LocalIEDState) (process : GameProcess) :
    Prop where
  running : process.adapter.running = true
  resolverReady : process.adapter.resolverReady = true
  valid : process.table.Valid
  cached : CacheShown game states process.renderer
  remembered : ∀ connectionID snapshot,
    process.adapter.remoteStates.lookup connectionID = some snapshot → snapshot.state ∈ states

/-- The connection's stored state is this one. -/
def Holds (process : GameProcess) (connectionID : ConnectionID) (state : LocalIEDState) : Prop :=
  ∃ snapshot, process.adapter.remoteStates.lookup connectionID = some snapshot ∧
    snapshot.state = state

section Perform

variable {game : GameData} {states : List LocalIEDState} {environment : GameEnvironment}
  {process : GameProcess} {connectionID : ConnectionID} {proxyFormID : ProxyFormID}
  {state : LocalIEDState} {force : Bool}

/-- Applying a mapped connection shows its stored state. -/
theorem Stores.applyRemote_shows (stores : process.Stores game states)
    (ready : ∀ proxyFormID, environment.actorReady proxyFormID = true)
    (mapped : process.table connectionID = some proxyFormID)
    (holds : process.Holds connectionID state) :
    ShowsState game states (process.applyRemoteOnGameThread game environment connectionID
      force).renderer proxyFormID state := by
  obtain ⟨snapshot, stored, rfl⟩ := holds
  have valid : proxyFormID ≠ kInvalidProxyFormID := fun invalid =>
    stores.valid.proxyValid connectionID (mapped.trans (congrArg some invalid))
  rw [applyRemoteOnGameThread, if_neg (by simp [stores.running, stores.resolverReady])]
  simp only [stored, mapped, if_neg valid]
  exact stores.cached.apply_shows (ready _) (stores.remembered connectionID snapshot stored)

/-- Applying a connection keeps the stores. -/
theorem Stores.applyRemote (stores : process.Stores game states)
    (accepts : ∀ index, environment.accepts index = true) :
    (process.applyRemoteOnGameThread game environment connectionID force).Stores game states := by
  rcases process.applyRemote_cases game environment connectionID force with
    same | ⟨snapshot, target, stored, _, _, same⟩
  · rw [same]
    exact stores
  · rw [same]
    exact {
      running := stores.running
      resolverReady := stores.resolverReady
      valid := stores.valid
      cached := stores.cached.apply accepts (stores.remembered connectionID snapshot stored)
      remembered := stores.remembered }

/-- Applying any connection keeps what a mapped proxy shows. -/
theorem Stores.applyRemote_keeps (stores : process.Stores game states)
    (ready : ∀ proxyFormID, environment.actorReady proxyFormID = true)
    (mapped : process.table connectionID = some proxyFormID)
    (holds : process.Holds connectionID state)
    (shows : ShowsState game states process.renderer proxyFormID state) (other : ConnectionID) :
    ShowsState game states (process.applyRemoteOnGameThread game environment other
      force).renderer proxyFormID state := by
  by_cases same : other = connectionID
  · subst same
    exact stores.applyRemote_shows ready mapped holds
  · rcases process.applyRemote_cases game environment other force with
      idle | ⟨snapshot, target, stored, elsewhere, _, applied⟩
    · rw [idle]
      exact shows
    · obtain ⟨shown, among, signature, here⟩ := shows
      refine ⟨shown, among, signature, ?_⟩
      have apart : proxyFormID ≠ target := fun shared =>
        same (stores.valid.injective other connectionID target elsewhere (shared ▸ mapped))
      rw [applied, applyState, RemoteIEDRenderer.apply_displayed, if_neg fun all => apart all.1,
        here]

/-- Clearing a proxy keeps what is stored. -/
theorem Stores.clearProxy (stores : process.Stores game states) (cleared : ProxyFormID) :
    (process.clearProxy environment cleared).Stores game states where
  running := stores.running
  resolverReady := stores.resolverReady
  valid := stores.valid
  cached := stores.cached.clearProxy cleared
  remembered := stores.remembered

theorem Stores.clearReplaced (stores : process.Stores game states)
    (event : STRPM.ProxyMappingEvent) :
    (process.clearReplaced environment event).Stores game states := by
  unfold GameProcess.clearReplaced
  split
  · exact stores.clearProxy _
  · exact stores

theorem holds_clearReplaced (holds : process.Holds connectionID state)
    (event : STRPM.ProxyMappingEvent) :
    (process.clearReplaced environment event).Holds connectionID state := by
  unfold clearReplaced
  split
  · exact holds
  · exact holds

section Task

variable {scenes : ProxyFormID → Option ProxyScene} {task : GameTask}

/-- A task keeps the stores. -/
theorem Stores.performTask (stores : process.Stores game states)
    (accepts : ∀ index, environment.accepts index = true) :
    (process.performTask game environment scenes task).Stores game states := by
  cases task with
  | applyRemote connectionID force => exact stores.applyRemote accepts
  | proxyMapping event =>
      rw [GameProcess.performTask, handleProxyMappingOnGameThread, if_neg (by simp [stores.running])]
      cases event.type with
      | kAdded => exact stores.applyRemote accepts
      | kUpdated => exact (stores.clearReplaced event).applyRemote accepts
      | kRemoved =>
          exact {
            running := stores.running
            resolverReady := stores.resolverReady
            valid := stores.valid
            cached := stores.cached.clearProxy event.oldFormID
            remembered := by
              intro other snapshot stored
              by_cases same : other = event.connectionID
              · subst same
                simp [forgetRemote] at stored
              · refine stores.remembered other snapshot ?_
                simpa [forgetRemote, GameProcess.clearProxy, AList.lookup_erase_ne same]
                  using stored }
      | kCleared =>
          exact {
            running := stores.running
            resolverReady := stores.resolverReady
            valid := stores.valid
            cached := by
              intro other signature known
              cases known
            remembered := by
              intro other snapshot stored
              cases stored }
  | rendererReset =>
      exact { stores with
        cached := by
          intro other signature known
          cases known }
  | watchdogTick =>
      exact { stores with
        cached := by
          intro other signature known
          rw [GameProcess.performTask, RemoteIEDRenderer.displayed_runWatchdogTask]
          exact stores.cached other signature known }

/-- Only a forgetting task removes a stored state. -/
theorem holds_performTask (holds : process.Holds connectionID state)
    (kept : ¬ task.Forgets connectionID) :
    (process.performTask game environment scenes task).Holds connectionID state := by
  have applied (process : GameProcess) (holds : process.Holds connectionID state)
      (other : ConnectionID) (force : Bool) :
      (process.applyRemoteOnGameThread game environment other force).Holds connectionID state := by
    rcases process.applyRemote_cases game environment other force with
      same | ⟨snapshot, target, _, _, _, same⟩
    · rwa [same]
    · rw [same]
      exact holds
  cases task with
  | applyRemote other force => exact applied process holds other force
  | proxyMapping event =>
      obtain ⟨type, other, oldFormID, newFormID⟩ := event
      rw [performTask, handleProxyMappingOnGameThread]
      split
      · exact holds
      · cases type with
        | kAdded => exact applied process holds _ _
        | kUpdated => exact applied _ (holds_clearReplaced holds _) _ _
        | kRemoved =>
            obtain ⟨snapshot, stored, same⟩ := holds
            refine ⟨snapshot, ?_, same⟩
            have apart : connectionID ≠ other := fun here => kept here.symm
            simpa [forgetRemote, clearProxy, AList.lookup_erase_ne apart] using stored
        | kCleared => exact absurd trivial kept
  | rendererReset => exact holds
  | watchdogTick => exact holds

variable (stores : process.Stores game states)
  (ready : ∀ proxyFormID, environment.actorReady proxyFormID = true)
  (mapped : process.table connectionID = some proxyFormID)
  (holds : process.Holds connectionID state)

include stores ready mapped holds

/-- A task that applies a mapped connection shows its stored state. -/
theorem performTask_shows (applies : task.Applies connectionID) :
    ShowsState game states (process.performTask game environment scenes task).renderer
      proxyFormID state := by
  cases task with
  | applyRemote other force =>
      obtain rfl : other = connectionID := applies
      exact stores.applyRemote_shows ready mapped holds
  | proxyMapping event =>
      obtain ⟨type, other, oldFormID, newFormID⟩ := event
      rw [performTask, handleProxyMappingOnGameThread, if_neg (by simp [stores.running])]
      cases type with
      | kAdded =>
          obtain rfl : other = connectionID := applies
          exact stores.applyRemote_shows ready mapped holds
      | kUpdated =>
          obtain rfl : other = connectionID := applies
          exact (stores.clearReplaced _).applyRemote_shows ready (by simpa using mapped)
            (holds_clearReplaced holds _)
      | kRemoved => cases applies
      | kCleared => cases applies
  | rendererReset => cases applies
  | watchdogTick => cases applies

/-- A task that does not clear a mapped proxy keeps what it shows. -/
theorem performTask_keeps (shows : ShowsState game states process.renderer proxyFormID state)
    (kept : ¬ task.Clears proxyFormID) :
    ShowsState game states (process.performTask game environment scenes task).renderer
      proxyFormID state := by
  cases task with
  | applyRemote other force => exact stores.applyRemote_keeps ready mapped holds shows other
  | proxyMapping event =>
      obtain ⟨type, other, oldFormID, newFormID⟩ := event
      rw [performTask, handleProxyMappingOnGameThread, if_neg (by simp [stores.running])]
      cases type with
      | kAdded => exact stores.applyRemote_keeps ready mapped holds shows other
      | kUpdated =>
          refine (stores.clearReplaced _).applyRemote_keeps ready (by simpa using mapped)
            (holds_clearReplaced holds _) ?_ other
          unfold clearReplaced
          split
          · next replaced =>
              apply shows.clearProxy
              intro here
              exact absurd ⟨here.symm, fun new => replaced.2 (here.symm.trans new.symm)⟩ kept
          · exact shows
      | kRemoved => exact shows.clearProxy fun here => absurd here.symm kept
      | kCleared => exact absurd trivial kept
  | rendererReset => exact absurd trivial kept
  | watchdogTick =>
      obtain ⟨shown, among, same, here⟩ := shows
      refine ⟨shown, among, same, ?_⟩
      rw [performTask, RemoteIEDRenderer.displayed_runWatchdogTask, here]

end Task

end Perform

/-- A queued task will apply the connection, and none behind it clears the proxy. -/
def Owed (tasks : List GameTask) (connectionID : ConnectionID) (proxyFormID : ProxyFormID) :
    Prop :=
  ∃ before task after, tasks = before ++ task :: after ∧ task.Applies connectionID ∧
    ∀ other ∈ after, ¬ other.Clears proxyFormID

/-- The proxy shows the state and keeps it, or a queued task will apply it. -/
def Promised (game : GameData) (states : List LocalIEDState) (renderer : RemoteIEDRenderer)
    (tasks : List GameTask) (connectionID : ConnectionID) (proxyFormID : ProxyFormID)
    (state : LocalIEDState) : Prop :=
  Owed tasks connectionID proxyFormID ∨
    (∀ task ∈ tasks, ¬ task.Clears proxyFormID) ∧
      ShowsState game states renderer proxyFormID state

/-- Every connection in the ledger is stored and will not be forgotten; if it is
mapped, its proxy shows its state or will. -/
structure Fresh (game : GameData) (states : List LocalIEDState) (ledger : ReceivedLedger)
    (process : GameProcess) : Prop where
  stores : process.Stores game states
  holds : ∀ connectionID state, ledger connectionID = some state →
    process.Holds connectionID state ∧ ∀ task ∈ process.tasks, ¬ task.Forgets connectionID
  shown : ∀ connectionID proxyFormID state, process.table connectionID = some proxyFormID →
    ledger connectionID = some state →
    Promised game states process.renderer process.tasks connectionID proxyFormID state

/-- Tasks that do not clear the proxy break no promise about it. -/
theorem Promised.append {game : GameData} {states : List LocalIEDState}
    {renderer : RemoteIEDRenderer} {tasks extra : List GameTask} {connectionID : ConnectionID}
    {proxyFormID : ProxyFormID} {state : LocalIEDState}
    (promised : Promised game states renderer tasks connectionID proxyFormID state)
    (harmless : ∀ task ∈ extra, ¬ task.Clears proxyFormID) :
    Promised game states renderer (tasks ++ extra) connectionID proxyFormID state := by
  rcases promised with ⟨before, task, after, rfl, applies, clean⟩ | ⟨clean, shows⟩
  · refine .inl ⟨before, task, after ++ extra, by simp, applies, ?_⟩
    intro other member
    exact (List.mem_append.mp member).elim (clean other) (harmless other)
  · refine .inr ⟨?_, shows⟩
    intro other member
    exact (List.mem_append.mp member).elim (clean other) (harmless other)

/-- Queueing the task that applies a connection is enough. -/
theorem owed_of_applies (tasks : List GameTask) {task : GameTask} {connectionID : ConnectionID}
    (applies : task.Applies connectionID) (proxyFormID : ProxyFormID) :
    Owed (tasks ++ [task]) connectionID proxyFormID :=
  ⟨tasks, task, [], rfl, applies, by simp⟩

/-- An entry behind a change was set by it, or was there before; then no other
connection had a proxy the change takes away. -/
theorem applies_or_kept {table : STRPM.ProxyTable} (valid : table.Valid)
    {change : STRPM.TableChange} (applies : change.Applies table) {connectionID : ConnectionID}
    {proxyFormID : ProxyFormID}
    (mapped : change.perform table connectionID = some proxyFormID) :
    (GameTask.proxyMapping change.event).Applies connectionID ∨
      table connectionID = some proxyFormID ∧
        ¬ (GameTask.proxyMapping change.event).Clears proxyFormID := by
  cases change with
  | added changed newFormID =>
      by_cases here : connectionID = changed
      · exact .inl here.symm
      · rw [STRPM.TableChange.perform, Function.update_of_ne here] at mapped
        exact .inr ⟨mapped, id⟩
  | updated changed oldFormID newFormID =>
      by_cases here : connectionID = changed
      · exact .inl here.symm
      · rw [STRPM.TableChange.perform, Function.update_of_ne here] at mapped
        refine .inr ⟨mapped, ?_⟩
        rintro ⟨rfl, _⟩
        exact here (valid.injective _ _ _ mapped applies)
  | removed changed oldFormID =>
      by_cases here : connectionID = changed
      · rw [here, STRPM.TableChange.perform, Function.update_self] at mapped
        cases mapped
      · rw [STRPM.TableChange.perform, Function.update_of_ne here] at mapped
        refine .inr ⟨mapped, ?_⟩
        intro taken
        obtain rfl : oldFormID = proxyFormID := taken
        exact here (valid.injective _ _ _ mapped applies)
  | cleared => cases mapped

/-- What the ledger keeps across a change was there before, and the change's event
does not forget it. -/
theorem remembered_of_record {ledger : ReceivedLedger} {change : STRPM.TableChange}
    {connectionID : ConnectionID} {state : LocalIEDState}
    (received : ledger.record (.changeTable change) connectionID = some state) :
    ledger connectionID = some state ∧
      ¬ (GameTask.proxyMapping change.event).Forgets connectionID := by
  cases change with
  | added changed newFormID => exact ⟨received, id⟩
  | updated changed oldFormID newFormID => exact ⟨received, id⟩
  | removed changed oldFormID =>
      by_cases here : connectionID = changed
      · rw [here, ReceivedLedger.record, Function.update_self] at received
        cases received
      · rw [ReceivedLedger.record, Function.update_of_ne here] at received
        exact ⟨received, fun taken => here taken.symm⟩
  | cleared => cases received

namespace Fresh

variable {game : GameData} {states : List LocalIEDState} {ledger : ReceivedLedger}
  {process : GameProcess}

/-- The oldest task runs with actors present and dispatches accepted. -/
theorem runTask (fresh : process.Fresh game states ledger) {environment : GameEnvironment}
    (scenes : ProxyFormID → Option ProxyScene)
    (ready : ∀ proxyFormID, environment.actorReady proxyFormID = true)
    (accepts : ∀ index, environment.accepts index = true) :
    (process.runTask game environment scenes).Fresh game states ledger := by
  rw [GameProcess.runTask]
  split
  · exact fresh
  · next task tasks queue =>
      have stores : Stores game states { process with tasks } := { fresh.stores with }
      have frame := { process with tasks }.extends_performTask game environment scenes task
      obtain ⟨ticks, grown, harmless⟩ := frame.tasks
      have tickClears : ∀ proxyFormID, ∀ other ∈ ticks, ¬ other.Clears proxyFormID := by
        intro proxyFormID other member
        rw [harmless other member]
        exact id
      refine ⟨stores.performTask accepts, ?_, ?_⟩
      · intro connectionID state received
        obtain ⟨holds, kept⟩ := fresh.holds connectionID state received
        rw [queue] at kept
        refine ⟨@holds_performTask game environment { process with tasks } _ _ scenes task
          holds (kept task List.mem_cons_self), ?_⟩
        rw [grown]
        intro other member
        rcases List.mem_append.mp member with later | tick
        · exact kept other (List.mem_cons_of_mem _ later)
        · rw [harmless other tick]
          exact id
      · intro connectionID proxyFormID state mapped received
        rw [frame.table] at mapped
        obtain ⟨holds, _⟩ := fresh.holds connectionID state received
        have shown := fresh.shown connectionID proxyFormID state mapped received
        rw [queue] at shown
        rw [grown]
        refine Promised.append ?_ (tickClears proxyFormID)
        rcases shown with ⟨before, owing, after, split, applies, clean⟩ | ⟨clean, shows⟩
        · cases before with
          | nil =>
              obtain ⟨rfl, rfl⟩ := List.cons.inj split
              exact .inr ⟨clean, performTask_shows stores ready mapped holds applies⟩
          | cons first before =>
              obtain ⟨rfl, rfl⟩ := List.cons.inj split
              exact .inl ⟨before, owing, after, rfl, applies, clean⟩
        · exact .inr ⟨fun other later => clean other (List.mem_cons_of_mem _ later),
            performTask_keeps stores ready mapped holds shows (clean task List.mem_cons_self)⟩

/-- A change of the table keeps the law of the connections it leaves mapped. -/
theorem changeTable (fresh : process.Fresh game states ledger) {change : STRPM.TableChange}
    (applies : change.Applies process.table) (valid : (change.perform process.table).Valid) :
    (process.changeTable change).Fresh game states (ledger.record (.changeTable change)) := by
  have same : process.changeTable change =
      { process with table := change.perform process.table }.addTask
        (.proxyMapping change.event) := by
    simp [GameProcess.changeTable, onProxyMapping, fresh.stores.running]
  rw [same]
  refine ⟨{ fresh.stores with valid }, ?_, ?_⟩
  · intro connectionID state received
    obtain ⟨earlier, remembered⟩ := remembered_of_record received
    obtain ⟨holds, clean⟩ := fresh.holds connectionID state earlier
    exact ⟨holds, forall_mem_addTask clean remembered⟩
  · intro connectionID proxyFormID state mapped received
    obtain ⟨earlier, _⟩ := remembered_of_record received
    rcases applies_or_kept fresh.stores.valid applies mapped with applied | ⟨before, unclear⟩
    · exact .inl (owed_of_applies process.tasks applied proxyFormID)
    · have promised := fresh.shown connectionID proxyFormID state before earlier
      exact promised.append (List.forall_mem_singleton.mpr unclear)

/-- A stored message becomes the connection's state and queues its `Apply`. -/
theorem storeMessage (fresh : process.Fresh game states ledger) (message : STRPM.Message)
    (state : LocalIEDState)
    (kept : ∀ task ∈ process.tasks, ¬ task.Forgets message.senderID) :
    let stored := { process with
      adapter := { process.adapter with
        remoteStates := process.adapter.remoteStates.insert message.senderID
          ⟨state, message.displayName, message.sequence⟩ } }
    (stored.addTask (.applyRemote message.senderID false)).Fresh game (states ++ [state])
      (Function.update ledger message.senderID (some state)) := by
  have subset : states ⊆ states ++ [state] := List.subset_append_left _ _
  refine ⟨⟨fresh.stores.running, fresh.stores.resolverReady, fresh.stores.valid,
    fresh.stores.cached.mono subset, ?_⟩, ?_, ?_⟩
  · intro connectionID snapshot remembered
    by_cases here : connectionID = message.senderID
    · subst here
      obtain rfl := Option.some.inj ((AList.lookup_insert _).symm.trans remembered)
      exact List.mem_append_right _ List.mem_cons_self
    · refine subset (fresh.stores.remembered connectionID snapshot ?_)
      exact (AList.lookup_insert_ne here).symm.trans remembered
  · intro connectionID other received
    by_cases here : connectionID = message.senderID
    · subst here
      obtain rfl : state = other := by simpa using received
      exact ⟨⟨_, AList.lookup_insert _, rfl⟩, forall_mem_addTask kept id⟩
    · rw [Function.update_of_ne here] at received
      obtain ⟨⟨snapshot, remembered, same⟩, clean⟩ := fresh.holds connectionID other received
      exact ⟨⟨snapshot, (AList.lookup_insert_ne here).trans remembered, same⟩,
        forall_mem_addTask clean id⟩
  · intro connectionID proxyFormID other mapped received
    by_cases here : connectionID = message.senderID
    · have applies : (GameTask.applyRemote message.senderID false).Applies connectionID :=
        here.symm
      exact .inl (owed_of_applies process.tasks applies proxyFormID)
    · rw [Function.update_of_ne here] at received
      have promised := fresh.shown connectionID proxyFormID other mapped received
      exact Promised.append (promised.imp_right fun settled => ⟨settled.1, settled.2.mono subset⟩)
        (List.forall_mem_singleton.mpr id)

/-- A message keeps the law if no queued task will forget what it stores. -/
theorem onMessage (fresh : process.Fresh game states ledger) (message : STRPM.Message)
    (after : StoredAfterRemovals process
      (.message message (process.adapter.receivedState message))) :
    (process.onMessage message).Fresh game
      (states ++ (process.adapter.receivedState message).toList)
      (ledger.record (.message message (process.adapter.receivedState message))) := by
  rw [GameProcess.onMessage]
  cases received : process.adapter.receivedState message with
  | none => simpa [ReceivedLedger.record] using fresh
  | some state =>
      rw [received] at after
      have sender : message.senderID ≠ 0 := STRPMAdapter.senderID_ne_zero received
      simp only [queueRemoteApply, if_neg sender]
      exact fresh.storeMessage message state after

/-- A tick scheduled by the watchdog thread changes nothing that matters. -/
theorem scheduleWatchdogTick (fresh : process.Fresh game states ledger) :
    (process.scheduleWatchdogTick).Fresh game states ledger where
  stores := { fresh.stores with }
  holds := by
    intro connectionID state received
    obtain ⟨holds, clean⟩ := fresh.holds connectionID state received
    refine ⟨holds, ?_⟩
    intro task member
    rcases List.mem_append.mp member with earlier | tick
    · exact clean task earlier
    · split at tick
      · rw [List.mem_singleton.mp tick]
        exact id
      · cases tick
  shown := by
    intro connectionID proxyFormID state mapped received
    refine (fresh.shown connectionID proxyFormID state mapped received).append ?_
    intro task tick
    split at tick
    · rw [List.mem_singleton.mp tick]
      exact id
    · cases tick

end Fresh

end GameProcess

/-- The steps of the law: the game is there for every task, and no stored state is
older than a removal still queued. -/
def FreshStep (process : GameProcess) (event : ProcessEvent) : Prop :=
  event.Steady ∧ StoredAfterRemovals process event

/-- The process is fresh after every guarded run. -/
theorem fresh_of_runs {game : GameData} {events : List ProcessEvent} {process : GameProcess}
    (run : ((processSystem game).guarded FreshStep).Runs events process) :
    process.Fresh game (storedStates events) (receivedLedger events) := by
  apply TransitionSystem.Runs.invariant
    (fun events process => process.Fresh game (storedStates events) (receivedLedger events)) _ _ run
  · rintro process ⟨renderer, tasks, remoteStates, running, ready, valid⟩
    refine ⟨⟨running, ready, valid, ?_, ?_⟩, ?_, ?_⟩
    · intro proxyFormID signature known
      rw [renderer] at known
      cases known
    · intro connectionID snapshot known
      rw [remoteStates] at known
      cases known
    · intro connectionID state received
      cases received
    · intro connectionID proxyFormID state mapped received
      cases received
  · intro events process event next _ fresh ⟨⟨steady, after⟩, step⟩
    rw [receivedLedger_append, storedStates_append]
    cases event with
    | changeTable change =>
        obtain ⟨applies, valid, rfl⟩ := step
        simpa [ProcessEvent.storedState] using fresh.changeTable applies valid
    | message message stored =>
        obtain ⟨rfl, rfl⟩ := step
        exact fresh.onMessage message after
    | scheduleWatchdogTick =>
        obtain rfl := step
        simpa [ProcessEvent.storedState, ReceivedLedger.record] using fresh.scheduleWatchdogTick
    | resetAdapter => exact absurd steady id
    | runTask environment scenes =>
        obtain rfl := step
        simpa [ProcessEvent.storedState, ReceivedLedger.record] using
          fresh.runTask scenes steady.1 steady.2

/-- Once the queue is empty, every mapped proxy shows the last state received from
its connection since the table last lost it. -/
def LastStatesShown (game : GameData) (events : List ProcessEvent) (process : GameProcess) : Prop :=
  process.tasks = [] → ∀ connectionID proxyFormID state,
    process.table connectionID = some proxyFormID →
    receivedLedger events connectionID = some state →
    process.renderer.displayed proxyFormID = some (trackedObjects game state)

/-- In a run whose stored states are all newer than the queued removals the last
states are shown, provided that no two different states of the run have the same
signature. -/
theorem last_received_states_shown {game : GameData} {events : List ProcessEvent}
    {process : GameProcess} (run : ((processSystem game).guarded FreshStep).Runs events process)
    (separated : ∀ first ∈ storedStates events, ∀ second ∈ storedStates events,
      encodeLocalIEDState first = encodeLocalIEDState second → first = second) :
    LastStatesShown game events process := by
  intro idle connectionID proxyFormID state mapped received
  have fresh := fresh_of_runs run
  obtain ⟨⟨snapshot, stored, rfl⟩, _⟩ := fresh.holds connectionID _ received
  have among := fresh.stores.remembered connectionID snapshot stored
  rcases fresh.shown connectionID proxyFormID _ mapped received with
    ⟨before, task, after, queue, _⟩ | ⟨_, shown, member, same, here⟩
  · rw [idle] at queue
    simp at queue
  · rw [here, separated shown member snapshot.state among same]

/-- The oldest task runs in a game in which every actor is loaded. -/
def GameProcess.openTurn (process : GameProcess) : GameProcess :=
  process.runTask skyrim openGame fun _ => none

/-- The event of such a turn. -/
def openTask : ProcessEvent := .runTask openGame fun _ => none

/-- Running the next task is always a fresh step. -/
theorem openTask_fresh (process : GameProcess) : FreshStep process openTask :=
  ⟨⟨fun _ => rfl, fun _ => rfl⟩, trivial⟩

/-- The peer of connection 7 has drawn its sword. -/
def swordMessage : STRPM.Message := ⟨encodeLocalIEDState swordState, 7, ascii "Lydia", 2⟩

/-- The empty state of the peer is shown. -/
def bareShown : GameProcess := (startedProcess.onMessage bareMessage).openTurn.openTurn

/-- The peer has left, and the task of its removal has run. -/
def departed : GameProcess := (bareShown.changeTable (.removed 7 lydia)).openTurn

/-- The peer is back, and the task of its addition has run. -/
def returned : GameProcess := (departed.changeTable (.added 7 lydia)).openTurn

/-- The sword of the peer is shown. -/
def swordDisplayed : GameProcess := (returned.onMessage swordMessage).openTurn.openTurn

theorem table_bareShown : bareShown.table = startedProcess.table := by
  simp [bareShown, GameProcess.openTurn]

theorem table_departed : departed.table = fun _ => none := by
  simp [departed, GameProcess.openTurn, table_bareShown, startedProcess, STRPM.TableChange.perform]

/-- The peer shows nothing, leaves, comes back and draws its sword. -/
theorem returned_peer_shown :
    let events : List ProcessEvent :=
      [.message bareMessage (some STRPMAdapter.emptyState), openTask, openTask,
        .changeTable (.removed 7 lydia), openTask, .changeTable (.added 7 lydia), openTask,
        .message swordMessage (some swordState), openTask, openTask]
    swordDisplayed.tasks.isEmpty ∧ receivedLedger events 7 = some swordState ∧
      LastStatesShown skyrim events swordDisplayed := by
  intro events
  refine ⟨by decide +kernel, by decide +kernel, ?_⟩
  apply last_received_states_shown
  · have absent : STRPM.ProxyTable.Valid fun _ => none := by
      constructor <;> simp
    have started := startedProcess_initial skyrim
    have removal : (STRPM.TableChange.removed 7 lydia).Applies bareShown.table := by
      rw [table_bareShown]
      rfl
    have gone : (STRPM.TableChange.removed 7 lydia).perform bareShown.table = fun _ => none := by
      simp [STRPM.TableChange.perform, table_bareShown, startedProcess]
    have addition : (STRPM.TableChange.added 7 lydia).Applies departed.table := by
      rw [table_departed]
      rfl
    have restored : (STRPM.TableChange.added 7 lydia).perform departed.table =
        startedProcess.table := by
      rw [table_departed]
      rfl
    have idle : returned.tasks = [] := List.isEmpty_iff.mp (by decide +kernel)
    refine .of_follows ?_
      ⟨_, ⟨⟨trivial, fun _ queued => absurd queued List.not_mem_nil⟩,
        (receivedState_bareMessage rfl rfl).symm, rfl⟩,
        _, ⟨openTask_fresh _, rfl⟩, bareShown, ⟨openTask_fresh _, rfl⟩,
        _, ⟨⟨trivial, trivial⟩, removal, gone ▸ absent, rfl⟩, departed, ⟨openTask_fresh _, rfl⟩,
        _, ⟨⟨trivial, trivial⟩, addition, restored ▸ started.2.2.2.2.2, rfl⟩,
        returned, ⟨openTask_fresh _, rfl⟩,
        _, ⟨⟨trivial, ?_⟩, by decide +kernel, rfl⟩,
        _, ⟨openTask_fresh _, rfl⟩, swordDisplayed, ⟨openTask_fresh _, rfl⟩, rfl⟩
    · exact started
    · intro task queued
      rw [idle] at queued
      cases queued
  · have states : storedStates events = [bareState, swordState] := rfl
    intro first firstStored second secondStored same
    rw [states] at firstStored secondStored
    simp only [List.mem_cons, List.not_mem_nil, or_false] at firstStored secondStored
    obtain ⟨rfl | rfl, rfl | rfl⟩ := And.intro firstStored secondStored
    · rfl
    · exact absurd same.symm bareState_signature
    · exact absurd same bareState_signature
    · rfl

/-- A peer that leaves and comes back before the removal's task has run: the state
it sends then is erased by that task and never shown. -/
theorem early_state_erased :
    let away := startedProcess.changeTable (.removed 7 lydia)
    let back := away.changeTable (.added 7 lydia)
    let process := (((back.onMessage bareMessage).runTask skyrim openGame fun _ => none).runTask
      skyrim openGame fun _ => none).runTask skyrim openGame fun _ => none
    let events : List ProcessEvent := [.changeTable (.removed 7 lydia),
      .changeTable (.added 7 lydia), .message bareMessage (some STRPMAdapter.emptyState),
      .runTask openGame fun _ => none, .runTask openGame fun _ => none,
      .runTask openGame fun _ => none]
    ((processSystem skyrim).guarded fun _ event => event.Steady).Runs events process ∧
      ¬ LastStatesShown skyrim events process := by
  intro away back process events
  have unmapped : (STRPM.TableChange.removed 7 lydia).perform startedProcess.table =
      fun _ => none := by
    simp [STRPM.TableChange.perform, startedProcess]
  have steady : (ProcessEvent.runTask openGame fun _ => none).Steady :=
    ⟨fun _ => rfl, fun _ => rfl⟩
  constructor
  · have emptyValid : STRPM.ProxyTable.Valid fun _ => none := by
      constructor <;> simp
    have started := startedProcess_initial skyrim
    have removal : (STRPM.TableChange.removed 7 lydia).Applies startedProcess.table := rfl
    have addition : (STRPM.TableChange.added 7 lydia).Applies away.table := rfl
    have restored : (STRPM.TableChange.added 7 lydia).perform away.table =
        startedProcess.table := by
      simp [STRPM.TableChange.perform, away, GameProcess.changeTable, GameProcess.onProxyMapping,
        startedProcess, STRPMAdapter.initial, GameProcess.addTask]
    refine .of_follows ?_
      ⟨away, ⟨trivial, removal, unmapped ▸ emptyValid, rfl⟩,
        back, ⟨trivial, addition, restored ▸ started.2.2.2.2.2, rfl⟩,
        _, ⟨trivial, (receivedState_bareMessage rfl rfl).symm, rfl⟩,
        _, ⟨steady, rfl⟩, _, ⟨steady, rfl⟩, _, ⟨steady, rfl⟩, rfl⟩
    exact started
  · intro shown
    have arrived : back.onMessage bareMessage = _ := onMessage_bareMessage back rfl rfl
    have idle : process.tasks = [] := by
      simp only [process, arrived]
      rfl
    have hidden : process.renderer.displayed lydia = none := by
      simp only [process, arrived]
      rfl
    have mapped : process.table 7 = some lydia := by
      simp only [process, arrived]
      rfl
    have displayed := shown idle 7 lydia STRPMAdapter.emptyState mapped rfl
    rw [hidden] at displayed
    cases displayed

end IEDSyncTogether
