import IEDSyncTogether.Base.Execution
import IEDSyncTogether.Adapter.Adapter
import IEDSyncTogether.Render.Watchdog
import IEDSyncTogether.State.RoundTrip

/-!
# The receiving process

The receiving half of the adapter, the renderer, STRPM's connection-to-proxy
table and the queue of game tasks. Messages and mapping changes arrive at any
time; what they do to the renderer happens when their task runs, and a task
resolves connections through the table as it is then.
-/

namespace IEDSyncTogether

open Base

namespace STRPM

/-- The kinds of mapping events. -/
inductive ProxyMappingEventType where
  | kAdded
  | kUpdated
  | kRemoved
  | kCleared
deriving DecidableEq

/-- A change of STRPM's table as its listeners hear of it. -/
structure ProxyMappingEvent where
  type : ProxyMappingEventType
  connectionID : ConnectionID
  oldFormID : ProxyFormID
  newFormID : ProxyFormID
deriving DecidableEq

/-- A received message; `data` is null or empty for an empty one. -/
structure Message where
  data : ByteString
  senderID : ConnectionID
  displayName : ByteString
  sequence : UInt64

/-- STRPM's current proxy of each connection. -/
abbrev ProxyTable := ConnectionID → Option ProxyFormID

/-- Proxies are valid and belong to one connection each. -/
structure ProxyTable.Valid (table : ProxyTable) : Prop where
  proxyValid : ∀ connectionID, table connectionID ≠ some kInvalidProxyFormID
  injective : ∀ first second proxyFormID, table first = some proxyFormID →
    table second = some proxyFormID → first = second

/-- A change of the table. -/
inductive TableChange where
  | added (connectionID : ConnectionID) (newFormID : ProxyFormID)
  | updated (connectionID : ConnectionID) (oldFormID newFormID : ProxyFormID)
  | removed (connectionID : ConnectionID) (oldFormID : ProxyFormID)
  | cleared

namespace TableChange

/-- The table before the change has the old entry. -/
def Applies (table : ProxyTable) : TableChange → Prop
  | added connectionID _ => table connectionID = none
  | updated connectionID oldFormID _ => table connectionID = some oldFormID
  | removed connectionID oldFormID => table connectionID = some oldFormID
  | cleared => True

/-- The table after the change. -/
def perform (table : ProxyTable) : TableChange → ProxyTable
  | added connectionID newFormID => Function.update table connectionID (some newFormID)
  | updated connectionID _ newFormID => Function.update table connectionID (some newFormID)
  | removed connectionID _ => Function.update table connectionID none
  | cleared => fun _ => none

/-- The event STRPM emits for the change. -/
def event : TableChange → ProxyMappingEvent
  | added connectionID newFormID => ⟨.kAdded, connectionID, kInvalidProxyFormID, newFormID⟩
  | updated connectionID oldFormID newFormID => ⟨.kUpdated, connectionID, oldFormID, newFormID⟩
  | removed connectionID oldFormID => ⟨.kRemoved, connectionID, oldFormID, kInvalidProxyFormID⟩
  | cleared => ⟨.kCleared, 0, kInvalidProxyFormID, kInvalidProxyFormID⟩

end TableChange

end STRPM

/-- The queued game tasks that reach the renderer or the remote states. -/
inductive GameTask where
  | applyRemote (connectionID : ConnectionID) (force : Bool)
  | proxyMapping (event : STRPM.ProxyMappingEvent)
  | rendererReset
  | watchdogTick

/-- One game process, its tasks oldest first. -/
structure GameProcess where
  adapter : STRPMAdapter
  renderer : RemoteIEDRenderer
  tasks : List GameTask
  table : STRPM.ProxyTable

/-- The state `OnMessage` stores for a message, if it does not drop it. -/
def STRPMAdapter.receivedState (adapter : STRPMAdapter) (message : STRPM.Message) :
    Option LocalIEDState :=
  if ¬ adapter.running ∨ message.data = [] then none
  else if STRPM.kMaxPayloadBytes < message.data.length then none
  else if message.senderID ≠ 0 ∧ adapter.localConnectionID ≠ 0 ∧
      message.senderID = adapter.localConnectionID then none
  else do
    let state ← decodeLocalIEDState message.data
    if message.senderID = 0 then none else some state

/-- A stored state comes from a named connection. -/
theorem STRPMAdapter.senderID_ne_zero {adapter : STRPMAdapter} {message : STRPM.Message}
    {state : LocalIEDState} (received : adapter.receivedState message = some state) :
    message.senderID ≠ 0 := by
  intro anonymous
  simp [receivedState, anonymous] at received

namespace GameProcess

variable (game : GameData)

/-- A task is queued behind the others. -/
def addTask (process : GameProcess) (task : GameTask) : GameProcess :=
  { process with tasks := process.tasks ++ [task] }

/-- What holds of the queued tasks and of a new one holds behind it. -/
theorem forall_mem_addTask {process : GameProcess} {task : GameTask} {holds : GameTask → Prop}
    (queued : ∀ other ∈ process.tasks, holds other) (new : holds task) :
    ∀ other ∈ (process.addTask task).tasks, holds other :=
  List.forall_mem_append.mpr ⟨queued, List.forall_mem_singleton.mpr new⟩

/-- `QueueRemoteApply`: nothing is queued for an unnamed connection. -/
def queueRemoteApply (process : GameProcess) (connectionID : ConnectionID) (force : Bool) :
    GameProcess :=
  if connectionID = 0 then process else process.addTask (.applyRemote connectionID force)

/-- `OnProxyMapping`: a running adapter queues the event. -/
def onProxyMapping (process : GameProcess) (event : STRPM.ProxyMappingEvent) : GameProcess :=
  if process.adapter.running then process.addTask (.proxyMapping event) else process

/-- `OnMessage`: an accepted state is stored at once, and its application is queued. -/
def onMessage (process : GameProcess) (message : STRPM.Message) : GameProcess :=
  match process.adapter.receivedState message with
  | none => process
  | some state =>
    { process with
      adapter := { process.adapter with
        remoteStates := process.adapter.remoteStates.insert message.senderID
          ⟨state, message.displayName, message.sequence⟩ } }.queueRemoteApply message.senderID false

/-- `Apply` together with the watchdog task it may add. -/
def applyState (environment : GameEnvironment) (process : GameProcess) (request : ApplyRequest) :
    GameProcess :=
  let outcome := process.renderer.apply game environment request
  { process with
    renderer := outcome.renderer
    tasks := process.tasks ++ if outcome.tickAdded then [.watchdogTick] else [] }

/-- `ApplyRemoteOnGameThread`: the stored state of a connection goes to its current proxy. -/
def applyRemoteOnGameThread (environment : GameEnvironment) (process : GameProcess)
    (connectionID : ConnectionID) (force : Bool) : GameProcess :=
  if ¬ process.adapter.running ∨ ¬ process.adapter.resolverReady then process
  else
    match process.adapter.remoteStates.lookup connectionID, process.table connectionID with
    | some snapshot, some proxyFormID =>
      if proxyFormID = kInvalidProxyFormID then process
      else
        process.applyState game environment
          ⟨connectionID, proxyFormID, snapshot.displayName, snapshot.state, force⟩
    | _, _ => process

/-- `ClearProxy` of the renderer. -/
def clearProxy (environment : GameEnvironment) (process : GameProcess)
    (proxyFormID : ProxyFormID) : GameProcess :=
  { process with renderer := (process.renderer.clearProxy environment proxyFormID).1 }

/-- The stored state of a connection is erased. -/
def forgetRemote (process : GameProcess) (connectionID : ConnectionID) : GameProcess :=
  { process with
    adapter := { process.adapter with
      remoteStates := process.adapter.remoteStates.erase connectionID } }

/-- `Reset` of the renderer. -/
def resetRenderer (environment : GameEnvironment) (process : GameProcess) : GameProcess :=
  { process with renderer := (process.renderer.reset environment).1 }

/-- The first half of the `kUpdated` case: a replaced proxy is cleared. -/
def clearReplaced (environment : GameEnvironment) (process : GameProcess)
    (event : STRPM.ProxyMappingEvent) : GameProcess :=
  if event.oldFormID ≠ kInvalidProxyFormID ∧ event.oldFormID ≠ event.newFormID then
    process.clearProxy environment event.oldFormID
  else process

/-- `HandleProxyMappingOnGameThread`: one case for each kind of event. -/
def handleProxyMappingOnGameThread (environment : GameEnvironment) (process : GameProcess)
    (event : STRPM.ProxyMappingEvent) : GameProcess :=
  if ¬ process.adapter.running then process
  else
    match event.type with
    | .kAdded => process.applyRemoteOnGameThread game environment event.connectionID true
    | .kUpdated =>
      (process.clearReplaced environment event).applyRemoteOnGameThread game environment
        event.connectionID true
    | .kRemoved =>
      (process.clearProxy environment event.oldFormID).forgetRemote event.connectionID
    | .kCleared =>
      let cleared := process.resetRenderer environment
      { cleared with adapter := { cleared.adapter with remoteStates := ∅ } }

/-- One game task on the process it was taken from. -/
def performTask (environment : GameEnvironment) (scenes : ProxyFormID → Option ProxyScene)
    (process : GameProcess) : GameTask → GameProcess
  | .applyRemote connectionID force =>
    process.applyRemoteOnGameThread game environment connectionID force
  | .proxyMapping event => process.handleProxyMappingOnGameThread game environment event
  | .rendererReset => process.resetRenderer environment
  | .watchdogTick => { process with renderer := (process.renderer.runWatchdogTask scenes).1 }

/-- The oldest task runs. -/
def runTask (environment : GameEnvironment) (scenes : ProxyFormID → Option ProxyScene)
    (process : GameProcess) : GameProcess :=
  match process.tasks with
  | [] => process
  | task :: tasks => { process with tasks }.performTask game environment scenes task

/-- STRPM changes its table and reports it. -/
def changeTable (process : GameProcess) (change : STRPM.TableChange) : GameProcess :=
  { process with table := change.perform process.table }.onProxyMapping change.event

/-- `STRPMAdapter::Reset` with the task it queues. -/
def resetAdapter (process : GameProcess) : GameProcess :=
  { process with adapter := process.adapter.reset }.addTask .rendererReset

/-- The watchdog thread schedules a tick. -/
def scheduleWatchdogTick (process : GameProcess) : GameProcess :=
  { process with
    renderer := process.renderer.scheduleWatchdogTick.1
    tasks := process.tasks ++
      if process.renderer.scheduleWatchdogTick.2 then [.watchdogTick] else [] }

end GameProcess

/-- What happens to a process; a message shows the state it stores. -/
inductive ProcessEvent where
  | changeTable (change : STRPM.TableChange)
  | message (message : STRPM.Message) (stored : Option LocalIEDState)
  | scheduleWatchdogTick
  | resetAdapter
  | runTask (environment : GameEnvironment) (scenes : ProxyFormID → Option ProxyScene)

/-- A running adapter whose table and messages change in any order. -/
def processSystem (game : GameData) : TransitionSystem GameProcess ProcessEvent where
  Initial process :=
    process.renderer = .initial ∧ process.tasks = [] ∧ process.adapter.remoteStates = ∅ ∧
      process.adapter.running = true ∧ process.adapter.resolverReady = true ∧ process.table.Valid
  Step process event next :=
    match event with
    | .changeTable change =>
      change.Applies process.table ∧ (change.perform process.table).Valid ∧
        next = process.changeTable change
    | .message message stored =>
      stored = process.adapter.receivedState message ∧ next = process.onMessage message
    | .scheduleWatchdogTick => next = process.scheduleWatchdogTick
    | .resetAdapter => next = process.resetAdapter
    | .runTask environment scenes => next = process.runTask game environment scenes

/-! ## What a task can do -/

namespace GameProcess

section Tasks

variable (game : GameData) (environment : GameEnvironment) (process : GameProcess)

/-- Applying a connection does nothing, or applies its stored state to its
current proxy. -/
theorem applyRemote_cases (connectionID : ConnectionID) (force : Bool) :
    process.applyRemoteOnGameThread game environment connectionID force = process ∨
      ∃ snapshot proxyFormID,
        process.adapter.remoteStates.lookup connectionID = some snapshot ∧
        process.table connectionID = some proxyFormID ∧ proxyFormID ≠ kInvalidProxyFormID ∧
        process.applyRemoteOnGameThread game environment connectionID force =
          process.applyState game environment
            ⟨connectionID, proxyFormID, snapshot.displayName, snapshot.state, force⟩ := by
  unfold applyRemoteOnGameThread
  split_ifs with down
  · exact .inl rfl
  · split
    · next snapshot proxyFormID stored mapped =>
        split_ifs with invalid
        · exact .inl rfl
        · exact .inr ⟨snapshot, proxyFormID, stored, mapped, invalid, rfl⟩
    · exact .inl rfl

/-- What no task changes: the table and the readiness of the adapter; and the
queue only grows, by watchdog ticks. -/
structure Extends (before after : GameProcess) : Prop where
  table : after.table = before.table
  running : after.adapter.running = before.adapter.running
  resolverReady : after.adapter.resolverReady = before.adapter.resolverReady
  tasks : ∃ ticks, after.tasks = before.tasks ++ ticks ∧ ∀ task ∈ ticks, task = .watchdogTick

/-- A process extends itself. -/
theorem Extends.refl : Extends process process := ⟨rfl, rfl, rfl, [], by simp⟩

variable {process} in
/-- What is unchanged twice is unchanged. -/
theorem Extends.trans {middle after : GameProcess} (first : Extends process middle)
    (second : Extends middle after) : Extends process after where
  table := second.table.trans first.table
  running := second.running.trans first.running
  resolverReady := second.resolverReady.trans first.resolverReady
  tasks := by
    obtain ⟨early, firstTasks, firstTicks⟩ := first.tasks
    obtain ⟨late, secondTasks, secondTicks⟩ := second.tasks
    refine ⟨early ++ late, by rw [secondTasks, firstTasks, List.append_assoc], ?_⟩
    intro task member
    exact (List.mem_append.mp member).elim (firstTicks task) (secondTicks task)

/-- An `Apply` changes the renderer and may queue a tick. -/
theorem extends_applyState (request : ApplyRequest) :
    Extends process (process.applyState game environment request) := by
  refine ⟨rfl, rfl, rfl, _, rfl, ?_⟩
  intro task member
  split at member
  · exact List.mem_singleton.mp member
  · cases member

/-- Applying a connection changes the renderer and may queue a tick. -/
theorem extends_applyRemote (connectionID : ConnectionID) (force : Bool) :
    Extends process (process.applyRemoteOnGameThread game environment connectionID force) := by
  rcases process.applyRemote_cases game environment connectionID force with
    same | ⟨snapshot, proxyFormID, _, _, _, same⟩
  · rw [same]
    exact Extends.refl process
  · rw [same]
    exact process.extends_applyState game environment _

/-- Every task leaves the table and the readiness of the adapter. -/
theorem extends_performTask (scenes : ProxyFormID → Option ProxyScene) (task : GameTask) :
    Extends process (process.performTask game environment scenes task) := by
  cases task with
  | applyRemote connectionID force =>
      exact process.extends_applyRemote game environment connectionID force
  | proxyMapping event =>
      rw [performTask, handleProxyMappingOnGameThread]
      split
      · exact Extends.refl process
      · cases event.type with
        | kAdded => exact process.extends_applyRemote game environment _ _
        | kUpdated =>
            refine Extends.trans ?_ (extends_applyRemote game environment _ _ _)
            unfold clearReplaced
            split
            · exact ⟨rfl, rfl, rfl, [], by simp [clearProxy]⟩
            · exact Extends.refl process
        | kRemoved => exact ⟨rfl, rfl, rfl, [], by simp [clearProxy, forgetRemote]⟩
        | kCleared => exact ⟨rfl, rfl, rfl, [], by simp [resetRenderer]⟩
  | rendererReset => exact ⟨rfl, rfl, rfl, [], by simp [performTask, resetRenderer]⟩
  | watchdogTick => exact ⟨rfl, rfl, rfl, [], by simp [performTask]⟩

/-- A task leaves the table. -/
@[simp] theorem table_runTask (scenes : ProxyFormID → Option ProxyScene) :
    (process.runTask game environment scenes).table = process.table := by
  rw [runTask]
  split
  · rfl
  · next task tasks _ =>
      exact (extends_performTask game environment { process with tasks } scenes task).table

/-- A message leaves the table. -/
@[simp] theorem table_onMessage (message : STRPM.Message) :
    (process.onMessage message).table = process.table := by
  rw [onMessage]
  split
  · rfl
  · unfold queueRemoteApply
    split <;> rfl

/-- A change of the table is performed at once. -/
@[simp] theorem table_changeTable (change : STRPM.TableChange) :
    (process.changeTable change).table = change.perform process.table := by
  unfold changeTable onProxyMapping
  split <;> rfl

end Tasks

end GameProcess

/-! ## A process with one peer -/

/-- The proxy of the peer. -/
def lydia : ProxyFormID := 0xFF000800

/-- A game in which every actor is loaded and every dispatch accepted. -/
def openGame : GameEnvironment := ⟨fun _ => true, fun _ => true⟩

/-- A process whose table maps connection 7 to its proxy. -/
def startedProcess : GameProcess where
  adapter := { STRPMAdapter.initial with running := true, apiReady := true, resolverReady := true }
  renderer := .initial
  tasks := []
  table := Function.update (fun _ => none) 7 (some lydia)

/-- The process is one a run can start from. -/
theorem startedProcess_initial (game : GameData) : (processSystem game).Initial startedProcess := by
  refine ⟨rfl, rfl, rfl, rfl, rfl, ?_, ?_⟩
  · intro connectionID
    by_cases here : connectionID = 7
    · subst here
      decide
    · simp [startedProcess, Function.update_of_ne here]
  · intro first second proxyFormID firstMapped secondMapped
    simp only [startedProcess, Function.update_apply] at firstMapped secondMapped
    split_ifs at firstMapped secondMapped with firstHere secondHere
    exact firstHere.trans secondHere.symm

/-- The state of a peer that displays nothing. -/
def bareMessage : STRPM.Message :=
  ⟨encodeLocalIEDState STRPMAdapter.emptyState, 7, ascii "Lydia", 1⟩

/-- A running adapter accepts the message. -/
theorem receivedState_bareMessage {adapter : STRPMAdapter} (running : adapter.running = true)
    (unnamed : adapter.localConnectionID = 0) :
    adapter.receivedState bareMessage = some STRPMAdapter.emptyState := by
  have decoded : decodeLocalIEDState bareMessage.data = some STRPMAdapter.emptyState := by
    have bounded : ∀ object ∈ STRPMAdapter.emptyState.objects, object.SlotBounded := by decide
    have accepted := decode_encode bounded
    rwa [if_pos (by decide)] at accepted
  have size : bareMessage.data ≠ [] ∧ ¬ STRPM.kMaxPayloadBytes < bareMessage.data.length := by
    decide
  have named : bareMessage.senderID ≠ 0 := by decide
  simp [STRPMAdapter.receivedState, running, unnamed, decoded, size, named]

/-- What the message does to a started process. -/
theorem onMessage_bareMessage (process : GameProcess)
    (running : process.adapter.running = true)
    (unnamed : process.adapter.localConnectionID = 0) :
    process.onMessage bareMessage =
      { process with
        adapter := { process.adapter with
          remoteStates := process.adapter.remoteStates.insert 7
            ⟨STRPMAdapter.emptyState, ascii "Lydia", 1⟩ }
        tasks := process.tasks ++ [.applyRemote 7 false] } := by
  rw [GameProcess.onMessage, receivedState_bareMessage running unnamed]
  rfl

end IEDSyncTogether
