import IEDSyncTogether.Adapter.Library
import IEDSyncTogether.Base.Toggles
import IEDSyncTogether.Pipeline.Halves

/-!
# The plugin from its messages on

`OnSKSEMessage` starts the adapter and the probe once the game's data are loaded and resets
them before a game is loaded. The adapter registers a channel with the messaging library and
a listener with its proxy resolver, and `Stop` takes them back.
-/

namespace IEDSyncTogether

open Base

/-- What the messaging library keeps for the adapter. -/
inductive Registration where
  | channel (handle : UInt64)
  | proxyListener
deriving DecidableEq

/-- The answers of the messaging library to `Start`. -/
structure AdapterStartAnswer where
  library : Option STRPM.Library
  localConnection : STRPM.Result × ConnectionID
  /-- The handle that `registerChannel` writes, if it writes one. -/
  registerChannel : STRPM.Result × Option UInt64
  registerListener : STRPM.Result

/-- The game of a player with the members of the adapter that `Start` and `Stop` manage. -/
structure Plugin where
  player : Player
  api : Option STRPM.Interface
  resolver : Option STRPM.ProxyResolverInterface
  listener : UInt64
  proxyListenerRegistered : Bool

namespace Plugin

variable (plugin : Plugin)

/-- The adapter of the plugin. -/
def adapter : STRPMAdapter := plugin.player.process.adapter

/-- The plugin with another adapter. -/
def setAdapter (adapter : STRPMAdapter) : Plugin :=
  { plugin with player := plugin.player.setAdapter adapter }

/-- The plugin with another process. -/
def setProcess (process : GameProcess) : Plugin :=
  { plugin with player := { plugin.player with process } }

/-- Without a usable resolver the adapter starts all the same. -/
def loadApi (library : Option STRPM.Library) :
    Option (STRPM.Interface × Option STRPM.ProxyResolverInterface) :=
  library.bind fun library => library.loadInterface.map fun api =>
    (api, library.loadProxyResolver.or plugin.resolver)

/-- `Start` of the adapter: the channel first, then the listener if there is a resolver. -/
def start (answer : AdapterStartAnswer) : Plugin × List (Registration × Bool) :=
  if plugin.adapter.running then (plugin, [])
  else
    match plugin.loadApi answer.library with
    | none => (plugin, [])
    | some (api, resolver) =>
      let adapter := { plugin.adapter with
        localConnectionID :=
          if api.getLocalConnectionID ∧ answer.localConnection.1 = .kOk then answer.localConnection.2
          else plugin.adapter.localConnectionID }
      if answer.registerChannel.1 ≠ .kOk then
        ({ plugin.setAdapter adapter with api := none, resolver := none, listener := 0 }, [])
      else
        let listener := answer.registerChannel.2.getD plugin.listener
        let listens := resolver.any (·.registerListener) && answer.registerListener = .kOk
        ({ plugin.setAdapter { adapter with
              running := true, apiReady := api.send, resolverReady := resolver.isSome } with
            api := some api
            resolver
            listener
            proxyListenerRegistered := plugin.proxyListenerRegistered || listens },
          (.channel listener, true) :: if listens then [(.proxyListener, true)] else [])

/-- `Stop` of the adapter: listener and channel are unregistered, and everything remembered is
dropped. -/
def stop : Plugin × List (Registration × Bool) :=
  if ¬ plugin.adapter.running then (plugin, [])
  else
    ({ plugin.setAdapter { plugin.adapter.reset with
          running := false, apiReady := false, resolverReady := false, localConnectionID := 0 } with
        api := none
        resolver := none
        listener := 0
        proxyListenerRegistered := false },
      (if plugin.resolver.any (·.unregisterListener) ∧ plugin.proxyListenerRegistered then
        [(.proxyListener, false)]
      else []) ++
        if plugin.api.any (·.unregisterChannel) ∧ plugin.listener ≠ 0 then
          [(.channel plugin.listener, false)]
        else [])

/-- The case `kDataLoaded` of `OnSKSEMessage`; the probe starts even if the adapter does not. -/
def dataLoaded (answer : AdapterStartAnswer) : Plugin × List (Registration × Bool) :=
  let (started, calls) := plugin.start answer
  ({ started with player := { started.player with
      probe := { started.player.probe with running := true, handlerSet := true } } }, calls)

/-- A change of the table reaches the adapter through its listener. -/
def changeTable (change : STRPM.TableChange) : Plugin :=
  if plugin.proxyListenerRegistered then
    plugin.setProcess (plugin.player.process.changeTable change)
  else
    plugin.setProcess { plugin.player.process with table := change.perform plugin.player.process.table }

end Plugin

/-- What happens to the plugin, with the calls that register and unregister. -/
inductive PluginEvent where
  | dataLoaded (answer : AdapterStartAnswer) (calls : List (Registration × Bool))
  | stop (calls : List (Registration × Bool))
  | preLoadGame
  | completeCapture (slots : SlotState) (scene : Option PlayerScene) (answer : TransportAnswer)
  | retryTick (now : Nat) (answer : TransportAnswer)
  | message (message : STRPM.Message)
  | changeTable (change : STRPM.TableChange)
  | scheduleWatchdogTick
  | runTask (environment : GameEnvironment) (scenes : ProxyFormID → Option ProxyScene)

/-- The plugin before its first message. -/
def LocalCaptureProbe.constructed : LocalCaptureProbe :=
  { LocalCaptureProbe.started with running := false, handlerSet := false }

/-- A loaded plugin under any order of messages, turns of its threads and tasks. -/
def pluginSystem (game : GameData) (sorting : ObjectSort) :
    TransitionSystem Plugin PluginEvent where
  Initial plugin :=
    plugin.player.probe = .constructed ∧ plugin.adapter = .initial ∧
      plugin.player.process.renderer = .initial ∧ plugin.player.process.tasks = [] ∧
      plugin.player.process.table.Valid ∧ plugin.api = none ∧ plugin.resolver = none ∧
      plugin.listener = 0 ∧ plugin.proxyListenerRegistered = false
  Step plugin event next :=
    match event with
    | .dataLoaded answer calls => plugin.dataLoaded answer = (next, calls)
    | .stop calls => plugin.stop = (next, calls)
    | .preLoadGame => next = { plugin with player := plugin.player.preLoadGame }
    | .completeCapture slots scene answer =>
      next = { plugin with
        player := (plugin.player.completeCapture game sorting slots scene answer).1 }
    | .retryTick now answer =>
      next = { plugin with player := (plugin.player.retryTick now answer).1 }
    | .message message => next = plugin.setProcess (plugin.player.process.onMessage message)
    | .changeTable change =>
      change.Applies plugin.player.process.table ∧
        (change.perform plugin.player.process.table).Valid ∧ next = plugin.changeTable change
    | .scheduleWatchdogTick => next = plugin.setProcess plugin.player.process.scheduleWatchdogTick
    | .runTask environment scenes =>
      next = plugin.setProcess (plugin.player.process.runTask game environment scenes)

/-! ## What does not start or stop the adapter -/

/-- The adapter is neither started nor stopped, and stores nothing while it is stopped. -/
structure STRPMAdapter.Steady (adapter next : STRPMAdapter) : Prop where
  running : next.running = adapter.running
  resolverReady : next.resolverReady = adapter.resolverReady
  idle : adapter.running = false → adapter.remoteStates = ∅ → next.remoteStates = ∅

/-- An adapter that is left as it is stays steady. -/
theorem STRPMAdapter.Steady.of_eq {adapter next : STRPMAdapter} (same : next = adapter) :
    adapter.Steady next := by
  rw [same]
  exact ⟨rfl, rfl, fun _ => id⟩

/-- Sending is steady. -/
theorem STRPMAdapter.KeepsReceiving.steady {adapter next : STRPMAdapter} {answer : TransportAnswer}
    (keeps : adapter.KeepsReceiving next answer) : adapter.Steady next :=
  ⟨keeps.running, keeps.resolverReady, fun _ empty => keeps.remoteStates.trans empty⟩

/-- A capture neither starts nor stops the adapter. -/
theorem Player.steady_completeCapture (player : Player) (game : GameData) (sorting : ObjectSort)
    (slots : SlotState) (scene : Option PlayerScene) (answer : TransportAnswer) :
    player.process.adapter.Steady
      (player.completeCapture game sorting slots scene answer).1.process.adapter := by
  rw [completeCapture]
  dsimp only
  split
  · exact .of_eq rfl
  · exact (player.process.adapter.keepsReceiving_publish _ answer _).steady

/-- A message is not stored by a stopped adapter. -/
theorem GameProcess.steady_onMessage (process : GameProcess) (message : STRPM.Message) :
    process.adapter.Steady (process.onMessage message).adapter := by
  rw [onMessage]
  split
  · exact .of_eq rfl
  · next received =>
      rw [queueRemoteApply]
      have running : process.adapter.running = true := by
        by_contra stopped
        simp [STRPMAdapter.receivedState, stopped] at received
      have started {goal : Prop} (stopped : process.adapter.running = false) : goal := by
        rw [running] at stopped
        cases stopped
      split <;> exact ⟨rfl, rfl, fun stopped => started stopped⟩

/-- A task forgets states, and nothing at all while the adapter is stopped. -/
theorem GameProcess.steady_performTask (process : GameProcess) (game : GameData)
    (environment : GameEnvironment) (scenes : ProxyFormID → Option ProxyScene) (task : GameTask) :
    process.adapter.Steady (process.performTask game environment scenes task).adapter := by
  have extends_ := process.extends_performTask game environment scenes task
  refine ⟨extends_.running, extends_.resolverReady, fun stopped empty => ?_⟩
  cases task with
  | applyRemote connectionID force =>
      rwa [performTask, applyRemoteOnGameThread, if_pos (by simp [stopped])]
  | proxyMapping event =>
      rwa [performTask, handleProxyMappingOnGameThread, if_pos (by simp [stopped])]
  | rendererReset => exact empty
  | watchdogTick => exact empty

/-- A task neither starts nor stops the adapter. -/
theorem GameProcess.steady_runTask (process : GameProcess) (game : GameData)
    (environment : GameEnvironment) (scenes : ProxyFormID → Option ProxyScene) :
    process.adapter.Steady (process.runTask game environment scenes).adapter := by
  rw [runTask]
  split
  · exact .of_eq rfl
  · next task tasks _ =>
      exact steady_performTask { process with tasks } game environment scenes task

namespace Plugin

/-- A change of the table neither starts nor stops the adapter. -/
theorem steady_changeTable (plugin : Plugin) (change : STRPM.TableChange) :
    plugin.adapter.Steady (plugin.changeTable change).adapter := by
  rw [changeTable]
  split
  · refine .of_eq ?_
    change (GameProcess.onProxyMapping _ _).adapter = _
    rw [GameProcess.onProxyMapping]
    split <;> rfl
  · exact .of_eq rfl

/-! ## What the plugin keeps -/

/-- A stopped adapter has no interface, no registration and no state of another player. -/
structure Valid (plugin : Plugin) : Prop where
  api : plugin.api.isSome = plugin.adapter.running
  resolver : plugin.resolver.isSome = plugin.adapter.resolverReady
  listens : plugin.proxyListenerRegistered = true → plugin.resolver.isSome = true
  idle : plugin.adapter.running = false → plugin.adapter.resolverReady = false ∧
    plugin.proxyListenerRegistered = false ∧ plugin.adapter.remoteStates = ∅

/-- What is registered can be taken back. -/
def Managed (plugin : Plugin) : Prop :=
  plugin.adapter.running = true → plugin.api.any (·.unregisterChannel) = true ∧
    plugin.listener ≠ 0 ∧ (plugin.proxyListenerRegistered = true →
      plugin.resolver.any (·.unregisterListener) = true)

/-- What the messaging library keeps for the plugin. -/
def held (plugin : Plugin) : List Registration :=
  (if plugin.proxyListenerRegistered then [.proxyListener] else []) ++
    if plugin.adapter.running then [.channel plugin.listener] else []

end Plugin

/-- The library takes back what it gives, and every registered channel has a handle. -/
def AdapterStartAnswer.Manages (answer : AdapterStartAnswer) : Prop :=
  (∀ library ∈ answer.library,
      (∀ api ∈ library.loadInterface, api.unregisterChannel = true) ∧
      ∀ resolver ∈ library.loadProxyResolver, resolver.unregisterListener = true) ∧
    (answer.registerChannel.1 = .kOk → ∃ handle ∈ answer.registerChannel.2, handle ≠ 0)

namespace Plugin

variable {plugin next : Plugin}

/-- What leaves the adapter started or not leaves the plugin valid and holding the same. -/
theorem Valid.act (valid : plugin.Valid) {player : Player}
    (steady : plugin.adapter.Steady player.process.adapter) :
    { plugin with player }.Valid ∧ { plugin with player }.held = plugin.held := by
  refine ⟨⟨?_, ?_, valid.listens, fun stopped => ?_⟩, ?_⟩
  · exact valid.api.trans steady.running.symm
  · exact valid.resolver.trans steady.resolverReady.symm
  · obtain ⟨unready, unregistered, empty⟩ := valid.idle (steady.running.symm.trans stopped)
    exact ⟨steady.resolverReady.trans unready, unregistered,
      steady.idle (steady.running.symm.trans stopped) empty⟩
  · rw [held, held, show ({ plugin with player } : Plugin).adapter.running = plugin.adapter.running
      from steady.running]

/-- A stopped adapter stays stopped and registers nothing, or it runs with the interfaces of the
library on a registered channel. -/
theorem Valid.start_cases (valid : plugin.Valid) (stopped : plugin.adapter.running = false)
    (answer : AdapterStartAnswer) :
    (∃ idle : Plugin, plugin.start answer = (idle, []) ∧ idle.Valid ∧
      idle.adapter.running = false) ∨
    (answer.registerChannel.1 = .kOk ∧ ∃ library ∈ answer.library,
      ∃ api ∈ library.loadInterface, ∃ next : Plugin, next.Valid ∧ next.adapter.running = true ∧
        next.api = some api ∧ next.resolver = library.loadProxyResolver ∧
        next.listener = answer.registerChannel.2.getD plugin.listener ∧
        plugin.start answer = (next, (.channel next.listener, true) ::
          if next.proxyListenerRegistered then [(.proxyListener, true)] else [])) := by
  obtain ⟨unready, unregistered, empty⟩ := valid.idle stopped
  have noResolver : plugin.resolver = none := by
    rw [← Option.isNone_iff_eq_none, ← Option.not_isSome, valid.resolver, unready, Bool.not_false]
  rw [start, if_neg (by simp [stopped])]
  split
  · exact .inl ⟨plugin, rfl, valid, stopped⟩
  · next api resolver loaded =>
      obtain ⟨library, found, handed⟩ := Option.bind_eq_some_iff.mp loaded
      obtain ⟨_, given, same⟩ := Option.map_eq_some_iff.mp handed
      cases same
      rw [noResolver, Option.or_none]
      dsimp only
      split
      · refine .inl ⟨_, rfl, ⟨stopped.symm, unready.symm, fun listens => ?_, fun _ => ?_⟩, stopped⟩
        · cases unregistered.symm.trans listens
        · exact ⟨unready, unregistered, empty⟩
      · next registered =>
          refine .inr ⟨not_not.mp registered, library, found, api, given, ?next, ?valid, ?running,
            ?api, ?resolver, ?listener, ?started⟩
          case started => rw [unregistered, Bool.false_or]
          case valid =>
            refine ⟨rfl, rfl, fun listens => ?_, nofun⟩
            cases given : library.loadProxyResolver with
            | none => simp [given] at listens
            | some resolver => rfl
          all_goals rfl

/-- `Start` runs the adapter or registers nothing. -/
theorem Valid.start (valid : plugin.Valid) (answer : AdapterStartAnswer) :
    (plugin.start answer).1.Valid ∧
      (plugin.Managed → answer.Manages → (plugin.start answer).1.Managed) ∧
      Settles (fun _ => True) plugin.held (plugin.start answer).1.held (plugin.start answer).2 := by
  cases running : plugin.adapter.running with
  | true =>
      rw [Plugin.start, if_pos running]
      exact ⟨valid, fun managed _ => managed, .nothing _ _⟩
  | false =>
      obtain ⟨_, unregistered, _⟩ := valid.idle running
      have free : plugin.held = [] := by simp [held, running, unregistered]
      rw [free]
      rcases valid.start_cases running answer with ⟨idle, started, kept, still⟩ |
        ⟨registered, library, found, api, given, next, kept, on, interface, resolver, listener, started⟩
      · rw [started]
        have empty : idle.held = [] := by simp [held, still, (kept.idle still).2.1]
        refine ⟨kept, fun _ _ runs => ?_, empty ▸ .nothing _ _⟩
        cases still.symm.trans runs
      · rw [started]
        refine ⟨kept, fun _ manages _ => ?_, ?_⟩
        · obtain ⟨handle, written, nonzero⟩ := manages.2 registered
          obtain ⟨unregisters, forgets⟩ := manages.1 library found
          rw [Option.mem_def.mp written, Option.getD_some] at listener
          refine ⟨by rw [interface]; exact unregisters api given, listener ▸ nonzero, fun listens => ?_⟩
          obtain ⟨resolves, some_⟩ := Option.isSome_iff_exists.mp (kept.listens listens)
          rw [some_]
          exact forgets resolves (resolver.symm.trans some_)
        · have channel : Settles (fun _ => True) [] [Registration.channel next.listener]
              [(.channel next.listener, true)] := .acquire trivial (by simp)
          cases listens : next.proxyListenerRegistered with
          | false => simpa [held, on, listens] using channel
          | true =>
              have listener : Settles (fun _ => True) [Registration.channel next.listener]
                  [.proxyListener, .channel next.listener] [(.proxyListener, true)] :=
                .acquire trivial (by simp)
              simpa [held, on, listens] using channel.trans listener

/-- `Stop` takes back what is managed. -/
theorem Valid.stop (valid : plugin.Valid) :
    plugin.stop.1.Valid ∧ plugin.stop.1.adapter.running = false ∧ (plugin.Managed →
      Settles (fun _ => True) plugin.held plugin.stop.1.held plugin.stop.2) := by
  rw [Plugin.stop]
  cases running : plugin.adapter.running with
  | false =>
      rw [if_pos (by simp)]
      exact ⟨valid, running, fun _ => .nothing _ _⟩
  | true =>
      rw [if_neg (by simp)]
      refine ⟨⟨rfl, rfl, nofun, fun _ => ⟨rfl, rfl, rfl⟩⟩, rfl, fun managed => ?_⟩
      obtain ⟨unregisters, nonzero, forgets⟩ := managed running
      change Settles _ plugin.held [] _
      have channel : Settles (fun _ => True) [Registration.channel plugin.listener] []
          [(.channel plugin.listener, false)] := .release trivial (by simp)
      cases listens : plugin.proxyListenerRegistered with
      | false => simpa [held, running, listens, unregisters, nonzero] using channel
      | true =>
          have listener : Settles (fun _ => True) [.proxyListener, .channel plugin.listener]
              [Registration.channel plugin.listener] [(.proxyListener, false)] :=
            .release trivial (by simp)
          simpa [held, running, listens, unregisters, nonzero, forgets listens] using
            listener.trans channel

/-- The probe does not matter to the adapter. -/
theorem Valid.dataLoaded (valid : plugin.Valid) (answer : AdapterStartAnswer) :
    (plugin.dataLoaded answer).1.Valid ∧
      (plugin.Managed → answer.Manages → (plugin.dataLoaded answer).1.Managed) ∧
      Settles (fun _ => True) plugin.held (plugin.dataLoaded answer).1.held
        (plugin.dataLoaded answer).2 := by
  obtain ⟨kept, managed, settles⟩ := valid.start answer
  exact ⟨⟨kept.api, kept.resolver, kept.listens, kept.idle⟩, managed, settles⟩

end Plugin

/-- The calls an event makes. -/
def PluginEvent.calls : PluginEvent → List (Registration × Bool)
  | dataLoaded _ calls | stop calls => calls
  | _ => []

/-- The messaging library can take back what it gives. -/
def PluginEvent.Manages : PluginEvent → Prop
  | dataLoaded answer _ => answer.Manages
  | _ => True

/-- The registrations of a run, in order. -/
def pluginCalls (events : List PluginEvent) : List (Registration × Bool) :=
  events.flatMap PluginEvent.calls

namespace Plugin

variable {plugin next : Plugin} {game : GameData} {sorting : ObjectSort} {event : PluginEvent}
  {events : List PluginEvent}

/-- Every step keeps the plugin valid and accounts for its registrations. -/
theorem Valid.step (valid : plugin.Valid)
    (transition : (pluginSystem game sorting).Step plugin event next) :
    next.Valid ∧ (plugin.Managed → event.Manages → next.Managed ∧
      Settles (fun _ => True) plugin.held next.held event.calls) := by
  have acted {player : Player} (steady : plugin.adapter.Steady player.process.adapter) :
      { plugin with player }.Valid ∧ (plugin.Managed → True → { plugin with player }.Managed ∧
        Settles (fun _ => True) plugin.held { plugin with player }.held []) := by
    obtain ⟨kept, same⟩ := valid.act steady
    refine ⟨kept, fun managed _ => ⟨fun on => managed (steady.running.symm.trans on), ?_⟩⟩
    rw [same]
    exact .nothing _ _
  cases event with
  | dataLoaded answer calls =>
      obtain ⟨kept, managed, settles⟩ := valid.dataLoaded answer
      have same : plugin.dataLoaded answer = (next, calls) := transition
      rw [same] at kept managed settles
      exact ⟨kept, fun already manages => ⟨managed already manages, settles⟩⟩
  | stop calls =>
      obtain ⟨kept, stopped, settles⟩ := valid.stop
      have same : plugin.stop = (next, calls) := transition
      rw [same] at kept stopped settles
      refine ⟨kept, fun managed _ => ⟨fun on => ?_, settles managed⟩⟩
      cases stopped.symm.trans on
  | preLoadGame =>
      obtain rfl := transition
      exact acted ⟨rfl, rfl, fun _ _ => rfl⟩
  | completeCapture slots scene answer =>
      obtain rfl := transition
      exact acted (plugin.player.steady_completeCapture game sorting slots scene answer)
  | retryTick now answer =>
      obtain rfl := transition
      exact acted (plugin.adapter.keepsReceiving_retryTick answer now).steady
  | message message =>
      obtain rfl := transition
      exact acted (plugin.player.process.steady_onMessage message)
  | changeTable change =>
      obtain ⟨_, _, rfl⟩ := transition
      have steady := plugin.steady_changeTable change
      rw [Plugin.changeTable] at steady ⊢
      split at steady
      · next listens =>
          rw [if_pos listens]
          exact acted steady
      · next silent =>
          rw [if_neg silent]
          exact acted steady
  | scheduleWatchdogTick =>
      obtain rfl := transition
      exact acted (.of_eq rfl)
  | runTask environment scenes =>
      obtain rfl := transition
      exact acted (plugin.player.process.steady_runTask game environment scenes)

/-- A loaded plugin is valid. -/
theorem valid_of_initial (initial : (pluginSystem game sorting).Initial plugin) : plugin.Valid := by
  obtain ⟨_, adapter, _, _, _, api, resolver, _, unregistered⟩ := initial
  refine ⟨?_, ?_, fun listens => ?_, fun _ => ⟨?_, unregistered, ?_⟩⟩
  · rw [api, adapter]
    rfl
  · rw [resolver, adapter]
    rfl
  · cases unregistered.symm.trans listens
  · rw [adapter]
    rfl
  · rw [adapter]
    rfl

/-- The plugin is valid after every run. -/
theorem valid_of_runs (run : (pluginSystem game sorting).Runs events plugin) : plugin.Valid := by
  refine run.invariant (fun _ plugin => plugin.Valid) ?_ ?_
  · exact valid_of_initial
  · intro _ _ _ _ _ valid transition
    exact (valid.step transition).1

/-- What is registered after a run has been registered and not been taken back since. -/
theorem balanced_of_runs (run : (pluginSystem game sorting).Runs events plugin)
    (manages : ∀ event ∈ events, event.Manages) :
    plugin.Managed ∧ Balanced (pluginCalls events) plugin.held := by
  induction run with
  | @initial plugin initial =>
      obtain ⟨_, adapter, _, _, _, _, _, _, unregistered⟩ := initial
      have stopped : plugin.adapter.running = false := by
        rw [adapter]
        rfl
      refine ⟨fun on => ?_, ?_⟩
      · cases stopped.symm.trans on
      · rw [held, unregistered, stopped]
        exact balanced_nil
  | @step events plugin event next prior transition ih =>
      rw [List.forall_mem_append, List.forall_mem_singleton] at manages
      obtain ⟨managed, balanced⟩ := ih manages.1
      obtain ⟨still, settles⟩ := ((valid_of_runs prior).step transition).2 managed manages.2
      refine ⟨still, ?_⟩
      have calls : pluginCalls (events ++ [event]) = pluginCalls events ++ event.calls := by
        simp [pluginCalls]
      have settled := settles (pluginCalls events) [] (by simp) (by rwa [List.append_nil])
      rwa [calls, ← List.append_nil next.held]

/-- Whatever the plugin goes through, the messaging library keeps exactly the channel of a running
adapter and the listener it has registered; a stopped adapter keeps no state of another player. -/
theorem plugin_lifecycle (run : (pluginSystem game sorting).Runs events plugin)
    (manages : ∀ event ∈ events, event.Manages) :
    plugin.Valid ∧ Balanced (pluginCalls events) plugin.held ∧
      (plugin.adapter.running = false →
        plugin.held = [] ∧ plugin.adapter.remoteStates = ∅) := by
  have valid := valid_of_runs run
  refine ⟨valid, (balanced_of_runs run manages).2, fun stopped => ?_⟩
  obtain ⟨_, unregistered, empty⟩ := valid.idle stopped
  exact ⟨by simp [held, stopped, unregistered], empty⟩

end Plugin

/-! ## The players of a network -/

/-- The library answers with both interfaces and knows no other connection than the player's. -/
def AdapterStartAnswer.Connects (answer : AdapterStartAnswer) (connectionID : ConnectionID) : Prop :=
  answer.registerChannel.1 = .kOk ∧
    (∃ library ∈ answer.library,
      library.loadInterface.isSome = true ∧ library.loadProxyResolver.isSome = true) ∧
    (answer.localConnection.1 = .kOk →
      answer.localConnection.2 = 0 ∨ answer.localConnection.2 = connectionID)

/-- A plugin whose data are loaded is a player at the start of a network. -/
theorem Plugin.player_of_dataLoaded {plugin : Plugin} {game : GameData} {sorting : ObjectSort}
    {answer : AdapterStartAnswer} {connectionID : ConnectionID}
    (loaded : (pluginSystem game sorting).Initial plugin) (connects : answer.Connects connectionID) :
    let player := (plugin.dataLoaded answer).1.player
    player.probe = .started ∧
      (∃ apiReady localConnectionID, player.process.adapter =
          { STRPMAdapter.initial with
            running := true, apiReady, resolverReady := true, localConnectionID } ∧
        (localConnectionID = 0 ∨ localConnectionID = connectionID)) ∧
      (processSystem game).Initial player.process := by
  intro player
  obtain ⟨probe, initial, renderer, tasks, table, _, resolver, _, _⟩ := loaded
  obtain ⟨registered, ⟨library, found, loadsApi, loadsResolver⟩, identified⟩ := connects
  obtain ⟨api, given⟩ := Option.isSome_iff_exists.mp loadsApi
  obtain ⟨resolves, handed⟩ := Option.isSome_iff_exists.mp loadsResolver
  have stopped : plugin.adapter.running = false := by
    rw [initial]
    rfl
  have loads : plugin.loadApi answer.library = some (api, some resolves) := by
    rw [loadApi, Option.mem_def.mp found, Option.bind_some, given, handed]
    rfl
  have started : player = ⟨{ plugin.player.probe with running := true, handlerSet := true },
      { plugin.player.process with
        adapter := { plugin.adapter with
          localConnectionID :=
            if api.getLocalConnectionID ∧ answer.localConnection.1 = .kOk then
              answer.localConnection.2
            else plugin.adapter.localConnectionID
          running := true
          apiReady := api.send
          resolverReady := true } }⟩ := by
    simp only [player, dataLoaded, start, stopped, loads, registered]
    rfl
  rw [started, probe, initial]
  refine ⟨rfl, ⟨api.send, _, rfl, ?_⟩, renderer, tasks, rfl, rfl, rfl, table⟩
  split
  · next known => exact identified known.2
  · exact .inl rfl

/-- Plugins whose data are loaded make a network. -/
theorem strpmNetwork_initial {Node : Type} [DecidableEq Node] {games : Node → GameData}
    {sorting : ObjectSort} {connections : Node → ConnectionID} {plugins : Node → Plugin}
    {answers : Node → AdapterStartAnswer}
    (loaded : ∀ node, (pluginSystem (games node) sorting).Initial (plugins node))
    (connects : ∀ node, (answers node).Connects (connections node)) :
    (strpmNetwork games sorting connections).Initial
      ⟨fun node => ((plugins node).dataLoaded (answers node)).1.player, fun _ _ => []⟩ :=
  ⟨fun _ _ => rfl, fun node => Plugin.player_of_dataLoaded (loaded node) (connects node)⟩

/-- The plugin after it was loaded. -/
def loadedPlugin : Plugin where
  player := ⟨.constructed, ⟨.initial, .initial, [], fun _ => none⟩⟩
  api := none
  resolver := none
  listener := 0
  proxyListenerRegistered := false

/-- A messaging library with a proxy resolver. -/
def resolvingAnswer : AdapterStartAnswer where
  library := some
    { queryInterface := some (.kOk, some ⟨STRPM.kInterfaceVersion, true, true, true⟩)
      queryDiagnostics := none
      queryProxyResolver := some (.kOk, some ⟨STRPM.kProxyResolverVersion, true, true, true⟩) }
  localConnection := (.kNotConnected, 0)
  registerChannel := (.kOk, some 5)
  registerListener := .kOk

/-- The plugin after `kDataLoaded`. -/
def startedPlugin : Plugin := (loadedPlugin.dataLoaded resolvingAnswer).1

/-- The plugin is started, gets a message and is stopped. -/
def pluginEvents : List PluginEvent :=
  [.dataLoaded resolvingAnswer [(.channel 5, true), (.proxyListener, true)],
    .message bareMessage, .stop [(.proxyListener, false), (.channel 5, false)]]

/-- The plugin has received a message and is stopped. -/
def stoppedPlugin : Plugin :=
  (startedPlugin.setProcess (startedPlugin.player.process.onMessage bareMessage)).stop.1

/-- The plugin is one a run can start from. -/
theorem initial_loadedPlugin : (pluginSystem skyrim captureSort).Initial loadedPlugin :=
  ⟨rfl, rfl, rfl, rfl, ⟨nofun, nofun⟩, rfl, rfl, rfl, rfl⟩

/-- The library manages its registrations. -/
theorem manages_resolvingAnswer : resolvingAnswer.Manages := by
  refine ⟨fun library found => ?_, fun _ => ⟨5, rfl, by decide⟩⟩
  cases found
  constructor
  · intro api given
    cases given
    rfl
  · intro resolver given
    cases given
    rfl

/-- The stopped plugin has released everything and remembers nothing. -/
theorem stopped_lifecycle :
    stoppedPlugin.Valid ∧ Balanced (pluginCalls pluginEvents) stoppedPlugin.held ∧
      (stoppedPlugin.adapter.running = false →
        stoppedPlugin.held = [] ∧ stoppedPlugin.adapter.remoteStates = ∅) := by
  have start : loadedPlugin.dataLoaded resolvingAnswer =
      (startedPlugin, [(.channel 5, true), (.proxyListener, true)]) := rfl
  have stop : (startedPlugin.setProcess (startedPlugin.player.process.onMessage bareMessage)).stop =
      (stoppedPlugin, [(.proxyListener, false), (.channel 5, false)]) := by
    refine Prod.ext rfl ?_
    rw [onMessage_bareMessage _ rfl rfl]
    rfl
  have run : (pluginSystem skyrim captureSort).Runs pluginEvents stoppedPlugin :=
    .of_follows initial_loadedPlugin ⟨_, start, _, rfl, _, stop, rfl⟩
  refine Plugin.plugin_lifecycle run ?_
  simp only [pluginEvents, List.forall_mem_cons]
  exact ⟨manages_resolvingAnswer, trivial, trivial, fun _ member => by cases member⟩

end IEDSyncTogether
