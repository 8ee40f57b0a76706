import IEDSyncTogether.Adapter.Process

/-!
# No ghost displays

Tasks resolve connections through the live table while clears come from queued
events. Every proxy the renderer knows is therefore either mapped now, or some
queued task will clear it.
-/

namespace IEDSyncTogether

open Base

/-- The task clears the proxy when it runs. -/
def GameTask.Clears (proxyFormID : ProxyFormID) : GameTask → Prop
  | .proxyMapping event =>
    match event.type with
    | .kAdded => False
    | .kUpdated => event.oldFormID = proxyFormID ∧ event.newFormID ≠ proxyFormID
    | .kRemoved => event.oldFormID = proxyFormID
    | .kCleared => True
  | .rendererReset => True
  | .applyRemote _ _ => False
  | .watchdogTick => False

namespace RemoteIEDRenderer

/-- The proxy is a key of one of the two maps. -/
def Knows (renderer : RemoteIEDRenderer) (proxyFormID : ProxyFormID) : Prop :=
  proxyFormID ∈ renderer.trackedProxies ∨ proxyFormID ∈ renderer.appliedSignatures

/-- A renderer knows a proxy that it displays or has a signature of. -/
theorem knows_iff (renderer : RemoteIEDRenderer) (proxyFormID : ProxyFormID) :
    renderer.Knows proxyFormID ↔
      renderer.displayed proxyFormID ≠ none ∨ renderer.signature proxyFormID ≠ none := by
  simp only [Knows, displayed, signature, ne_eq, Option.map_eq_none_iff, AList.lookup_eq_none,
    not_not]

variable {environment : GameEnvironment} {renderer : RemoteIEDRenderer}
  {proxyFormID : ProxyFormID}

/-- `Apply` makes at most its own proxy known. -/
theorem Knows.of_apply {game : GameData} {request : ApplyRequest}
    (knows : (renderer.apply game environment request).renderer.Knows proxyFormID) :
    proxyFormID = request.proxyFormID ∨ renderer.Knows proxyFormID := by
  by_cases here : proxyFormID = request.proxyFormID
  · exact .inl here
  · rw [knows_iff, apply_displayed, apply_signature, if_neg fun all => here all.1,
      if_neg fun all => here all.1, ← knows_iff] at knows
    exact .inr knows

/-- A cleared proxy is not known any more, and no other becomes known. -/
theorem Knows.of_clearProxy {cleared : ProxyFormID}
    (knows : (renderer.clearProxy environment cleared).1.Knows proxyFormID) :
    renderer.Knows proxyFormID ∧ (proxyFormID = cleared → cleared = kInvalidProxyFormID) := by
  rw [knows_iff, clearProxy_displayed, clearProxy_signature] at knows
  split_ifs at knows with gone
  · simp at knows
  · exact ⟨(renderer.knows_iff _).mpr knows, fun here => by_contra fun valid => gone ⟨here, valid⟩⟩

/-- A reset renderer knows no proxy. -/
theorem not_knows_reset : ¬ (renderer.reset environment).1.Knows proxyFormID := by
  simp [knows_iff]

@[simp] theorem knows_runWatchdogTask {scenes : ProxyFormID → Option ProxyScene} :
    (renderer.runWatchdogTask scenes).1.Knows proxyFormID ↔ renderer.Knows proxyFormID := by
  simp [knows_iff]

@[simp] theorem knows_scheduleWatchdogTick :
    renderer.scheduleWatchdogTick.1.Knows proxyFormID ↔ renderer.Knows proxyFormID := by
  simp [knows_iff]

end RemoteIEDRenderer

namespace GameProcess

/-- Some connection has the proxy now. -/
def Mapped (process : GameProcess) (proxyFormID : ProxyFormID) : Prop :=
  ∃ connectionID, process.table connectionID = some proxyFormID

/-- The known proxies are mapped or about to be cleared, and the adapter, which
clears them, runs. -/
structure NoGhosts (process : GameProcess) : Prop where
  running : process.adapter.running = true
  valid : ∀ proxyFormID, process.renderer.Knows proxyFormID → proxyFormID ≠ kInvalidProxyFormID
  covered : ∀ proxyFormID, process.renderer.Knows proxyFormID →
    process.Mapped proxyFormID ∨ ∃ task ∈ process.tasks, task.Clears proxyFormID

variable {game : GameData} {environment : GameEnvironment} {process : GameProcess}
  {proxyFormID : ProxyFormID}

/-- Applying a connection makes at most a mapped proxy known. -/
theorem knows_applyRemote {connectionID : ConnectionID} {force : Bool}
    (knows : (process.applyRemoteOnGameThread game environment connectionID
      force).renderer.Knows proxyFormID) :
    process.Mapped proxyFormID ∧ proxyFormID ≠ kInvalidProxyFormID ∨
      process.renderer.Knows proxyFormID := by
  rcases process.applyRemote_cases game environment connectionID force with
    same | ⟨snapshot, target, _, mapped, valid, same⟩
  · exact .inr (same ▸ knows)
  · rw [same] at knows
    rcases RemoteIEDRenderer.Knows.of_apply knows with rfl | earlier
    · exact .inl ⟨⟨connectionID, mapped⟩, valid⟩
    · exact .inr earlier

@[simp] theorem table_clearReplaced {event : STRPM.ProxyMappingEvent} :
    (process.clearReplaced environment event).table = process.table := by
  unfold clearReplaced
  split_ifs <;> rfl

/-- Of a replaced proxy nothing is left. -/
theorem knows_clearReplaced {event : STRPM.ProxyMappingEvent}
    (knows : (process.clearReplaced environment event).renderer.Knows proxyFormID) :
    process.renderer.Knows proxyFormID ∧ (proxyFormID ≠ kInvalidProxyFormID →
      ¬ (event.oldFormID = proxyFormID ∧ event.newFormID ≠ proxyFormID)) := by
  unfold clearReplaced at knows
  split_ifs at knows with moved
  · obtain ⟨earlier, invalid⟩ := RemoteIEDRenderer.Knows.of_clearProxy knows
    exact ⟨earlier, fun valid clears => moved.1 (invalid clears.1.symm)⟩
  · refine ⟨knows, ?_⟩
    rintro valid ⟨rfl, other⟩
    exact moved ⟨valid, other.symm⟩

/-- What a task leaves known is mapped, or was known and is not cleared by it. -/
theorem knows_performTask (running : process.adapter.running = true)
    {scenes : ProxyFormID → Option ProxyScene} {task : GameTask}
    (knows : (process.performTask game environment scenes task).renderer.Knows proxyFormID) :
    process.Mapped proxyFormID ∧ proxyFormID ≠ kInvalidProxyFormID ∨
      process.renderer.Knows proxyFormID ∧
        (proxyFormID ≠ kInvalidProxyFormID → ¬ task.Clears proxyFormID) := by
  cases task with
  | applyRemote connectionID force =>
      exact (knows_applyRemote knows).imp_right fun earlier => ⟨earlier, fun _ clears => clears⟩
  | proxyMapping event =>
      obtain ⟨type, connectionID, oldFormID, newFormID⟩ := event
      rw [performTask, handleProxyMappingOnGameThread, if_neg (by simp [running])] at knows
      cases type with
      | kAdded =>
          exact (knows_applyRemote knows).imp_right fun earlier => ⟨earlier, fun _ clears => clears⟩
      | kUpdated =>
          refine (knows_applyRemote knows).imp ?_ knows_clearReplaced
          simp only [Mapped, table_clearReplaced, imp_self]
      | kRemoved =>
          obtain ⟨earlier, invalid⟩ := RemoteIEDRenderer.Knows.of_clearProxy knows
          exact .inr ⟨earlier, fun valid clears => valid (clears ▸ invalid clears.symm)⟩
      | kCleared => exact absurd knows RemoteIEDRenderer.not_knows_reset
  | rendererReset => exact absurd knows RemoteIEDRenderer.not_knows_reset
  | watchdogTick =>
      exact .inr ⟨RemoteIEDRenderer.knows_runWatchdogTask.mp knows, fun _ clears => clears⟩

/-- Running the oldest task keeps the invariant. -/
theorem NoGhosts.runTask (invariant : process.NoGhosts)
    (scenes : ProxyFormID → Option ProxyScene) :
    (process.runTask game environment scenes).NoGhosts := by
  rw [GameProcess.runTask]
  split
  · exact invariant
  · next task tasks queue =>
      have frame := { process with tasks }.extends_performTask game environment scenes task
      obtain ⟨ticks, grown, _⟩ := frame.tasks
      have remaining := fun proxyFormID =>
        @knows_performTask game environment { process with tasks } proxyFormID invariant.running
          scenes task
      refine ⟨frame.running.trans invariant.running, ?_, ?_⟩
      · intro proxyFormID knows
        rcases remaining proxyFormID knows with
          ⟨_, valid⟩ | ⟨earlier, _⟩
        · exact valid
        · exact invariant.valid proxyFormID earlier
      · intro proxyFormID knows
        rw [Mapped, frame.table]
        rcases remaining proxyFormID knows with
          ⟨mapped, _⟩ | ⟨earlier, kept⟩
        · exact .inl mapped
        · rcases invariant.covered proxyFormID earlier with mapped | ⟨other, queued, clears⟩
          · exact .inl mapped
          · have survives := kept (invariant.valid proxyFormID earlier)
            rw [queue, List.mem_cons] at queued
            rcases queued with rfl | later
            · exact absurd clears survives
            · exact .inr ⟨other, by rw [grown]; exact List.mem_append_left ticks later, clears⟩

/-- The event of a change clears the proxy it takes from a connection. -/
theorem clears_of_lost {table : STRPM.ProxyTable} {change : STRPM.TableChange}
    {owner : ConnectionID} {proxyFormID : ProxyFormID} (applies : change.Applies table)
    (mapped : table owner = some proxyFormID)
    (lost : change.perform table owner ≠ some proxyFormID) :
    (GameTask.proxyMapping change.event).Clears proxyFormID := by
  have unaffected (connectionID : ConnectionID) (entry : Option ProxyFormID)
      (changed : Function.update table connectionID entry owner ≠ some proxyFormID) :
      owner = connectionID := by
    by_contra other
    rw [Function.update_of_ne other] at changed
    exact changed mapped
  cases change with
  | added connectionID newFormID =>
      obtain rfl := unaffected connectionID _ lost
      cases mapped.symm.trans applies
  | updated connectionID oldFormID newFormID =>
      obtain rfl := unaffected connectionID _ lost
      cases mapped.symm.trans applies
      rw [STRPM.TableChange.perform, Function.update_self] at lost
      exact ⟨rfl, fun new => lost (congrArg some new)⟩
  | removed connectionID oldFormID =>
      obtain rfl := unaffected connectionID _ lost
      cases mapped.symm.trans applies
      exact rfl
  | cleared => trivial

/-- A table change that takes a proxy away queues the task that clears it. -/
theorem NoGhosts.changeTable (invariant : process.NoGhosts) {change : STRPM.TableChange}
    (applies : change.Applies process.table) : (process.changeTable change).NoGhosts := by
  have queued : (process.changeTable change).tasks =
      process.tasks ++ [.proxyMapping change.event] := by
    simp [GameProcess.changeTable, onProxyMapping, addTask, invariant.running]
  have same : (process.changeTable change).renderer = process.renderer ∧
      (process.changeTable change).adapter = process.adapter ∧
      (process.changeTable change).table = change.perform process.table := by
    simp [GameProcess.changeTable, onProxyMapping, addTask, invariant.running]
  refine ⟨same.2.1 ▸ invariant.running, same.1 ▸ invariant.valid, ?_⟩
  intro proxyFormID knows
  rw [same.1] at knows
  simp only [Mapped, same.2.2, queued, List.mem_append, List.mem_singleton]
  rcases invariant.covered proxyFormID knows with ⟨owner, mapped⟩ | ⟨task, earlier, clears⟩
  · by_cases kept : change.perform process.table owner = some proxyFormID
    · exact .inl ⟨owner, kept⟩
    · exact .inr ⟨_, .inr rfl, clears_of_lost applies mapped kept⟩
  · exact .inr ⟨task, .inl earlier, clears⟩

/-- A message touches neither the renderer nor the table. -/
theorem NoGhosts.onMessage (invariant : process.NoGhosts) (message : STRPM.Message) :
    (process.onMessage message).NoGhosts := by
  rw [GameProcess.onMessage]
  split
  · exact invariant
  · rw [queueRemoteApply]
    split
    · exact ⟨invariant.running, invariant.valid, invariant.covered⟩
    · refine ⟨invariant.running, invariant.valid, fun proxyFormID knows => ?_⟩
      refine (invariant.covered proxyFormID knows).imp id ?_
      rintro ⟨task, queued, clears⟩
      exact ⟨task, List.mem_append_left _ queued, clears⟩

end GameProcess

/-- The invariant holds after every run. -/
theorem noGhosts_of_runs {game : GameData} {events : List ProcessEvent} {process : GameProcess}
    (run : (processSystem game).Runs events process) : process.NoGhosts := by
  apply TransitionSystem.Runs.invariant (fun _ process => process.NoGhosts) _ _ run
  · rintro process ⟨fresh, _, _, running, _⟩
    have unknown : ∀ proxyFormID, ¬ process.renderer.Knows proxyFormID := by
      simp [fresh, RemoteIEDRenderer.knows_iff]
    exact ⟨running, fun _ knows => absurd knows (unknown _),
      fun _ knows => absurd knows (unknown _)⟩
  · intro events process event next _ invariant step
    cases event with
    | changeTable change =>
        obtain ⟨applies, _, rfl⟩ := step
        exact invariant.changeTable applies
    | message message stored =>
        obtain ⟨_, rfl⟩ := step
        exact invariant.onMessage message
    | scheduleWatchdogTick =>
        obtain rfl := step
        refine ⟨invariant.running, ?_, ?_⟩
        · intro proxyFormID knows
          exact invariant.valid _ (RemoteIEDRenderer.knows_scheduleWatchdogTick.mp knows)
        · intro proxyFormID knows
          refine (invariant.covered _
            (RemoteIEDRenderer.knows_scheduleWatchdogTick.mp knows)).imp id ?_
          rintro ⟨task, queued, clears⟩
          exact ⟨task, List.mem_append_left _ queued, clears⟩
    | resetAdapter =>
        obtain rfl := step
        refine ⟨invariant.running, invariant.valid, fun proxyFormID _ => .inr ?_⟩
        exact ⟨.rendererReset, List.mem_append_right _ List.mem_cons_self, trivial⟩
    | runTask environment scenes =>
        obtain rfl := step
        exact invariant.runTask scenes

/-- In every state of every run a proxy with tracked items or a cached signature
is mapped to a connection or cleared by a queued task; once the queue is empty,
only mapped proxies are known. -/
theorem known_proxies_mapped_or_cleared {game : GameData} {events : List ProcessEvent}
    {process : GameProcess} (run : (processSystem game).Runs events process)
    (proxyFormID : ProxyFormID)
    (known : proxyFormID ∈ process.renderer.trackedProxies ∨
      proxyFormID ∈ process.renderer.appliedSignatures) :
    (process.Mapped proxyFormID ∨ ∃ task ∈ process.tasks, task.Clears proxyFormID) ∧
      (process.tasks = [] → process.Mapped proxyFormID) := by
  have covered := (noGhosts_of_runs run).covered proxyFormID known
  refine ⟨covered, fun idle => covered.resolve_right ?_⟩
  rintro ⟨task, queued, _⟩
  rw [idle] at queued
  cases queued

/-- After one message and its task the peer's proxy is known, and it is mapped. -/
theorem shown_proxy_mapped :
    let process := (startedProcess.onMessage bareMessage).runTask skyrim openGame fun _ => none
    (process.Mapped lydia ∨ ∃ task ∈ process.tasks, task.Clears lydia) ∧
      (process.tasks = [] → process.Mapped lydia) := by
  intro process
  have run : (processSystem skyrim).Runs [.message bareMessage (some STRPMAdapter.emptyState),
      .runTask openGame fun _ => none] process :=
    .of_follows (startedProcess_initial skyrim)
      ⟨_, ⟨(receivedState_bareMessage rfl rfl).symm, rfl⟩, _, rfl, rfl⟩
  refine known_proxies_mapped_or_cleared run lydia (.inl ?_)
  simp only [process, onMessage_bareMessage startedProcess rfl rfl]
  decide

end IEDSyncTogether
