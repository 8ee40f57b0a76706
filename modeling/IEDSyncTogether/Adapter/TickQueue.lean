import IEDSyncTogether.Adapter.Process
import Mathlib.Data.Finset.Card

/-!
# Watchdog ticks under way

`ScheduleWatchdogTick` runs on the watchdog thread and on the game thread. It exchanges the
flag and adds a task; the task clears the flag and then ticks. These are separate atomic
steps, and any other thread may act between them. A process whose operations are whole is one
schedule of these steps.
-/

namespace IEDSyncTogether

open Base

/-- The flag, and how far each tick has come. -/
structure TickQueue (Thread : Type) where
  watchdogTaskQueued : Bool
  /-- The threads that have set the flag and not yet added their task. -/
  scheduling : Finset Thread
  /-- The tasks that have been added and not begun. -/
  queued : Nat
  /-- The task that has begun, and whether it has cleared the flag. -/
  begun : Option Bool
deriving DecidableEq

/-- One atomic step; an exchange shows what it found. -/
inductive TickEvent (Thread : Type) where
  | exchange (thread : Thread) (found : Bool)
  | addTask (thread : Thread)
  | missTasks (thread : Thread)
  | beginTask
  | clearFlag
  | watchdogTick
deriving DecidableEq

namespace TickQueue

variable {Thread : Type} [DecidableEq Thread] (queue : TickQueue Thread)

/-- `_watchdogTaskQueued.exchange(true)`: only the thread that finds it clear goes on. -/
def exchange (thread : Thread) : TickQueue Thread :=
  if queue.watchdogTaskQueued then queue
  else { queue with watchdogTaskQueued := true, scheduling := insert thread queue.scheduling }

/-- A thread that was about to queue a tick queues it. -/
def addTask (thread : Thread) : TickQueue Thread :=
  { queue with scheduling := queue.scheduling.erase thread, queued := queue.queued + 1 }

/-- There is no task interface. -/
def missTasks (thread : Thread) : TickQueue Thread :=
  { queue with scheduling := queue.scheduling.erase thread, watchdogTaskQueued := false }

/-- The ticks between the exchange and the clearing of the flag. -/
def underWay : Nat :=
  queue.scheduling.card + queue.queued + queue.begun.elim 0 fun cleared => (!cleared).toNat

end TickQueue

/-- The threads under every interleaving of their steps. -/
def tickQueue (Thread : Type) [DecidableEq Thread] :
    TransitionSystem (TickQueue Thread) (TickEvent Thread) where
  Initial queue := queue = ⟨false, ∅, 0, none⟩
  Step queue event next :=
    match event with
    | .exchange thread found =>
      thread ∉ queue.scheduling ∧ found = queue.watchdogTaskQueued ∧ next = queue.exchange thread
    | .addTask thread => thread ∈ queue.scheduling ∧ next = queue.addTask thread
    | .missTasks thread => thread ∈ queue.scheduling ∧ next = queue.missTasks thread
    | .beginTask =>
      queue.begun = none ∧ ∃ others, queue.queued = others + 1 ∧
        next = { queue with queued := others, begun := some false }
    | .clearFlag =>
      queue.begun = some false ∧ next = { queue with watchdogTaskQueued := false, begun := some true }
    | .watchdogTick => queue.begun = some true ∧ next = { queue with begun := none }

section Requests

variable {Thread : Type}

/-- A thread asked for a tick, and none has run since. -/
def Unserved (events : List (TickEvent Thread)) : Prop :=
  ∃ before thread found after, events = before ++ .exchange thread found :: after ∧
    .watchdogTick ∉ after

/-- After one more event the request is new, or it was there before and no tick ran. -/
theorem Unserved.cases_concat {events : List (TickEvent Thread)} {event : TickEvent Thread}
    (unserved : Unserved (events ++ [event])) :
    (∃ thread found, event = .exchange thread found) ∨
      Unserved events ∧ event ≠ .watchdogTick := by
  obtain ⟨before, thread, found, after, shape, unticked⟩ := unserved
  rcases List.eq_nil_or_concat after with rfl | ⟨rest, last, rfl⟩
  · obtain ⟨_, same⟩ := List.append_inj' shape rfl
    exact .inl ⟨thread, found, (List.cons.inj same).1⟩
  · rw [List.concat_eq_append, ← List.cons_append, ← List.append_assoc] at shape
    obtain ⟨rfl, same⟩ := List.append_inj' shape rfl
    obtain ⟨rfl, _⟩ := List.cons.inj same
    rw [List.concat_eq_append, List.mem_append, not_or, List.mem_singleton] at unticked
    exact .inr ⟨⟨before, thread, found, rest, rfl, unticked.1⟩, Ne.symm unticked.2⟩

end Requests

variable {Thread : Type} [DecidableEq Thread]

namespace TickQueue

variable {events : List (TickEvent Thread)} {event : TickEvent Thread}
  {queue next : TickQueue Thread}

/-- The flag is set exactly if a tick is under way, and never are two. -/
def Counted (queue : TickQueue Thread) : Prop :=
  queue.underWay = queue.watchdogTaskQueued.toNat

/-- Every step keeps the count. -/
theorem Counted.step (counted : queue.Counted) (step : (tickQueue Thread).Step queue event next) :
    next.Counted := by
  unfold Counted underWay at counted ⊢
  cases event with
  | exchange thread found =>
      obtain ⟨idle, _, rfl⟩ := step
      cases set : queue.watchdogTaskQueued with
      | true =>
          rw [show queue.exchange thread = queue from if_pos set, set, counted, set]
      | false =>
          rw [set, Bool.toNat_false] at counted
          simp only [exchange, set, Bool.false_eq_true, if_false,
            Finset.card_insert_of_notMem idle, Bool.toNat_true]
          omega
  | addTask thread =>
      obtain ⟨scheduling, rfl⟩ := step
      have others := Finset.card_erase_add_one scheduling
      simp only [addTask]
      omega
  | missTasks thread =>
      obtain ⟨scheduling, rfl⟩ := step
      have others := Finset.card_erase_add_one scheduling
      have single := Bool.toNat_le queue.watchdogTaskQueued
      simp only [missTasks, Bool.toNat_false]
      omega
  | beginTask =>
      obtain ⟨idle, others, queued, rfl⟩ := step
      rw [idle, queued, Option.elim_none] at counted
      simp only [Option.elim_some, Bool.not_false, Bool.toNat_true]
      omega
  | clearFlag =>
      obtain ⟨begun, rfl⟩ := step
      have single := Bool.toNat_le queue.watchdogTaskQueued
      rw [begun, Option.elim_some, Bool.not_false, Bool.toNat_true] at counted
      simp only [Option.elim_some, Bool.not_true, Bool.toNat_false]
      omega
  | watchdogTick =>
      obtain ⟨begun, rfl⟩ := step
      rw [begun, Option.elim_some, Bool.not_true, Bool.toNat_false] at counted
      exact counted

/-- A request that is not served is under way, or its tick is about to run. -/
def Serves (events : List (TickEvent Thread)) (queue : TickQueue Thread) : Prop :=
  Unserved events → queue.watchdogTaskQueued = true ∨ queue.begun = some true

/-- Every step of a game that takes tasks keeps the ticks served. -/
theorem Serves.step (serves : queue.Serves events)
    (present : ∀ thread, event ≠ .missTasks thread)
    (step : (tickQueue Thread).Step queue event next) : next.Serves (events ++ [event]) := by
  intro unserved
  rcases unserved.cases_concat with ⟨thread, found, rfl⟩ | ⟨earlier, unticked⟩
  · obtain ⟨_, _, rfl⟩ := step
    unfold exchange
    split_ifs with set
    · exact .inl set
    · exact .inl rfl
  · have before := serves earlier
    cases event with
    | exchange thread found =>
        obtain ⟨_, _, rfl⟩ := step
        unfold exchange
        split_ifs with set
        · exact .inl set
        · exact .inl rfl
    | addTask thread =>
        obtain ⟨_, rfl⟩ := step
        exact before
    | missTasks thread => exact absurd rfl (present thread)
    | beginTask =>
        obtain ⟨idle, others, _, rfl⟩ := step
        rw [idle] at before
        exact .inl (before.resolve_right (by simp))
    | clearFlag =>
        obtain ⟨_, rfl⟩ := step
        exact .inr rfl
    | watchdogTick => exact absurd rfl unticked

/-- The ticks are counted after every run. -/
theorem counted_of_runs (run : (tickQueue Thread).Runs events queue) : queue.Counted := by
  refine run.invariant (fun _ queue => Counted queue) ?_ ?_
  · rintro queue rfl
    rfl
  · intro events queue event next _ counted step
    exact counted.step step

/-- Every request is served in a run in which no task is missed. -/
theorem serves_of_runs (run : (tickQueue Thread).Runs events queue)
    (present : ∀ thread, .missTasks thread ∉ events) : queue.Serves events := by
  have kept := run.invariant (fun events queue => (∀ thread, .missTasks thread ∉ events) →
    Serves events queue) ?_ ?_
  · exact kept present
  · rintro queue rfl _ ⟨before, thread, found, after, shape, _⟩
    simp at shape
  · intro events queue event next _ serves step present
    refine (serves fun thread member => present thread (List.mem_append_left _ member)).step ?_ step
    intro thread same
    exact present thread (List.mem_append_right _ (List.mem_singleton.mpr same.symm))

end TickQueue

/-- In every interleaving at most one tick is under way, the flag says whether one is, and if
there is a task interface, a request made at any time has been followed by a tick, has its
tick under way, or sees the tick that is about to run. -/
theorem ticks_in_single_flight {events : List (TickEvent Thread)} {queue : TickQueue Thread}
    (run : (tickQueue Thread).Runs events queue) :
    queue.underWay = queue.watchdogTaskQueued.toNat ∧
      ((∀ thread, .missTasks thread ∉ events) → Unserved events →
        queue.underWay = 1 ∨ queue.begun = some true) := by
  have counted := TickQueue.counted_of_runs run
  refine ⟨counted, fun present unserved => ?_⟩
  refine (TickQueue.serves_of_runs run present unserved).imp_left fun set => ?_
  rw [counted, set, Bool.toNat_true]

/-- A second thread asks while the first one's tick is queued; that tick is about to run. -/
theorem second_request_served :
    let queue : TickQueue Bool := ⟨false, ∅, 0, some true⟩
    queue.underWay = queue.watchdogTaskQueued.toNat ∧
      ((∀ thread, .missTasks thread ∉ [TickEvent.exchange false false, .addTask false,
          .exchange true true, .beginTask, .clearFlag]) →
        Unserved [TickEvent.exchange false false, .addTask false, .exchange true true, .beginTask,
          .clearFlag] → queue.underWay = 1 ∨ queue.begun = some true) := by
  intro queue
  refine ticks_in_single_flight (.of_follows rfl ?_)
  exact ⟨⟨true, {false}, 0, none⟩, ⟨by decide, rfl, rfl⟩, ⟨true, ∅, 1, none⟩, ⟨by decide, by decide⟩,
    ⟨true, ∅, 1, none⟩, ⟨by decide, rfl, rfl⟩, ⟨true, ∅, 0, some false⟩, ⟨rfl, 0, rfl, rfl⟩,
    queue, ⟨rfl, rfl⟩, rfl⟩

/-! ## The process as a schedule -/

/-- The threads that schedule ticks. -/
inductive TickThread where
  | watchdog
  | game
deriving DecidableEq

/-- The task is a watchdog tick. -/
def GameTask.isTick : GameTask → Bool
  | .watchdogTick => true
  | _ => false

namespace RemoteIEDRenderer

variable (environment : GameEnvironment) (renderer : RemoteIEDRenderer)

/-- Clearing a proxy queues and takes no tick. -/
theorem watchdogTaskQueued_clearProxy (proxyFormID : ProxyFormID) :
    (renderer.clearProxy environment proxyFormID).1.watchdogTaskQueued =
      renderer.watchdogTaskQueued := by
  unfold clearProxy
  split <;> rfl

/-- A reset of the renderer queues and takes no tick. -/
theorem watchdogTaskQueued_reset :
    (renderer.reset environment).1.watchdogTaskQueued = renderer.watchdogTaskQueued := by
  have kept (proxies : List ProxyFormID)
      (progress : RemoteIEDRenderer × List (ProxyFormID × List PapyrusCall)) :
      (proxies.foldl (fun progress proxyFormID =>
        let step := progress.1.clearProxy environment proxyFormID
        (step.1, progress.2 ++ [(proxyFormID, step.2)])) progress).1.watchdogTaskQueued =
          progress.1.watchdogTaskQueued := by
    induction proxies generalizing progress with
    | nil => rfl
    | cons proxyFormID proxies ih =>
        rw [List.foldl_cons, ih]
        exact progress.1.watchdogTaskQueued_clearProxy environment proxyFormID
  exact kept renderer.proxies (renderer, [])

/-- `Apply` leaves the flag or schedules a tick. -/
theorem watchdogTaskQueued_apply (game : GameData) (request : ApplyRequest) :
    let outcome := renderer.apply game environment request
    outcome.renderer.watchdogTaskQueued = renderer.watchdogTaskQueued ∧ outcome.tickAdded = false ∨
      outcome.renderer.watchdogTaskQueued = true ∧
        outcome.tickAdded = !renderer.watchdogTaskQueued := by
  have relabelled (request : ApplyRequest) :
      (renderer.relabel request).watchdogTaskQueued = renderer.watchdogTaskQueued := by
    unfold relabel
    split <;> rfl
  obtain ⟨_, same⟩ | ⟨_, same⟩ | ⟨_, same⟩ := renderer.apply_cases game environment request
  · rw [same]
    exact .inl ⟨rfl, rfl⟩
  · rw [same]
    exact .inr ⟨rfl, congrArg (!·) (relabelled request)⟩
  · rw [same]
    exact .inr ⟨rfl, rfl⟩

end RemoteIEDRenderer

namespace GameProcess

/-- The flag and the queued ticks, between two operations. -/
def ticks (process : GameProcess) : TickQueue TickThread :=
  ⟨process.renderer.watchdogTaskQueued, ∅, process.tasks.countP GameTask.isTick, none⟩

/-- The atomic steps lead from one process to the other, and each finds the task interface. -/
def Schedules (process next : GameProcess) : Prop :=
  ∃ events, (tickQueue TickThread).Follows process.ticks events next.ticks ∧
    ∀ thread, .missTasks thread ∉ events

section Schedules

variable {game : GameData} {environment : GameEnvironment} {process next : GameProcess}

/-- What leaves the ticks schedules nothing. -/
theorem schedules_idle (same : next.ticks = process.ticks) : process.Schedules next :=
  ⟨[], same.symm, by simp⟩

/-- A thread asks for a tick, which is added unless one is queued. -/
theorem schedules_request (thread : TickThread)
    (set : next.renderer.watchdogTaskQueued = true)
    (added : next.tasks.countP GameTask.isTick = process.tasks.countP GameTask.isTick +
      (!process.renderer.watchdogTaskQueued).toNat) : process.Schedules next := by
  cases flag : process.renderer.watchdogTaskQueued with
  | true =>
      have same : next.ticks = process.ticks := by
        rw [ticks, ticks, set, added, flag]
        rfl
      refine ⟨[.exchange thread true], ⟨process.ticks, ⟨Finset.notMem_empty _, flag.symm, ?_⟩,
        same.symm⟩, by simp⟩
      exact (if_pos flag).symm
  | false =>
      refine ⟨[.exchange thread false, .addTask thread],
        ⟨⟨true, {thread}, process.tasks.countP GameTask.isTick, none⟩,
          ⟨Finset.notMem_empty _, flag.symm, ?_⟩, next.ticks,
          ⟨Finset.mem_singleton_self _, ?_⟩, rfl⟩, by simp⟩
      · rw [TickQueue.exchange, if_neg (by simp [ticks, flag])]
        rfl
      · rw [ticks, set, added, flag, TickQueue.addTask, Finset.erase_singleton]
        rfl

/-- Applying a connection schedules at most one tick. -/
theorem schedules_applyRemote (connectionID : ConnectionID) (force : Bool) :
    process.Schedules (process.applyRemoteOnGameThread game environment connectionID force) := by
  rcases process.applyRemote_cases game environment connectionID force with
    same | ⟨snapshot, proxyFormID, _, _, _, same⟩
  · rw [same]
    exact schedules_idle rfl
  · rw [same]
    rcases process.renderer.watchdogTaskQueued_apply environment game
        ⟨connectionID, proxyFormID, snapshot.displayName, snapshot.state, force⟩ with
      ⟨flag, unadded⟩ | ⟨set, added⟩
    · refine schedules_idle ?_
      simp only [ticks, applyState, flag, unadded, Bool.false_eq_true, if_false, List.append_nil]
    · refine schedules_request .game set ?_
      simp only [applyState, added, List.countP_append]
      cases process.renderer.watchdogTaskQueued <;> rfl

/-- A task other than the tick schedules at most one. -/
theorem schedules_performTask (scenes : ProxyFormID → Option ProxyScene) {task : GameTask}
    (other : task.isTick = false) :
    process.Schedules (process.performTask game environment scenes task) := by
  have cleared (proxyFormID : ProxyFormID) :
      (process.clearProxy environment proxyFormID).ticks = process.ticks := by
    simp only [ticks, clearProxy, RemoteIEDRenderer.watchdogTaskQueued_clearProxy]
  have reset : (process.resetRenderer environment).ticks = process.ticks := by
    simp only [ticks, resetRenderer, RemoteIEDRenderer.watchdogTaskQueued_reset]
  cases task with
  | applyRemote connectionID force => exact schedules_applyRemote connectionID force
  | proxyMapping event =>
      rw [performTask, handleProxyMappingOnGameThread]
      split
      · exact schedules_idle rfl
      · cases event.type with
        | kAdded => exact schedules_applyRemote _ _
        | kUpdated =>
            have replaced : (process.clearReplaced environment event).ticks = process.ticks := by
              unfold clearReplaced
              split
              · exact cleared _
              · rfl
            have schedules := @schedules_applyRemote game environment
              (process.clearReplaced environment event) event.connectionID true
            rwa [Schedules, replaced] at schedules
        | kRemoved => exact schedules_idle (cleared event.oldFormID)
        | kCleared => exact schedules_idle reset
  | rendererReset => exact schedules_idle reset
  | watchdogTick => cases other

/-- The queued tick clears the flag and ticks. -/
theorem schedules_runTask (scenes : ProxyFormID → Option ProxyScene) :
    process.Schedules (process.runTask game environment scenes) := by
  rw [runTask]
  split
  · exact schedules_idle rfl
  · next task tasks queue =>
      cases kind : task.isTick with
      | false =>
          have schedules := @schedules_performTask game environment { process with tasks } scenes
            task kind
          have same : ({ process with tasks } : GameProcess).ticks = process.ticks := by
            simp only [ticks, queue, List.countP_cons, kind, Bool.false_eq_true, if_false,
              Nat.add_zero]
          rwa [Schedules, same] at schedules
      | true =>
          obtain rfl : task = .watchdogTick := by
            cases task <;> simp_all [GameTask.isTick]
          have queued : process.tasks.countP GameTask.isTick =
              tasks.countP GameTask.isTick + 1 := by
            rw [queue, List.countP_cons, kind, if_pos rfl]
          exact ⟨[.beginTask, .clearFlag, .watchdogTick],
            ⟨{ process.ticks with queued := tasks.countP GameTask.isTick, begun := some false },
              ⟨rfl, _, queued, rfl⟩, _, ⟨rfl, rfl⟩, _, ⟨rfl, rfl⟩, rfl⟩, by simp⟩

/-- Every step of a process is a schedule of ticks. -/
theorem schedules_of_step {event : ProcessEvent}
    (step : (processSystem game).Step process event next) : process.Schedules next := by
  have appended (tasks : List GameTask) (others : ∀ task ∈ tasks, task.isTick = false) :
      (process.tasks ++ tasks).countP GameTask.isTick = process.tasks.countP GameTask.isTick := by
    have none : tasks.countP GameTask.isTick = 0 :=
      List.countP_eq_zero.mpr fun task member => by simp [others task member]
    rw [List.countP_append, none, Nat.add_zero]
  cases event with
  | changeTable change =>
      obtain ⟨_, _, rfl⟩ := step
      refine schedules_idle ?_
      unfold changeTable onProxyMapping
      split
      · simp only [ticks, addTask, appended [.proxyMapping change.event] (by simp [GameTask.isTick])]
      · rfl
  | message message stored =>
      obtain ⟨_, rfl⟩ := step
      refine schedules_idle ?_
      unfold onMessage queueRemoteApply
      split
      · rfl
      · split
        · rfl
        · simp only [ticks, addTask,
            appended [.applyRemote message.senderID false] (by simp [GameTask.isTick])]
  | scheduleWatchdogTick =>
      obtain rfl := step
      refine schedules_request .watchdog rfl ?_
      rw [scheduleWatchdogTick, List.countP_append, RemoteIEDRenderer.scheduleWatchdogTick]
      cases process.renderer.watchdogTaskQueued <;> rfl
  | resetAdapter =>
      obtain rfl := step
      refine schedules_idle ?_
      simp only [ticks, resetAdapter, addTask, appended [.rendererReset] (by simp [GameTask.isTick])]
  | runTask environment scenes =>
      obtain rfl := step
      exact schedules_runTask scenes

end Schedules

/-- Every run of the process is a schedule of the atomic steps, so its queue holds a tick
exactly if the flag is set, and never two. -/
theorem ticks_of_runs {game : GameData} {events : List ProcessEvent} {process : GameProcess}
    (run : (processSystem game).Runs events process) :
    (∃ steps, (tickQueue TickThread).Runs steps process.ticks ∧
      ∀ thread, .missTasks thread ∉ steps) ∧
    process.tasks.countP GameTask.isTick = process.renderer.watchdogTaskQueued.toNat := by
  have scheduled := run.invariant (fun _ process => ∃ steps,
    (tickQueue TickThread).Runs steps process.ticks ∧ ∀ thread, .missTasks thread ∉ steps) ?_ ?_
  · obtain ⟨steps, atomic, present⟩ := scheduled
    refine ⟨⟨steps, atomic, present⟩, ?_⟩
    have counted := TickQueue.counted_of_runs atomic
    simpa [TickQueue.Counted, TickQueue.underWay, ticks] using counted
  · rintro process ⟨renderer, tasks, _⟩
    refine ⟨[], .initial ?_, by simp⟩
    rw [ticks, renderer, tasks]
    rfl
  · rintro events process event next _ ⟨steps, atomic, present⟩ step
    obtain ⟨further, follows, found⟩ := schedules_of_step step
    refine ⟨steps ++ further, atomic.append follows, fun thread => ?_⟩
    rw [List.mem_append, not_or]
    exact ⟨present thread, found thread⟩

/-- The watchdog thread asks twice before the tick runs. -/
theorem two_requests_one_tick :
    let process := startedProcess.scheduleWatchdogTick.scheduleWatchdogTick
    (∃ steps, (tickQueue TickThread).Runs steps process.ticks ∧
      ∀ thread, .missTasks thread ∉ steps) ∧
    process.tasks.countP GameTask.isTick = process.renderer.watchdogTaskQueued.toNat := by
  have twice : (processSystem skyrim).Follows startedProcess
      [.scheduleWatchdogTick, .scheduleWatchdogTick]
      startedProcess.scheduleWatchdogTick.scheduleWatchdogTick := ⟨_, rfl, _, rfl, rfl⟩
  exact ticks_of_runs (.of_follows (startedProcess_initial skyrim) twice)

end GameProcess

end IEDSyncTogether
