import IEDSyncTogether.Pipeline.StrpmNetwork

/-!
# The two halves of a player

The sending half records the last capture and keeps its payload until the transport has
taken it; the receiving half shows what it last stored. They share the adapter, and each
leaves the other's fields alone.
-/

namespace IEDSyncTogether

open Base

/-! ## What can be read back -/

/-- A payload of a state that is read back from it unchanged. -/
def ReadBack (payload : ByteString) : Prop :=
  payload.length ≤ STRPM.kMaxPayloadBytes ∧
    ∃ state, payload = encodeLocalIEDState state ∧ decodeLocalIEDState payload = some state

/-- A quantised number is on the grid. -/
theorem onGrid_quantize (round : ℚ≥0 → ℕ) (places : ℕ) (value : ExactFloat) :
    ExactFloat.OnGrid places (value.quantize round places) := ⟨_, rfl⟩

/-- The capture rounds every number more coarsely than the wire. -/
theorem onGrid_of_mem_captureState {game : GameData} {sorting : ObjectSort}
    {scene : Option PlayerScene} {slots : SlotState} {object : CapturedIEDObject}
    (member : object ∈ (captureState game sorting scene slots).objects) : object.OnGrid := by
  obtain ⟨loaded, _, address, _, captured⟩ := exists_of_mem_captureState member
  obtain ⟨formID, form, _, _, _, rfl⟩ := PlayerScene.captureObject_eq_some captured
  have fine (value : ExactFloat) : ExactFloat.OnGrid 6 (quantizeCapture value) :=
    (onGrid_quantize _ _ value).mono (by decide)
  refine ⟨?_, ?_, fine _⟩
  · intro value component
    obtain ⟨source, _, rfl⟩ := Vector.mem_map.mp component
    exact fine source
  · intro value component
    obtain ⟨source, _, rfl⟩ := Vector.mem_map.mp component
    exact fine source

/-- A captured state with addressable slots is read back unchanged. -/
theorem decode_encode_captureState {slots : SlotState} (addressable : Addressable slots)
    (game : GameData) (sorting : ObjectSort) (scene : Option PlayerScene) :
    decodeLocalIEDState (encodeLocalIEDState (captureState game sorting scene slots)) =
      some (captureState game sorting scene slots) := by
  rw [decode_captureState, if_pos addressable,
    LocalIEDState.rounded_eq fun _ member => onGrid_of_mem_captureState member]

/-! ## The sending half -/

section Sending

/-- A capture is reported as it is recorded, or not at all. -/
theorem LocalCaptureProbe.reported_completeCapture (game : GameData) (sorting : ObjectSort)
    (scene : Option PlayerScene) (probe : LocalCaptureProbe) (slots : SlotState) :
    (probe.completeCapture game sorting scene slots).reported = none ∨
      (probe.completeCapture game sorting scene slots).reported =
        some (captureState game sorting scene slots,
          encodeLocalIEDState (captureState game sorting scene slots)) := by
  simp only [completeCapture]
  split
  · split
    · exact .inr rfl
    · exact .inl rfl
  · exact .inl rfl

/-- What was accepted is filed. -/
theorem SenderLedger.accepted_file (ledger : SenderLedger) (outcome : SendOutcome) :
    (ledger.file outcome.offered outcome.accepted).accepted.map Prod.snd =
      ledger.accepted.map Prod.snd ++ outcome.taken.toList := by
  obtain ⟨adapter, offered, accepted⟩ := outcome
  cases offered with
  | none => cases accepted <;> simp [file, SendOutcome.taken]
  | some payload => cases accepted <;> simp [file, SendOutcome.taken]

/-- What a send takes is retained. -/
def SendOutcome.TakesRetained (outcome : SendOutcome) : Prop :=
  ∀ payload, outcome.taken = some payload →
    payload ≠ [] ∧ payload = outcome.adapter.latestPayload

/-- Where nothing is offered nothing is taken. -/
theorem takesRetained_idle (adapter : STRPMAdapter) :
    SendOutcome.TakesRetained ⟨adapter, none, false⟩ := by
  intro payload taken
  cases taken

/-- A send of the retained payload takes that one if any. -/
theorem takesRetained_trySend (adapter : STRPMAdapter) (answer : TransportAnswer) :
    (adapter.trySend adapter.latestPayload answer).TakesRetained := by
  intro payload taken
  rw [STRPMAdapter.trySend_latestPayload]
  unfold STRPMAdapter.trySend at taken
  split_ifs at taken with down large
  · cases taken
  · cases taken
  · simp only [SendOutcome.taken] at taken
    split at taken
    · obtain rfl := Option.some.inj taken
      exact ⟨fun empty => down (.inr (.inr empty)), rfl⟩
    · cases taken

/-- A retry or a heartbeat takes the retained payload if any. -/
theorem takesRetained_retryTick (adapter : STRPMAdapter) (now : Nat) (answer : TransportAnswer) :
    (adapter.retryTick now answer).TakesRetained := by
  unfold STRPMAdapter.retryTick
  split_ifs
  · exact takesRetained_idle adapter
  · exact takesRetained_trySend adapter answer
  · exact takesRetained_trySend adapter answer
  · exact takesRetained_idle adapter
  · exact takesRetained_idle adapter

/-- A publication takes the payload it retains. -/
theorem takesRetained_publish (adapter : STRPMAdapter) (state : LocalIEDState)
    (payload : ByteString) (answer : TransportAnswer) :
    (adapter.publish state payload answer).TakesRetained := by
  unfold STRPMAdapter.publish
  split_ifs
  · exact takesRetained_idle adapter
  · exact takesRetained_idle adapter
  · exact takesRetained_trySend (adapter.retain state payload) answer

/-- What the transport takes of a capture is retained, and not empty. -/
theorem Player.taken_completeCapture {player : Player} {game : GameData} {sorting : ObjectSort}
    {slots : SlotState} {scene : Option PlayerScene} {answer : TransportAnswer}
    {payload : ByteString}
    (taken : (player.completeCapture game sorting slots scene answer).2 = some payload) :
    payload ≠ [] ∧ payload = (player.completeCapture game sorting slots scene
      answer).1.process.adapter.latestPayload := by
  rcases player.probe.reported_completeCapture game sorting scene slots with none | reported
  · simp only [completeCapture, none] at taken
    cases taken
  · simp only [completeCapture, reported] at taken ⊢
    exact takesRetained_publish _ _ _ answer payload taken

/-- A player that records its last capture, and whose transport took these payloads. -/
structure Sending (last : Option LocalIEDState) (taken : List ByteString) (player : Player) :
    Prop where
  records : HeartbeatInvariant last player.sendingSide
  canonical : ∀ state ∈ last, decodeLocalIEDState (encodeLocalIEDState state) = some state
  sends : ∃ ledger, SenderInvariant ledger player.process.adapter ∧
    ledger.accepted.map Prod.snd <:+ taken
  retains : player.process.adapter.latestPayload = [] ∨
    ReadBack player.process.adapter.latestPayload

namespace Sending

variable {last : Option LocalIEDState} {taken : List ByteString} {player : Player}

/-- An offer of the retained payload, if it is taken, adds it. -/
theorem offer (sends : ∃ ledger, SenderInvariant ledger player.process.adapter ∧
      ledger.accepted.map Prod.snd <:+ taken)
    {outcome : SendOutcome}
    (filed : ∀ ledger, SenderInvariant ledger player.process.adapter → ∃ next : SenderLedger,
      next.accepted = ledger.accepted ∧
        SenderInvariant (next.file outcome.offered outcome.accepted) outcome.adapter) :
    ∃ ledger, SenderInvariant ledger outcome.adapter ∧
      ledger.accepted.map Prod.snd <:+ taken ++ outcome.taken.toList := by
  obtain ⟨ledger, invariant, ⟨earlier, rfl⟩⟩ := sends
  obtain ⟨next, same, kept⟩ := filed ledger invariant
  refine ⟨_, kept, earlier, ?_⟩
  rw [SenderLedger.accepted_file, same, List.append_assoc]

/-- A retry or a heartbeat keeps the sending half. -/
theorem retryTick (sending : Sending last taken player) (now : Nat) (answer : TransportAnswer) :
    let done := player.retryTick now answer
    Sending last (taken ++ done.2.toList) done.1 where
  records := sending.records.retryTick now answer
  canonical := sending.canonical
  sends := offer sending.sends fun ledger invariant =>
    ⟨ledger, rfl, invariant.retryTick now answer⟩
  retains := by
    rw [Player.retryTick, Player.setAdapter, STRPMAdapter.retryTick_latestPayload]
    exact sending.retains

/-- A capture that is not reported is recorded already. -/
theorem unreported (sending : Sending last taken player) {next : Player} {state : LocalIEDState}
    (decoded : decodeLocalIEDState (encodeLocalIEDState state) = some state)
    (records : HeartbeatInvariant (some state) next.sendingSide)
    (same : next.process.adapter = player.process.adapter) :
    Sending (some state) taken next where
  records
  canonical _ same := Option.some.inj same ▸ decoded
  sends := by
    rw [same]
    exact sending.sends
  retains := by
    rw [same]
    exact sending.retains

/-- A published state is retained and offered, if it fits. -/
theorem published (sending : Sending last taken player) {next : Player} {state : LocalIEDState}
    {answer : TransportAnswer}
    (decoded : decodeLocalIEDState (encodeLocalIEDState state) = some state)
    (records : HeartbeatInvariant (some state) next.sendingSide)
    (adapter : next.process.adapter = (player.process.adapter.publish state
      (encodeLocalIEDState state) answer).adapter) :
    Sending (some state) (taken ++ (player.process.adapter.publish state
      (encodeLocalIEDState state) answer).taken.toList) next := by
  have present : encodeLocalIEDState state ≠ [] := encodeLocalIEDState_ne_nil state
  have latest := player.process.adapter.publish_latestPayload (encodeLocalIEDState state) answer
    state
  by_cases large : STRPM.kMaxPayloadBytes < (encodeLocalIEDState state).length
  · have idle : player.process.adapter.publish state (encodeLocalIEDState state) answer =
        ⟨player.process.adapter, none, false⟩ := by
      rw [STRPMAdapter.publish, if_neg present, if_pos large]
    rw [idle] at adapter ⊢
    simpa [SendOutcome.taken] using sending.unreported decoded records adapter
  · refine ⟨records, fun _ same => Option.some.inj same ▸ decoded, ?_, ?_⟩
    · rw [adapter]
      refine offer sending.sends fun ledger invariant => ?_
      have kept := invariant.publish state (Nat.not_lt.mp large) answer
      simp only [SenderLedger.record, if_neg present] at kept
      exact ⟨{ ledger with published := ledger.published ++ [encodeLocalIEDState state] }, rfl,
        kept⟩
    · rw [adapter, latest, if_neg (by simp [present, large])]
      exact .inr ⟨Nat.not_lt.mp large, state, rfl, decoded⟩

/-- A capture with addressable slots keeps the sending half. -/
theorem completeCapture (sending : Sending last taken player) {game : GameData}
    {sorting : ObjectSort} {slots : SlotState} (addressable : Addressable slots)
    (scene : Option PlayerScene) (answer : TransportAnswer) :
    let done := player.completeCapture game sorting slots scene answer
    Sending (some (captureState game sorting scene slots)) (taken ++ done.2.toList) done.1 := by
  have records := @HeartbeatInvariant.completeCapture game sorting _ _ sending.records slots scene
    answer
  have decoded := decode_encode_captureState addressable game sorting scene
  rcases player.probe.reported_completeCapture game sorting scene slots with none | reported
  · simp only [Player.completeCapture, none, SendingSide.completeCapture, Player.sendingSide]
      at records ⊢
    have unchanged : Sending (some (captureState game sorting scene slots)) taken { player with
        probe := (player.probe.completeCapture game sorting scene slots).probe } :=
      sending.unreported decoded records rfl
    simpa using unchanged
  · simp only [Player.completeCapture, reported, SendingSide.completeCapture, Player.sendingSide]
      at records ⊢
    exact sending.published decoded records rfl

/-- Loading a game leaves no last capture. -/
theorem preLoadGame (sending : Sending last taken player) : Sending none taken player.preLoadGame where
  records := sending.records.preLoadGame
  canonical _ none := by cases none
  sends := by
    refine ⟨.empty, ?_, List.nil_suffix⟩
    constructor <;> simp [SenderLedger.empty, Player.preLoadGame, GameProcess.resetAdapter,
      GameProcess.addTask, STRPMAdapter.reset]
    constructor <;> simp
  retains := .inl rfl

/-- What is retained can be read back. -/
theorem readBack (sending : Sending last taken player) {payload : ByteString}
    (retained : payload ≠ [] ∧ payload = player.process.adapter.latestPayload) :
    ReadBack payload := by
  obtain ⟨present, rfl⟩ := retained
  exact sending.retains.resolve_left present

/-- What the receiving half does leaves the sending half. -/
theorem of_adapter (sending : Sending last taken player) {process : GameProcess}
    (same : process.adapter =
      { player.process.adapter with remoteStates := process.adapter.remoteStates }) :
    Sending last taken { player with process } := by
  obtain ⟨ledger, invariant, suffix⟩ := sending.sends
  refine ⟨?_, sending.canonical, ⟨ledger, ?_, suffix⟩, ?_⟩
  · rw [Player.sendingSide, same]
    exact { sending.records with }
  · rw [same]
    exact { invariant with }
  · rw [same]
    exact sending.retains

/-- A settled player whose last capture fits has had it taken last. -/
theorem last_taken {state : LocalIEDState} (sending : Sending (some state) taken player)
    (fits : Fits state) (settled : player.process.adapter.pending = false) :
    taken.getLast? = some (encodeLocalIEDState state) := by
  have latest : player.process.adapter.latestPayload = encodeLocalIEDState state :=
    (sending.records.retained fun other same => Option.some.inj same ▸ fits).trans
      sending.records.recorded
  obtain ⟨ledger, invariant, earlier, rfl⟩ := sending.sends
  have delivered := invariant.delivered (latest ▸ encodeLocalIEDState_ne_nil state) settled
  rw [latest, ← List.getLast?_map] at delivered
  rw [List.getLast?_append, delivered, Option.some_or]

end Sending

end Sending

/-! ## The receiving half -/

/-- What sending leaves of the adapter: the receiving half, and the local connection unless
the transport has told it. -/
structure STRPMAdapter.KeepsReceiving (adapter next : STRPMAdapter) (answer : TransportAnswer) :
    Prop where
  running : next.running = adapter.running
  resolverReady : next.resolverReady = adapter.resolverReady
  remoteStates : next.remoteStates = adapter.remoteStates
  identified : next.localConnectionID = adapter.localConnectionID ∨
    next.localConnectionID ∈ answer.connectionID

section KeepsReceiving

variable (adapter : STRPMAdapter) (payload : ByteString) (answer : TransportAnswer)

/-- An adapter receives like itself. -/
theorem STRPMAdapter.keepsReceiving_refl : adapter.KeepsReceiving adapter answer :=
  ⟨rfl, rfl, rfl, .inl rfl⟩

/-- A send changes nothing for the receiving half. -/
theorem STRPMAdapter.keepsReceiving_trySend :
    adapter.KeepsReceiving (adapter.trySend payload answer).adapter answer := by
  have refreshed : adapter.KeepsReceiving (adapter.refreshConnection answer) answer := by
    unfold refreshConnection
    cases known : answer.connectionID with
    | none => exact adapter.keepsReceiving_refl answer
    | some current =>
        by_cases named : current ≠ 0
        · simp only [if_pos named]
          exact ⟨rfl, rfl, rfl, .inr known⟩
        · simp only [if_neg named]
          exact adapter.keepsReceiving_refl answer
  unfold trySend
  split_ifs
  · exact adapter.keepsReceiving_refl answer
  · exact adapter.keepsReceiving_refl answer
  · unfold settle
    split
    · exact { refreshed with }
    · exact { refreshed with }

/-- A publication changes nothing for the receiving half. -/
theorem STRPMAdapter.keepsReceiving_publish (state : LocalIEDState) :
    adapter.KeepsReceiving (adapter.publish state payload answer).adapter answer := by
  unfold publish
  split_ifs
  · exact adapter.keepsReceiving_refl answer
  · exact adapter.keepsReceiving_refl answer
  · exact { (adapter.retain state payload).keepsReceiving_trySend payload answer with }

/-- A retry or a heartbeat changes nothing for the receiving half. -/
theorem STRPMAdapter.keepsReceiving_retryTick (now : Nat) :
    adapter.KeepsReceiving (adapter.retryTick now answer).adapter answer := by
  unfold retryTick
  split_ifs
  · exact adapter.keepsReceiving_refl answer
  · exact adapter.keepsReceiving_trySend _ answer
  · exact adapter.keepsReceiving_trySend _ answer
  · exact adapter.keepsReceiving_refl answer
  · exact adapter.keepsReceiving_refl answer

end KeepsReceiving

/-- A task changes nothing of the adapter but the remote states it forgets. -/
theorem GameProcess.adapter_performTask (game : GameData) (environment : GameEnvironment)
    (scenes : ProxyFormID → Option ProxyScene) {process : GameProcess}
    (running : process.adapter.running = true) (task : GameTask) :
    ∃ remoteStates, (process.performTask game environment scenes task).adapter =
        { process.adapter with remoteStates } ∧
      ∀ connectionID,
        (task.Forgets connectionID → remoteStates.lookup connectionID = none) ∧
        (¬ task.Forgets connectionID → remoteStates.lookup connectionID =
          process.adapter.remoteStates.lookup connectionID) := by
  have applied (process : GameProcess) (connectionID : ConnectionID) (force : Bool) :
      (process.applyRemoteOnGameThread game environment connectionID force).adapter =
        process.adapter := by
    rcases process.applyRemote_cases game environment connectionID force with
      same | ⟨snapshot, proxyFormID, _, _, _, same⟩
    · rw [same]
    · rw [same]
      rfl
  have kept {task : GameTask} (never : ∀ connectionID, ¬ task.Forgets connectionID)
      {after : GameProcess} (same : after.adapter = process.adapter) :
      ∃ remoteStates, after.adapter = { process.adapter with remoteStates } ∧
        ∀ connectionID,
          (task.Forgets connectionID → remoteStates.lookup connectionID = none) ∧
          (¬ task.Forgets connectionID → remoteStates.lookup connectionID =
            process.adapter.remoteStates.lookup connectionID) :=
    ⟨process.adapter.remoteStates, same, fun connectionID =>
      ⟨fun forgets => absurd forgets (never connectionID), fun _ => rfl⟩⟩
  cases task with
  | applyRemote connectionID force => exact kept (fun _ => id) (applied _ _ _)
  | proxyMapping event =>
      obtain ⟨type, changed, oldFormID, newFormID⟩ := event
      rw [performTask, handleProxyMappingOnGameThread, if_neg (by simp [running])]
      cases type with
      | kAdded => exact kept (fun _ => id) (applied _ _ _)
      | kUpdated =>
          refine kept (fun _ => id) ((applied _ _ _).trans ?_)
          unfold clearReplaced
          split <;> rfl
      | kRemoved =>
          refine ⟨process.adapter.remoteStates.erase changed, rfl, fun connectionID => ⟨?_, ?_⟩⟩
          · rintro rfl
            exact AList.lookup_erase _ _
          · intro other
            exact AList.lookup_erase_ne fun same => other same.symm
      | kCleared => exact ⟨∅, rfl, fun _ => ⟨fun _ => rfl, fun kept => absurd trivial kept⟩⟩
  | rendererReset => exact kept (fun _ => id) rfl
  | watchdogTick => exact kept (fun _ => id) rfl

/-- A queued task stays queued. -/
theorem exists_forgets_append {tasks : List GameTask} {connectionID : ConnectionID}
    (queued : ∃ task ∈ tasks, task.Forgets connectionID) (further : List GameTask) :
    ∃ task ∈ tasks ++ further, task.Forgets connectionID := by
  obtain ⟨task, member, forgets⟩ := queued
  exact ⟨task, List.mem_append_left _ member, forgets⟩

/-- A process that shows what it stores, and stores nothing that its table has lost unless a
queued task will forget it. -/
structure Receiving (game : GameData) (states : List LocalIEDState) (ledger : ReceivedLedger)
    (process : GameProcess) : Prop where
  fresh : process.Fresh game states ledger
  forgotten : ∀ connectionID, ledger connectionID = none →
    process.adapter.remoteStates.lookup connectionID = none ∨
      ∃ task ∈ process.tasks, task.Forgets connectionID

namespace Receiving

variable {game : GameData} {states : List LocalIEDState} {ledger : ReceivedLedger}
  {process : GameProcess}

/-- Sending leaves the receiving half. -/
theorem of_adapter (receiving : Receiving game states ledger process) {adapter : STRPMAdapter}
    {answer : TransportAnswer} (keeps : process.adapter.KeepsReceiving adapter answer) :
    Receiving game states ledger { process with adapter } := by
  have remembered := keeps.remoteStates
  obtain ⟨⟨stores, holds, shown⟩, forgotten⟩ := receiving
  refine ⟨⟨⟨keeps.running.trans stores.running, keeps.resolverReady.trans stores.resolverReady,
    stores.valid, stores.cached, ?_⟩, ?_, shown⟩, ?_⟩
  · rw [remembered]
    exact stores.remembered
  · simp only [GameProcess.Holds, remembered]
    exact holds
  · rw [remembered]
    exact forgotten

/-- A received state is stored for its sender. -/
theorem onMessage (receiving : Receiving game states ledger process) {message : STRPM.Message}
    {state : LocalIEDState} (received : process.adapter.receivedState message = some state)
    (kept : ∀ task ∈ process.tasks, ¬ task.Forgets message.senderID) :
    Receiving game (states ++ [state]) (Function.update ledger message.senderID (some state))
      (process.onMessage message) := by
  have after : StoredAfterRemovals process
      (.message message (process.adapter.receivedState message)) := by
    rw [received]
    exact kept
  have fresh := receiving.fresh.onMessage message after
  rw [received] at fresh
  refine ⟨fresh, fun connectionID lost => ?_⟩
  have other : connectionID ≠ message.senderID := by
    rintro rfl
    rw [Function.update_self] at lost
    cases lost
  rw [Function.update_of_ne other] at lost
  have sender : message.senderID ≠ 0 := STRPMAdapter.senderID_ne_zero received
  simp only [GameProcess.onMessage, received, GameProcess.queueRemoteApply, if_neg sender,
    GameProcess.addTask, AList.lookup_insert_ne other]
  exact (receiving.forgotten connectionID lost).imp_right fun queued =>
    exists_forgets_append queued _

/-- A change of the table keeps the receiving half. -/
theorem changeTable (receiving : Receiving game states ledger process) {change : STRPM.TableChange}
    (applies : change.Applies process.table) (valid : (change.perform process.table).Valid) :
    Receiving game states (ledger.record (.changeTable change)) (process.changeTable change) := by
  refine ⟨receiving.fresh.changeTable applies valid, fun connectionID lost => ?_⟩
  have queued : (process.changeTable change).tasks =
      process.tasks ++ [.proxyMapping change.event] := by
    simp [GameProcess.changeTable, GameProcess.onProxyMapping, receiving.fresh.stores.running,
      GameProcess.addTask]
  have same : (process.changeTable change).adapter = process.adapter := by
    simp [GameProcess.changeTable, GameProcess.onProxyMapping, receiving.fresh.stores.running,
      GameProcess.addTask]
  rw [queued, same]
  have forgets (taken : (GameTask.proxyMapping change.event).Forgets connectionID) :
      ∃ task ∈ process.tasks ++ [GameTask.proxyMapping change.event],
        task.Forgets connectionID :=
    ⟨_, List.mem_append_right _ (List.mem_singleton.mpr rfl), taken⟩
  have earlier (before : ledger connectionID = none) :=
    (receiving.forgotten connectionID before).imp_right fun queued =>
      exists_forgets_append queued [GameTask.proxyMapping change.event]
  cases change with
  | added changed newFormID => exact earlier lost
  | updated changed oldFormID newFormID => exact earlier lost
  | removed changed oldFormID =>
      by_cases here : connectionID = changed
      · exact .inr (forgets here.symm)
      · rw [ReceivedLedger.record, Function.update_of_ne here] at lost
        exact earlier lost
  | cleared => exact .inr (forgets trivial)

/-- A scheduled tick keeps the receiving half. -/
theorem scheduleWatchdogTick (receiving : Receiving game states ledger process) :
    Receiving game states ledger process.scheduleWatchdogTick := by
  refine ⟨receiving.fresh.scheduleWatchdogTick, fun connectionID lost => ?_⟩
  exact (receiving.forgotten connectionID lost).imp_right fun queued =>
    exists_forgets_append queued _

/-- A load forgets what was stored. -/
theorem resetAdapter (receiving : Receiving game states ledger process) :
    Receiving game states (fun _ => none) process.resetAdapter := by
  have stores := receiving.fresh.stores
  refine ⟨⟨⟨stores.running, stores.resolverReady, stores.valid, stores.cached, ?_⟩, ?_, ?_⟩,
    fun _ _ => .inl rfl⟩
  · intro connectionID snapshot stored
    cases stored
  · intro connectionID state known
    cases known
  · intro connectionID proxyFormID state _ known
    cases known

/-- A task in a game that accepts everything keeps the receiving half. -/
theorem runTask (receiving : Receiving game states ledger process) {environment : GameEnvironment}
    (scenes : ProxyFormID → Option ProxyScene)
    (ready : ∀ proxyFormID, environment.actorReady proxyFormID = true)
    (accepts : ∀ index, environment.accepts index = true) :
    Receiving game states ledger (process.runTask game environment scenes) := by
  refine ⟨receiving.fresh.runTask scenes ready accepts, fun connectionID lost => ?_⟩
  rw [GameProcess.runTask]
  split
  · exact receiving.forgotten connectionID lost
  · next task tasks queue =>
      have forgotten := receiving.forgotten connectionID lost
      rw [queue] at forgotten
      have running : ({ process with tasks } : GameProcess).adapter.running = true :=
        receiving.fresh.stores.running
      obtain ⟨remoteStates, adapter, remembers⟩ :=
        GameProcess.adapter_performTask game environment scenes running task
      obtain ⟨ticks, grown, _⟩ :=
        (({ process with tasks } : GameProcess).extends_performTask game environment scenes task).tasks
      obtain ⟨forgets, keeps⟩ := remembers connectionID
      rw [adapter, grown]
      by_cases now : task.Forgets connectionID
      · exact .inl (forgets now)
      · rcases forgotten with absent | ⟨other, member, later⟩
        · exact .inl ((keeps now).trans absent)
        · rcases List.mem_cons.mp member with rfl | behind
          · exact absurd later now
          · exact .inr ⟨other, List.mem_append_left _ behind, later⟩

/-- With an empty queue, what is stored for a mapped connection is shown. -/
theorem shown_of_idle (receiving : Receiving game states ledger process)
    (idle : process.tasks = []) {connectionID : ConnectionID} {snapshot : RemoteSnapshot}
    (stored : process.adapter.remoteStates.lookup connectionID = some snapshot) :
    ledger connectionID = some snapshot.state ∧
      ∀ proxyFormID, process.table connectionID = some proxyFormID →
        ShowsState game states process.renderer proxyFormID snapshot.state := by
  cases known : ledger connectionID with
  | none =>
      rcases receiving.forgotten connectionID known with absent | ⟨task, member, _⟩
      · rw [absent] at stored
        cases stored
      · rw [idle] at member
        cases member
  | some state =>
      obtain ⟨⟨other, here, rfl⟩, _⟩ := receiving.fresh.holds connectionID state known
      obtain rfl := Option.some.inj (here.symm.trans stored)
      refine ⟨rfl, fun proxyFormID mapped => ?_⟩
      rcases receiving.fresh.shown connectionID proxyFormID _ mapped known with
        ⟨before, task, after, queue, _⟩ | ⟨_, shows⟩
      · rw [idle] at queue
        simp at queue
      · exact shows

end Receiving

end IEDSyncTogether
