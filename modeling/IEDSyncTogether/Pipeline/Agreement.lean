import IEDSyncTogether.Pipeline.Halves

/-!
# Agreement of the players

A sender keeps its newest payload until the transport has taken it, the links deliver what
was taken in order, and a receiver shows what it last stored. So once nothing is queued,
under way or pending, every player that holds a state of another player holds the last
capture of that player, and its proxy shows it.
-/

namespace IEDSyncTogether

open Base

/-- What an event contributes stands behind what was there. -/
theorem filterMap_concat {Event Value : Type} (events : List Event) (event : Event)
    (project : Event → Option Value) :
    (events ++ [event]).filterMap project = events.filterMap project ++ (project event).toList := by
  cases projected : project event <;> simp [projected]

variable {Node : Type} [DecidableEq Node] {games : Node → GameData} {sorting : ObjectSort}
  {connections : Node → ConnectionID}

/-! ## What a player has received -/

/-- The last state delivered to a player from each connection since its table last lost it. -/
def StrpmEvent.remember (connections : Node → ConnectionID) (node : Node) (ledger : ReceivedLedger) :
    StrpmEvent Node → ReceivedLedger
  | .deliver sender receiver _ _ payload =>
    match decodeLocalIEDState payload with
    | none => ledger
    | some state =>
      if receiver = node then Function.update ledger (connections sender) (some state) else ledger
  | .changeTable other change => if other = node then ledger.record (.changeTable change) else ledger
  | .preLoadGame other => if other = node then fun _ => none else ledger
  | _ => ledger

/-- The state a player stores. -/
def StrpmEvent.stored (node : Node) : StrpmEvent Node → Option LocalIEDState
  | .deliver _ receiver _ _ payload => if receiver = node then decodeLocalIEDState payload else none
  | _ => none

/-- The state a player remembers of each connection, over a run. -/
def rememberedBy (connections : Node → ConnectionID) (events : List (StrpmEvent Node))
    (node : Node) : ReceivedLedger :=
  events.foldl (StrpmEvent.remember connections node) fun _ => none

/-- Every state a player has stored in a run. -/
def storedBy (events : List (StrpmEvent Node)) (node : Node) : List LocalIEDState :=
  events.filterMap (StrpmEvent.stored node)

section Concat

variable (events : List (StrpmEvent Node)) (event : StrpmEvent Node) (node sender receiver : Node)

/-- The payload an event takes from a player stands behind those taken before. -/
theorem takenFrom_concat :
    takenFrom (events ++ [event]) node = takenFrom events node ++ (event.taken node).toList :=
  filterMap_concat _ _ _

/-- The payload an event delivers stands behind those delivered before. -/
theorem deliveredTo_concat : deliveredTo (events ++ [event]) sender receiver =
    deliveredTo events sender receiver ++ (event.delivered sender receiver).toList :=
  filterMap_concat _ _ _

/-- The state an event stores stands behind those stored before. -/
theorem storedBy_concat :
    storedBy (events ++ [event]) node = storedBy events node ++ (event.stored node).toList :=
  filterMap_concat _ _ _

/-- The last event is remembered last. -/
theorem rememberedBy_concat : rememberedBy connections (events ++ [event]) node =
    event.remember connections node (rememberedBy connections events node) := by
  simp [rememberedBy]

/-- An event of a sending side updates the last capture of its player, and no other event does. -/
theorem lastCaptureOf_concat :
    lastCaptureOf games sorting (events ++ [event]) node =
      (event.sending node).elim (lastCaptureOf games sorting events node)
        (recordCapture (games node) sorting (lastCaptureOf games sorting events node)) := by
  rw [lastCaptureOf, filterMap_concat, lastCapture, List.foldl_append, ← lastCapture,
    ← lastCaptureOf]
  cases event.sending node <;> rfl

end Concat

/-- Where an event happens. -/
def StrpmEvent.place : StrpmEvent Node → Node
  | .completeCapture node _ _ _ _ => node
  | .retryTick node _ _ _ => node
  | .preLoadGame node => node
  | .deliver _ receiver _ _ _ => receiver
  | .changeTable node _ => node
  | .scheduleWatchdogTick node => node
  | .runTask node _ _ => node

/-- What holds of a player by itself. -/
structure PlayerInvariant (games : Node → GameData) (sorting : ObjectSort)
    (connections : Node → ConnectionID) (events : List (StrpmEvent Node)) (node : Node)
    (player : Player) : Prop where
  sending : Sending (lastCaptureOf games sorting events node) (takenFrom events node) player
  receiving : Receiving (games node) (storedBy events node) (rememberedBy connections events node)
    player.process
  identified : player.process.adapter.localConnectionID = 0 ∨
    player.process.adapter.localConnectionID = connections node
  readBack : ∀ payload ∈ takenFrom events node, ReadBack payload
  canonical : ∀ state ∈ storedBy events node,
    decodeLocalIEDState (encodeLocalIEDState state) = some state

namespace PlayerInvariant

variable {events : List (StrpmEvent Node)} {event : StrpmEvent Node} {node : Node} {player : Player}

/-- What happens elsewhere does not matter. -/
theorem elsewhere (invariant : PlayerInvariant games sorting connections events node player)
    (apart : event.place ≠ node) :
    PlayerInvariant games sorting connections (events ++ [event]) node player := by
  have sending : event.sending node = none ∧ event.taken node = none ∧ event.stored node = none ∧
      event.remember connections node (rememberedBy connections events node) =
        rememberedBy connections events node := by
    cases event <;> simp only [StrpmEvent.place, ne_eq] at apart <;>
      simp [StrpmEvent.sending, StrpmEvent.taken, StrpmEvent.stored, StrpmEvent.remember, apart]
    split <;> rfl
  obtain ⟨unsent, untaken, unstored, unremembered⟩ := sending
  obtain ⟨sending, receiving, identified, readBack, canonical⟩ := invariant
  constructor
  · rw [lastCaptureOf_concat, takenFrom_concat, unsent, untaken]
    simpa using sending
  · rw [storedBy_concat, rememberedBy_concat, unstored, unremembered]
    simpa using receiving
  · exact identified
  · rw [takenFrom_concat, untaken]
    simpa using readBack
  · rw [storedBy_concat, unstored]
    simpa using canonical

/-- A send that keeps the receiving half, and whose payload can be read back. -/
theorem send (invariant : PlayerInvariant games sorting connections events node player)
    {next : Player} {answer : TransportAnswer} {taken : Option ByteString}
    (identifies : answer.Identifies (connections node))
    (same : next.process = { player.process with adapter := next.process.adapter })
    (keeps : player.process.adapter.KeepsReceiving next.process.adapter answer)
    (sending : Sending (lastCaptureOf games sorting (events ++ [event]) node)
      (takenFrom events node ++ taken.toList) next)
    (retained : ∀ payload, taken = some payload →
      payload ≠ [] ∧ payload = next.process.adapter.latestPayload)
    (takes : event.taken node = taken) (unstored : event.stored node = none)
    (unremembered : ∀ ledger, event.remember connections node ledger = ledger) :
    PlayerInvariant games sorting connections (events ++ [event]) node next where
  sending := by rwa [takenFrom_concat, takes]
  receiving := by
    rw [storedBy_concat, rememberedBy_concat, unstored, unremembered, Option.toList_none,
      List.append_nil, same]
    exact invariant.receiving.of_adapter keeps
  identified := by
    rcases keeps.identified with kept | told
    · rw [kept]
      exact invariant.identified
    · exact identifies _ told
  readBack := by
    intro payload member
    rw [takenFrom_concat, takes] at member
    rcases List.mem_append.mp member with earlier | new
    · exact invariant.readBack payload earlier
    · exact sending.readBack (retained payload (Option.mem_toList.mp new))
  canonical := by
    rw [storedBy_concat, unstored, Option.toList_none, List.append_nil]
    exact invariant.canonical

/-- An event of the receiving half. -/
theorem receive (invariant : PlayerInvariant games sorting connections events node player)
    {process : GameProcess}
    (same : process.adapter =
      { player.process.adapter with remoteStates := process.adapter.remoteStates })
    (receiving : Receiving (games node) (storedBy events node ++ (event.stored node).toList)
      (event.remember connections node (rememberedBy connections events node)) process)
    (unsent : event.sending node = none) (untaken : event.taken node = none)
    (canonical : ∀ state ∈ event.stored node,
      decodeLocalIEDState (encodeLocalIEDState state) = some state) :
    PlayerInvariant games sorting connections (events ++ [event]) node { player with process } where
  sending := by
    rw [lastCaptureOf_concat, takenFrom_concat, unsent, untaken, Option.toList_none,
      List.append_nil]
    exact invariant.sending.of_adapter same
  receiving := by rwa [storedBy_concat, rememberedBy_concat]
  identified := by
    rw [same]
    exact invariant.identified
  readBack := by
    rw [takenFrom_concat, untaken, Option.toList_none, List.append_nil]
    exact invariant.readBack
  canonical := by
    intro state member
    rw [storedBy_concat] at member
    rcases List.mem_append.mp member with earlier | new
    · exact invariant.canonical state earlier
    · exact canonical state (Option.mem_toList.mp new)

/-- A capture keeps the invariant of the player. -/
theorem completeCapture (invariant : PlayerInvariant games sorting connections events node player)
    {slots : SlotState} {scene : Option PlayerScene} {answer : TransportAnswer}
    (addressable : Addressable slots) (identifies : answer.Identifies (connections node)) :
    let done := player.completeCapture (games node) sorting slots scene answer
    PlayerInvariant games sorting connections
      (events ++ [.completeCapture node slots scene answer done.2]) node done.1 := by
  have frame : let done := player.completeCapture (games node) sorting slots scene answer
      done.1.process = { player.process with adapter := done.1.process.adapter } ∧
        player.process.adapter.KeepsReceiving done.1.process.adapter answer := by
    rcases player.probe.reported_completeCapture (games node) sorting scene slots with
      none | reported
    · simp only [Player.completeCapture, none]
      exact ⟨trivial, player.process.adapter.keepsReceiving_refl answer⟩
    · simp only [Player.completeCapture, reported, Player.setAdapter]
      exact ⟨trivial, player.process.adapter.keepsReceiving_publish _ answer _⟩
  refine invariant.send identifies frame.1 frame.2 ?_ (fun _ => Player.taken_completeCapture)
    (if_pos rfl) rfl fun _ => rfl
  rw [lastCaptureOf_concat, StrpmEvent.sending, if_pos rfl]
  exact invariant.sending.completeCapture addressable scene answer

/-- A retry or heartbeat keeps the invariant of the player. -/
theorem retryTick (invariant : PlayerInvariant games sorting connections events node player)
    {now : Nat} {answer : TransportAnswer} (identifies : answer.Identifies (connections node)) :
    let done := player.retryTick now answer
    PlayerInvariant games sorting connections
      (events ++ [.retryTick node now answer done.2]) node done.1 := by
  refine invariant.send identifies rfl (player.process.adapter.keepsReceiving_retryTick answer now)
    ?_ (takesRetained_retryTick player.process.adapter now answer) (if_pos rfl) rfl fun _ => rfl
  rw [lastCaptureOf_concat, StrpmEvent.sending, if_pos rfl]
  exact invariant.sending.retryTick now answer

/-- Loading a game keeps the invariant of the player. -/
theorem preLoadGame (invariant : PlayerInvariant games sorting connections events node player) :
    PlayerInvariant games sorting connections (events ++ [.preLoadGame node]) node
      player.preLoadGame where
  sending := by
    rw [lastCaptureOf_concat, StrpmEvent.sending, if_pos rfl, takenFrom_concat]
    simpa [StrpmEvent.taken, recordCapture] using invariant.sending.preLoadGame
  receiving := by
    rw [storedBy_concat, rememberedBy_concat]
    simpa [StrpmEvent.stored, StrpmEvent.remember, Player.preLoadGame] using
      invariant.receiving.resetAdapter
  identified := invariant.identified
  readBack := by
    rw [takenFrom_concat]
    simpa [StrpmEvent.taken] using invariant.readBack
  canonical := by
    rw [storedBy_concat]
    simpa [StrpmEvent.stored] using invariant.canonical

/-- A change of the table keeps the invariant of the player. -/
theorem changeTable (invariant : PlayerInvariant games sorting connections events node player)
    {change : STRPM.TableChange} (applies : change.Applies player.process.table)
    (valid : (change.perform player.process.table).Valid) :
    PlayerInvariant games sorting connections (events ++ [.changeTable node change]) node
      { player with process := player.process.changeTable change } := by
  refine invariant.receive ?_ ?_ rfl rfl (by simp [StrpmEvent.stored])
  · unfold GameProcess.changeTable GameProcess.onProxyMapping
    split <;> rfl
  · simpa [StrpmEvent.stored, StrpmEvent.remember] using
      invariant.receiving.changeTable applies valid

/-- A scheduled tick keeps the invariant of the player. -/
theorem scheduleWatchdogTick
    (invariant : PlayerInvariant games sorting connections events node player) :
    PlayerInvariant games sorting connections (events ++ [.scheduleWatchdogTick node]) node
      { player with process := player.process.scheduleWatchdogTick } := by
  refine invariant.receive rfl ?_ rfl rfl (by simp [StrpmEvent.stored])
  simpa [StrpmEvent.stored, StrpmEvent.remember] using invariant.receiving.scheduleWatchdogTick

/-- A task in a game that accepts everything keeps the invariant of the player. -/
theorem runTask (invariant : PlayerInvariant games sorting connections events node player)
    {environment : GameEnvironment} (scenes : ProxyFormID → Option ProxyScene)
    (ready : ∀ proxyFormID, environment.actorReady proxyFormID = true)
    (accepts : ∀ index, environment.accepts index = true) :
    PlayerInvariant games sorting connections (events ++ [.runTask node environment scenes]) node
      { player with process := player.process.runTask (games node) environment scenes } := by
  refine invariant.receive ?_ ?_ rfl rfl (by simp [StrpmEvent.stored])
  · rw [GameProcess.runTask]
    split
    · rfl
    · next task tasks queue =>
        obtain ⟨remoteStates, adapter, _⟩ := @GameProcess.adapter_performTask (games node)
          environment scenes { player.process with tasks }
          invariant.receiving.fresh.stores.running task
        rw [adapter]
  · simpa [StrpmEvent.stored, StrpmEvent.remember] using
      invariant.receiving.runTask scenes ready accepts

/-- A payload of another player is stored. -/
theorem deliver (invariant : PlayerInvariant games sorting connections events node player)
    {sender : Node} {payload displayName : ByteString} {sequence : UInt64}
    (named : connections sender ≠ 0) (apart : connections sender ≠ connections node)
    (readBack : ReadBack payload)
    (kept : ∀ task ∈ player.process.tasks, ¬ task.Forgets (connections sender)) :
    PlayerInvariant games sorting connections
      (events ++ [.deliver sender node displayName sequence payload]) node
      { player with
        process := player.process.onMessage ⟨payload, connections sender, displayName, sequence⟩ } := by
  obtain ⟨size, state, text, decoded⟩ := readBack
  have present : payload ≠ [] := text ▸ encodeLocalIEDState_ne_nil state
  have foreign : ¬ (connections sender ≠ 0 ∧ player.process.adapter.localConnectionID ≠ 0 ∧
      connections sender = player.process.adapter.localConnectionID) := by
    rintro ⟨_, known, same⟩
    exact apart (same.trans (invariant.identified.resolve_left known))
  have received : player.process.adapter.receivedState
      ⟨payload, connections sender, displayName, sequence⟩ = some state := by
    simp only [STRPMAdapter.receivedState, invariant.receiving.fresh.stores.running, present,
      not_true_eq_false, or_self, if_false, Nat.not_lt.mpr size, if_neg foreign, decoded,
      Option.bind_eq_bind, Option.bind_some, if_neg named]
  refine invariant.receive ?_ ?_ rfl rfl ?_
  · simp only [GameProcess.onMessage, received, GameProcess.queueRemoteApply, if_neg named,
      GameProcess.addTask]
  · simpa [StrpmEvent.stored, StrpmEvent.remember, decoded] using
      invariant.receiving.onMessage received kept
  · intro other stored
    simp only [StrpmEvent.stored, if_pos, decoded, Option.mem_some_iff] at stored
    rw [← stored, ← text, decoded]

end PlayerInvariant

namespace StrpmNetwork

variable {events : List (StrpmEvent Node)} {event : StrpmEvent Node} {network next : StrpmNetwork Node}

/-- What holds of all players and of the links between them. -/
structure Agreeing (games : Node → GameData) (sorting : ObjectSort)
    (connections : Node → ConnectionID) (events : List (StrpmEvent Node))
    (network : StrpmNetwork Node) : Prop where
  players : ∀ node, PlayerInvariant games sorting connections events node (network.players node)
  own : ∀ node, network.transit node node = []
  links : ∀ sender receiver, sender ≠ receiver → takenFrom events sender =
    deliveredTo events sender receiver ++ network.transit sender receiver
  heard : ∀ sender receiver state,
    rememberedBy connections events receiver (connections sender) = some state →
      ∃ payload, (deliveredTo events sender receiver).getLast? = some payload ∧
        decodeLocalIEDState payload = some state

/-- Without a payload nothing is sent. -/
theorem dispatch_none (network : StrpmNetwork Node) (node : Node) :
    network.dispatch node none = network := by
  simp [dispatch]

namespace Agreeing

/-- A player acts, and its transport may take a payload. -/
theorem act (agreeing : Agreeing games sorting connections events network) {player : Player}
    {taken : Option ByteString}
    (takes : ∀ node, event.taken node = if event.place = node then taken else none)
    (undelivered : ∀ sender receiver, event.delivered sender receiver = none)
    (forgets : ∀ receiver ledger connectionID state,
      event.remember connections receiver ledger connectionID = some state →
        ledger connectionID = some state)
    (here : PlayerInvariant games sorting connections (events ++ [event]) event.place player) :
    Agreeing games sorting connections (events ++ [event])
      ((network.setPlayer event.place player).dispatch event.place taken) where
  players node := by
    by_cases same : node = event.place
    · subst same
      simpa [setPlayer, dispatch] using here
    · simpa [setPlayer, dispatch, Function.update_of_ne same] using
        (agreeing.players node).elsewhere fun place => same place.symm
  own node := by
    simp [dispatch, setPlayer, agreeing.own]
  links sender receiver apart := by
    rw [takenFrom_concat, deliveredTo_concat, undelivered, takes, agreeing.links _ _ apart]
    by_cases same : sender = event.place
    · subst same
      simp [dispatch, setPlayer, apart.symm]
    · simp [dispatch, setPlayer, same, Ne.symm same]
  heard sender receiver state known := by
    rw [rememberedBy_concat] at known
    rw [deliveredTo_concat, undelivered, Option.toList_none, List.append_nil]
    exact agreeing.heard sender receiver state (forgets _ _ _ _ known)

/-- A player acts on its own. -/
theorem act_alone (agreeing : Agreeing games sorting connections events network) {player : Player}
    (untaken : ∀ node, event.taken node = none)
    (undelivered : ∀ sender receiver, event.delivered sender receiver = none)
    (forgets : ∀ receiver ledger connectionID state,
      event.remember connections receiver ledger connectionID = some state →
        ledger connectionID = some state)
    (here : PlayerInvariant games sorting connections (events ++ [event]) event.place player) :
    Agreeing games sorting connections (events ++ [event])
      (network.setPlayer event.place player) := by
  have acted := agreeing.act (fun node => by rw [untaken, ite_self]) undelivered forgets here
  rwa [dispatch_none] at acted

/-- The oldest payload of a link arrives. -/
theorem deliver (agreeing : Agreeing games sorting connections events network)
    (distinct : Function.Injective connections) (named : ∀ node, connections node ≠ 0)
    {sender receiver : Node} {displayName : ByteString} {sequence : UInt64} {payload : ByteString}
    {payloads : List ByteString}
    (oldest : network.transit sender receiver = payload :: payloads)
    (kept : ∀ task ∈ (network.players receiver).process.tasks,
      ¬ task.Forgets (connections sender)) :
    Agreeing games sorting connections
      (events ++ [.deliver sender receiver displayName sequence payload])
      ((network.setTransit sender receiver payloads).setProcess receiver
        ((network.players receiver).process.onMessage
          ⟨payload, connections sender, displayName, sequence⟩)) := by
  have apart : sender ≠ receiver := by
    rintro rfl
    rw [agreeing.own] at oldest
    cases oldest
  have links := agreeing.links sender receiver apart
  rw [oldest] at links
  have readBack : ReadBack payload :=
    (agreeing.players sender).readBack payload (links ▸ List.mem_append_right _ List.mem_cons_self)
  obtain ⟨_, state, text, decoded⟩ := id readBack
  refine ⟨fun node => ?_, fun node => ?_, fun other another different => ?_, ?_⟩
  · by_cases same : node = receiver
    · subst same
      have arrived := @PlayerInvariant.deliver _ _ games sorting connections events node _
        (agreeing.players node) sender payload displayName sequence (named sender)
        (distinct.ne apart) readBack kept
      simpa [setProcess, setPlayer, setTransit] using arrived
    · have elsewhere : PlayerInvariant games sorting connections
          (events ++ [.deliver sender receiver displayName sequence payload]) node
          (network.players node) :=
        (agreeing.players node).elsewhere fun place => same place.symm
      simpa [setProcess, setPlayer, setTransit, Function.update_of_ne same] using elsewhere
  · have elsewhere : ¬ (node = sender ∧ node = receiver) :=
      fun both => apart (both.1.symm.trans both.2)
    simp [setProcess, setPlayer, setTransit, elsewhere, agreeing.own]
  · rw [takenFrom_concat, deliveredTo_concat]
    by_cases same : other = sender ∧ another = receiver
    · obtain ⟨rfl, rfl⟩ := same
      simp [StrpmEvent.taken, StrpmEvent.delivered, setProcess, setPlayer, setTransit, links]
    · have before : ¬ (sender = other ∧ receiver = another) :=
        fun both => same ⟨both.1.symm, both.2.symm⟩
      simp [StrpmEvent.taken, StrpmEvent.delivered, setProcess, setPlayer, setTransit, same, before,
        agreeing.links other another different]
  · intro other another known heard
    rw [rememberedBy_concat] at heard
    rw [deliveredTo_concat]
    simp only [StrpmEvent.remember, decoded] at heard
    by_cases here : receiver = another
    · subst here
      rw [if_pos rfl] at heard
      by_cases same : other = sender
      · subst same
        rw [Function.update_self] at heard
        exact ⟨payload, by simp [StrpmEvent.delivered], heard ▸ decoded⟩
      · rw [Function.update_of_ne (distinct.ne same)] at heard
        simpa [StrpmEvent.delivered, Ne.symm same] using agreeing.heard other receiver known heard
    · rw [if_neg here] at heard
      simpa [StrpmEvent.delivered, here] using agreeing.heard other another known heard

end Agreeing

/-- An orderly step keeps the agreement. -/
theorem Agreeing.step (agreeing : Agreeing games sorting connections events network)
    (distinct : Function.Injective connections) (named : ∀ node, connections node ≠ 0)
    (orderly : Orderly connections network event)
    (step : (strpmNetwork games sorting connections).Step network event next) :
    Agreeing games sorting connections (events ++ [event]) next := by
  cases event with
  | completeCapture node slots scene answer taken =>
      obtain ⟨player, done, rfl⟩ := step
      obtain ⟨addressable, identifies⟩ := orderly
      have here := @PlayerInvariant.completeCapture _ _ games sorting connections events node _
        (agreeing.players node) slots scene answer addressable identifies
      rw [done] at here
      exact agreeing.act (fun _ => rfl) (fun _ _ => rfl) (fun _ _ _ _ => id) here
  | retryTick node now answer taken =>
      obtain ⟨player, done, rfl⟩ := step
      have here := @PlayerInvariant.retryTick _ _ games sorting connections events node _
        (agreeing.players node) now answer orderly
      rw [done] at here
      exact agreeing.act (fun _ => rfl) (fun _ _ => rfl) (fun _ _ _ _ => id) here
  | preLoadGame node =>
      obtain rfl := step
      refine agreeing.act_alone (fun _ => rfl) (fun _ _ => rfl) ?_ (agreeing.players node).preLoadGame
      intro receiver ledger connectionID state known
      simp only [StrpmEvent.remember] at known
      split at known
      · cases known
      · exact known
  | deliver sender receiver displayName sequence payload =>
      obtain ⟨payloads, oldest, rfl⟩ := step
      exact agreeing.deliver distinct named oldest orderly
  | changeTable node change =>
      obtain ⟨applies, valid, rfl⟩ := step
      refine agreeing.act_alone (fun _ => rfl) (fun _ _ => rfl) ?_
        ((agreeing.players node).changeTable applies valid)
      intro receiver ledger connectionID state known
      simp only [StrpmEvent.remember] at known
      split at known
      · exact (GameProcess.remembered_of_record known).1
      · exact known
  | scheduleWatchdogTick node =>
      obtain rfl := step
      exact agreeing.act_alone (fun _ => rfl) (fun _ _ => rfl) (fun _ _ _ _ => id)
        (agreeing.players node).scheduleWatchdogTick
  | runTask node environment scenes =>
      obtain rfl := step
      exact agreeing.act_alone (fun _ => rfl) (fun _ _ => rfl) (fun _ _ _ _ => id)
        ((agreeing.players node).runTask scenes orderly.1 orderly.2)

/-- The players agree at the start, where nothing was captured. -/
theorem agreeing_of_initial
    (initial : (strpmNetwork games sorting connections).Initial network) :
    Agreeing games sorting connections [] network := by
  obtain ⟨empty, started⟩ := initial
  refine ⟨fun node => ?_, fun node => empty node node, ?_, ?_⟩
  · obtain ⟨probe, ⟨apiReady, localConnectionID, adapter, identified⟩, renderer, tasks, remoteStates,
      running, ready, valid⟩ := started node
    refine ⟨⟨?_, ?_, ⟨.empty, ?_, List.nil_suffix⟩, ?_⟩, ⟨⟨⟨running, ready, valid, ?_, ?_⟩, ?_, ?_⟩, ?_⟩,
      ?_, ?_, ?_⟩
    · constructor <;> simp [Player.sendingSide, probe, adapter, LocalCaptureProbe.started,
        STRPMAdapter.initial, lastCaptureOf, lastCapture]
    · simp [lastCaptureOf, lastCapture]
    · constructor <;> simp [adapter, STRPMAdapter.initial, SenderLedger.empty]
      constructor <;> simp
    · simp [adapter, STRPMAdapter.initial]
    · intro proxyFormID signature known
      rw [renderer] at known
      cases known
    · intro connectionID snapshot known
      rw [remoteStates] at known
      cases known
    · intro connectionID state known
      cases known
    · intro connectionID proxyFormID state _ known
      cases known
    · intro connectionID _
      rw [remoteStates]
      exact .inl rfl
    · rw [adapter]
      exact identified
    · simp [takenFrom]
    · simp [storedBy]
  · intro sender receiver _
    rw [empty]
    rfl
  · intro sender receiver state known
    cases known

/-- The players agree after every orderly run. -/
theorem agreeing_of_runs (distinct : Function.Injective connections)
    (named : ∀ node, connections node ≠ 0)
    (run : ((strpmNetwork games sorting connections).guarded (Orderly connections)).Runs events
      network) : Agreeing games sorting connections events network := by
  refine run.invariant (Agreeing games sorting connections) ?_ ?_
  · exact agreeing_of_initial
  · rintro events network event next _ agreeing ⟨orderly, step⟩
    exact agreeing.step distinct named orderly step

end StrpmNetwork

/-- Once nothing is queued, under way or pending, whoever holds a state of another player
whose last capture fits holds exactly that capture, and the player's proxy shows it. -/
theorem quiet_players_agree {events : List (StrpmEvent Node)} {network : StrpmNetwork Node}
    (distinct : Function.Injective connections) (named : ∀ node, connections node ≠ 0)
    (run : ((strpmNetwork games sorting connections).guarded (Orderly connections)).Runs events
      network)
    (quiet : network.Quiet) {sender receiver : Node} (apart : sender ≠ receiver)
    {state : LocalIEDState} (captured : lastCaptureOf games sorting events sender = some state)
    (fits : Fits state) {snapshot : RemoteSnapshot}
    (stored : (network.players receiver).process.adapter.remoteStates.lookup (connections sender) =
      some snapshot) :
    snapshot.state = state ∧
      ∀ proxyFormID, (network.players receiver).process.table (connections sender) =
          some proxyFormID →
        (network.players receiver).process.renderer.displayed proxyFormID =
          some (trackedObjects (games receiver) state) := by
  have agreeing := StrpmNetwork.agreeing_of_runs distinct named run
  have sending := (agreeing.players sender).sending
  rw [captured] at sending
  have taken := sending.last_taken fits (quiet.settled sender)
  obtain ⟨known, shows⟩ :=
    (agreeing.players receiver).receiving.shown_of_idle (quiet.tasks receiver) stored
  obtain ⟨payload, last, decoded⟩ := agreeing.heard sender receiver _ known
  rw [agreeing.links sender receiver apart, quiet.transit, List.append_nil, last] at taken
  obtain rfl := Option.some.inj taken
  rw [sending.canonical state rfl] at decoded
  obtain rfl := Option.some.inj decoded
  refine ⟨rfl, fun proxyFormID mapped => ?_⟩
  obtain ⟨shown, member, same, displayed⟩ := shows proxyFormID mapped
  have readBack := (agreeing.players receiver).canonical shown member
  rw [same, sending.canonical _ rfl] at readBack
  rw [displayed, Option.some.inj readBack]

/-! ## Two players -/

/-- The connections of the two players. -/
def duoConnections (other : Bool) : ConnectionID := if other then 8 else 7

/-- Two players, each of whom maps connection 7 to a proxy. -/
def duo : StrpmNetwork Bool where
  players _ := ⟨.started, startedProcess⟩
  transit _ _ := []

/-- The payload of the captured sword. -/
def swordPayload : ByteString := encodeLocalIEDState swordCapture

/-- The sword on its way to the second player. -/
def swordArrival (sequence : UInt64) : STRPM.Message := ⟨swordPayload, 7, ascii "Lydia", sequence⟩

/-- A task of the second player. -/
def duoTask : StrpmEvent Bool := .runTask true openGame fun _ => none

/-- The first player captures a sword, the other one shows it, and the heartbeat repeats it. -/
def duoEvents : List (StrpmEvent Bool) :=
  [.completeCapture false swordSlots (some (swordRow 1)) takingAnswer (some swordPayload),
    .deliver false true (ascii "Lydia") 1 swordPayload, duoTask, duoTask,
    .retryTick false 11000 takingAnswer (some swordPayload),
    .deliver false true (ascii "Lydia") 2 swordPayload, duoTask, duoTask]

/-- The player that captures the sword, and what its transport takes. -/
def duoCaptured : Player × Option ByteString :=
  Player.completeCapture ⟨.started, startedProcess⟩ skyrim captureSort swordSlots
    (some (swordRow 1)) takingAnswer

/-- The same player after its heartbeat. -/
def duoBeaten : Player × Option ByteString := duoCaptured.1.retryTick 11000 takingAnswer

/-- The second player shows the sword. -/
def duoShown : GameProcess := (startedProcess.onMessage (swordArrival 1)).openTurn.openTurn

/-- The second player has heard the heartbeat as well. -/
def duoHeard : GameProcess := (duoShown.onMessage (swordArrival 2)).openTurn.openTurn

/-- The transport takes the captured sword. -/
theorem taken_duoCaptured : duoCaptured.2 = some swordPayload := by decide +kernel

/-- The transport takes the sword again with the heartbeat. -/
theorem taken_duoBeaten : duoBeaten.2 = some swordPayload := by decide +kernel

/-- The second player has nothing left to do after the first message. -/
theorem tasks_duoShown : duoShown.tasks = [] := List.isEmpty_iff.mp (by decide +kernel)

/-- The first player has nothing left to do or to send after its heartbeat. -/
theorem settled_duoBeaten : duoBeaten.1.process.tasks = [] ∧
    duoBeaten.1.process.adapter.pending = false :=
  ⟨List.isEmpty_iff.mp (by decide +kernel), by decide +kernel⟩

/-- The second player has nothing left to do or to send at the end. -/
theorem settled_duoHeard : duoHeard.tasks = [] ∧ duoHeard.adapter.pending = false :=
  ⟨List.isEmpty_iff.mp (by decide +kernel), by decide +kernel⟩

/-- The table of the second player never changed. -/
theorem table_duoHeard : duoHeard.table = startedProcess.table := by
  simp [duoHeard, duoShown, GameProcess.openTurn]

/-- The second player holds and shows what the first one captured. -/
theorem duo_agrees : ∃ (network : StrpmNetwork Bool) (snapshot : RemoteSnapshot),
    (network.players true).process.adapter.remoteStates.lookup (duoConnections false) =
      some snapshot ∧
    (network.players true).process.table (duoConnections false) = some lydia ∧
    (trackedObjects skyrim swordCapture).length = 1 ∧
    snapshot.state = swordCapture ∧
      ∀ proxyFormID, (network.players true).process.table (duoConnections false) =
          some proxyFormID →
        (network.players true).process.renderer.displayed proxyFormID =
          some (trackedObjects skyrim swordCapture) := by
  let system := (strpmNetwork (fun _ : Bool => skyrim) captureSort duoConnections).guarded
    (Orderly duoConnections)
  let captured := (duo.setPlayer false duoCaptured.1).dispatch false (some swordPayload)
  let delivered := (captured.setTransit false true []).setProcess true
    (startedProcess.onMessage (swordArrival 1))
  let applied := delivered.setProcess true (startedProcess.onMessage (swordArrival 1)).openTurn
  let shown := applied.setProcess true duoShown
  let beaten := (shown.setPlayer false duoBeaten.1).dispatch false (some swordPayload)
  let repeated := (beaten.setTransit false true []).setProcess true
    (duoShown.onMessage (swordArrival 2))
  let skipped := repeated.setProcess true (duoShown.onMessage (swordArrival 2)).openTurn
  let heard := skipped.setProcess true duoHeard
  have initial : (strpmNetwork (fun _ => skyrim) captureSort duoConnections).Initial duo :=
    ⟨fun _ _ => rfl, fun _ => ⟨rfl, ⟨true, 0, rfl, .inl rfl⟩, startedProcess_initial skyrim⟩⟩
  have identifies : takingAnswer.Identifies (duoConnections false) :=
    fun current told => .inr (Option.some.inj told).symm
  have turns (network : StrpmNetwork Bool) : system.Step network duoTask
      (network.setProcess true (network.players true).process.openTurn) :=
    ⟨⟨fun _ => rfl, fun _ => rfl⟩, rfl⟩
  have captures : system.Step duo (.completeCapture false swordSlots (some (swordRow 1))
      takingAnswer (some swordPayload)) captured :=
    ⟨⟨by decide, identifies⟩, duoCaptured.1, Prod.ext rfl taken_duoCaptured, rfl⟩
  have delivers : system.Step captured (.deliver false true (ascii "Lydia") 1 swordPayload)
      delivered :=
    ⟨fun _ queued => absurd queued List.not_mem_nil, [], rfl, rfl⟩
  have beats : system.Step shown (.retryTick false 11000 takingAnswer (some swordPayload)) beaten :=
    ⟨identifies, duoBeaten.1, Prod.ext rfl taken_duoBeaten, rfl⟩
  have repeats : system.Step beaten (.deliver false true (ascii "Lydia") 2 swordPayload)
      repeated := by
    refine ⟨?_, [], rfl, rfl⟩
    intro task queued
    rw [show (beaten.players true).process.tasks = [] from tasks_duoShown] at queued
    cases queued
  have started : system.Runs [] duo := .initial initial
  have run : system.Runs duoEvents heard :=
    (((((((started.step captures).step delivers).step (turns delivered)).step
      (turns applied)).step beats).step repeats).step (turns repeated)).step (turns skipped)
  have quiet : heard.Quiet := by
    refine ⟨fun node => ?_, fun sender receiver => ?_, fun node => ?_⟩
    · cases node with
      | false => exact settled_duoBeaten.1
      | true => exact settled_duoHeard.1
    · cases sender <;> cases receiver <;> rfl
    · cases node with
      | false => exact settled_duoBeaten.2
      | true => exact settled_duoHeard.2
  have mapped : (heard.players true).process.table (duoConnections false) = some lydia :=
    congrFun table_duoHeard 7
  have known : (duoHeard.adapter.remoteStates.lookup 7).isSome := by decide +kernel
  obtain ⟨snapshot, stored⟩ := Option.isSome_iff_exists.mp known
  exact ⟨heard, snapshot, stored, mapped, by decide +kernel,
    @quiet_players_agree Bool _ _ captureSort duoConnections duoEvents heard (by decide)
      (by decide) run quiet false true (by decide) _ rfl fits_swordCapture _ stored⟩

end IEDSyncTogether
