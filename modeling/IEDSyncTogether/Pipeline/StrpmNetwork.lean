import IEDSyncTogether.Adapter.Freshness
import IEDSyncTogether.Adapter.Sender
import IEDSyncTogether.Pipeline.Heartbeat

/-!
# Players that show each other's equipment

Any number of games, each with its probe, its adapter, its renderer and its queue of tasks.
A payload that the transport of a player takes is on its way to every other player; messages
are sent as reliable and ordered, so every pair of players is linked by a queue.
-/

namespace IEDSyncTogether

open Base

/-- The payload the transport took. -/
def SendOutcome.taken (outcome : SendOutcome) : Option ByteString :=
  if outcome.accepted then outcome.offered else none

/-- One game: the probe, and the process with both halves of the adapter. -/
structure Player where
  probe : LocalCaptureProbe
  process : GameProcess

namespace Player

variable (player : Player)

/-- The capture and sending half of a player. -/
def sendingSide : SendingSide := ⟨player.probe, player.process.adapter⟩

/-- The player with the adapter replaced. -/
def setAdapter (adapter : STRPMAdapter) : Player :=
  { player with process := { player.process with adapter } }

/-- `CompleteCapture` with the handler of `OnSKSEMessage`, and what the transport took. -/
def completeCapture (game : GameData) (sorting : ObjectSort) (slots : SlotState)
    (scene : Option PlayerScene) (answer : TransportAnswer) : Player × Option ByteString :=
  let outcome := player.probe.completeCapture game sorting scene slots
  let captured := { player with probe := outcome.probe }
  match outcome.reported with
  | none => (captured, none)
  | some (state, payload) =>
    let sent := player.process.adapter.publish state payload answer
    (captured.setAdapter sent.adapter, sent.taken)

/-- A tick of the retry timer, with the payload STRPM accepted in it. -/
def retryTick (now : Nat) (answer : TransportAnswer) : Player × Option ByteString :=
  let sent := player.process.adapter.retryTick now answer
  (player.setAdapter sent.adapter, sent.taken)

/-- The case `kPreLoadGame` of `OnSKSEMessage`. -/
def preLoadGame : Player := ⟨player.probe.reset, player.process.resetAdapter⟩

end Player

/-- The players, and the payloads from one player to another, oldest first. -/
structure StrpmNetwork (Node : Type) where
  players : Node → Player
  transit : Node → Node → List ByteString

/-- What happens in the network, with the payload that a transport takes or delivers. -/
inductive StrpmEvent (Node : Type) where
  | completeCapture (node : Node) (slots : SlotState) (scene : Option PlayerScene)
      (answer : TransportAnswer) (taken : Option ByteString)
  | retryTick (node : Node) (now : Nat) (answer : TransportAnswer) (taken : Option ByteString)
  | preLoadGame (node : Node)
  | deliver (sender receiver : Node) (displayName : ByteString) (sequence : UInt64)
      (payload : ByteString)
  | changeTable (node : Node) (change : STRPM.TableChange)
  | scheduleWatchdogTick (node : Node)
  | runTask (node : Node) (environment : GameEnvironment) (scenes : ProxyFormID → Option ProxyScene)

namespace StrpmNetwork

variable {Node : Type} [DecidableEq Node] (network : StrpmNetwork Node)

/-- The network with a player replaced. -/
def setPlayer (node : Node) (player : Player) : StrpmNetwork Node :=
  { network with players := Function.update network.players node player }

/-- The network with the game process of a player replaced. -/
def setProcess (node : Node) (process : GameProcess) : StrpmNetwork Node :=
  network.setPlayer node { network.players node with process }

/-- What the transport took is on its way to all other players. -/
def dispatch (node : Node) (taken : Option ByteString) : StrpmNetwork Node :=
  { network with
    transit := fun sender receiver =>
      if sender = node ∧ receiver ≠ node then network.transit sender receiver ++ taken.toList
      else network.transit sender receiver }

/-- The network with the payloads under way between two players replaced. -/
def setTransit (sender receiver : Node) (payloads : List ByteString) : StrpmNetwork Node :=
  { network with
    transit := fun other another =>
      if other = sender ∧ another = receiver then payloads else network.transit other another }

/-- Nothing is queued, under way or pending. -/
structure Quiet : Prop where
  tasks : ∀ node, (network.players node).process.tasks = []
  transit : ∀ sender receiver, network.transit sender receiver = []
  settled : ∀ node, (network.players node).process.adapter.pending = false

end StrpmNetwork

/-- The players after `kDataLoaded`, under any order of events. -/
def strpmNetwork {Node : Type} [DecidableEq Node] (games : Node → GameData) (sorting : ObjectSort)
    (connections : Node → ConnectionID) : TransitionSystem (StrpmNetwork Node) (StrpmEvent Node) where
  Initial network :=
    (∀ sender receiver, network.transit sender receiver = []) ∧ ∀ node,
      (network.players node).probe = .started ∧
      (∃ apiReady localConnectionID, (network.players node).process.adapter =
          { STRPMAdapter.initial with
            running := true, apiReady, resolverReady := true, localConnectionID } ∧
        (localConnectionID = 0 ∨ localConnectionID = connections node)) ∧
      (processSystem (games node)).Initial (network.players node).process
  Step network event next :=
    match event with
    | .completeCapture node slots scene answer taken =>
      ∃ player, (network.players node).completeCapture (games node) sorting slots scene answer =
          (player, taken) ∧
        next = (network.setPlayer node player).dispatch node taken
    | .retryTick node now answer taken =>
      ∃ player, (network.players node).retryTick now answer = (player, taken) ∧
        next = (network.setPlayer node player).dispatch node taken
    | .preLoadGame node => next = network.setPlayer node (network.players node).preLoadGame
    | .deliver sender receiver displayName sequence payload =>
      ∃ payloads, network.transit sender receiver = payload :: payloads ∧
        next = (network.setTransit sender receiver payloads).setProcess receiver
          ((network.players receiver).process.onMessage
            ⟨payload, connections sender, displayName, sequence⟩)
    | .changeTable node change =>
      change.Applies (network.players node).process.table ∧
        (change.perform (network.players node).process.table).Valid ∧
        next = network.setProcess node ((network.players node).process.changeTable change)
    | .scheduleWatchdogTick node =>
      next = network.setProcess node (network.players node).process.scheduleWatchdogTick
    | .runTask node environment scenes =>
      next = network.setProcess node
        ((network.players node).process.runTask (games node) environment scenes)

/-- The transport knows no other connection as the local one. -/
def TransportAnswer.Identifies (answer : TransportAnswer) (connectionID : ConnectionID) : Prop :=
  ∀ current ∈ answer.connectionID, current = 0 ∨ current = connectionID

/-- Slots can be addressed, transports know their connections, actors exist and dispatches are
accepted, and no state arrives while a removal of its sender is still queued. -/
def Orderly {Node : Type} (connections : Node → ConnectionID) (network : StrpmNetwork Node) :
    StrpmEvent Node → Prop
  | .completeCapture node slots _ answer _ =>
    Addressable slots ∧ answer.Identifies (connections node)
  | .retryTick node _ answer _ => answer.Identifies (connections node)
  | .deliver sender receiver _ _ _ =>
    ∀ task ∈ (network.players receiver).process.tasks, ¬ task.Forgets (connections sender)
  | .runTask _ environment _ =>
    (∀ proxyFormID, environment.actorReady proxyFormID = true) ∧
      ∀ index, environment.accepts index = true
  | _ => True

/-! ## The history of a player -/

section History

variable {Node : Type} [DecidableEq Node]

/-- What happens to the sending side of a player. -/
def StrpmEvent.sending (node : Node) : StrpmEvent Node → Option SendingEvent
  | .completeCapture other slots scene answer _ =>
    if other = node then some (.completeCapture slots scene answer) else none
  | .retryTick other now answer _ => if other = node then some (.retryTick now answer) else none
  | .preLoadGame other => if other = node then some .preLoadGame else none
  | _ => none

/-- The payload the transport of a player takes. -/
def StrpmEvent.taken (node : Node) : StrpmEvent Node → Option ByteString
  | .completeCapture other _ _ _ taken => if other = node then taken else none
  | .retryTick other _ _ taken => if other = node then taken else none
  | _ => none

/-- The payload delivered from one player to another. -/
def StrpmEvent.delivered (sender receiver : Node) : StrpmEvent Node → Option ByteString
  | .deliver other another _ _ payload =>
    if other = sender ∧ another = receiver then some payload else none
  | _ => none

/-- The state of the last capture of a player since its last load. -/
def lastCaptureOf (games : Node → GameData) (sorting : ObjectSort) (events : List (StrpmEvent Node))
    (node : Node) : Option LocalIEDState :=
  lastCapture (games node) sorting (events.filterMap (StrpmEvent.sending node))

/-- Every payload the transport of a player took. -/
def takenFrom (events : List (StrpmEvent Node)) (node : Node) : List ByteString :=
  events.filterMap (StrpmEvent.taken node)

/-- Every payload delivered from one player to another. -/
def deliveredTo (events : List (StrpmEvent Node)) (sender receiver : Node) : List ByteString :=
  events.filterMap (StrpmEvent.delivered sender receiver)

end History

end IEDSyncTogether
