import IEDSyncTogether.Adapter.Library
import IEDSyncTogether.Adapter.Process
import IEDSyncTogether.Network.Session
import IEDSyncTogether.Service.StatePacket

/-!
# The STR transport

`StrTransport` sends and receives the packets of the service over a channel of STRPM. A
message that comes back to its sender is dropped, by the instance ID in it or by the
connection that STRPM names.
-/

namespace IEDSyncTogether

open Base

/-- The answers of the system and the messaging library to `Start`. -/
structure StrStartAnswer where
  library : Option STRPM.Library
  runtimeStatus : STRPM.Result × STRPM.RuntimeStatus
  /-- The connection that `getLocalConnectionID` writes, if it writes one. -/
  connectionID : Option ConnectionID
  processID : UInt32
  tickCount : UInt64
  /-- The handle that `registerChannel` writes, if it writes one. -/
  registerChannel : STRPM.Result × Option UInt64

/-- The transport over STRPM with the interfaces it has loaded and its listener. -/
structure StrTransport where
  running : Bool
  config : Config
  api : Option STRPM.Interface
  diagnostics : Option STRPM.DiagnosticsInterface
  listener : UInt64
  localConnectionID : ConnectionID
  localInstanceID : ByteString

namespace StrTransport

/-- A constructed transport. -/
def initial : StrTransport where
  running := false
  config := Config.initial
  api := none
  diagnostics := none
  listener := 0
  localConnectionID := 0
  localInstanceID := []

variable (transport : StrTransport)

/-- `ReadRuntimeStatus`: a status is trusted in the known version alone. -/
def readRuntimeStatus (answer : STRPM.Result × STRPM.RuntimeStatus) : Option STRPM.RuntimeStatus :=
  if transport.diagnostics.any (·.getRuntimeStatus) then
    if answer.1 ≠ .kOk ∨ answer.2.version ≠ STRPM.kDiagnosticsVersion then none
    else some answer.2
  else none

/-- A configuration may insist on the bridge of Skyrim Together. -/
def validateRuntimeBackend (answer : STRPM.Result × STRPM.RuntimeStatus) : Bool :=
  match transport.readRuntimeStatus answer with
  | none => !transport.config.requireStrBridge
  | some status =>
    if ¬ transport.config.requireStrBridge then true
    else !(status.activeBackend ≠ .kStrBridge ∨ status.strBridgeActive = 0)

/-- The members `Start` sets once it has a valid interface. -/
def identify (api : STRPM.Interface) (answer : StrStartAnswer) : StrTransport :=
  let localConnectionID :=
    if api.getLocalConnectionID then answer.connectionID.getD transport.localConnectionID
    else transport.localConnectionID
  { transport with
    localConnectionID
    localInstanceID := strInstanceID localConnectionID answer.processID answer.tickCount
    listener := answer.registerChannel.2.getD transport.listener }

/-- What `Start` and `Stop` return and leave, with the channels they register and unregister. -/
structure Outcome where
  started : Bool
  transport : StrTransport
  calls : List (Resource × Bool)

/-- `Start`: the library is loaded, its backend checked and the channel registered. -/
def start (config : Config) (handler : Bool) (answer : StrStartAnswer) : Outcome :=
  if transport.running then ⟨true, transport, []⟩
  else if ¬ config.networkEnabled ∨ ¬ handler then ⟨false, transport, []⟩
  else
    match answer.library.bind fun library =>
        library.loadInterface.map fun api => (api, library.loadDiagnostics) with
    | none => ⟨false, { transport with config }, []⟩
    | some (api, diagnostics) =>
      let transport := { transport with config, api := some api, diagnostics }
      if ¬ transport.validateRuntimeBackend answer.runtimeStatus then
        ⟨false, { transport with api := none, diagnostics := none }, []⟩
      else
        let transport := transport.identify api answer
        if answer.registerChannel.1 ≠ .kOk then ⟨false, { transport with api := none }, []⟩
        else ⟨true, { transport with running := true }, [(.channel transport.listener, true)]⟩

/-- `Stop`: the listener is unregistered. -/
def stop : StrTransport × List (Resource × Bool) :=
  if ¬ transport.running then (transport, [])
  else
    ({ transport with
        running := false
        listener := 0
        localConnectionID := 0
        localInstanceID := []
        diagnostics := none
        api := none },
      if transport.api.any (·.unregisterChannel) ∧ transport.listener ≠ 0 then
        [(.channel transport.listener, false)]
      else [])

/-- `BuildPacket`: the framing the transports share, with no relay. -/
def buildPacket (playerName payload : ByteString) : ByteString :=
  ascii "IEDST|v1|id=" ++ transport.localInstanceID ++ ascii "|from=" ++
    hexEncode (sanitizeField playerName) ++ ascii "|relay=0|" ++ payload

/-- The packet `Send` hands to the messaging library. -/
def sentPacket (playerName payload : ByteString) : Option ByteString :=
  if ¬ transport.running ∨ ¬ transport.api.any (·.send) ∨ payload = [] then none
  else
    let packet := transport.buildPacket playerName payload
    if STRPM.kMaxPayloadBytes < packet.length then none else some packet

/-- The packet `OnMessage` hands to the service. -/
def onMessage (message : STRPM.Message) : Except StringError (Option ByteString) :=
  if ¬ transport.running ∨ message.data = [] ∨ STRPM.kMaxPayloadBytes < message.data.length then
    .ok none
  else do
    let id ← readField message.data (ascii "id")
    if id.isSome ∧ transport.localInstanceID ≠ [] ∧ id = some transport.localInstanceID then
      return none
    else if message.senderID ≠ 0 ∧ transport.localConnectionID ≠ 0 ∧
        message.senderID = transport.localConnectionID then
      return none
    else return some message.data

/-! ## What a transport keeps -/

/-- A stopped transport has no interface; a running one has the instance ID of its connection. -/
structure Valid (transport : StrTransport) : Prop where
  api : transport.api.isSome = transport.running
  identified : transport.running = true → ∃ processID tickCount,
    transport.localInstanceID = strInstanceID transport.localConnectionID processID tickCount

/-- The channel of a running transport can be unregistered. -/
def Managed (transport : StrTransport) : Prop :=
  transport.running = true → transport.listener ≠ 0 ∧ transport.api.any (·.unregisterChannel) = true

/-- What a transport registers: channels. -/
def Owns : Resource → Prop
  | .channel _ => True
  | _ => False

/-- The channel a transport has registered. -/
def held (transport : StrTransport) : List Resource :=
  if transport.running then [.channel transport.listener] else []

theorem valid_initial : initial.Valid := ⟨rfl, nofun⟩

end StrTransport

/-- The library unregisters what it registers, and every registered channel has a handle. -/
def StrStartAnswer.Manages (answer : StrStartAnswer) : Prop :=
  (∀ library ∈ answer.library, ∀ api ∈ library.loadInterface, api.unregisterChannel = true) ∧
    (answer.registerChannel.1 = .kOk → ∃ handle ∈ answer.registerChannel.2, handle ≠ 0)

namespace StrTransport

variable {transport : StrTransport}

/-- A stopped transport stays stopped and registers nothing, or it runs with an interface of the
library on a registered channel. -/
theorem Valid.start_cases (valid : transport.Valid) (stopped : transport.running = false)
    (config : Config) (handler : Bool) (answer : StrStartAnswer) :
    (∃ idle : StrTransport, transport.start config handler answer = ⟨false, idle, []⟩ ∧
      idle.running = false ∧ idle.api = none) ∨
    (config.networkEnabled = true ∧ answer.registerChannel.1 = .kOk ∧
      ∃ library ∈ answer.library, ∃ api ∈ library.loadInterface,
        { transport with config, api := some api, diagnostics := library.loadDiagnostics
          }.validateRuntimeBackend answer.runtimeStatus = true ∧
        ∃ next : StrTransport, next = { transport with
            config, api := some api, diagnostics := library.loadDiagnostics
          }.identify api answer ∧
          transport.start config handler answer =
            ⟨true, { next with running := true }, [(.channel next.listener, true)]⟩) := by
  have bare : transport.api = none := by
    rw [← Option.isNone_iff_eq_none, ← Option.not_isSome, valid.api, stopped, Bool.not_false]
  rw [start, if_neg (by simp [stopped])]
  split
  · exact .inl ⟨transport, rfl, stopped, bare⟩
  · next wanted =>
      split
      · exact .inl ⟨_, rfl, stopped, bare⟩
      · next api diagnostics loaded =>
          obtain ⟨library, found, handed⟩ := Option.bind_eq_some_iff.mp loaded
          obtain ⟨_, given, same⟩ := Option.map_eq_some_iff.mp handed
          cases same
          dsimp only
          split
          · exact .inl ⟨_, rfl, stopped, rfl⟩
          · next validated =>
              split
              · exact .inl ⟨_, rfl, stopped, rfl⟩
              · next registered =>
                  refine .inr ⟨?_, not_not.mp registered, library, found, api, given,
                    not_not.mp validated, _, rfl, rfl⟩
                  exact not_not.mp (not_or.mp wanted).1

/-- `Start` runs the transport or registers nothing. -/
theorem start_spec (valid : transport.Valid) (config : Config) (handler : Bool)
    (answer : StrStartAnswer) :
    (transport.start config handler answer).transport.Valid ∧
      (transport.start config handler answer).started =
        (transport.start config handler answer).transport.running ∧
      ((transport.start config handler answer).transport.running = true →
        transport.running = true ∨
          (transport.start config handler answer).transport.config = config) ∧
      (transport.Managed → answer.Manages →
        (transport.start config handler answer).transport.Managed) ∧
      Settles Owns transport.held (transport.start config handler answer).transport.held
        (transport.start config handler answer).calls := by
  cases running : transport.running with
  | true =>
      rw [start, if_pos running]
      exact ⟨valid, running.symm, fun _ => .inl rfl, fun managed _ => managed, .nothing _ _⟩
  | false =>
      have free : transport.held = [] := by simp [held, running]
      rw [free]
      rcases valid.start_cases running config handler answer with
        ⟨idle, started, still, bare⟩ | ⟨_, registered, library, found, api, given, _, next, same,
          started⟩
      · rw [started]
        have empty : idle.held = [] := by simp [held, still]
        have never {goal : Prop} (on : idle.running = true) : goal := by
          rw [still] at on
          cases on
        refine ⟨⟨by rw [bare, still]; rfl, never⟩, still.symm, never, fun _ _ => never, ?_⟩
        exact empty ▸ .nothing _ _
      · rw [started]
        refine ⟨⟨?_, fun _ => ?_⟩, rfl, fun _ => .inr ?_, fun _ manages _ => ?_, ?_⟩
        · rw [same]
          rfl
        · rw [same]
          exact ⟨answer.processID, answer.tickCount, rfl⟩
        · rw [same]
          rfl
        · obtain ⟨handle, written, nonzero⟩ := manages.2 registered
          have listener : next.listener = handle := by
            rw [same, identify, Option.mem_def.mp written, Option.getD_some]
          refine ⟨?_, ?_⟩
          · exact listener ▸ nonzero
          · rw [same]
            exact manages.1 library found api given
        · exact .acquire trivial (by simp)

/-- `Stop` unregisters a managed channel. -/
theorem stop_spec (valid : transport.Valid) :
    transport.stop.1.Valid ∧ transport.stop.1.running = false ∧
      (transport.Managed → Settles Owns transport.held transport.stop.1.held transport.stop.2) := by
  rw [stop]
  cases running : transport.running with
  | false => exact ⟨valid, running, fun _ => .nothing _ _⟩
  | true =>
      rw [if_neg (by simp)]
      refine ⟨⟨rfl, nofun⟩, rfl, fun managed => ?_⟩
      obtain ⟨nonzero, unregisters⟩ := managed running
      simp only [held, running, unregisters, nonzero, if_true, ne_eq, not_false_eq_true, and_self]
      exact .release trivial (by simp)

/-! ## From one player to another -/

section Delivery

variable {sender receiver : StrTransport} {playerName : ByteString} {revision : UInt64}
  {slots : SlotState}

/-- A state is sent in the fields of a state packet. -/
theorem buildPacket_statePayload (sender : StrTransport) (playerName : ByteString)
    (revision : UInt64) (slots : SlotState) :
    sender.buildPacket playerName (statePayload revision slots) =
      gameplayText (stateFields sender.localInstanceID (sanitizeField playerName) (ascii "0")
        revision slots) := by
  simp [buildPacket, gameplayText, joined, stateFields, labelled, statePayload, ascii, byteOf]

/-- The instance ID of a running transport is a generated one. -/
theorem Valid.generated (valid : sender.Valid) (running : sender.running = true) :
    GeneratedInstanceID sender.localInstanceID := by
  obtain ⟨processID, tickCount, identified⟩ := valid.identified running
  exact .inr ⟨_, processID, tickCount, identified⟩

/-- One connection has one instance ID. -/
theorem localInstanceID_eq_of_connection (valid : sender.Valid) (running : sender.running = true)
    (other : receiver.Valid) (receives : receiver.running = true)
    (known : sender.localConnectionID ≠ 0)
    (same : sender.localConnectionID = receiver.localConnectionID) :
    receiver.localInstanceID = sender.localInstanceID := by
  obtain ⟨_, _, first⟩ := valid.identified running
  obtain ⟨_, _, second⟩ := other.identified receives
  rw [first, second, strInstanceID, if_pos (same ▸ known), strInstanceID, if_pos known, same]

/-- A state comes to the service of every player with another instance ID, and to no other. -/
theorem onMessage_statePayload (valid : sender.Valid) (other : receiver.Valid)
    (receives : receiver.running = true) {packet : ByteString}
    (sent : sender.sentPacket playerName (statePayload revision slots) = some packet)
    {message : STRPM.Message} (carried : message.data = packet)
    (named : message.senderID = sender.localConnectionID ∨
      message.senderID ≠ receiver.localConnectionID) :
    receiver.onMessage message =
      .ok (if receiver.localInstanceID = sender.localInstanceID then none else some packet) ∧
    readStatePacket packet = .ok (if Addressable slots then
      some ⟨sender.localInstanceID, sanitizeField playerName, revision, slots⟩ else none) := by
  obtain ⟨running, fits, rfl⟩ : sender.running = true ∧
      ¬ STRPM.kMaxPayloadBytes < packet.length ∧
        sender.buildPacket playerName (statePayload revision slots) = packet := by
    rw [sentPacket] at sent
    split at sent
    · cases sent
    · next tried =>
        dsimp only at sent
        split at sent
        · cases sent
        · next fits =>
            cases sent
            exact ⟨not_not.mp (not_or.mp tried).1, fits, rfl⟩
  obtain ⟨plain, present⟩ := plain_of_generated (valid.generated running)
  rw [buildPacket_statePayload] at fits carried ⊢
  have id : fieldValue message.data (ascii "id") = some sender.localInstanceID := by
    rw [carried, fieldValue_gameplayText (by decide)]
    have found := @findSome?_stateFields sender.localInstanceID (sanitizeField playerName) (ascii "0")
      revision slots (ascii "id") (by decide) plain plain_zero []
    rwa [List.append_nil, if_pos (by decide)] at found
  constructor
  · have whole : gameplayText (stateFields sender.localInstanceID (sanitizeField playerName)
        (ascii "0") revision slots) ≠ [] := by
      simp [gameplayText, joined, ascii]
    rw [onMessage, if_neg (by simp [receives, whole, carried, fits]), readField_eq, id]
    simp only [bind, Except.bind, pure, Except.pure]
    by_cases own : receiver.localInstanceID = sender.localInstanceID
    · rw [if_pos ⟨rfl, own ▸ present, own ▸ rfl⟩, if_pos own]
    · have foreign : ¬ (message.senderID ≠ 0 ∧ receiver.localConnectionID ≠ 0 ∧
          message.senderID = receiver.localConnectionID) := by
        rintro ⟨known, _, same⟩
        rcases named with named | elsewhere
        · rw [named] at known same
          exact own (localInstanceID_eq_of_connection valid running other receives known same)
        · exact elsewhere same
      rw [if_neg (fun all => own (Option.some.inj all.2.2).symm), if_neg foreign, if_neg own, carried]
  · have read := @readStatePacket_stateFields sender.localInstanceID (sanitizeField playerName)
      (ascii "0") revision slots plain present (sanitizeField_ne_nil _) plain_zero []
    rwa [List.append_nil] at read

end Delivery

end StrTransport

end IEDSyncTogether
