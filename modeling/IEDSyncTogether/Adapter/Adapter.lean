import IEDSyncTogether.Base.UnorderedMap
import IEDSyncTogether.Render.Items

/-!
# The STRPM adapter

The sending half keeps the latest payload until the transport has accepted it
and repeats it as a heartbeat; the receiving half keeps the last state of every
connection. The transport and the clock answer each call through parameters.
-/

namespace IEDSyncTogether

open Base

namespace STRPM

/-- The results of the STRPM functions. -/
inductive Result where
  | kOk
  | kNotAvailable
  | kUnsupportedVersion
  | kInvalidArgument
  | kNotConnected
  | kChannelAlreadyRegistered
  | kChannelNotRegistered
  | kPayloadTooLarge
  | kRateLimited
  | kTransportError
  | kTargetNotFound
deriving DecidableEq

/-- The largest payload STRPM takes. -/
def kMaxPayloadBytes : Nat := 24 * 1024

end STRPM

/-- Milliseconds between a successful send and its heartbeat. -/
def kHeartbeatInterval : Nat := 10 * 1000

/-- The last state of a connection, with the name and the number it came with. -/
structure RemoteSnapshot where
  state : LocalIEDState
  displayName : ByteString
  sequence : UInt64

/-- The fields of the adapter, without the handles of its listeners. -/
structure STRPMAdapter where
  running : Bool
  /-- `_api` and its `send` are set. -/
  apiReady : Bool
  /-- `_resolver` and its `resolve` are set. -/
  resolverReady : Bool
  localConnectionID : ConnectionID
  latestState : LocalIEDState
  latestPayload : ByteString
  pending : Bool
  haveSuccessfulSend : Bool
  lastFailure : Option STRPM.Result
  lastSuccessfulSend : Nat
  remoteStates : UnorderedMap ConnectionID RemoteSnapshot

/-- What the transport and the clock answer to one `TrySend`: the local
connection if it is known, the result of `send`, and the time after it. -/
structure TransportAnswer where
  connectionID : Option ConnectionID
  result : STRPM.Result
  sentAt : Nat

/-- The adapter after an operation, the payload it offered to the transport, and
whether the transport accepted it. -/
structure SendOutcome where
  adapter : STRPMAdapter
  offered : Option ByteString
  accepted : Bool

namespace STRPMAdapter

/-- A state without forms and objects. -/
def emptyState : LocalIEDState := ⟨Vector.replicate 19 none, []⟩

/-- A constructed adapter that has not been started. -/
def initial : STRPMAdapter where
  running := false
  apiReady := false
  resolverReady := false
  localConnectionID := 0
  latestState := emptyState
  latestPayload := []
  pending := false
  haveSuccessfulSend := false
  lastFailure := none
  lastSuccessfulSend := 0
  remoteStates := ∅

/-- `Reset` without the renderer task it queues. -/
def reset (adapter : STRPMAdapter) : STRPMAdapter :=
  { adapter with
    latestState := emptyState
    latestPayload := []
    pending := false
    haveSuccessfulSend := false
    lastFailure := none
    lastSuccessfulSend := 0
    remoteStates := ∅ }

/-- The local connection is remembered once the transport knows it. -/
def refreshConnection (adapter : STRPMAdapter) (answer : TransportAnswer) : STRPMAdapter :=
  match answer.connectionID with
  | none => adapter
  | some current => if current ≠ 0 then { adapter with localConnectionID := current } else adapter

/-- The bookkeeping after `send` has answered. -/
def settle (adapter : STRPMAdapter) (payload : ByteString) (answer : TransportAnswer) :
    STRPMAdapter :=
  if answer.result ≠ .kOk then
    { adapter with
      pending := if adapter.latestPayload = payload then true else adapter.pending
      lastFailure := some answer.result }
  else
    { adapter with
      pending := if adapter.latestPayload = payload then false else adapter.pending
      lastFailure := none
      haveSuccessfulSend := true
      lastSuccessfulSend := answer.sentAt }

/-- `TrySend`: an empty or oversized payload is not offered to the transport. -/
def trySend (adapter : STRPMAdapter) (payload : ByteString) (answer : TransportAnswer) :
    SendOutcome :=
  if ¬ adapter.running ∨ ¬ adapter.apiReady ∨ payload = [] then ⟨adapter, none, false⟩
  else if STRPM.kMaxPayloadBytes < payload.length then ⟨adapter, none, false⟩
  else
    ⟨(adapter.refreshConnection answer).settle payload answer, some payload,
      answer.result = .kOk⟩

/-- The part of `Publish` before the send. -/
def retain (adapter : STRPMAdapter) (state : LocalIEDState) (payload : ByteString) :
    STRPMAdapter :=
  { adapter with latestState := state, latestPayload := payload, pending := true }

/-- `Publish`: an empty or oversized payload is dropped before it is retained. -/
def publish (adapter : STRPMAdapter) (state : LocalIEDState) (payload : ByteString)
    (answer : TransportAnswer) : SendOutcome :=
  if payload = [] then ⟨adapter, none, false⟩
  else if STRPM.kMaxPayloadBytes < payload.length then ⟨adapter, none, false⟩
  else (adapter.retain state payload).trySend payload answer

/-- The heartbeat is due: a send has succeeded and its interval is over. -/
def HeartbeatDue (adapter : STRPMAdapter) (now : Nat) : Prop :=
  adapter.haveSuccessfulSend = true ∧ adapter.lastSuccessfulSend + kHeartbeatInterval ≤ now

instance (adapter : STRPMAdapter) (now : Nat) : Decidable (adapter.HeartbeatDue now) :=
  inferInstanceAs (Decidable (_ ∧ _))

/-- `RetryTick`: a pending payload is tried again, and a sent one repeated as a heartbeat. -/
def retryTick (adapter : STRPMAdapter) (now : Nat) (answer : TransportAnswer) : SendOutcome :=
  if ¬ adapter.running then ⟨adapter, none, false⟩
  else if adapter.latestPayload = [] then ⟨adapter, none, false⟩
  else if adapter.pending then adapter.trySend adapter.latestPayload answer
  else if adapter.HeartbeatDue now then adapter.trySend adapter.latestPayload answer
  else ⟨adapter, none, false⟩

/-! ## One send -/

section Send

variable (adapter : STRPMAdapter) (payload : ByteString) (answer : TransportAnswer)

/-- The connection does not affect the retained payload. -/
@[simp] theorem refreshConnection_latestPayload :
    (adapter.refreshConnection answer).latestPayload = adapter.latestPayload := by
  unfold refreshConnection
  split
  · rfl
  · split <;> rfl

/-- The connection does not affect whether the payload is pending. -/
@[simp] theorem refreshConnection_pending :
    (adapter.refreshConnection answer).pending = adapter.pending := by
  unfold refreshConnection
  split
  · rfl
  · split <;> rfl

/-- The answer of the transport does not affect the retained payload. -/
@[simp] theorem settle_latestPayload :
    (adapter.settle payload answer).latestPayload = adapter.latestPayload := by
  unfold settle
  split <;> rfl

/-- The answer decides whether the retained payload is pending, and only if that payload was
sent. -/
theorem settle_pending :
    (adapter.settle payload answer).pending =
      if adapter.latestPayload = payload then decide (answer.result ≠ .kOk)
      else adapter.pending := by
  unfold settle
  split_ifs <;> simp_all

/-- A send retains what was retained. -/
@[simp] theorem trySend_latestPayload :
    (adapter.trySend payload answer).adapter.latestPayload = adapter.latestPayload := by
  unfold trySend
  split_ifs <;> simp

/-- A send of the retained payload leaves it retained, and pending exactly if the
transport did not take it. -/
theorem trySend_latest (running : adapter.running = true) (ready : adapter.apiReady = true)
    (present : adapter.latestPayload ≠ [])
    (fits : adapter.latestPayload.length ≤ STRPM.kMaxPayloadBytes) :
    let outcome := adapter.trySend adapter.latestPayload answer
    outcome.offered = some adapter.latestPayload ∧
      outcome.accepted = decide (answer.result = .kOk) ∧
      outcome.adapter.latestPayload = adapter.latestPayload ∧
      outcome.adapter.pending = !outcome.accepted := by
  simp [trySend, running, ready, present, Nat.not_lt.mpr fits, settle_pending]

/-- A send that cannot be tried changes nothing. -/
theorem trySend_unavailable (down : adapter.running = false ∨ adapter.apiReady = false) :
    adapter.trySend payload answer = ⟨adapter, none, false⟩ := by
  rcases down with down | down <;> simp [trySend, down]

/-- A publication replaces the retained payload unless it is empty or too large. -/
theorem publish_latestPayload (state : LocalIEDState) :
    (adapter.publish state payload answer).adapter.latestPayload =
      if payload = [] ∨ STRPM.kMaxPayloadBytes < payload.length then adapter.latestPayload
      else payload := by
  unfold publish
  by_cases empty : payload = []
  · simp [empty]
  · by_cases large : STRPM.kMaxPayloadBytes < payload.length
    · simp [empty, large]
    · simp [empty, large, retain]

/-- A retry or a heartbeat retains what was retained. -/
@[simp] theorem retryTick_latestPayload (now : Nat) :
    (adapter.retryTick now answer).adapter.latestPayload = adapter.latestPayload := by
  unfold retryTick
  split_ifs <;> simp

/-- A send offers nothing but its payload. -/
theorem trySend_offered {offered : ByteString}
    (sent : (adapter.trySend payload answer).offered = some offered) : offered = payload := by
  unfold trySend at sent
  split_ifs at sent
  cases sent
  rfl

/-- A retry or a heartbeat offers nothing but the retained payload. -/
theorem retryTick_offered {now : Nat} {offered : ByteString}
    (sent : (adapter.retryTick now answer).offered = some offered) :
    offered = adapter.latestPayload := by
  unfold retryTick at sent
  split_ifs at sent
  · exact trySend_offered _ _ _ sent
  · exact trySend_offered _ _ _ sent

end Send

end STRPMAdapter

end IEDSyncTogether
