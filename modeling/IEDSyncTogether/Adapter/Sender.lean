import IEDSyncTogether.Base.Execution
import IEDSyncTogether.Adapter.Adapter

/-!
# The retry protocol of the sender

Runs of `Publish`, `RetryTick` and `Reset` under any answers of the transport and
any times at which the adapter is available. The ledger numbers the publications
since the last `Reset` and keeps which of them the transport accepted, in order.
-/

namespace IEDSyncTogether

open Base

/-- What happens to the sender, with the payload it offered to the transport and
whether the transport took it. -/
inductive SenderEvent where
  | availability (running apiReady : Bool)
  | publish (state : LocalIEDState) (payload : ByteString) (answer : TransportAnswer)
      (offered : Option ByteString) (accepted : Bool)
  | retryTick (now : Nat) (answer : TransportAnswer) (offered : Option ByteString)
      (accepted : Bool)
  | reset

/-- The sender under arbitrary operations on payloads within the size limit. -/
def senderSystem : TransitionSystem STRPMAdapter SenderEvent where
  Initial adapter := adapter = .initial
  Step adapter event next :=
    match event with
    | .availability running apiReady => next = { adapter with running, apiReady }
    | .publish state payload answer offered accepted =>
      payload.length ≤ STRPM.kMaxPayloadBytes ∧
        adapter.publish state payload answer = ⟨next, offered, accepted⟩
    | .retryTick now answer offered accepted =>
      adapter.retryTick now answer = ⟨next, offered, accepted⟩
    | .reset => next = adapter.reset

/-- The payloads published since the last `Reset`, and the payloads the transport
accepted since then, each with the index of the publication that was current. -/
structure SenderLedger where
  published : List ByteString
  accepted : List (Nat × ByteString)

namespace SenderLedger

/-- A ledger without a payload. -/
def empty : SenderLedger := ⟨[], []⟩

/-- An accepted offer is filed under the newest publication. -/
def file (ledger : SenderLedger) (offered : Option ByteString) (accepted : Bool) : SenderLedger :=
  match offered, accepted with
  | some payload, true =>
    { ledger with accepted := ledger.accepted ++ [(ledger.published.length - 1, payload)] }
  | _, _ => ledger

/-- What an event adds to the ledger. -/
def record (ledger : SenderLedger) : SenderEvent → SenderLedger
  | .availability _ _ => ledger
  | .publish _ payload _ offered accepted =>
    if payload = [] then ledger
    else { ledger with published := ledger.published ++ [payload] }.file offered accepted
  | .retryTick _ _ offered accepted => ledger.file offered accepted
  | .reset => empty

end SenderLedger

/-- The ledger of a run of events. -/
def senderLedger (events : List SenderEvent) : SenderLedger :=
  events.foldl SenderLedger.record .empty

theorem senderLedger_append (events : List SenderEvent) (event : SenderEvent) :
    senderLedger (events ++ [event]) = (senderLedger events).record event := by
  simp [senderLedger]

/-- The accepted payloads are publications, in the order of their indices. -/
structure SenderLedger.InOrder (ledger : SenderLedger) : Prop where
  ascending : (ledger.accepted.map Prod.fst).Pairwise (· ≤ ·)
  genuine : ∀ entry ∈ ledger.accepted, ledger.published[entry.1]? = some entry.2

/-- What every operation keeps: the retained payload is the newest publication,
and it is pending unless it was the last one accepted. -/
structure SenderInvariant (ledger : SenderLedger) (adapter : STRPMAdapter) : Prop where
  inOrder : ledger.InOrder
  newest : adapter.latestPayload = ledger.published.getLast?.getD []
  nonempty : [] ∉ ledger.published
  fits : adapter.latestPayload.length ≤ STRPM.kMaxPayloadBytes
  pending : adapter.pending = true → adapter.latestPayload ≠ []
  delivered : adapter.latestPayload ≠ [] → adapter.pending = false →
    ledger.accepted.getLast?.map Prod.snd = some adapter.latestPayload

namespace SenderLedger.InOrder

variable {ledger : SenderLedger}

/-- A further publication keeps the order. -/
theorem publish (inOrder : ledger.InOrder) (payload : ByteString) :
    InOrder { ledger with published := ledger.published ++ [payload] } where
  ascending := inOrder.ascending
  genuine := by
    intro entry member
    have here := inOrder.genuine entry member
    obtain ⟨inside, _⟩ := List.getElem?_eq_some_iff.mp here
    rw [List.getElem?_append_left inside, here]

/-- Accepting the newest publication keeps the order. -/
theorem accept (inOrder : ledger.InOrder) {payload : ByteString}
    (newest : ledger.published.getLast? = some payload) :
    InOrder { ledger with
      accepted := ledger.accepted ++ [(ledger.published.length - 1, payload)] } where
  ascending := by
    simp only [List.map_append, List.map_cons, List.map_nil, List.pairwise_append,
      List.pairwise_cons, List.not_mem_nil, false_implies, implies_true, List.Pairwise.nil,
      and_self, List.mem_singleton, forall_eq, true_and]
    refine ⟨inOrder.ascending, ?_⟩
    intro index member
    obtain ⟨entry, among, rfl⟩ := List.mem_map.mp member
    obtain ⟨inside, _⟩ := List.getElem?_eq_some_iff.mp (inOrder.genuine entry among)
    omega
  genuine := by
    intro entry member
    rcases List.mem_append.mp member with earlier | last
    · exact inOrder.genuine entry earlier
    · obtain rfl := List.mem_singleton.mp last
      rw [← newest, List.getLast?_eq_getElem?]

end SenderLedger.InOrder

namespace SenderInvariant

variable {ledger : SenderLedger} {adapter : STRPMAdapter}

/-- A retained payload is the last publication. -/
theorem getLast_published (invariant : SenderInvariant ledger adapter)
    (present : adapter.latestPayload ≠ []) :
    ledger.published.getLast? = some adapter.latestPayload := by
  have newest := invariant.newest
  cases last : ledger.published.getLast? with
  | none =>
      rw [last] at newest
      exact absurd newest present
  | some payload => rw [newest, last, Option.getD_some]

/-- Offering the retained payload keeps the invariant, whatever the answer. -/
theorem trySend (invariant : SenderInvariant ledger adapter)
    (present : adapter.latestPayload ≠ []) (answer : TransportAnswer) :
    let outcome := adapter.trySend adapter.latestPayload answer
    SenderInvariant (ledger.file outcome.offered outcome.accepted) outcome.adapter := by
  by_cases up : adapter.running = true ∧ adapter.apiReady = true
  · obtain ⟨offered, accepted, latest, pending⟩ :=
      adapter.trySend_latest answer up.1 up.2 present invariant.fits
    intro outcome
    rw [show outcome.offered = some adapter.latestPayload from offered]
    cases taken : outcome.accepted with
    | true =>
        exact {
          inOrder := invariant.inOrder.accept (invariant.getLast_published present)
          newest := latest.trans invariant.newest
          nonempty := invariant.nonempty
          fits := latest ▸ invariant.fits
          pending := by
            intro still
            rw [pending, taken] at still
            cases still
          delivered := by
            intro _ _
            simp [SenderLedger.file, outcome] }
    | false =>
        exact {
          inOrder := invariant.inOrder
          newest := latest.trans invariant.newest
          nonempty := invariant.nonempty
          fits := latest ▸ invariant.fits
          pending := fun _ => latest ▸ present
          delivered := by
            intro _ settled
            rw [pending, taken] at settled
            cases settled }
  · rw [adapter.trySend_unavailable]
    · exact invariant
    · simpa [or_iff_not_imp_left] using up

/-- Retaining a new payload keeps the invariant. -/
theorem retain (invariant : SenderInvariant ledger adapter) (state : LocalIEDState)
    {payload : ByteString} (present : payload ≠ [])
    (fits : payload.length ≤ STRPM.kMaxPayloadBytes) :
    SenderInvariant { ledger with published := ledger.published ++ [payload] }
      (adapter.retain state payload) where
  inOrder := invariant.inOrder.publish payload
  newest := by simp [STRPMAdapter.retain]
  nonempty := by simp [invariant.nonempty, present.symm]
  fits := fits
  pending := fun _ => present
  delivered := by
    intro _ settled
    cases settled

/-- A publication keeps the invariant. -/
theorem publish (invariant : SenderInvariant ledger adapter) (state : LocalIEDState)
    {payload : ByteString} (fits : payload.length ≤ STRPM.kMaxPayloadBytes)
    (answer : TransportAnswer) :
    let outcome := adapter.publish state payload answer
    SenderInvariant (ledger.record (.publish state payload answer outcome.offered
      outcome.accepted)) outcome.adapter := by
  by_cases empty : payload = []
  · simpa [STRPMAdapter.publish, SenderLedger.record, empty] using invariant
  · rw [STRPMAdapter.publish, if_neg empty, if_neg (Nat.not_lt.mpr fits)]
    simp only [SenderLedger.record, if_neg empty]
    exact (invariant.retain state empty fits).trySend empty answer

/-- A retry keeps the invariant. -/
theorem retryTick (invariant : SenderInvariant ledger adapter) (now : Nat)
    (answer : TransportAnswer) :
    let outcome := adapter.retryTick now answer
    SenderInvariant (ledger.record (.retryTick now answer outcome.offered outcome.accepted))
      outcome.adapter := by
  unfold STRPMAdapter.retryTick
  split_ifs with running empty pending due
  · exact invariant
  · exact invariant.trySend empty answer
  · exact invariant.trySend empty answer
  · exact invariant
  · exact invariant

end SenderInvariant

/-- The invariant holds after every run. -/
theorem senderInvariant_of_runs {events : List SenderEvent} {adapter : STRPMAdapter}
    (run : senderSystem.Runs events adapter) : SenderInvariant (senderLedger events) adapter := by
  apply TransitionSystem.Runs.invariant
    (fun events adapter => SenderInvariant (senderLedger events) adapter) _ _ run
  · rintro adapter rfl
    constructor <;> simp [senderLedger, SenderLedger.empty, STRPMAdapter.initial]
    constructor <;> simp
  · intro events adapter event next _ invariant step
    rw [senderLedger_append]
    cases event with
    | availability running apiReady =>
        obtain rfl := step
        exact { invariant with }
    | publish state payload answer offered accepted =>
        obtain ⟨fits, outcome⟩ := step
        simpa only [outcome] using invariant.publish state fits answer
    | retryTick now answer offered accepted =>
        have outcome : adapter.retryTick now answer = ⟨next, offered, accepted⟩ := step
        simpa only [outcome] using invariant.retryTick now answer
    | reset =>
        obtain rfl := step
        constructor <;> simp [SenderLedger.record, SenderLedger.empty, STRPMAdapter.reset]
        constructor <;> simp

/-- The retry protocol delivers the latest payload and never goes back: the retained payload is
the last publication, a settled one is the last one accepted, a pending one is what the next
retry offers, and the accepted payloads are publications in ascending order. -/
theorem sender_delivers_latest {events : List SenderEvent} {adapter : STRPMAdapter}
    (run : senderSystem.Runs events adapter) :
    adapter.latestPayload = (senderLedger events).published.getLast?.getD [] ∧
    (adapter.latestPayload ≠ [] → adapter.pending = false →
      (senderLedger events).accepted.getLast?.map Prod.snd = some adapter.latestPayload) ∧
    (adapter.pending = true → adapter.running = true → adapter.apiReady = true →
      ∀ now answer, (adapter.retryTick now answer).offered = some adapter.latestPayload) ∧
    (senderLedger events).InOrder := by
  have invariant := senderInvariant_of_runs run
  refine ⟨invariant.newest, invariant.delivered, ?_, invariant.inOrder⟩
  intro pending running ready now answer
  have present := invariant.pending pending
  rw [STRPMAdapter.retryTick, if_neg (by simp [running]), if_neg present, if_pos pending]
  exact (adapter.trySend_latest answer running ready present invariant.fits).1

/-- A payload published before the transport is up, one that the transport refuses, and the
retry that it takes. -/
def earlyEvents : List SenderEvent :=
  [.publish STRPMAdapter.emptyState (ascii "IEDST") ⟨none, .kOk, 0⟩ none false,
    .availability true true,
    .publish STRPMAdapter.emptyState (ascii "IEDST2") ⟨some 7, .kNotConnected, 500⟩
      (some (ascii "IEDST2")) false,
    .retryTick 1000 ⟨some 7, .kOk, 1000⟩ (some (ascii "IEDST2")) true]

/-- The transport has accepted the payload that was published last. -/
theorem early_publication_delivered :
    (senderLedger earlyEvents).published.length = 2 ∧
      (senderLedger earlyEvents).accepted.getLast?.map Prod.snd = some (ascii "IEDST2") := by
  let early := (STRPMAdapter.initial.publish STRPMAdapter.emptyState (ascii "IEDST")
    ⟨none, .kOk, 0⟩).adapter
  let up := { early with running := true, apiReady := true }
  let refused := (up.publish STRPMAdapter.emptyState (ascii "IEDST2")
    ⟨some 7, .kNotConnected, 500⟩).adapter
  have run : senderSystem.Runs earlyEvents
      (refused.retryTick 1000 ⟨some 7, .kOk, 1000⟩).adapter :=
    .of_follows rfl ⟨early, ⟨by decide, rfl⟩, up, rfl, refused, ⟨by decide, rfl⟩, _, rfl, rfl⟩
  exact ⟨rfl, (sender_delivers_latest run).2.1 (by decide) rfl⟩

end IEDSyncTogether
