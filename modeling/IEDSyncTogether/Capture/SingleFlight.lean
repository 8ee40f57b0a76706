import IEDSyncTogether.Base.Execution
import IEDSyncTogether.Capture.Bridge
import IEDSyncTogether.Capture.Probe
import Mathlib.Data.List.GetD

/-!
# Captures in flight

Ticks, slot completions and resets in any order. A request stays alive as long as
a callback may complete it, so every request begun is kept. The ledger counts the
resets, and remembers for each request and for each stored or reported capture
how many resets came before.
-/

namespace IEDSyncTogether

open Base

/-- The probe and every request it has begun. -/
structure CaptureSystem where
  probe : LocalCaptureProbe
  requests : List CaptureRequest

/-- What a step of the system did: a request was begun, and a capture was stored
or reported. -/
structure CaptureStep where
  system : CaptureSystem
  begun : Bool
  acted : Bool

namespace CaptureSystem

variable (game : GameData) (sorting : ObjectSort)

/-- The callback of a request, if it is called. -/
def finish (system : CaptureSystem) (scene : Option PlayerScene) (final : Option SlotState) :
    CaptureSystem × Bool :=
  match final with
  | none => (system, false)
  | some slots =>
    let outcome := system.probe.completeCapture game sorting scene slots
    ({ system with probe := outcome.probe }, outcome.stored || outcome.reported.isSome)

/-- The rest of a tick that has begun a request, which may already be complete. -/
def launch (system : CaptureSystem) (captured : CaptureRequest × Option SlotState)
    (scene : Option PlayerScene) : CaptureStep :=
  let started : CaptureSystem :=
    { probe := { system.probe with captureInFlight := true }
      requests := system.requests ++ [captured.1] }
  let finished := started.finish game sorting scene captured.2
  ⟨finished.1, true, finished.2⟩

/-- `Tick`; `available` says whether `CapturePlayerSlots` finds the player, the VM
and IED, and `dispatched` which dispatches are accepted. -/
def tick (system : CaptureSystem) (available : Bool) (dispatched : Fin 19 → Bool)
    (scene : Option PlayerScene) : CaptureStep :=
  if ¬ system.probe.running ∨ system.probe.captureInFlight then ⟨system, false, false⟩
  else if ¬ available then
    ⟨{ system with probe := { system.probe with captureInFlight := false } }, false, false⟩
  else system.launch game sorting (capturePlayerSlots game dispatched) scene

/-- The completion of one slot of a begun request. -/
def complete (system : CaptureSystem) (index : Nat) (slot : Fin 19) (formID : FormID)
    (scene : Option PlayerScene) : CaptureStep :=
  match system.requests[index]? with
  | none => ⟨system, false, false⟩
  | some request =>
    let completed := request.complete game slot formID
    let updated : CaptureSystem :=
      { system with requests := system.requests.set index completed.1 }
    let finished := updated.finish game sorting scene completed.2
    ⟨finished.1, false, finished.2⟩

/-- `Reset` of the probe; the requests under way stay. -/
def reset (system : CaptureSystem) : CaptureSystem :=
  { system with probe := system.probe.reset }

/-- The number of requests that still wait for a slot. -/
def outstanding (system : CaptureSystem) : Nat :=
  system.requests.countP fun request => decide request.Outstanding

end CaptureSystem

/-- A tick or a completion, with what it did, or a reset. -/
inductive CaptureEvent where
  | tick (available : Bool) (dispatched : Fin 19 → Bool) (scene : Option PlayerScene)
      (begun acted : Bool)
  | complete (index : Nat) (slot : Fin 19) (formID : FormID) (scene : Option PlayerScene)
      (acted : Bool)
  | reset

/-- A started probe, whose ticks, completions and resets come in any order. -/
def captureSystem (game : GameData) (sorting : ObjectSort) :
    TransitionSystem CaptureSystem CaptureEvent where
  Initial system := system.probe = .started ∧ system.requests = []
  Step system event next :=
    match event with
    | .tick available dispatched scene begun acted =>
      system.tick game sorting available dispatched scene = ⟨next, begun, acted⟩
    | .complete index slot formID scene acted =>
      system.complete game sorting index slot formID scene = ⟨next, false, acted⟩
    | .reset => next = system.reset

/-- The resets so far, the number of resets before each request was begun, and for
each stored or reported capture the number of resets before its request and before
itself. -/
structure CaptureLedger where
  resets : Nat
  begun : List Nat
  acts : List (Nat × Nat)

namespace CaptureLedger

/-- The ledger in front of the first event. -/
def empty : CaptureLedger := ⟨0, [], []⟩

/-- A capture that acts is recorded with the resets before it began and so far. -/
def act (ledger : CaptureLedger) (acted : Bool) (since : Nat) : CaptureLedger :=
  if acted then { ledger with acts := ledger.acts ++ [(since, ledger.resets)] } else ledger

/-- What an event adds to the ledger. -/
def record (ledger : CaptureLedger) : CaptureEvent → CaptureLedger
  | .tick _ _ _ begun acted =>
    if begun then
      { ledger with begun := ledger.begun ++ [ledger.resets] }.act acted ledger.resets
    else ledger
  | .complete index _ _ _ acted => ledger.act acted (ledger.begun.getD index 0)
  | .reset => { ledger with resets := ledger.resets + 1 }

end CaptureLedger

/-- The ledger of a run. -/
def captureLedger (events : List CaptureEvent) : CaptureLedger :=
  events.foldl CaptureLedger.record .empty

/-- The last event is recorded last. -/
theorem captureLedger_append (events : List CaptureEvent) (event : CaptureEvent) :
    captureLedger (events ++ [event]) = (captureLedger events).record event := by
  simp [captureLedger]

/-- At most one request is outstanding, and no capture acts across a reset. -/
def SingleFlight (ledger : CaptureLedger) (system : CaptureSystem) : Prop :=
  system.outstanding ≤ 1 ∧ ∀ act ∈ ledger.acts, act.1 = act.2

/-- A reset comes only while no request is outstanding. -/
def ResetWhenIdle (system : CaptureSystem) : CaptureEvent → Prop
  | .reset => system.outstanding = 0
  | _ => True

/-- The flag says whether a request is outstanding, and the outstanding ones were
begun after the last reset. -/
structure FlightInvariant (ledger : CaptureLedger) (system : CaptureSystem) : Prop where
  counted : system.outstanding = if system.probe.captureInFlight then 1 else 0
  length : ledger.begun.length = system.requests.length
  current : ∀ index request, system.requests[index]? = some request → request.Outstanding →
    ledger.begun.getD index 0 = ledger.resets
  acts : ∀ act ∈ ledger.acts, act.1 = act.2

section Steps

variable {game : GameData} {sorting : ObjectSort} {ledger : CaptureLedger} {system : CaptureSystem}

/-- Finishing a capture leaves the requests. -/
@[simp] theorem CaptureSystem.finish_requests (scene : Option PlayerScene)
    (final : Option SlotState) :
    (system.finish game sorting scene final).1.requests = system.requests := by
  cases final <;> rfl

/-- A finished capture lowers the flag. -/
theorem CaptureSystem.finish_inFlight (scene : Option PlayerScene) (final : Option SlotState) :
    (system.finish game sorting scene final).1.probe.captureInFlight =
      if final.isSome then false else system.probe.captureInFlight := by
  cases final with
  | none => rfl
  | some slots =>
      simp only [finish, LocalCaptureProbe.completeCapture, Option.isSome_some, if_true]
      split <;> rfl

/-- A capture of the current reset count keeps all acts current. -/
theorem CaptureLedger.acts_act {acted : Bool} {since : Nat} (current : acted = true →
    since = ledger.resets) (acts : ∀ act ∈ ledger.acts, act.1 = act.2) :
    ∀ act ∈ (ledger.act acted since).acts, act.1 = act.2 := by
  cases acted with
  | false => exact acts
  | true =>
      intro act member
      rcases List.mem_append.mp member with earlier | new
      · exact acts act earlier
      · rw [List.mem_singleton.mp new]
        exact current rfl

/-- An act begins and resets nothing. -/
theorem CaptureLedger.act_begun (ledger : CaptureLedger) (acted : Bool) (since : Nat) :
    (ledger.act acted since).begun = ledger.begun ∧
      (ledger.act acted since).resets = ledger.resets := by
  cases acted <;> exact ⟨rfl, rfl⟩

/-- A request begun while none is outstanding is the only one. -/
theorem FlightInvariant.launch (invariant : FlightInvariant ledger system)
    (idle : system.probe.captureInFlight = false) {captured : CaptureRequest × Option SlotState}
    (called : captured.2.isSome ↔ ¬ captured.1.Outstanding) (available : Bool)
    (dispatched : Fin 19 → Bool) (scene : Option PlayerScene) :
    let step := system.launch game sorting captured scene
    FlightInvariant (ledger.record (.tick available dispatched scene step.begun step.acted))
      step.system := by
  intro step
  have nothing : system.outstanding = 0 := by
    rw [invariant.counted, idle]
    rfl
  have requests : step.system.requests = system.requests ++ [captured.1] :=
    CaptureSystem.finish_requests scene captured.2
  have inFlight : step.system.probe.captureInFlight = if captured.2.isSome then false else true :=
    CaptureSystem.finish_inFlight scene captured.2
  obtain ⟨begun, resets⟩ := CaptureLedger.act_begun
    ⟨ledger.resets, ledger.begun ++ [ledger.resets], ledger.acts⟩ step.acted ledger.resets
  have recorded : ledger.record (.tick available dispatched scene step.begun step.acted) =
      (⟨ledger.resets, ledger.begun ++ [ledger.resets], ledger.acts⟩ : CaptureLedger).act
        step.acted ledger.resets := rfl
  rw [recorded]
  refine ⟨?_, ?_, ?_, CaptureLedger.acts_act (fun _ => rfl) invariant.acts⟩
  · rw [CaptureSystem.outstanding, requests, List.countP_append, ← CaptureSystem.outstanding,
      nothing, inFlight]
    by_cases outstanding : captured.1.Outstanding
    · have pending : captured.2.isSome = false := by simpa [outstanding] using called
      simp [outstanding, pending]
    · simp [outstanding, called.mpr outstanding]
  · rw [begun, requests, List.length_append, List.length_append, invariant.length]
    rfl
  · intro index request found outstanding
    rw [requests] at found
    rw [begun, resets]
    by_cases earlier : index < system.requests.length
    · rw [List.getElem?_append_left earlier] at found
      rw [List.getD_append _ _ _ _ (invariant.length ▸ earlier)]
      exact invariant.current index request found outstanding
    · rw [List.getElem?_append_right (by omega)] at found
      obtain ⟨last, _⟩ := List.getElem?_eq_some_iff.mp found
      have here : index = ledger.begun.length := by
        rw [invariant.length]
        simp only [List.length_singleton] at last
        omega
      simp [here]

/-- A tick begins a request only while none is outstanding. -/
theorem FlightInvariant.tick (invariant : FlightInvariant ledger system) (available : Bool)
    (dispatched : Fin 19 → Bool) (scene : Option PlayerScene) :
    let step := system.tick game sorting available dispatched scene
    FlightInvariant (ledger.record (.tick available dispatched scene step.begun step.acted))
      step.system := by
  unfold CaptureSystem.tick
  by_cases busy : ¬ system.probe.running = true ∨ system.probe.captureInFlight = true
  · rw [if_pos busy]
    exact invariant
  · have idle : system.probe.captureInFlight = false := by
      simp only [not_or, Bool.not_eq_true] at busy
      exact busy.2
    rw [if_neg busy]
    split
    · have counted := invariant.counted
      rw [idle] at counted
      exact { invariant with counted }
    · exact invariant.launch idle (capturePlayerSlots_isSome_iff game dispatched) available
        dispatched scene

/-- While the flag is down no request is outstanding. -/
theorem FlightInvariant.inFlight_of_outstanding (invariant : FlightInvariant ledger system)
    {request : CaptureRequest} (present : request ∈ system.requests)
    (outstanding : request.Outstanding) : system.probe.captureInFlight = true := by
  by_contra down
  have counted := invariant.counted
  rw [if_neg down, CaptureSystem.outstanding, List.countP_eq_zero] at counted
  exact counted request present (by simpa using outstanding)

/-- A completion of an outstanding request, which ends it if it calls the callback. -/
theorem FlightInvariant.complete_outstanding (invariant : FlightInvariant ledger system)
    {index : Nat} {request : CaptureRequest} (found : system.requests[index]? = some request)
    (outstanding : request.Outstanding) (slot : Fin 19) (formID : FormID)
    (scene : Option PlayerScene) {next : CaptureSystem} {acted : Bool}
    (requests : next.requests = system.requests.set index (request.complete game slot formID).1)
    (inFlight : next.probe.captureInFlight =
      if (request.complete game slot formID).2.isSome then false
      else system.probe.captureInFlight) :
    FlightInvariant (ledger.record (.complete index slot formID scene acted)) next := by
  obtain ⟨inside, entry⟩ := List.getElem?_eq_some_iff.mp found
  have called := CaptureRequest.complete_isSome_iff game outstanding slot formID
  have flying := invariant.inFlight_of_outstanding (entry ▸ List.getElem_mem inside) outstanding
  have counted := invariant.counted
  have epoch := invariant.current index request found outstanding
  obtain ⟨begun, resets⟩ := ledger.act_begun acted (ledger.begun.getD index 0)
  have recorded : ledger.record (.complete index slot formID scene acted) =
      ledger.act acted (ledger.begun.getD index 0) := rfl
  rw [recorded]
  refine ⟨?_, ?_, ?_, CaptureLedger.acts_act (fun _ => epoch) invariant.acts⟩
  · rw [flying, if_pos rfl, CaptureSystem.outstanding] at counted
    rw [CaptureSystem.outstanding, requests, List.countP_set inside, counted, entry,
      inFlight, flying]
    by_cases pending : (request.complete game slot formID).1.Outstanding
    · have quiet : (request.complete game slot formID).2.isSome = false := by
        simpa [pending] using called
      simp [outstanding, pending, quiet]
    · simp [outstanding, pending, called.mpr pending]
  · rw [begun, requests, List.length_set, invariant.length]
  · intro other candidate located waits
    rw [begun, resets]
    by_cases same : index = other
    · rw [← same, epoch]
    · rw [requests, List.getElem?_set_ne same] at located
      exact invariant.current other candidate located waits

/-- A completion of any request keeps the invariant. -/
theorem FlightInvariant.complete (invariant : FlightInvariant ledger system) (index : Nat)
    (slot : Fin 19) (formID : FormID) (scene : Option PlayerScene) :
    let step := system.complete game sorting index slot formID scene
    FlightInvariant (ledger.record (.complete index slot formID scene step.acted)) step.system := by
  unfold CaptureSystem.complete
  split
  · exact invariant
  · next request found =>
      by_cases outstanding : request.Outstanding
      · exact invariant.complete_outstanding found outstanding slot formID scene
          (CaptureSystem.finish_requests scene _) (CaptureSystem.finish_inFlight scene _)
      · obtain ⟨inside, entry⟩ := List.getElem?_eq_some_iff.mp found
        have unchanged : system.requests.set index request = system.requests := by
          rw [← entry, List.set_getElem_self]
        simp only [CaptureRequest.complete_of_not_outstanding game outstanding, unchanged]
        exact invariant

/-- A reset while nothing is outstanding leaves no request behind. -/
theorem FlightInvariant.reset (invariant : FlightInvariant ledger system)
    (idle : system.outstanding = 0) :
    FlightInvariant (ledger.record .reset) system.reset where
  counted := idle
  length := invariant.length
  current index request found outstanding := by
    rw [CaptureSystem.outstanding, List.countP_eq_zero] at idle
    have settled := idle request (List.mem_of_getElem? found)
    simp only [decide_eq_true_eq] at settled
    exact absurd outstanding settled
  acts := invariant.acts

end Steps

variable {game : GameData} {sorting : ObjectSort} {events : List CaptureEvent}
  {system : CaptureSystem}

/-- The invariant holds in every run whose resets come while nothing is in flight. -/
theorem flightInvariant_of_runs
    (run : ((captureSystem game sorting).guarded ResetWhenIdle).Runs events system) :
    FlightInvariant (captureLedger events) system := by
  refine run.invariant (fun events system => FlightInvariant (captureLedger events) system) ?_ ?_
  · rintro state ⟨probe, requests⟩
    refine ⟨?_, ?_, ?_, ?_⟩
    · rw [CaptureSystem.outstanding, requests, probe]
      rfl
    · rw [requests]
      rfl
    · intro index request found
      simp [requests] at found
    · intro act member
      simp [captureLedger, CaptureLedger.empty] at member
  · rintro earlier state event next _ invariant ⟨allowed, transition⟩
    rw [captureLedger_append]
    cases event with
    | tick available dispatched scene begun acted =>
        have computed : state.tick game sorting available dispatched scene =
            ⟨next, begun, acted⟩ := transition
        have kept := @FlightInvariant.tick game sorting _ _ invariant available dispatched scene
        rwa [computed] at kept
    | complete index slot formID scene acted =>
        have computed : state.complete game sorting index slot formID scene =
            ⟨next, false, acted⟩ := transition
        have kept := @FlightInvariant.complete game sorting _ _ invariant index slot formID scene
        rwa [computed] at kept
    | reset =>
        rw [transition]
        exact invariant.reset allowed

/-- If resets come only while nothing is outstanding, captures are single-flight and
never cross a reset. -/
theorem captures_single_flight
    (run : ((captureSystem game sorting).guarded ResetWhenIdle).Runs events system) :
    SingleFlight (captureLedger events) system := by
  have invariant := flightInvariant_of_runs run
  refine ⟨?_, invariant.acts⟩
  rw [invariant.counted]
  split <;> decide

/-- A tick on which every dispatch is accepted; its request waits for all slots. -/
def quietTick (begun : Bool) : CaptureEvent := .tick true (fun _ => true) none begun false

/-- The started probe with so many fresh requests. -/
def awaiting (requests : Nat) : CaptureSystem :=
  ⟨{ LocalCaptureProbe.started with captureInFlight := decide (requests ≠ 0) },
    List.replicate requests .fresh⟩

/-- A tick on which only the first slot's dispatch is accepted. -/
def soloTick (begun : Bool) : CaptureEvent :=
  .tick true (fun slot => decide (slot = 0)) none begun false

/-- A capture begins, the next tick begins none, the capture completes and is stored, and after
a reset the next capture begins. -/
def soloEvents : List CaptureEvent :=
  [soloTick true, soloTick false, .complete 0 0 0 none true, .reset, soloTick true]

/-- A capture of one slot is under way. -/
def soloBegun : CaptureSystem :=
  ((awaiting 0).tick skyrim captureSort true (fun slot => decide (slot = 0)) none).system

/-- The capture is completed and stored. -/
def soloStored : CaptureSystem := (soloBegun.complete skyrim captureSort 0 0 0 none).system

/-- After a reset the next capture is under way. -/
def soloAgain : CaptureSystem :=
  (soloStored.reset.tick skyrim captureSort true (fun slot => decide (slot = 0)) none).system

/-- The captures of this run are alone, and the stored one crossed no reset. -/
theorem pending_capture_alone :
    (captureLedger soloEvents).acts = [(0, 0)] ∧
      SingleFlight (captureLedger soloEvents) soloAgain := by
  have initial : ((captureSystem skyrim captureSort).guarded ResetWhenIdle).Initial (awaiting 0) :=
    ⟨rfl, rfl⟩
  have follows : ((captureSystem skyrim captureSort).guarded ResetWhenIdle).Follows (awaiting 0)
      soloEvents soloAgain :=
    ⟨soloBegun, ⟨trivial, rfl⟩, soloBegun, ⟨trivial, rfl⟩, soloStored, ⟨trivial, rfl⟩,
      soloStored.reset, ⟨rfl, rfl⟩, soloAgain, ⟨trivial, rfl⟩, rfl⟩
  exact ⟨rfl, captures_single_flight (.of_follows initial follows)⟩

/-- A reset during a capture lets the next tick begin a second one. -/
theorem reset_overlaps_captures :
    (captureSystem skyrim captureSort).Runs [quietTick true, .reset, quietTick true] (awaiting 2) ∧
      ¬ SingleFlight (captureLedger [quietTick true, .reset, quietTick true]) (awaiting 2) := by
  have initial : (captureSystem skyrim captureSort).Initial (awaiting 0) := ⟨rfl, rfl⟩
  have follows : (captureSystem skyrim captureSort).Follows (awaiting 0)
      [quietTick true, .reset, quietTick true] (awaiting 2) :=
    ⟨awaiting 1, rfl, (awaiting 1).reset, rfl, awaiting 2, rfl, rfl⟩
  refine ⟨.of_follows initial follows, ?_⟩
  rintro ⟨alone, _⟩
  have two : (awaiting 2).outstanding = 2 := by decide
  omega

end IEDSyncTogether
