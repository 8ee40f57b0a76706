import IEDSyncTogether.Adapter.Adapter
import IEDSyncTogether.Base.Execution
import IEDSyncTogether.Capture.Probe

/-!
# What the heartbeat carries

The probe with the adapter behind its state-changed handler. Both keep a payload:
the probe the one it last recorded, the adapter the one it retries and repeats.
-/

namespace IEDSyncTogether

open Base

/-- The sending side as `OnSKSEMessage` puts it together. -/
structure SendingSide where
  probe : LocalCaptureProbe
  adapter : STRPMAdapter

namespace SendingSide

/-- `CompleteCapture` with the handler that publishes. -/
def completeCapture (game : GameData) (sorting : ObjectSort) (side : SendingSide)
    (slots : SlotState) (scene : Option PlayerScene) (answer : TransportAnswer) : SendingSide :=
  let outcome := side.probe.completeCapture game sorting scene slots
  { probe := outcome.probe
    adapter :=
      match outcome.reported with
      | none => side.adapter
      | some (state, payload) => (side.adapter.publish state payload answer).adapter }

/-- The case `kPreLoadGame` of `OnSKSEMessage`. -/
def preLoadGame (side : SendingSide) : SendingSide := ⟨side.probe.reset, side.adapter.reset⟩

end SendingSide

/-- What happens to a sending side. -/
inductive SendingEvent where
  | completeCapture (slots : SlotState) (scene : Option PlayerScene) (answer : TransportAnswer)
  | retryTick (now : Nat) (answer : TransportAnswer)
  | preLoadGame

/-- The sending side after `kDataLoaded`, whether or not the transport was there. -/
def sendingSystem (game : GameData) (sorting : ObjectSort) :
    TransitionSystem SendingSide SendingEvent where
  Initial side := side.probe = .started ∧
    ∃ running apiReady, side.adapter = { STRPMAdapter.initial with running, apiReady }
  Step side event next :=
    match event with
    | .completeCapture slots scene answer =>
      next = side.completeCapture game sorting slots scene answer
    | .retryTick now answer =>
      next = { side with adapter := (side.adapter.retryTick now answer).adapter }
    | .preLoadGame => next = side.preLoadGame

/-- The state of the last capture since the last reset. -/
def recordCapture (game : GameData) (sorting : ObjectSort) (last : Option LocalIEDState) :
    SendingEvent → Option LocalIEDState
  | .completeCapture slots scene _ => some (captureState game sorting scene slots)
  | .retryTick _ _ => last
  | .preLoadGame => none

/-- The state of the last capture since the last load, over a run. -/
def lastCapture (game : GameData) (sorting : ObjectSort) (events : List SendingEvent) :
    Option LocalIEDState :=
  events.foldl (recordCapture game sorting) none

/-- The payload of the state is one the transport can take. -/
def Fits (state : LocalIEDState) : Prop :=
  (encodeLocalIEDState state).length ≤ STRPM.kMaxPayloadBytes

instance (state : LocalIEDState) : Decidable (Fits state) :=
  inferInstanceAs (Decidable (_ ≤ _))

/-- Both payloads are empty or equal, and what a retry or a heartbeat offers is the
payload the probe last recorded. -/
def HeartbeatCurrent (side : SendingSide) : Prop :=
  (side.adapter.latestPayload = [] ∧ side.probe.lastPayload = [] ∨
    side.adapter.latestPayload = side.probe.lastPayload) ∧
  ∀ now answer payload, (side.adapter.retryTick now answer).offered = some payload →
    payload = side.probe.lastPayload

/-- The probe records the last capture; the adapter retains it if it fits, and
never retains more than fits. -/
structure HeartbeatInvariant (last : Option LocalIEDState) (side : SendingSide) : Prop where
  handler : side.probe.handlerSet = true
  recorded : side.probe.lastPayload = last.elim [] encodeLocalIEDState
  bounded : side.adapter.latestPayload.length ≤ STRPM.kMaxPayloadBytes
  retained : (∀ state ∈ last, Fits state) → side.adapter.latestPayload = side.probe.lastPayload

namespace HeartbeatInvariant

variable {game : GameData} {sorting : ObjectSort} {last : Option LocalIEDState}
  {side : SendingSide}

/-- A recorded payload is that of the last capture. -/
theorem fits_of_recorded (invariant : HeartbeatInvariant last side) {state : LocalIEDState}
    (same : encodeLocalIEDState state = side.probe.lastPayload) (fits : Fits state) :
    ∀ earlier ∈ last, Fits earlier := by
  intro earlier present
  have recorded := invariant.recorded
  rw [Option.mem_def.mp present, Option.elim_some, ← same] at recorded
  rwa [Fits, ← recorded]

/-- A capture keeps the invariant, and is the last one from then on. -/
theorem completeCapture (invariant : HeartbeatInvariant last side) (slots : SlotState)
    (scene : Option PlayerScene) (answer : TransportAnswer) :
    HeartbeatInvariant (some (captureState game sorting scene slots))
      (side.completeCapture game sorting slots scene answer) := by
  have handler := invariant.handler
  by_cases same : encodeLocalIEDState (captureState game sorting scene slots) =
      side.probe.lastPayload
  · -- nothing is reported
    simp only [SendingSide.completeCapture, LocalCaptureProbe.completeCapture, ne_eq, same,
      not_true_eq_false, if_false]
    exact {
      handler
      recorded := same.symm
      bounded := invariant.bounded
      retained := fun fits => invariant.retained (invariant.fits_of_recorded same (fits _ rfl)) }
  · simp only [SendingSide.completeCapture, LocalCaptureProbe.completeCapture, ne_eq, same,
      not_false_eq_true, if_true, handler]
    have latest := side.adapter.publish_latestPayload
      (encodeLocalIEDState (captureState game sorting scene slots)) answer
      (captureState game sorting scene slots)
    simp only [encodeLocalIEDState_ne_nil, false_or] at latest
    refine ⟨rfl, rfl, ?_, ?_⟩
    · rw [latest]
      split
      · exact invariant.bounded
      · next small => exact Nat.not_lt.mp small
    · intro fits
      rw [latest, if_neg (Nat.not_lt.mpr (fits _ rfl))]

/-- A retry or a heartbeat keeps the invariant. -/
theorem retryTick (invariant : HeartbeatInvariant last side) (now : Nat)
    (answer : TransportAnswer) :
    HeartbeatInvariant last
      { side with adapter := (side.adapter.retryTick now answer).adapter } where
  handler := invariant.handler
  recorded := invariant.recorded
  bounded := by
    rw [STRPMAdapter.retryTick_latestPayload]
    exact invariant.bounded
  retained fits := by
    rw [STRPMAdapter.retryTick_latestPayload]
    exact invariant.retained fits

/-- Loading a game keeps the invariant without a last capture. -/
theorem preLoadGame (invariant : HeartbeatInvariant last side) :
    HeartbeatInvariant none side.preLoadGame where
  handler := invariant.handler
  recorded := rfl
  bounded := Nat.zero_le _
  retained _ := rfl

/-- The stores agree exactly if the last capture fits. -/
theorem heartbeatCurrent_iff (invariant : HeartbeatInvariant last side) :
    HeartbeatCurrent side ↔ ∀ state ∈ last, Fits state := by
  constructor
  · rintro ⟨stores, _⟩ state present
    have agree : side.adapter.latestPayload = side.probe.lastPayload := by
      rcases stores with ⟨latest, recorded⟩ | same
      · rw [latest, recorded]
      · exact same
    have recorded := invariant.recorded
    rw [Option.mem_def.mp present, Option.elim_some, ← agree] at recorded
    rw [Fits, ← recorded]
    exact invariant.bounded
  · intro fits
    have agree := invariant.retained fits
    refine ⟨.inr agree, ?_⟩
    intro now answer payload sent
    rw [side.adapter.retryTick_offered answer sent, agree]

end HeartbeatInvariant

section Runs

variable {game : GameData} {sorting : ObjectSort} {events : List SendingEvent} {side : SendingSide}

/-- The invariant holds after every run. -/
theorem heartbeatInvariant_of_runs (run : (sendingSystem game sorting).Runs events side) :
    HeartbeatInvariant (lastCapture game sorting events) side := by
  refine run.invariant
    (fun events side => HeartbeatInvariant (lastCapture game sorting events) side) ?_ ?_
  · rintro initial ⟨probe, running, apiReady, adapter⟩
    refine ⟨?_, ?_, ?_, ?_⟩ <;> simp [probe, adapter, lastCapture, LocalCaptureProbe.started,
      STRPMAdapter.initial]
  · rintro earlier before event next _ invariant transition
    rw [lastCapture, List.foldl_append, ← lastCapture]
    cases event with
    | completeCapture slots scene answer =>
        obtain rfl := transition
        exact invariant.completeCapture slots scene answer
    | retryTick now answer =>
        obtain rfl := transition
        exact invariant.retryTick now answer
    | preLoadGame =>
        obtain rfl := transition
        exact invariant.preLoadGame

/-- After every run the heartbeat carries the current captured state exactly if the
payload of the last capture since the last reset fits. -/
theorem heartbeat_current_iff (run : (sendingSystem game sorting).Runs events side) :
    HeartbeatCurrent side ↔ ∀ state ∈ lastCapture game sorting events, Fits state :=
  (heartbeatInvariant_of_runs run).heartbeatCurrent_iff

end Runs

/-! ## Swords below one node -/

/-- The matrix without a rotation. -/
def identity : Vector ExactFloat 9 :=
  #v[⟨false, 1⟩, default, default, default, ⟨false, 1⟩, default, default, default, ⟨false, 1⟩]

/-- The node of an iron sword, so many units from its parent. -/
def swordNode {count : Nat} (units : Nat) : NiAVObject (count + 1) where
  name := ascii "OBJECT [00012EB7]"
  parent := some 0
  appCulled := false
  localTransform := ⟨identity, #v[⟨false, units⟩, default, default], ⟨false, 1⟩⟩
  children := []

/-- So many iron swords side by side below one node. -/
def swordRow (count : Nat) : PlayerScene where
  count := count + 1
  object index :=
    index.cases
      { name := ascii "NPC"
        parent := none
        appCulled := false
        localTransform := ⟨identity, #v[default, default, default], ⟨false, 1⟩⟩
        children := (List.finRange count).map fun sword => some sword.succ }
      fun sword => swordNode sword.val
  root := 0

/-- The started side, with a transport. -/
def onlineSide : SendingSide :=
  ⟨.started, { STRPMAdapter.initial with running := true, apiReady := true }⟩

/-- The transport is not connected. -/
def noAnswer : TransportAnswer := ⟨none, .kNotConnected, 0⟩

/-- The transport takes what it is offered. -/
def takingAnswer : TransportAnswer := ⟨some 7, .kOk, 1000⟩

/-- The capture of an iron sword in the first slot. -/
def swordCapture : LocalIEDState :=
  captureState skyrim captureSort (some (swordRow 1)) swordSlots

/-- The captured sword fits into a payload. -/
theorem fits_swordCapture : Fits swordCapture := by decide +kernel

/-- A sword is captured behind an empty capture the transport refused, and the heartbeat
carries it again. -/
theorem sword_capture_current :
    let bare := onlineSide.completeCapture skyrim captureSort (Vector.replicate 19 none) none
      noAnswer
    let armed := bare.completeCapture skyrim captureSort swordSlots (some (swordRow 1))
      takingAnswer
    let beat := armed.adapter.retryTick 11000 takingAnswer
    beat.offered = some (encodeLocalIEDState swordCapture) ∧
      HeartbeatCurrent { armed with adapter := beat.adapter } := by
  intro bare armed beat
  refine ⟨by decide +kernel, ?_⟩
  have start : (sendingSystem skyrim captureSort).Initial onlineSide := ⟨rfl, true, true, rfl⟩
  have run : (sendingSystem skyrim captureSort).Runs
      [.completeCapture (Vector.replicate 19 none) none noAnswer,
        .completeCapture swordSlots (some (swordRow 1)) takingAnswer,
        .retryTick 11000 takingAnswer] { armed with adapter := beat.adapter } :=
    .of_follows start ⟨bare, rfl, armed, rfl, _, rfl, rfl⟩
  refine (heartbeat_current_iff run).mpr ?_
  intro state present
  rw [← Option.some.inj present]
  exact fits_swordCapture

/-! ## A state that does not fit -/

/-- The started side, without transport. -/
def startedSide : SendingSide := ⟨.started, .initial⟩

/-- The side is one a run can start from. -/
theorem startedSide_initial : (sendingSystem skyrim captureSort).Initial startedSide :=
  ⟨rfl, false, false, rfl⟩

/-- A capture without occupied slots, before the player is loaded. -/
def emptyCapture : SendingEvent := .completeCapture (Vector.replicate 19 none) none noAnswer

/-- Every sword of the row hangs below the root. -/
theorem swordRow_loaded {count : Nat} (sword : Fin count) :
    (swordRow count).Loaded sword.succ := by
  refine .single ?_
  change sword.succ ∈ ((List.finRange count).map fun sword => some sword.succ).filterMap id
  simp

/-- Every sword of the row is captured where it is. -/
theorem exists_of_swordRow {count : Nat} (slots : SlotState) (sword : Fin count) :
    ∃ object ∈ (captureState skyrim captureSort (some (swordRow count)) slots).objects,
      (object.position.get 0).toRat = sword.val := by
  have parsed : parseIEDObjectFormID (ascii "OBJECT [00012EB7]") = some 0x12EB7 := by decide
  have captured : (swordRow count).captureObject skyrim (slottedForms skyrim slots) sword.succ =
      some ((swordRow count).makeCapturedObject skyrim sword.succ 0x12EB7
        (findSlot 0x12EB7 (slottedForms skyrim slots))) :=
    (swordRow count).captureObject_of_parsed parsed rfl (by decide)
  have position : ((swordRow count).makeCapturedObject skyrim sword.succ 0x12EB7
      (findSlot 0x12EB7 (slottedForms skyrim slots))).position[0] =
        quantizeCapture ⟨false, sword.val⟩ :=
    Vector.getElem_map _ (by decide)
  obtain ⟨kept, member, same⟩ := exists_captured captureSort (swordRow_loaded sword) captured
  refine ⟨kept, member, ?_⟩
  change kept.position[0].toRat = _
  have grid : ExactFloat.OnGrid 3 ⟨false, sword.val⟩ :=
    ⟨sword.val * 1000, by push_cast; norm_num⟩
  have place : (quantizeCapture ⟨false, sword.val⟩).toRat = sword.val := by
    rw [quantizeCapture, ExactFloat.quantize_of_onGrid roundHalfAway_natCast grid]
    simp [ExactFloat.toRat]
  rcases same with equal | logical
  · rw [equal, position, place]
  · simp only [sameLogicalObject, sameNumbers, decide_eq_true_eq] at logical
    have first := congrArg (fun numbers : Vector ℚ 3 => numbers[0]) logical.2.2.2.2.2.2.2.1
    simp only [Vector.getElem_map] at first
    rw [first, position, place]

/-- The row yields at least as many objects as it has swords. -/
theorem length_swordRow_ge (count : Nat) (slots : SlotState) :
    count ≤ (captureState skyrim captureSort (some (swordRow count)) slots).objects.length := by
  have places : (Finset.univ : Finset (Fin count)).image (fun sword => (sword.val : ℚ)) ⊆
      ((captureState skyrim captureSort (some (swordRow count)) slots).objects.map
        fun object => object.position[0].toRat).toFinset := by
    intro place member
    obtain ⟨sword, _, rfl⟩ := Finset.mem_image.mp member
    obtain ⟨object, among, here⟩ := exists_of_swordRow slots sword
    exact List.mem_toFinset.mpr (List.mem_map.mpr ⟨object, among, here⟩)
  have distinct : ((Finset.univ : Finset (Fin count)).image
      fun sword => (sword.val : ℚ)).card = count := by
    rw [Finset.card_image_of_injective, Finset.card_univ, Fintype.card_fin]
    intro first second same
    exact Fin.ext (Nat.cast_injective same)
  have bound := (Finset.card_le_card places).trans (List.toFinset_card_le _)
  rwa [distinct, List.length_map] at bound

/-- A row of 200 swords behind an empty capture leaves the older payload armed. -/
theorem large_capture_not_current :
    ∃ side, (sendingSystem skyrim captureSort).Runs
      [emptyCapture, .completeCapture (Vector.replicate 19 none) (some (swordRow 200)) noAnswer]
      side ∧ ¬ HeartbeatCurrent side := by
  have run : ∃ side, (sendingSystem skyrim captureSort).Runs
      [emptyCapture, .completeCapture (Vector.replicate 19 none) (some (swordRow 200)) noAnswer]
      side := ⟨_, .of_follows startedSide_initial ⟨_, rfl, _, rfl, rfl⟩⟩
  obtain ⟨side, run⟩ := run
  refine ⟨side, run, fun current => ?_⟩
  have fits := (heartbeatInvariant_of_runs run).heartbeatCurrent_iff.mp current _ rfl
  have many := length_swordRow_ge 200 (Vector.replicate 19 none)
  have size := encodeLocalIEDState_length_ge
    (captureState skyrim captureSort (some (swordRow 200)) (Vector.replicate 19 none))
  have limit : STRPM.kMaxPayloadBytes = 24576 := rfl
  rw [Fits, limit] at fits
  omega

end IEDSyncTogether
