import IEDSyncTogether.Base.Execution
import IEDSyncTogether.Render.Watchdog
import IEDSyncTogether.State.RoundTrip

/-!
# The signature cache over whole runs

A run of the renderer interleaves `Apply`, `ClearProxy`, `Reset` and watchdog
ticks with any answers of the game. The ledger is a history variable: the last
`Apply` that dispatched to each proxy since that proxy was cleared. The cache
agrees with the ledger as long as no update of a cached proxy is refused.
-/

namespace IEDSyncTogether

open Base

/-- One operation, with the answers of the game; an `Apply` also shows its
result and the calls it dispatched. -/
inductive RendererEvent where
  | apply (environment : GameEnvironment) (request : ApplyRequest) (result : Bool)
      (calls : List PapyrusCall)
  | clearProxy (environment : GameEnvironment) (proxyFormID : ProxyFormID)
  | reset (environment : GameEnvironment)
  | watchdogTick (scenes : ProxyFormID → Option ProxyScene)

/-- The renderer under arbitrary operations, from its construction. -/
def rendererSystem (game : GameData) : TransitionSystem RemoteIEDRenderer RendererEvent where
  Initial renderer := renderer = .initial
  Step renderer event next :=
    match event with
    | .apply environment request result calls =>
      let outcome := renderer.apply game environment request
      next = outcome.renderer ∧ result = outcome.result ∧ calls = outcome.calls
    | .clearProxy environment proxyFormID =>
      next = (renderer.clearProxy environment proxyFormID).1
    | .reset environment => next = (renderer.reset environment).1
    | .watchdogTick scenes => next = (renderer.runWatchdogTask scenes).1

/-- An `Apply` that dispatched: its state, and whether every call was accepted. -/
structure Dispatch where
  state : LocalIEDState
  accepted : Bool

/-- The last dispatching `Apply` of each proxy since its last clear. -/
abbrev DispatchLedger := ProxyFormID → Option Dispatch

/-- What an event makes of the state dispatched last for each proxy. -/
def DispatchLedger.record (ledger : DispatchLedger) : RendererEvent → DispatchLedger
  | .apply environment request _ calls =>
    if calls = [] then ledger
    else Function.update ledger request.proxyFormID
      (some ⟨request.state, (List.range calls.length).all environment.accepts⟩)
  | .clearProxy _ proxyFormID =>
    if proxyFormID = kInvalidProxyFormID then ledger else Function.update ledger proxyFormID none
  | .reset _ => fun _ => none
  | .watchdogTick _ => ledger

/-- The states dispatched last after a run of events. -/
def dispatchLedger (events : List RendererEvent) : DispatchLedger :=
  events.foldl DispatchLedger.record fun _ => none

theorem dispatchLedger_append (events : List RendererEvent) (event : RendererEvent) :
    dispatchLedger (events ++ [event]) = (dispatchLedger events).record event := by
  simp [dispatchLedger]

/-- A rendering `Apply` is recorded with the answer to all its calls. -/
theorem DispatchLedger.record_of_renders (ledger : DispatchLedger) (game : GameData)
    {environment : GameEnvironment} {renderer : RemoteIEDRenderer} {request : ApplyRequest}
    (renders : renderer.Renders environment request) (result : Bool) :
    ledger.record (.apply environment request result
        (renderer.apply game environment request).calls) =
      Function.update ledger request.proxyFormID (some ⟨request.state,
        RemoteIEDRenderer.allDispatched game environment request.state⟩) := by
  rw [renderer.apply_calls, if_pos renders, record,
    if_neg (RemoteIEDRenderer.applyCalls_ne_nil game request.state)]
  rfl

/-- An `Apply` that is deferred or skips is not recorded. -/
theorem DispatchLedger.record_of_not_renders (ledger : DispatchLedger) (game : GameData)
    {environment : GameEnvironment} {renderer : RemoteIEDRenderer} {request : ApplyRequest}
    (silent : ¬ renderer.Renders environment request) (result : Bool) :
    ledger.record (.apply environment request result
        (renderer.apply game environment request).calls) = ledger := by
  rw [renderer.apply_calls, if_neg silent, record, if_pos rfl]

/-- The proxy shows exactly what a fully accepted `Apply` of the signature left. -/
def Backed (game : GameData) (ledger : DispatchLedger) (renderer : RemoteIEDRenderer)
    (proxyFormID : ProxyFormID) (signature : ByteString) : Prop :=
  ∃ dispatch, ledger proxyFormID = some dispatch ∧
    encodeLocalIEDState dispatch.state = signature ∧ dispatch.accepted = true ∧
    renderer.displayed proxyFormID = some (trackedObjects game dispatch.state)

/-- Whenever an unforced `Apply` succeeds without a call, its signature is backed. -/
def SkipsSoundly (game : GameData) (ledger : DispatchLedger) (renderer : RemoteIEDRenderer) :
    Prop :=
  ∀ environment request, request.force = false →
    (renderer.apply game environment request).result = true →
    (renderer.apply game environment request).calls = [] →
    Backed game ledger renderer request.proxyFormID (encodeLocalIEDState request.state)

/-- Every cached signature is backed. -/
def CacheBacked (game : GameData) (ledger : DispatchLedger) (renderer : RemoteIEDRenderer) : Prop :=
  ∀ proxyFormID signature, renderer.signature proxyFormID = some signature →
    Backed game ledger renderer proxyFormID signature

/-- An `Apply` that dispatches to a proxy with a cached signature has every call
accepted. -/
def UpdatesAccepted (game : GameData) (renderer : RemoteIEDRenderer) : RendererEvent → Prop
  | .apply environment request _ _ =>
    renderer.Renders environment request → renderer.signature request.proxyFormID ≠ none →
      RemoteIEDRenderer.allDispatched game environment request.state = true
  | _ => True

variable {game : GameData}

/-- A skipped `Apply` reads a cached signature. -/
theorem CacheBacked.skipsSoundly {ledger : DispatchLedger} {renderer : RemoteIEDRenderer}
    (backed : CacheBacked game ledger renderer) : SkipsSoundly game ledger renderer := by
  intro environment request _ succeeded silent
  rcases (renderer.apply_result game environment request).mp succeeded with skips | ⟨renders, _⟩
  · exact backed _ _ skips.2.2
  · rw [renderer.apply_calls game environment request, if_pos renders] at silent
    exact absurd silent (RemoteIEDRenderer.applyCalls_ne_nil game request.state)

/-- An `Apply` keeps the cache backed if it is no refused update. -/
theorem CacheBacked.apply {ledger : DispatchLedger} {renderer : RemoteIEDRenderer}
    (backed : CacheBacked game ledger renderer) (environment : GameEnvironment)
    (request : ApplyRequest) (result : Bool)
    (accepted : UpdatesAccepted game renderer (.apply environment request result
      (renderer.apply game environment request).calls)) :
    CacheBacked game (ledger.record (.apply environment request result
        (renderer.apply game environment request).calls))
      (renderer.apply game environment request).renderer := by
  intro proxyFormID signature cached
  rw [renderer.apply_signature] at cached
  by_cases renders : renderer.Renders environment request
  · rw [ledger.record_of_renders game renders]
    by_cases here : proxyFormID = request.proxyFormID
    · subst here
      by_cases complete : RemoteIEDRenderer.allDispatched game environment request.state = true
      · rw [if_pos ⟨rfl, renders, complete⟩] at cached
        refine ⟨_, Function.update_self _ _ _, Option.some.inj cached, complete, ?_⟩
        rw [renderer.apply_displayed, if_pos ⟨rfl, renders⟩]
      · rw [if_neg fun all => complete all.2.2] at cached
        exact absurd (accepted renders (by simp [cached])) complete
    · rw [if_neg fun all => here all.1] at cached
      obtain ⟨dispatch, known, same, complete, shows⟩ := backed proxyFormID signature cached
      refine ⟨dispatch, by rw [Function.update_of_ne here, known], same, complete, ?_⟩
      rw [renderer.apply_displayed, if_neg fun all => here all.1, shows]
  · rw [if_neg fun all => renders all.2.1] at cached
    obtain ⟨dispatch, known, same, complete, shows⟩ := backed proxyFormID signature cached
    refine ⟨dispatch, by rw [ledger.record_of_not_renders game renders, known], same, complete, ?_⟩
    rw [renderer.apply_displayed, if_neg fun all => renders all.2, shows]

/-- Clearing a proxy drops its signature and its ledger entry together. -/
theorem CacheBacked.clearProxy {ledger : DispatchLedger} {renderer : RemoteIEDRenderer}
    (backed : CacheBacked game ledger renderer) (environment : GameEnvironment)
    (cleared : ProxyFormID) :
    CacheBacked game (ledger.record (.clearProxy environment cleared))
      (renderer.clearProxy environment cleared).1 := by
  intro proxyFormID signature cached
  rw [renderer.clearProxy_signature] at cached
  split_ifs at cached with gone
  obtain ⟨dispatch, known, same, complete, shows⟩ := backed proxyFormID signature cached
  refine ⟨dispatch, ?_, same, complete, ?_⟩
  · by_cases invalid : cleared = kInvalidProxyFormID
    · simp [DispatchLedger.record, invalid, known]
    · have other : proxyFormID ≠ cleared := fun here => gone ⟨here, invalid⟩
      simp [DispatchLedger.record, invalid, Function.update_of_ne other, known]
  · rw [renderer.clearProxy_displayed, if_neg gone, shows]

/-- In a run without refused updates every cached signature is backed. -/
theorem cacheBacked_of_runs {events : List RendererEvent} {renderer : RemoteIEDRenderer}
    (run : ((rendererSystem game).guarded (UpdatesAccepted game)).Runs events renderer) :
    CacheBacked game (dispatchLedger events) renderer := by
  apply TransitionSystem.Runs.invariant
    (fun events renderer => CacheBacked game (dispatchLedger events) renderer) _ _ run
  · rintro renderer rfl proxyFormID signature cached
    cases cached
  · intro events renderer event next _ backed ⟨accepted, step⟩
    rw [dispatchLedger_append]
    cases event with
    | apply environment request result calls =>
        obtain ⟨rfl, _, rfl⟩ := step
        exact backed.apply environment request result accepted
    | clearProxy environment cleared =>
        obtain rfl := step
        exact backed.clearProxy environment cleared
    | reset environment =>
        obtain rfl := step
        intro proxyFormID signature cached
        cases cached
    | watchdogTick scenes =>
        obtain rfl := step
        intro proxyFormID signature cached
        rw [RemoteIEDRenderer.signature_runWatchdogTask] at cached
        obtain ⟨dispatch, known, same, complete, shows⟩ := backed proxyFormID signature cached
        exact ⟨dispatch, known, same, complete, by
          rw [RemoteIEDRenderer.displayed_runWatchdogTask, shows]⟩

/-- In a run without refused updates, an unforced `Apply` that succeeds without a
call repeats the last dispatched state of the proxy, which was fully accepted and
is what the proxy shows. -/
theorem apply_skips_soundly (game : GameData) {events : List RendererEvent}
    {renderer : RemoteIEDRenderer}
    (run : ((rendererSystem game).guarded (UpdatesAccepted game)).Runs events renderer) :
    SkipsSoundly game (dispatchLedger events) renderer :=
  (cacheBacked_of_runs run).skipsSoundly

/-- A proxy whose dispatches are accepted from the given index on. -/
def acceptingFrom (first : Nat) : GameEnvironment where
  actorReady _ := true
  accepts index := decide (first ≤ index)

/-- An unforced `Apply` to the proxy `FF000800`. -/
def sampleRequest (state : LocalIEDState) : ApplyRequest :=
  ⟨7, 0xFF000800, ascii "Lydia", state, false⟩

/-- The event of an `Apply` on a given renderer, with its real outcome. -/
def applyEvent (game : GameData) (environment : GameEnvironment) (renderer : RemoteIEDRenderer)
    (request : ApplyRequest) : RendererEvent :=
  .apply environment request (renderer.apply game environment request).result
    (renderer.apply game environment request).calls

/-- A drawn sword on the hip. -/
def hipSword : CapturedIEDObject where
  kind := .kSlot
  form := skyrimSword
  slot := some 0
  visible := true
  objectNode := ascii "OBJECT [00012EB7]"
  attachmentNode := ascii "OBJECT R WeaponSword"
  anchorNode := []
  position := Vector.replicate 3 ⟨false, 0⟩
  rotationMatrix := Vector.replicate 9 ⟨false, 0⟩
  scale := ⟨false, 1⟩

/-- A sword in its slot. -/
def swordState : LocalIEDState :=
  ⟨swordSlots, [hipSword]⟩

/-- Nothing in any slot. -/
def bareState : LocalIEDState := ⟨Vector.replicate 19 none, []⟩

/-- A renderer that has shown the sword. -/
def swordShown : RemoteIEDRenderer :=
  (RemoteIEDRenderer.initial.apply skyrim (acceptingFrom 0) (sampleRequest swordState)).renderer

/-- Two states with different slots have different signatures. -/
theorem bareState_signature : encodeLocalIEDState swordState ≠ encodeLocalIEDState bareState := by
  intro same
  have bounded : ∀ object ∈ swordState.objects, object.SlotBounded := by
    simp [swordState, CapturedIEDObject.SlotBounded, hipSword]
  have rounded := rounded_eq_of_encode_eq bounded (by simp [bareState]) (by decide) same
  exact absurd (congrArg LocalIEDState.slots rounded) (by decide)

/-- After an accepted sword and a refused empty state, asking for the sword again
dispatches nothing, although the sword was deleted. -/
theorem refused_update_is_skipped :
    let refused := swordShown.apply skyrim (acceptingFrom 1) (sampleRequest bareState)
    let events := [applyEvent skyrim (acceptingFrom 0) .initial (sampleRequest swordState),
      applyEvent skyrim (acceptingFrom 1) swordShown (sampleRequest bareState)]
    (rendererSystem skyrim).Runs events refused.renderer ∧
      ¬ SkipsSoundly skyrim (dispatchLedger events) refused.renderer := by
  intro refused events
  have cached : swordShown.signature 0xFF000800 = some (encodeLocalIEDState swordState) := by
    rw [swordShown, RemoteIEDRenderer.apply_signature, if_pos ⟨rfl, by decide, by decide⟩]
    rfl
  have renders : swordShown.Renders (acceptingFrom 1) (sampleRequest bareState) := by
    refine ⟨rfl, fun skips => bareState_signature (Option.some.inj ?_)⟩
    exact cached.symm.trans skips.2.2
  constructor
  · exact .of_follows rfl ⟨swordShown, ⟨rfl, rfl, rfl⟩, _, ⟨rfl, rfl, rfl⟩, rfl⟩
  · intro sound
    have skips : refused.renderer.Skips (acceptingFrom 0) (sampleRequest swordState) := by
      refine ⟨rfl, rfl, ?_⟩
      rw [RemoteIEDRenderer.apply_signature, if_neg fun all => absurd all.2.2 (by decide)]
      exact cached
    have silent := refused.renderer.apply_calls skyrim (acceptingFrom 0) (sampleRequest swordState)
    rw [if_neg skips.not_renders] at silent
    obtain ⟨dispatch, known, _, accepted, _⟩ := sound (acceptingFrom 0) (sampleRequest swordState)
      rfl ((refused.renderer.apply_result _ _ _).mpr (.inl skips)) silent
    have ledger : dispatchLedger events = (dispatchLedger events.dropLast).record
        (applyEvent skyrim (acceptingFrom 1) swordShown (sampleRequest bareState)) :=
      dispatchLedger_append events.dropLast _
    rw [ledger, applyEvent, DispatchLedger.record_of_renders _ skyrim renders] at known
    cases known
    exact absurd accepted (by decide)

/-- A proxy that accepts everything accepts every update. -/
theorem updatesAccepted_applyEvent (renderer : RemoteIEDRenderer) (state : LocalIEDState) :
    UpdatesAccepted skyrim renderer
      (applyEvent skyrim (acceptingFrom 0) renderer (sampleRequest state)) := by
  intro _ _
  simp [RemoteIEDRenderer.allDispatched, acceptingFrom]

/-- The sword is replaced by nothing, shown again and asked for once more. -/
theorem repeated_sword_skips_soundly :
    let bare := (swordShown.apply skyrim (acceptingFrom 0) (sampleRequest bareState)).renderer
    let again := (bare.apply skyrim (acceptingFrom 0) (sampleRequest swordState)).renderer
    SkipsSoundly skyrim
      (dispatchLedger [applyEvent skyrim (acceptingFrom 0) .initial (sampleRequest swordState),
        applyEvent skyrim (acceptingFrom 0) swordShown (sampleRequest bareState),
        applyEvent skyrim (acceptingFrom 0) bare (sampleRequest swordState),
        applyEvent skyrim (acceptingFrom 0) again (sampleRequest swordState)])
      (again.apply skyrim (acceptingFrom 0) (sampleRequest swordState)).renderer := by
  intro bare again
  apply apply_skips_soundly
  refine .of_follows rfl ⟨swordShown, ⟨updatesAccepted_applyEvent _ _, rfl, rfl, rfl⟩,
    bare, ⟨updatesAccepted_applyEvent _ _, rfl, rfl, rfl⟩,
    again, ⟨updatesAccepted_applyEvent _ _, rfl, rfl, rfl⟩,
    _, ⟨updatesAccepted_applyEvent _ _, rfl, rfl, rfl⟩, rfl⟩

end IEDSyncTogether
