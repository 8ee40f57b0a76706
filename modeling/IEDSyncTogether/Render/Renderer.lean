import IEDSyncTogether.Base.UnorderedMap
import IEDSyncTogether.Render.Items

/-!
# The remote renderer

`RemoteIEDRenderer` keeps two maps by proxy, the signature of the last fully
accepted state and the tracked objects, and both are changed only by `Apply`,
`ClearProxy` and `Reset`. What each operation does is stated once, on the views
`displayed` and `signature`.
-/

namespace IEDSyncTogether

open Base

/-- The caches of the renderer by proxy, and whether a watchdog task is queued. -/
structure RemoteIEDRenderer where
  appliedSignatures : UnorderedMap ProxyFormID ByteString
  trackedProxies : UnorderedMap ProxyFormID TrackedProxyState
  watchdogTaskQueued : Bool

/-- What the game answers while one operation of the renderer runs. -/
structure GameEnvironment where
  /-- The proxy is a loaded actor other than the player, and there is a script VM. -/
  actorReady : ProxyFormID → Bool
  /-- Whether the VM accepts the dispatch with this index. -/
  accepts : Nat → Bool

/-- The arguments of `Apply`. -/
structure ApplyRequest where
  connectionID : ConnectionID
  proxyFormID : ProxyFormID
  displayName : ByteString
  state : LocalIEDState
  force : Bool

/-- What `Apply` returns and does: the renderer, the result, the dispatched
calls, and whether it added a watchdog task. -/
structure ApplyOutcome where
  renderer : RemoteIEDRenderer
  result : Bool
  calls : List PapyrusCall
  tickAdded : Bool

namespace RemoteIEDRenderer

/-- A constructed renderer. -/
def initial : RemoteIEDRenderer := ⟨∅, ∅, false⟩

/-- A tick task is added unless one is already queued. -/
def scheduleWatchdogTick (renderer : RemoteIEDRenderer) : RemoteIEDRenderer × Bool :=
  ({ renderer with watchdogTaskQueued := true }, !renderer.watchdogTaskQueued)

/-- The skip branch of `Apply`: only the connection and the name are refreshed. -/
def relabel (renderer : RemoteIEDRenderer) (request : ApplyRequest) : RemoteIEDRenderer :=
  match renderer.trackedProxies.lookup request.proxyFormID with
  | none => renderer
  | some tracked =>
    { renderer with
      trackedProxies := renderer.trackedProxies.insert request.proxyFormID
        { tracked with
          connectionID := request.connectionID
          displayName := request.displayName } }

/-- The end of `Apply`: the objects are tracked in any case, the signature is
stored only if every call was dispatched. -/
def commit (game : GameData) (renderer : RemoteIEDRenderer) (request : ApplyRequest)
    (dispatched : Bool) : RemoteIEDRenderer where
  trackedProxies := renderer.trackedProxies.insert request.proxyFormID
    ⟨request.connectionID, request.displayName, trackedObjects game request.state⟩
  appliedSignatures :=
    if dispatched then
      renderer.appliedSignatures.insert request.proxyFormID (encodeLocalIEDState request.state)
    else renderer.appliedSignatures
  watchdogTaskQueued := renderer.watchdogTaskQueued

/-- Every call of the state is accepted. -/
def allDispatched (game : GameData) (environment : GameEnvironment) (state : LocalIEDState) : Bool :=
  (List.range (applyCalls game state).length).all environment.accepts

/-- `Apply`: an actor that is not ready is refused, an unforced repetition only relabels the
proxy, and every other request is dispatched and committed. -/
def apply (game : GameData) (environment : GameEnvironment) (renderer : RemoteIEDRenderer)
    (request : ApplyRequest) : ApplyOutcome :=
  if ¬ environment.actorReady request.proxyFormID then ⟨renderer, false, [], false⟩
  else if ¬ request.force ∧ renderer.appliedSignatures.lookup request.proxyFormID =
      some (encodeLocalIEDState request.state) then
    let scheduled := (renderer.relabel request).scheduleWatchdogTick
    ⟨scheduled.1, true, [], scheduled.2⟩
  else
    let dispatched := allDispatched game environment request.state
    let scheduled := (renderer.commit game request dispatched).scheduleWatchdogTick
    ⟨scheduled.1, dispatched, applyCalls game request.state, scheduled.2⟩

/-- `ClearProxy`, with the calls it dispatches. -/
def clearProxy (environment : GameEnvironment) (renderer : RemoteIEDRenderer)
    (proxyFormID : ProxyFormID) : RemoteIEDRenderer × List PapyrusCall :=
  if proxyFormID = kInvalidProxyFormID then (renderer, [])
  else
    ({ renderer with
        trackedProxies := renderer.trackedProxies.erase proxyFormID
        appliedSignatures := renderer.appliedSignatures.erase proxyFormID },
      if environment.actorReady proxyFormID then clearCalls else [])

/-- The proxies `Reset` clears: every key of either map, once. -/
def proxies (renderer : RemoteIEDRenderer) : List ProxyFormID :=
  (renderer.appliedSignatures.keys ++ renderer.trackedProxies.keys).dedup

/-- `Reset`, with the calls it dispatches for each proxy. -/
def reset (environment : GameEnvironment) (renderer : RemoteIEDRenderer) :
    RemoteIEDRenderer × List (ProxyFormID × List PapyrusCall) :=
  let cleared := renderer.proxies.foldl
    (fun progress proxyFormID =>
      let step := progress.1.clearProxy environment proxyFormID
      (step.1, progress.2 ++ [(proxyFormID, step.2)]))
    (renderer, [])
  ({ cleared.1 with appliedSignatures := ∅, trackedProxies := ∅ }, cleared.2)

/-! ## What the operations do -/

/-- The entries tracked for a proxy, as `Apply` made them. -/
def displayed (renderer : RemoteIEDRenderer) (proxyFormID : ProxyFormID) :
    Option (List TrackedRemoteObject) :=
  (renderer.trackedProxies.lookup proxyFormID).map fun tracked =>
    tracked.objects.map TrackedRemoteObject.untouched

/-- The signature cached for a proxy. -/
def signature (renderer : RemoteIEDRenderer) (proxyFormID : ProxyFormID) : Option ByteString :=
  renderer.appliedSignatures.lookup proxyFormID

/-- `Apply` returns early because this signature is cached. -/
def Skips (environment : GameEnvironment) (renderer : RemoteIEDRenderer) (request : ApplyRequest) :
    Prop :=
  environment.actorReady request.proxyFormID = true ∧ request.force = false ∧
    renderer.signature request.proxyFormID = some (encodeLocalIEDState request.state)

/-- `Apply` dispatches the calls of the state. -/
def Renders (environment : GameEnvironment) (renderer : RemoteIEDRenderer)
    (request : ApplyRequest) : Prop :=
  environment.actorReady request.proxyFormID = true ∧ ¬ renderer.Skips environment request

instance (environment : GameEnvironment) (renderer : RemoteIEDRenderer) (request : ApplyRequest) :
    Decidable (renderer.Skips environment request) :=
  inferInstanceAs (Decidable (_ ∧ _ ∧ _))

instance (environment : GameEnvironment) (renderer : RemoteIEDRenderer) (request : ApplyRequest) :
    Decidable (renderer.Renders environment request) :=
  inferInstanceAs (Decidable (_ ∧ ¬ _))

/-- A constructed renderer shows nothing. -/
@[simp] theorem displayed_initial (proxyFormID : ProxyFormID) :
    initial.displayed proxyFormID = none := rfl

/-- A constructed renderer has cached nothing. -/
@[simp] theorem signature_initial (proxyFormID : ProxyFormID) :
    initial.signature proxyFormID = none := rfl

/-- Scheduling a tick does not change what is shown. -/
@[simp] theorem displayed_scheduleWatchdogTick (renderer : RemoteIEDRenderer) :
    renderer.scheduleWatchdogTick.1.displayed = renderer.displayed := rfl

/-- Scheduling a tick does not change a cached signature. -/
@[simp] theorem signature_scheduleWatchdogTick (renderer : RemoteIEDRenderer) :
    renderer.scheduleWatchdogTick.1.signature = renderer.signature := rfl

/-- A new label does not change a cached signature. -/
@[simp] theorem signature_relabel (renderer : RemoteIEDRenderer) (request : ApplyRequest) :
    (renderer.relabel request).signature = renderer.signature := by
  unfold relabel
  split <;> rfl

/-- A new label does not change what is shown. -/
@[simp] theorem displayed_relabel (renderer : RemoteIEDRenderer) (request : ApplyRequest) :
    (renderer.relabel request).displayed = renderer.displayed := by
  funext proxyFormID
  unfold relabel
  split
  · rfl
  · next tracked found =>
      by_cases same : proxyFormID = request.proxyFormID
      · subst same
        simp [displayed, found]
      · simp [displayed, AList.lookup_insert_ne same]

/-- A fresh entry is its own untouched form. -/
theorem untouched_trackedObjects (game : GameData) (state : LocalIEDState) :
    (trackedObjects game state).map TrackedRemoteObject.untouched = trackedObjects game state := by
  conv_rhs => rw [← List.map_id (trackedObjects game state)]
  apply List.map_congr_left
  intro tracked member
  have fresh : tracked.acquired = false ∧ tracked.corrections = 0 :=
    fresh_of_mem_trackedObjects member
  cases tracked
  simp_all [TrackedRemoteObject.untouched]

/-- A commit shows its state on its own proxy, whether or not everything was dispatched. -/
theorem displayed_commit (game : GameData) (renderer : RemoteIEDRenderer)
    (request : ApplyRequest) (dispatched : Bool) (proxyFormID : ProxyFormID) :
    (renderer.commit game request dispatched).displayed proxyFormID =
      if proxyFormID = request.proxyFormID then some (trackedObjects game request.state)
      else renderer.displayed proxyFormID := by
  split
  · next same =>
      subst same
      simp [displayed, commit, untouched_trackedObjects]
  · next other => simp [displayed, commit, AList.lookup_insert_ne other]

/-- A commit caches its signature only if everything was dispatched. -/
theorem signature_commit (game : GameData) (renderer : RemoteIEDRenderer)
    (request : ApplyRequest) (dispatched : Bool) (proxyFormID : ProxyFormID) :
    (renderer.commit game request dispatched).signature proxyFormID =
      if proxyFormID = request.proxyFormID ∧ dispatched = true then
        some (encodeLocalIEDState request.state)
      else renderer.signature proxyFormID := by
  cases dispatched with
  | false => simp [signature, commit]
  | true =>
      by_cases same : proxyFormID = request.proxyFormID
      · subst same
        simp [signature, commit]
      · simp [signature, commit, same, AList.lookup_insert_ne same]

section Apply

variable (game : GameData) (environment : GameEnvironment) (renderer : RemoteIEDRenderer)
  (request : ApplyRequest)

/-- `Apply` is deferred, skips, or renders. -/
theorem apply_cases :
    (environment.actorReady request.proxyFormID = false ∧
        renderer.apply game environment request = ⟨renderer, false, [], false⟩) ∨
      (renderer.Skips environment request ∧
        renderer.apply game environment request =
          ⟨(renderer.relabel request).scheduleWatchdogTick.1, true, [],
            (renderer.relabel request).scheduleWatchdogTick.2⟩) ∨
      (renderer.Renders environment request ∧
        renderer.apply game environment request =
          let dispatched := allDispatched game environment request.state
          let scheduled := (renderer.commit game request dispatched).scheduleWatchdogTick
          ⟨scheduled.1, dispatched, applyCalls game request.state, scheduled.2⟩) := by
  unfold apply Renders Skips signature
  cases ready : environment.actorReady request.proxyFormID with
  | false => simp
  | true =>
      by_cases cached : request.force = false ∧
          renderer.appliedSignatures.lookup request.proxyFormID =
            some (encodeLocalIEDState request.state)
      · exact .inr (.inl ⟨⟨rfl, cached⟩, by simp [cached]⟩)
      · have fresh : ¬ (¬ request.force = true ∧
            renderer.appliedSignatures.lookup request.proxyFormID =
              some (encodeLocalIEDState request.state)) := by
          simpa only [Bool.not_eq_true] using cached
        exact .inr (.inr ⟨⟨rfl, fun skips => cached skips.2⟩, by
          rw [if_neg (by simp), if_neg fresh]⟩)

/-- An actor that is not ready neither skips nor renders. -/
theorem not_skips_of_not_ready {environment : GameEnvironment} {renderer : RemoteIEDRenderer}
    {request : ApplyRequest} (away : environment.actorReady request.proxyFormID = false) :
    ¬ renderer.Skips environment request ∧ ¬ renderer.Renders environment request := by
  simp [Skips, Renders, away]

/-- What is skipped is not rendered. -/
theorem Skips.not_renders {environment : GameEnvironment} {renderer : RemoteIEDRenderer}
    {request : ApplyRequest} (skips : renderer.Skips environment request) :
    ¬ renderer.Renders environment request := fun renders => renders.2 skips

/-- An `Apply` makes the calls of its state if it renders, and none otherwise. -/
theorem apply_calls :
    (renderer.apply game environment request).calls =
      if renderer.Renders environment request then applyCalls game request.state else [] := by
  obtain ⟨away, same⟩ | ⟨skips, same⟩ | ⟨renders, same⟩ :=
    apply_cases game environment renderer request
  · rw [same, if_neg (not_skips_of_not_ready away).2]
  · rw [same, if_neg skips.not_renders]
  · rw [same, if_pos renders]

/-- Every rendering makes a call, also one of an empty state. -/
theorem applyCalls_ne_nil (state : LocalIEDState) : applyCalls game state ≠ [] := by
  simp [applyCalls]

/-- An `Apply` succeeds if it skips, or renders and has everything dispatched. -/
theorem apply_result :
    (renderer.apply game environment request).result = true ↔
      renderer.Skips environment request ∨
        renderer.Renders environment request ∧
          allDispatched game environment request.state = true := by
  obtain ⟨away, same⟩ | ⟨skips, same⟩ | ⟨renders, same⟩ :=
    apply_cases game environment renderer request
  · simp [same, not_skips_of_not_ready away]
  · simp [same, skips]
  · simp [same, renders, renders.2]

/-- An `Apply` changes what its own proxy shows, and only if it renders. -/
theorem apply_displayed (proxyFormID : ProxyFormID) :
    (renderer.apply game environment request).renderer.displayed proxyFormID =
      if proxyFormID = request.proxyFormID ∧ renderer.Renders environment request then
        some (trackedObjects game request.state)
      else renderer.displayed proxyFormID := by
  obtain ⟨away, same⟩ | ⟨skips, same⟩ | ⟨renders, same⟩ :=
    apply_cases game environment renderer request
  · simp [same, not_skips_of_not_ready away]
  · simp [same, skips.not_renders]
  · simp [same, renders, displayed_commit]

/-- An `Apply` changes the signature of its own proxy, and only if it renders and has everything
dispatched. -/
theorem apply_signature (proxyFormID : ProxyFormID) :
    (renderer.apply game environment request).renderer.signature proxyFormID =
      if proxyFormID = request.proxyFormID ∧ renderer.Renders environment request ∧
          allDispatched game environment request.state = true then
        some (encodeLocalIEDState request.state)
      else renderer.signature proxyFormID := by
  obtain ⟨away, same⟩ | ⟨skips, same⟩ | ⟨renders, same⟩ :=
    apply_cases game environment renderer request
  · simp [same, not_skips_of_not_ready away]
  · simp [same, skips.not_renders]
  · simp [same, renders, signature_commit]

end Apply

section Clear

variable (environment : GameEnvironment) (renderer : RemoteIEDRenderer)

/-- A valid proxy that is cleared shows nothing; all others show what they showed. -/
theorem clearProxy_displayed (cleared proxyFormID : ProxyFormID) :
    (renderer.clearProxy environment cleared).1.displayed proxyFormID =
      if proxyFormID = cleared ∧ cleared ≠ kInvalidProxyFormID then none
      else renderer.displayed proxyFormID := by
  unfold clearProxy
  by_cases invalid : cleared = kInvalidProxyFormID
  · simp [invalid]
  · by_cases same : proxyFormID = cleared
    · subst same
      simp [invalid, displayed]
    · simp [invalid, same, displayed, AList.lookup_erase_ne same]

/-- A valid proxy that is cleared has no signature; all others keep theirs. -/
theorem clearProxy_signature (cleared proxyFormID : ProxyFormID) :
    (renderer.clearProxy environment cleared).1.signature proxyFormID =
      if proxyFormID = cleared ∧ cleared ≠ kInvalidProxyFormID then none
      else renderer.signature proxyFormID := by
  unfold clearProxy
  by_cases invalid : cleared = kInvalidProxyFormID
  · simp [invalid]
  · by_cases same : proxyFormID = cleared
    · subst same
      simp [invalid, signature]
    · simp [invalid, same, signature, AList.lookup_erase_ne same]

/-- After a reset no proxy shows anything. -/
@[simp] theorem reset_displayed (proxyFormID : ProxyFormID) :
    (renderer.reset environment).1.displayed proxyFormID = none := rfl

/-- After a reset no signature is cached. -/
@[simp] theorem reset_signature (proxyFormID : ProxyFormID) :
    (renderer.reset environment).1.signature proxyFormID = none := rfl

end Clear

end RemoteIEDRenderer

end IEDSyncTogether
