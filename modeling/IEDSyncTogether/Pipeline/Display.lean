import IEDSyncTogether.Capture.Probe
import IEDSyncTogether.Render.Cache

/-!
# From the captured slots to the remote display

A capture is sent as text, read back, and applied by a peer. An object belongs to
the first slot with its form, so what reaches the display of a slot is decided by
the forms of the slots before it.
-/

namespace IEDSyncTogether

open Base

/-- What the data handler finds is in the form table and has an identity. -/
def GameData.Coherent (game : GameData) : Prop :=
  ∀ localFormID plugin form, game.lookupForm localFormID plugin = some form →
    game.lookupByID form.formID = some form ∧ (makeFormIdentity (some form)).isSome

/-- Every occupied slot is shown by a visible loaded node of its own, named with
the slot's form and hanging on an attachment of its own. -/
structure SlotNodes (game : GameData) (scene : PlayerScene) (slots : SlotState)
    (node : Fin 19 → Fin scene.count) : Prop where
  named : ∀ slot identity, slots.get slot = some identity →
    ∃ form, game.resolveFormIdentity identity = some form ∧
      parseIEDObjectFormID (scene.object (node slot)).name = some form.formID
  loaded : ∀ slot : Fin 19, (slots.get slot).isSome → scene.Loaded (node slot)
  visible : ∀ slot : Fin 19, (slots.get slot).isSome → (scene.object (node slot)).appCulled = false
  distinct : ∀ first second : Fin 19, (slots.get first).isSome → (slots.get second).isSome →
    node first = node second → first = second
  apart : ∀ first second : Fin 19, (slots.get first).isSome → (slots.get second).isSome →
    scene.nameOf (scene.object (node first)).parent =
      scene.nameOf (scene.object (node second)).parent → first = second

/-- The game knows the form of every object of the state. -/
def GameData.ResolvesAll (game : GameData) (state : LocalIEDState) : Prop :=
  ∀ object ∈ state.objects, (game.resolveFormIdentity object.form).isSome

/-- The entries have one for every occupied slot. -/
def ShowsSlots (slots : SlotState) (objects : List TrackedRemoteObject) : Prop :=
  ∀ slot : Fin 19, (slots.get slot).isSome → ∃ tracked ∈ objects, tracked.slot = some slot.val

/-- No two occupied slots hold the same form. -/
def FormsApart (game : GameData) (slots : SlotState) : Prop :=
  ∀ first second : Fin 19, (slots.get first).isSome → (slots.get second).isSome →
    (slottedForms game slots).get first = (slottedForms game slots).get second → first = second

/-- What a peer applies has been decoded, and it accepts every dispatch. -/
def AcceptingPeer (_ : RemoteIEDRenderer) : RendererEvent → Prop
  | .apply environment request _ _ =>
    (∀ index, environment.accepts index = true) ∧
      ∃ payload, decodeLocalIEDState payload = some request.state
  | _ => True

namespace SlotNodes

variable {game : GameData} {scene : PlayerScene} {slots : SlotState}
  {node : Fin 19 → Fin scene.count}

/-- The slots of shown forms can be sent. -/
theorem addressable (nodes : SlotNodes game scene slots node) : Addressable slots := by
  intro entry member identity held
  obtain ⟨index, inside, rfl⟩ := List.getElem_of_mem member
  have bound : index < 19 := by simpa using inside
  have occupied : slots.get ⟨index, bound⟩ = some identity := by simpa using held
  obtain ⟨form, resolved, _⟩ := nodes.named ⟨index, bound⟩ identity occupied
  unfold GameData.resolveFormIdentity at resolved
  split at resolved
  · cases resolved
  · next usable => exact not_or.mp usable

/-- An occupied slot has the FormID of the form it resolves to. -/
theorem slottedForms_of_resolved {slot : Fin 19} {identity : FormIdentity} {form : TESForm}
    (occupied : slots.get slot = some identity)
    (resolved : game.resolveFormIdentity identity = some form) :
    (slottedForms game slots).get slot = form.formID := by
  rw [slottedForms_getElem, occupied, Option.bind_some, resolved]

/-- A captured object fills only the first slot with its form. -/
theorem first_of_fillsSlot {sorting : ObjectSort} {object : CapturedIEDObject} {slot : Fin 19}
    (member : object ∈ (captureState game sorting (some scene) slots).objects)
    (fills : object.FillsSlot slot) :
    ∀ earlier < slot, (slottedForms game slots).get earlier ≠ (slottedForms game slots).get slot := by
  obtain ⟨loaded, same, address, _, captured⟩ := exists_of_mem_captureState member
  cases same
  obtain ⟨formID, form, _, _, _, rfl⟩ := PlayerScene.captureObject_eq_some captured
  obtain ⟨here, before⟩ := findSlot_iff.mp fills.2.2
  rw [here]
  exact before

/-- The first slot with its form gets an object. -/
theorem exists_fillsSlot (nodes : SlotNodes game scene slots node) (coherent : game.Coherent)
    (sorting : ObjectSort) {slot : Fin 19} (occupied : (slots.get slot).isSome)
    (first : ∀ earlier < slot,
      (slottedForms game slots).get earlier ≠ (slottedForms game slots).get slot) :
    ∃ object ∈ (captureState game sorting (some scene) slots).objects, object.FillsSlot slot := by
  obtain ⟨identity, held⟩ := Option.isSome_iff_exists.mp occupied
  obtain ⟨form, resolved, parsed⟩ := nodes.named slot identity held
  have here := slottedForms_of_resolved held resolved
  have found : (findSlot form.formID (slottedForms game slots)).map UInt32.toNat =
      some slot.val := by
    rw [findSlot_iff, here]
    exact ⟨rfl, here ▸ first⟩
  have known : game.lookupByID form.formID = some form ∧ (makeFormIdentity (some form)).isSome := by
    unfold GameData.resolveFormIdentity at resolved
    split at resolved
    · cases resolved
    · exact coherent _ _ _ resolved
  have captured : scene.captureObject game (slottedForms game slots) (node slot) =
      some (scene.makeCapturedObject game (node slot) form.formID
        (findSlot form.formID (slottedForms game slots))) :=
    scene.captureObject_of_parsed parsed known.1 known.2
  have fills : (scene.makeCapturedObject game (node slot) form.formID
      (findSlot form.formID (slottedForms game slots))).FillsSlot slot := by
    obtain ⟨index, present, _⟩ := Option.map_eq_some_iff.mp found
    refine ⟨?_, ?_, found⟩
    · simp [PlayerScene.makeCapturedObject, present]
    · simp [PlayerScene.makeCapturedObject, nodes.visible slot occupied]
  obtain ⟨kept, member, same⟩ :=
    exists_captured sorting (nodes.loaded slot occupied) captured
  refine ⟨kept, member, ?_⟩
  rcases same with rfl | logical
  · exact fills
  · simp only [sameLogicalObject, decide_eq_true_eq] at logical
    obtain ⟨kind, _, index, visible, _⟩ := logical
    rw [CapturedIEDObject.FillsSlot, kind, index, visible]
    exact fills

/-- Among captured objects a peer knows, a slot is tracked exactly if it is the
first one with its form. -/
theorem tracked_iff_first (nodes : SlotNodes game scene slots node) (coherent : game.Coherent)
    (sorting : ObjectSort) {peer : GameData}
    (resolves : peer.ResolvesAll (captureState game sorting (some scene) slots))
    {slot : Fin 19} (occupied : (slots.get slot).isSome) :
    (∃ tracked ∈ trackedObjects peer (captureState game sorting (some scene) slots),
        tracked.slot = some slot.val) ↔
      ∀ earlier < slot,
        (slottedForms game slots).get earlier ≠ (slottedForms game slots).get slot := by
  rw [exists_tracked_slot_iff]
  constructor
  · rintro ⟨object, found, _⟩
    have fills : object.FillsSlot slot := by simpa using List.find?_some found
    exact first_of_fillsSlot (List.mem_of_find?_eq_some found) fills
  · intro first
    obtain ⟨object, member, fills⟩ := nodes.exists_fillsSlot coherent sorting occupied first
    have some : ((captureState game sorting (some scene) slots).objects.find?
        (·.FillsSlot slot)).isSome := List.find?_isSome.mpr ⟨object, member, by simpa using fills⟩
    obtain ⟨shown, found⟩ := Option.isSome_iff_exists.mp some
    exact ⟨shown, found, resolves shown (List.mem_of_find?_eq_some found)⟩

/-- An occupied slot has a form. -/
theorem occupied_of_slottedForms_eq (nodes : SlotNodes game scene slots node) {slot other : Fin 19}
    (occupied : (slots.get slot).isSome)
    (same : (slottedForms game slots).get other = (slottedForms game slots).get slot) :
    (slots.get other).isSome := by
  obtain ⟨identity, held⟩ := Option.isSome_iff_exists.mp occupied
  obtain ⟨form, resolved, parsed⟩ := nodes.named slot identity held
  rw [slottedForms_of_resolved held resolved] at same
  by_contra empty
  rw [slottedForms_getElem, Option.not_isSome_iff_eq_none.mp empty] at same
  exact parseIEDObjectFormID_ne_zero parsed same.symm

/-- All occupied slots are tracked exactly if their forms differ. -/
theorem showsSlots_iff (nodes : SlotNodes game scene slots node) (coherent : game.Coherent)
    (sorting : ObjectSort) {peer : GameData}
    (resolves : peer.ResolvesAll (captureState game sorting (some scene) slots)) :
    ShowsSlots slots (trackedObjects peer (captureState game sorting (some scene) slots)) ↔
      FormsApart game slots := by
  constructor
  · intro shows first second occupiedFirst occupiedSecond same
    have firstOnes := (nodes.tracked_iff_first coherent sorting resolves occupiedFirst).mp
      (shows first occupiedFirst)
    have secondOnes := (nodes.tracked_iff_first coherent sorting resolves occupiedSecond).mp
      (shows second occupiedSecond)
    rcases lt_trichotomy first second with before | equal | after
    · exact absurd same (secondOnes first before)
    · exact equal
    · exact absurd same.symm (firstOnes second after)
  · intro apart slot occupied
    refine (nodes.tracked_iff_first coherent sorting resolves occupied).mpr ?_
    intro earlier before same
    exact before.ne (apart earlier slot (nodes.occupied_of_slottedForms_eq occupied same)
      occupied same)

end SlotNodes

/-! ## What a peer shows -/

section Peer

variable {peer : GameData}

/-- Rounding does not change which slots are tracked. -/
theorem showsSlots_rounded (slots : SlotState) (state : LocalIEDState) :
    ShowsSlots slots (trackedObjects peer state.rounded) ↔
      ShowsSlots slots (trackedObjects peer state) := by
  have found (slot : Fin 19) : state.rounded.objects.find? (·.FillsSlot slot) =
      (state.objects.find? (·.FillsSlot slot)).map CapturedIEDObject.rounded := by
    rw [LocalIEDState.rounded, List.find?_map]
    rfl
  have tracked (slot : Fin 19) : (∃ tracked ∈ trackedObjects peer state.rounded,
      tracked.slot = some slot.val) ↔
        ∃ tracked ∈ trackedObjects peer state, tracked.slot = some slot.val := by
    rw [exists_tracked_slot_iff, exists_tracked_slot_iff, found]
    simp [CapturedIEDObject.rounded]
  simp only [ShowsSlots, tracked]

/-- The ledger of an accepting peer holds decoded states. -/
theorem decoded_of_dispatchLedger {events : List RendererEvent} {renderer : RemoteIEDRenderer}
    (run : ((rendererSystem peer).guarded AcceptingPeer).Runs events renderer)
    {proxyFormID : ProxyFormID} {dispatch : Dispatch}
    (known : dispatchLedger events proxyFormID = some dispatch) :
    ∃ payload, decodeLocalIEDState payload = some dispatch.state := by
  suffices decoded : ∀ proxyFormID dispatch, dispatchLedger events proxyFormID = some dispatch →
      ∃ payload, decodeLocalIEDState payload = some dispatch.state from decoded _ _ known
  refine run.invariant (fun events _ => ∀ proxyFormID dispatch,
    dispatchLedger events proxyFormID = some dispatch →
      ∃ payload, decodeLocalIEDState payload = some dispatch.state) ?_ ?_
  · intro initial _ proxyFormID dispatch known
    cases known
  · rintro earlier before event next _ decoded ⟨accepting, _⟩ proxyFormID dispatch known
    rw [dispatchLedger_append] at known
    cases event with
    | apply environment request result calls =>
        simp only [DispatchLedger.record] at known
        split at known
        · exact decoded proxyFormID dispatch known
        · by_cases here : proxyFormID = request.proxyFormID
          · rw [here, Function.update_self] at known
            cases known
            exact accepting.2
          · rw [Function.update_of_ne here] at known
            exact decoded proxyFormID dispatch known
    | clearProxy environment cleared =>
        simp only [DispatchLedger.record] at known
        split at known
        · exact decoded proxyFormID dispatch known
        · by_cases here : proxyFormID = cleared
          · rw [here, Function.update_self] at known
            cases known
          · rw [Function.update_of_ne here] at known
            exact decoded proxyFormID dispatch known
    | reset environment => cases known
    | watchdogTick scenes => exact decoded proxyFormID dispatch known

/-- An accepting peer refuses no update. -/
theorem updatesAccepted_of_acceptingPeer (renderer : RemoteIEDRenderer) (event : RendererEvent)
    (accepting : AcceptingPeer renderer event) : UpdatesAccepted peer renderer event := by
  cases event with
  | apply environment request result calls =>
      intro _ _
      simp [RemoteIEDRenderer.allDispatched, accepting.1]
  | clearProxy | reset | watchdogTick => trivial

/-- What an accepting peer shows after an `Apply` has the slots of the applied state,
also where it was kept from an earlier one with the same signature. -/
theorem exists_displayed_of_apply {events : List RendererEvent} {renderer : RemoteIEDRenderer}
    (run : ((rendererSystem peer).guarded AcceptingPeer).Runs events renderer)
    (environment : GameEnvironment) (request : ApplyRequest)
    (ready : environment.actorReady request.proxyFormID = true)
    {payload : ByteString} (decoded : decodeLocalIEDState payload = some request.state)
    (addressable : Addressable request.state.slots) :
    ∃ objects,
      (renderer.apply peer environment request).renderer.displayed request.proxyFormID =
        some objects ∧
      ∀ slots, ShowsSlots slots objects ↔ ShowsSlots slots (trackedObjects peer request.state) := by
  rw [renderer.apply_displayed]
  by_cases renders : renderer.Renders environment request
  · exact ⟨_, if_pos ⟨rfl, renders⟩, fun _ => Iff.rfl⟩
  · rw [if_neg fun all => renders all.2]
    have skips : renderer.Skips environment request := by
      by_contra other
      exact renders ⟨ready, other⟩
    have backed := cacheBacked_of_runs (run.guarded_mono updatesAccepted_of_acceptingPeer)
    obtain ⟨dispatch, known, same, _, shows⟩ := backed _ _ skips.2.2
    obtain ⟨earlier, received⟩ := decoded_of_dispatchLedger run known
    have rounded := rounded_eq_of_encode_eq (slotBounded_of_decodeLocalIEDState decoded)
      (slotBounded_of_decodeLocalIEDState received) addressable same.symm
    refine ⟨_, shows, fun slots => ?_⟩
    rw [← showsSlots_rounded, ← rounded, showsSlots_rounded]

end Peer

/-- A capture whose slots are all shown in the scene is accepted by every peer, and
a peer that knows its forms and accepts every dispatch tracks all its slots exactly
if no two of them hold the same form. -/
theorem captured_slots_displayed_iff {game peer : GameData} {sorting : ObjectSort}
    {scene : PlayerScene} {slots : SlotState} {node : Fin 19 → Fin scene.count}
    (coherent : game.Coherent) (nodes : SlotNodes game scene slots node)
    (resolves : peer.ResolvesAll (captureState game sorting (some scene) slots))
    {events : List RendererEvent} {renderer : RemoteIEDRenderer}
    (run : ((rendererSystem peer).guarded AcceptingPeer).Runs events renderer)
    {environment : GameEnvironment} (connectionID : ConnectionID) (displayName : ByteString)
    (force : Bool) {proxyFormID : ProxyFormID}
    (ready : environment.actorReady proxyFormID = true) :
    ∃ state, decodeLocalIEDState (encodeLocalIEDState
        (captureState game sorting (some scene) slots)) = some state ∧
      ∃ objects, (renderer.apply peer environment
          ⟨connectionID, proxyFormID, displayName, state, force⟩).renderer.displayed proxyFormID =
            some objects ∧
        (ShowsSlots slots objects ↔ FormsApart game slots) := by
  have decoded := decode_captureState game sorting (some scene) slots
  rw [if_pos nodes.addressable] at decoded
  obtain ⟨objects, displays, same⟩ := exists_displayed_of_apply run environment
    ⟨connectionID, proxyFormID, displayName, _, force⟩ ready decoded nodes.addressable
  refine ⟨_, decoded, objects, displays, (same slots).trans ?_⟩
  exact (showsSlots_rounded slots _).trans (nodes.showsSlots_iff coherent sorting resolves)

/-! ## A sword and a shield -/

/-- A node with a name, a parent and children, at the origin. -/
def handNode (name : ByteString) (parent : Option (Fin 5)) (children : List (Fin 5)) :
    NiAVObject 5 where
  name
  parent
  appCulled := false
  localTransform := ⟨Vector.replicate 9 default, Vector.replicate 3 default, ⟨false, 1⟩⟩
  children := children.map some

/-- An iron sword on the hip, and another gear node in another place. -/
def pairScene (place gear : ByteString) : PlayerScene where
  count := 5
  object index :=
    #v[handNode (ascii "NPC") none [1, 3],
      handNode (ascii "OBJECT R WeaponSword") (some 0) [2],
      handNode (ascii "OBJECT [00012EB7]") (some 1) [],
      handNode place (some 0) [4],
      handNode gear (some 3) []][index]
  root := 0

/-- The gear of the first slot, and that of any other one. -/
def gearNode (slot : Fin 19) : Fin 5 := if slot.val = 0 then 2 else 4

/-- Every slot has a loaded node in the scene of two items. -/
theorem pairScene_loaded (place gear : ByteString) (slot : Fin 19) :
    (pairScene place gear).Loaded (gearNode slot) := by
  have below (parent child : Fin 5) (children : List (Fin 5))
      (listed : (pairScene place gear).childNodes parent = children) (among : child ∈ children) :
      Edge (pairScene place gear).childNodes parent child := by
    rw [← listed] at among
    exact among
  unfold gearNode
  split
  · exact .tail (.single (below 0 1 [1, 3] rfl (by decide))) (below 1 2 [2] rfl (by decide))
  · exact .tail (.single (below 0 3 [1, 3] rfl (by decide))) (below 3 4 [4] rfl (by decide))

/-- A game that finds every form it knows by its identity resolves its own captures. -/
theorem resolvesAll_of_known {game : GameData}
    (finds : ∀ formID form, game.lookupByID formID = some form → ∀ identity,
      makeFormIdentity (some form) = some identity → (game.resolveFormIdentity identity).isSome)
    (sorting : ObjectSort) (scene : Option PlayerScene) (slots : SlotState) :
    game.ResolvesAll (captureState game sorting scene slots) := by
  intro object member
  obtain ⟨loaded, _, address, _, captured⟩ := exists_of_mem_captureState member
  obtain ⟨formID, form, _, known, identity, rfl⟩ := PlayerScene.captureObject_eq_some captured
  obtain ⟨found, made⟩ := Option.isSome_iff_exists.mp identity
  have same : (makeFormIdentity (game.lookupByID formID)).getD ⟨[], 0⟩ = found := by
    rw [known, made, Option.getD_some]
  rw [PlayerScene.makeCapturedObject, same]
  exact finds formID form known found made

theorem armory_coherent : armory.Coherent := by
  intro localFormID plugin form found
  simp only [armory] at found
  split_ifs at found with gear
  obtain ⟨rfl | rfl, rfl⟩ := gear <;>
  · cases found
    exact ⟨rfl, by decide⟩

/-- The armory resolves every object it captures. -/
theorem armory_resolvesAll (sorting : ObjectSort) (scene : Option PlayerScene)
    (slots : SlotState) : armory.ResolvesAll (captureState armory sorting scene slots) := by
  refine resolvesAll_of_known ?_ sorting scene slots
  intro formID form known identity made
  simp only [armory, Option.ite_none_right_eq_some, Option.some.injEq] at known
  obtain ⟨rfl | rfl, rfl⟩ := known <;>
  · cases made
    decide

/-- An iron sword on the hip and an iron shield on the back. -/
def swordAndShield : PlayerScene :=
  pairScene (ascii "OBJECT B Shield") (ascii "OBJECT [00012EB6]")

/-- A sword in the right hand and a shield. -/
def gearSlots : SlotState := swordSlots.set 13 (some skyrimShield)

/-- The sword and the shield have their nodes in the scene. -/
theorem swordAndShield_nodes : SlotNodes armory swordAndShield gearSlots gearNode where
  named := by
    have gear : ∀ slot : Fin 19, ∀ identity ∈ gearSlots.get slot,
        ∃ form, armory.resolveFormIdentity identity = some form ∧
          parseIEDObjectFormID (swordAndShield.object (gearNode slot)).name = some form.formID := by
      intro slot identity held
      have known : identity = skyrimSword ∧ slot = 0 ∨ identity = skyrimShield ∧ slot = 13 := by
        revert slot identity
        decide
      obtain ⟨rfl, rfl⟩ | ⟨rfl, rfl⟩ := known
      · exact ⟨⟨0x12EB7, some ⟨skyrimSword.plugin, false⟩⟩, rfl, by decide⟩
      · exact ⟨⟨0x12EB6, some ⟨skyrimSword.plugin, false⟩⟩, rfl, by decide⟩
    exact gear
  loaded slot _ := pairScene_loaded _ _ slot
  visible := by decide
  distinct := by
    have hands : ∀ first second : Fin 19, (gearSlots.get first).isSome →
        (gearSlots.get second).isSome → gearNode first = gearNode second → first = second := by
      decide
    exact hands
  apart := by decide

/-- A sword and a shield reach the display of a fresh peer. -/
theorem sword_and_shield_displayed :
    ∃ state, decodeLocalIEDState (encodeLocalIEDState
        (captureState armory captureSort (some swordAndShield) gearSlots)) = some state ∧
      ∃ objects, (RemoteIEDRenderer.initial.apply armory (acceptingFrom 0)
          ⟨7, 0xFF000800, ascii "Lydia", state, false⟩).renderer.displayed 0xFF000800 =
            some objects ∧
        (ShowsSlots gearSlots objects ↔ FormsApart armory gearSlots) :=
  captured_slots_displayed_iff armory_coherent swordAndShield_nodes (armory_resolvesAll _ _ _)
    (.initial rfl) 7 (ascii "Lydia") false rfl

/-! ## A sword in each hand -/

/-- Two iron swords, each on its own gear node. -/
def twinSwords : PlayerScene :=
  pairScene (ascii "OBJECT R WeaponSwordLeft") (ascii "OBJECT [00012EB7]")

/-- The same sword in either hand. -/
def bothHands : SlotState := swordSlots.set 1 (some skyrimSword)

/-- The two swords have their nodes in the scene. -/
theorem bothHands_nodes : SlotNodes skyrim twinSwords bothHands gearNode where
  named := by
    have sword : ∀ slot : Fin 19, ∀ identity ∈ bothHands.get slot, identity = skyrimSword ∧
        parseIEDObjectFormID (twinSwords.object (gearNode slot)).name = some 0x12EB7 := by
      decide
    intro slot identity held
    obtain ⟨rfl, parsed⟩ := sword slot identity held
    exact ⟨_, rfl, parsed⟩
  loaded slot _ := pairScene_loaded _ _ slot
  visible := by decide
  distinct := by
    have hands : ∀ first second : Fin 19, (bothHands.get first).isSome → (bothHands.get second).isSome →
        gearNode first = gearNode second → first = second := by decide
    exact hands
  apart := by decide

theorem skyrim_coherent : skyrim.Coherent := by
  intro localFormID plugin form found
  simp only [skyrim] at found
  split_ifs at found with sword
  obtain ⟨rfl, rfl⟩ := sword
  cases found
  exact ⟨rfl, by decide⟩

/-- Every captured object of a game that knows only the sword is a sword. -/
theorem skyrim_resolvesAll (sorting : ObjectSort) (scene : Option PlayerScene)
    (slots : SlotState) : skyrim.ResolvesAll (captureState skyrim sorting scene slots) := by
  refine resolvesAll_of_known ?_ sorting scene slots
  intro formID form known identity made
  simp only [skyrim, Option.ite_none_right_eq_some, Option.some.injEq] at known
  obtain ⟨rfl, rfl⟩ := known
  cases made
  decide

/-- With the same sword in both hands, one slot is lost. -/
theorem second_sword_lost :
    skyrim.Coherent ∧ SlotNodes skyrim twinSwords bothHands gearNode ∧
      skyrim.ResolvesAll (captureState skyrim captureSort (some twinSwords) bothHands) ∧
      ∃ state, decodeLocalIEDState (encodeLocalIEDState
          (captureState skyrim captureSort (some twinSwords) bothHands)) = some state ∧
        ∃ objects, (RemoteIEDRenderer.initial.apply skyrim (acceptingFrom 0)
            (sampleRequest state)).renderer.displayed 0xFF000800 = some objects ∧
          ¬ ShowsSlots bothHands objects := by
  have decoded := decode_captureState skyrim captureSort (some twinSwords) bothHands
  rw [if_pos bothHands_nodes.addressable] at decoded
  have start : ((rendererSystem skyrim).guarded AcceptingPeer).Runs [] .initial := .initial rfl
  obtain ⟨objects, displays, same⟩ := exists_displayed_of_apply start (acceptingFrom 0)
    (sampleRequest _) rfl decoded bothHands_nodes.addressable
  refine ⟨skyrim_coherent, bothHands_nodes, skyrim_resolvesAll _ _ _, _, decoded, objects,
    displays, fun shows => ?_⟩
  have apart : FormsApart skyrim bothHands :=
    (bothHands_nodes.showsSlots_iff skyrim_coherent captureSort (skyrim_resolvesAll _ _ _)).mp
      ((showsSlots_rounded _ _).mp ((same _).mp shows))
  have forms (slot : Fin 19) (held : bothHands.get slot = some skyrimSword) :
      (slottedForms skyrim bothHands).get slot = 0x12EB7 := by
    have resolved : skyrim.resolveFormIdentity skyrimSword =
        some ⟨0x12EB7, some ⟨skyrimSword.plugin, false⟩⟩ := rfl
    exact SlotNodes.slottedForms_of_resolved held resolved
  have equal : (0 : Fin 19) = 1 :=
    apart 0 1 (by decide) (by decide) ((forms 0 (by decide)).trans (forms 1 (by decide)).symm)
  exact absurd equal (by decide)

end IEDSyncTogether
