import IEDSyncTogether.Base.Distinct
import IEDSyncTogether.Base.Tokens
import IEDSyncTogether.Render.Cache

/-!
# What a rendering shows

The specification of `Apply`: the first visible object of each slot whose form is known
here, then every visible custom object with a usable attachment and a known form. The
items created on the actor are the tracked ones, under distinct names.
-/

namespace IEDSyncTogether

open Base

/-! ## Names of items -/

/-- The printed number can be read off a padded one. -/
theorem decimalNumber_twoDigits (value : Nat) : decimalNumber (twoDigits value) = some value := by
  unfold twoDigits
  split
  · exact decimalNumber_zero_cons (decimalNumber_formatNat value)
  · exact decimalNumber_formatNat value

/-- Printed numbers are different for different numbers. -/
theorem twoDigits_injective : Function.Injective twoDigits := by
  intro first second same
  have number := decimalNumber_twoDigits first
  rw [same, decimalNumber_twoDigits] at number
  exact (Option.some.inj number).symm

/-- The name of a slot item. -/
def slotName (slot : Nat) : ByteString := ascii "remote-slot-" ++ twoDigits slot

/-- The name of a custom item. -/
def customName (customIndex : Nat) : ByteString := ascii "remote-custom-" ++ twoDigits customIndex

/-- Slot items of different slots have different names. -/
theorem slotName_injective : Function.Injective slotName :=
  fun _ _ same => twoDigits_injective (List.append_cancel_left same)

/-- Custom items with different numbers have different names. -/
theorem customName_injective : Function.Injective customName :=
  fun _ _ same => twoDigits_injective (List.append_cancel_left same)

/-- The eighth character tells a slot from a custom item. -/
theorem slotName_ne_customName (slot customIndex : Nat) :
    slotName slot ≠ customName customIndex := by
  intro same
  have fronts := congrArg (List.take 8) same
  rw [slotName, customName, List.take_append_of_le_length (by decide),
    List.take_append_of_le_length (by decide)] at fronts
  exact absurd fronts (by decide)

variable {game : GameData}

/-- A slot item is named by its slot. -/
theorem itemName_of_renderSlot {slot : Fin 19} {object : CapturedIEDObject} {item : RenderedItem}
    (made : renderSlot game slot object = some item) : item.tracked.itemName = slotName slot := by
  obtain ⟨remoteForm, _, rfl⟩ := Option.map_eq_some_iff.mp made
  rfl

/-- The slot items are named by their slots, in order. -/
theorem itemNames_renderSlots (game : GameData) (objects : List CapturedIEDObject) :
    ((renderSlots game objects).map (·.tracked.itemName)).Sublist
      ((List.finRange 19).map fun slot : Fin 19 => slotName slot) := by
  apply map_filterMap_sublist
  intro slot item made
  obtain ⟨object, _, rendered⟩ := Option.bind_eq_some_iff.mp made
  exact itemName_of_renderSlot rendered

/-- The custom items are numbered without gaps. -/
theorem itemNames_renderCustoms (game : GameData) (customIndex : Nat)
    (objects : List CapturedIEDObject) :
    (renderCustoms game customIndex objects).map (·.tracked.itemName) =
      (List.range' customIndex (renderCustoms game customIndex objects).length).map customName := by
  induction objects generalizing customIndex with
  | nil => rfl
  | cons object objects ih =>
      rw [renderCustoms]
      split
      · next item made =>
          obtain ⟨nodeSelection, remoteForm, rfl⟩ := eq_of_renderCustom_eq_some made
          rw [List.map_cons, ih, List.length_cons, List.range'_succ, List.map_cons]
          rfl
      · exact ih customIndex

/-- No two items of a rendering share a name. -/
theorem nodup_itemNames (game : GameData) (state : LocalIEDState) :
    ((trackedObjects game state).map (·.itemName)).Nodup := by
  have slots : ((renderSlots game state.objects).map (·.tracked.itemName)).Nodup := by
    refine (itemNames_renderSlots game state.objects).nodup ?_
    exact (List.nodup_finRange 19).map fun _ _ same => Fin.ext (slotName_injective same)
  have customs : ((renderCustoms game 0 state.objects).map (·.tracked.itemName)).Nodup := by
    rw [itemNames_renderCustoms]
    exact (List.nodup_range').map customName_injective
  rw [trackedObjects, renderItems, List.map_map, List.map_append]
  refine List.nodup_append.mpr ⟨slots, customs, ?_⟩
  rintro name slot _ custom rfl
  obtain ⟨index, _, here⟩ := List.mem_map.mp ((itemNames_renderSlots game _).subset slot)
  rw [Function.comp_def, itemNames_renderCustoms] at custom
  obtain ⟨other, _, there⟩ := List.mem_map.mp custom
  exact slotName_ne_customName index other (here.trans there.symm)

/-! ## What a state asks for -/

/-- A captured attachment below one of the two kinds of parent. -/
def attachmentPrefix (parentAttachment : Bool) : ByteString :=
  if parentAttachment then kParentPrefix else kReferencePrefix

/-- A captured attachment is a prefix with a node behind it. -/
theorem capturedAttachment_eq_some_iff {attachmentNode : ByteString} {node : NodeSelection} :
    capturedAttachment attachmentNode = some node ↔
      node.node ≠ [] ∧ attachmentNode = attachmentPrefix node.parentAttachment ++ node.node := by
  constructor
  · intro found
    unfold capturedAttachment at found
    split_ifs at found with reference parent
    · cases found
      have front := List.isPrefixOf_iff_prefix.mp reference.1
      exact ⟨reference.2, (List.prefix_iff_eq_append.mp front).symm⟩
    · cases found
      have front := List.isPrefixOf_iff_prefix.mp parent.1
      exact ⟨parent.2, (List.prefix_iff_eq_append.mp front).symm⟩
  · obtain ⟨node, parentAttachment⟩ := node
    rintro ⟨present, rfl⟩
    cases parentAttachment with
    | false => simp [capturedAttachment, attachmentPrefix, present]
    | true =>
        have other : kReferencePrefix.isPrefixOf (kParentPrefix ++ node) = false := rfl
        simp [capturedAttachment, attachmentPrefix, present, other]

/-- A custom object can be hung somewhere: its attachment names a node, or it has an
anchor. -/
def CapturedIEDObject.UsableAttachment (object : CapturedIEDObject) : Prop :=
  (∃ node ≠ [], object.attachmentNode = kReferencePrefix ++ node ∨
      object.attachmentNode = kParentPrefix ++ node) ∨
    object.anchorNode ≠ []

/-- A custom object has a node exactly if it has a usable attachment. -/
theorem isSome_customNode_iff (object : CapturedIEDObject) :
    (customNode object).isSome ↔ object.UsableAttachment := by
  unfold customNode CapturedIEDObject.UsableAttachment
  have named : (∃ node ≠ [], object.attachmentNode = kReferencePrefix ++ node ∨
      object.attachmentNode = kParentPrefix ++ node) ↔
      ∃ node, capturedAttachment object.attachmentNode = some node := by
    simp only [capturedAttachment_eq_some_iff]
    constructor
    · rintro ⟨node, present, reference | parent⟩
      · exact ⟨⟨node, false⟩, present, reference⟩
      · exact ⟨⟨node, true⟩, present, parent⟩
    · rintro ⟨⟨node, parentAttachment⟩, present, same⟩
      cases parentAttachment with
      | false => exact ⟨node, present, .inl same⟩
      | true => exact ⟨node, present, .inr same⟩
  rw [named]
  cases capturedAttachment object.attachmentNode with
  | some node => simp
  | none => by_cases anchored : object.anchorNode = [] <;> simp [anchored]

instance (object : CapturedIEDObject) : Decidable object.UsableAttachment :=
  decidable_of_iff _ (isSome_customNode_iff object)

/-- What the watchdog follows of one object, without the names it goes by. -/
structure ShownObject where
  kind : IEDObjectKind
  slot : Option Nat
  remoteFormID : FormID
  object : CapturedIEDObject
deriving DecidableEq

/-- What an entry shows. -/
def TrackedRemoteObject.shown (tracked : TrackedRemoteObject) : ShownObject :=
  ⟨tracked.kind, tracked.slot, tracked.remoteFormID, tracked.object⟩

/-- How an object is shown, if its form is known here. -/
def GameData.shownAs (game : GameData) (kind : IEDObjectKind) (slot : Option Nat)
    (object : CapturedIEDObject) : Option ShownObject :=
  (game.resolveFormIdentity object.form).map fun remoteForm =>
    ⟨kind, slot, remoteForm.formID, object⟩

/-- For each slot the first visible object with that index. -/
def shownSlots (game : GameData) (objects : List CapturedIEDObject) : List ShownObject :=
  (List.finRange 19).filterMap fun slot : Fin 19 =>
    (objects.find? (·.FillsSlot slot)).bind (game.shownAs .kSlot (some slot))

/-- Every visible custom object with a usable attachment. -/
def shownCustoms (game : GameData) (objects : List CapturedIEDObject) : List ShownObject :=
  (objects.filter fun object =>
      object.kind = .kCustom ∧ object.visible ∧ object.UsableAttachment).filterMap
    (game.shownAs .kCustom none)

/-- The slot objects, then the custom ones. -/
def shownObjects (game : GameData) (state : LocalIEDState) : List ShownObject :=
  shownSlots game state.objects ++ shownCustoms game state.objects

/-- The slot loops show the first visible object of each slot. -/
theorem shown_renderSlots (game : GameData) (objects : List CapturedIEDObject) :
    (renderSlots game objects).map (·.tracked.shown) = shownSlots game objects := by
  rw [renderSlots, shownSlots, List.map_filterMap]
  apply List.filterMap_congr
  intro slot _
  rw [visibleSlots_getElem]
  cases objects.find? (·.FillsSlot slot) with
  | none => rfl
  | some object => simp [renderSlot, GameData.shownAs, Function.comp_def, TrackedRemoteObject.shown]

/-- One turn of the custom loop shows a usable custom object. -/
theorem shown_renderCustom (game : GameData) (customIndex : Nat) (object : CapturedIEDObject) :
    (renderCustom game customIndex object).map (·.tracked.shown) =
      if object.kind = .kCustom ∧ object.visible ∧ object.UsableAttachment then
        game.shownAs .kCustom none object
      else none := by
  unfold renderCustom GameData.shownAs
  have usable := isSome_customNode_iff object
  by_cases candidate : object.kind = .kCustom ∧ object.visible = true
  · have kept : ¬ (object.kind ≠ .kCustom ∨ ¬ object.visible = true) := by tauto
    rw [if_neg kept]
    cases chosen : customNode object with
    | none =>
        have unusable : ¬ object.UsableAttachment := by simpa [chosen] using usable
        simp [unusable]
    | some node =>
        have fits : object.UsableAttachment := by simpa [chosen] using usable
        cases game.resolveFormIdentity object.form <;>
          simp [candidate, fits, customItem, TrackedRemoteObject.shown]
  · have dropped : object.kind ≠ .kCustom ∨ ¬ object.visible = true := by tauto
    rw [if_pos dropped, if_neg (by tauto)]
    rfl

/-- The custom loop shows the usable custom objects. -/
theorem shown_renderCustoms (game : GameData) (customIndex : Nat)
    (objects : List CapturedIEDObject) :
    (renderCustoms game customIndex objects).map (·.tracked.shown) = shownCustoms game objects := by
  induction objects generalizing customIndex with
  | nil => rfl
  | cons object objects ih =>
      have turn := shown_renderCustom game customIndex object
      rw [renderCustoms, shownCustoms, List.filter_cons]
      by_cases usable : object.kind = .kCustom ∧ object.visible ∧ object.UsableAttachment
      · rw [if_pos usable] at turn
        rw [if_pos (decide_eq_true usable)]
        cases made : renderCustom game customIndex object with
        | none =>
            rw [made] at turn
            rw [List.filterMap_cons_none turn.symm]
            exact ih customIndex
        | some item =>
            rw [made] at turn
            rw [List.filterMap_cons_some turn.symm, List.map_cons, ih (customIndex + 1)]
            rfl
      · rw [if_neg usable, Option.map_eq_none_iff] at turn
        rw [turn, if_neg (by simpa using usable)]
        exact ih customIndex

/-- The tracked entries show what the state asks for. -/
theorem shown_trackedObjects (game : GameData) (state : LocalIEDState) :
    (trackedObjects game state).map TrackedRemoteObject.shown = shownObjects game state := by
  rw [trackedObjects, List.map_map, renderItems, List.map_append, shownObjects,
    ← shown_renderSlots, ← shown_renderCustoms game 0]
  rfl

/-! ## What is created -/

/-- The item a call creates, and its form. -/
def PapyrusCall.created : PapyrusCall → Option (ByteString × FormID)
  | .createItemActor itemName _ form _ _ => some (itemName, form.formID)
  | _ => none

/-- What one item needs on the actor. -/
def TrackedRemoteObject.item (tracked : TrackedRemoteObject) : ByteString × FormID :=
  (tracked.itemName, tracked.remoteFormID)

/-- How an item was made: the calls and the entry have one name, one form and one node,
which was chosen for a slot or for a custom object. -/
theorem exists_of_mem_renderItems {state : LocalIEDState} {item : RenderedItem}
    (member : item ∈ renderItems game state) :
    ∃ remoteForm node leftWeapon,
      item.calls = configureRemoteItem item.tracked.itemName remoteForm node leftWeapon ∧
      item.tracked.remoteFormID = remoteForm.formID ∧
      (item.tracked.object.kind = .kSlot ∧
          item.tracked.expectedAttachment = expectedAttachment node ∨
        item.tracked.object.kind = .kCustom ∧ customNode item.tracked.object = some node ∧
          item.tracked.expectedAttachment = customAttachment item.tracked.object node) := by
  rcases List.mem_append.mp member with slot | custom
  · obtain ⟨index, _, made⟩ := List.mem_filterMap.mp slot
    obtain ⟨object, found, made⟩ := Option.bind_eq_some_iff.mp made
    obtain ⟨remoteForm, _, rfl⟩ := Option.map_eq_some_iff.mp made
    rw [visibleSlots_getElem] at found
    have fills : object.FillsSlot index := by simpa using List.find?_some found
    exact ⟨remoteForm, _, _, rfl, rfl, .inl ⟨fills.1, rfl⟩⟩
  · obtain ⟨index, object, _, made⟩ := exists_of_mem_renderCustoms custom
    unfold renderCustom at made
    split at made
    · cases made
    · next candidate =>
        split at made
        · next node remoteForm chosen _ =>
            cases made
            have kind : object.kind = .kCustom := by tauto
            exact ⟨remoteForm, node, false, rfl, rfl, .inr ⟨kind, chosen, rfl⟩⟩
        · cases made

/-- The calls of an item create it once. -/
@[simp] theorem filterMap_created_configureRemoteItem (itemName : ByteString)
    (remoteForm : TESForm) (node : NodeSelection) (leftWeapon : Bool) :
    (configureRemoteItem itemName remoteForm node leftWeapon).filterMap PapyrusCall.created =
      [(itemName, remoteForm.formID)] := by
  cases leftWeapon <;> rfl

/-- What is read off the calls of single items is read off the calls of a state. -/
theorem filterMap_applyCalls {β : Type} {read : PapyrusCall → Option β}
    (block : read .removeActorBlock = none) (deleted : read .deleteAllActor = none)
    (evaluated : read .evaluate = none) (game : GameData) (state : LocalIEDState) :
    (applyCalls game state).filterMap read =
      (renderItems game state).flatMap fun item => item.calls.filterMap read := by
  simp only [applyCalls, List.filterMap_append, List.filterMap_cons_none block,
    List.filterMap_cons_none deleted, List.filterMap_cons_none evaluated, List.filterMap_nil,
    List.nil_append, List.append_nil, List.filterMap_flatMap]

/-- The calls of a state create the tracked items, in order. -/
theorem created_applyCalls (game : GameData) (state : LocalIEDState) :
    (applyCalls game state).filterMap PapyrusCall.created =
      (trackedObjects game state).map TrackedRemoteObject.item := by
  have each : ∀ item ∈ renderItems game state,
      item.calls.filterMap PapyrusCall.created = [item.tracked.item] := by
    intro item member
    obtain ⟨remoteForm, node, leftWeapon, calls, form, _⟩ := exists_of_mem_renderItems member
    rw [calls, filterMap_created_configureRemoteItem, TrackedRemoteObject.item, form]
  rw [filterMap_applyCalls rfl rfl rfl, List.flatMap_congr each, trackedObjects, List.map_map,
    List.map_eq_flatMap]
  rfl

/-- The entries of a proxy and the calls to it are what a state asks for. -/
structure MeetsSpecification (game : GameData) (state : LocalIEDState)
    (objects : List TrackedRemoteObject) (calls : List PapyrusCall) : Prop where
  shown : objects.map TrackedRemoteObject.shown = shownObjects game state
  created : calls.filterMap PapyrusCall.created = objects.map TrackedRemoteObject.item
  distinct : (objects.map TrackedRemoteObject.itemName).Nodup

/-- A rendering `Apply` tracks the entries of the state. -/
theorem lookup_apply_of_renders (game : GameData) {environment : GameEnvironment}
    {renderer : RemoteIEDRenderer} {request : ApplyRequest}
    (renders : renderer.Renders environment request) :
    (renderer.apply game environment request).renderer.trackedProxies.lookup request.proxyFormID =
      some ⟨request.connectionID, request.displayName, trackedObjects game request.state⟩ := by
  obtain ⟨away, _⟩ | ⟨skips, _⟩ | ⟨_, same⟩ := renderer.apply_cases game environment request
  · exact absurd renders (RemoteIEDRenderer.not_skips_of_not_ready away).2
  · exact absurd renders skips.not_renders
  · rw [same]
    exact AList.lookup_insert _

/-- Every `Apply` that is not skipped renders its specification. -/
theorem apply_meets_specification (game : GameData) {environment : GameEnvironment}
    {renderer : RemoteIEDRenderer} {request : ApplyRequest}
    (renders : renderer.Renders environment request) :
    ∃ tracked,
      (renderer.apply game environment request).renderer.trackedProxies.lookup
          request.proxyFormID = some tracked ∧
        MeetsSpecification game request.state tracked.objects
          (renderer.apply game environment request).calls := by
  refine ⟨_, lookup_apply_of_renders game renders, ?_⟩
  rw [renderer.apply_calls, if_pos renders]
  exact ⟨shown_trackedObjects game request.state, created_applyCalls game request.state,
    nodup_itemNames game request.state⟩

/-- An iron shield hung on the back. -/
def backShield : CapturedIEDObject :=
  { hipSword with
    kind := .kCustom
    form := skyrimShield
    slot := none
    objectNode := ascii "OBJECT [00012EB6]"
    attachmentNode := ascii "OBJECT P NPC Spine2" }

/-- The sword in its slot behind a hidden one, a shield, and a form no game knows. -/
def gearState : LocalIEDState :=
  ⟨swordSlots, [{ hipSword with visible := false }, hipSword, backShield,
    { backShield with form := ⟨ascii "Lost.esp", 1⟩ }]⟩

/-- A fresh renderer after an `Apply` of that state. -/
def gearShown : RemoteIEDRenderer :=
  (RemoteIEDRenderer.initial.apply armory (acceptingFrom 0) (sampleRequest gearState)).renderer

/-- A fresh renderer does not skip the state. -/
theorem gearState_renders :
    RemoteIEDRenderer.initial.Renders (acceptingFrom 0) (sampleRequest gearState) := by decide

/-- A first `Apply` of the state shows the sword and the shield. -/
theorem gearState_meets_specification :
    shownObjects armory gearState =
        [⟨.kSlot, some 0, 0x12EB7, hipSword⟩, ⟨.kCustom, none, 0x12EB6, backShield⟩] ∧
      ∃ tracked, gearShown.trackedProxies.lookup 0xFF000800 = some tracked ∧
        MeetsSpecification armory gearState tracked.objects (applyCalls armory gearState) :=
  ⟨by rfl, apply_meets_specification armory gearState_renders⟩

end IEDSyncTogether
