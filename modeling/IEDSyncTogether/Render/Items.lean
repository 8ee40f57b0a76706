import IEDSyncTogether.State.LocalIEDState

/-!
# Remote items

What `Apply` creates on a proxy for one captured state: the node each item hangs
on, the Papyrus calls that configure it, and the entry the watchdog tracks. The
calls do not depend on each other's outcome, so they are a list.
-/

namespace IEDSyncTogether

open Base

/-- The form ID of a proxy. -/
abbrev ProxyFormID := UInt32

/-- The connection of a peer. -/
abbrev ConnectionID := UInt64

/-- The form ID of no proxy. -/
def kInvalidProxyFormID : ProxyFormID := 0

/-- The gear node of each slot. -/
def kGearNodes : Vector ByteString 19 :=
  #v[ascii "WeaponSword", ascii "WeaponSwordLeft",
    ascii "WeaponAxe", ascii "WeaponAxeLeft",
    ascii "WeaponBack", ascii "WeaponBackLeft",
    ascii "WeaponBackAxeMace", ascii "WeaponBackAxeMaceLeft",
    ascii "WeaponDagger", ascii "WeaponDaggerLeft",
    ascii "WeaponMace", ascii "WeaponMaceLeft",
    ascii "WeaponStaff", ascii "WeaponStaffLeft",
    ascii "WeaponBow", ascii "WeaponCrossbow",
    ascii "ShieldBack", ascii "WeaponTorch", ascii "QUIVER"]

/-- The slots of left-hand weapons. -/
def kLeftWeaponSlots : Vector Bool 19 :=
  #v[false, true, false, true, false, true, false, true, false, true,
    false, true, false, true, false, false, false, false, false]

/-- The attachment of an item in reference mode. -/
def kReferencePrefix : ByteString := ascii "OBJECT R "

/-- The attachment of an item in parent mode. -/
def kParentPrefix : ByteString := ascii "OBJECT P "

/-- The node an item is hung on, and whether it is its parent. -/
structure NodeSelection where
  node : ByteString
  parentAttachment : Bool
deriving DecidableEq

/-- The node named by a captured attachment `OBJECT R <node>` or `OBJECT P <node>`. -/
def capturedAttachment (attachmentNode : ByteString) : Option NodeSelection :=
  if kReferencePrefix.isPrefixOf attachmentNode ∧
      attachmentNode.drop kReferencePrefix.length ≠ [] then
    some ⟨attachmentNode.drop kReferencePrefix.length, false⟩
  else if kParentPrefix.isPrefixOf attachmentNode ∧
      attachmentNode.drop kParentPrefix.length ≠ [] then
    some ⟨attachmentNode.drop kParentPrefix.length, true⟩
  else none

/-- The node of a slot item: an animated anchor, the captured attachment, or the gear node. -/
def slotNode (object : CapturedIEDObject) (slot : Fin 19) : NodeSelection :=
  if object.anchorNode ≠ [] ∧ ((ascii "MOV ").isPrefixOf object.anchorNode ∨
      (ascii "CME ").isPrefixOf object.anchorNode) then
    ⟨object.anchorNode, true⟩
  else (capturedAttachment object.attachmentNode).getD ⟨kGearNodes.get slot, false⟩

/-- The node of a custom item: the captured attachment, or the anchor. -/
def customNode (object : CapturedIEDObject) : Option NodeSelection :=
  match capturedAttachment object.attachmentNode with
  | some selection => some selection
  | none => if object.anchorNode ≠ [] then some ⟨object.anchorNode, true⟩ else none

/-- The name of the node IED hangs an item below. -/
def expectedAttachment (node : NodeSelection) : ByteString :=
  ascii "OBJECT " ++ (if node.parentAttachment then ascii "P" else ascii "R") ++ ascii " " ++
    node.node

/-- The static functions of the `IED` script that the renderer dispatches, with
the arguments behind the actor and the plugin key. -/
inductive PapyrusCall where
  | removeActorBlock
  | deleteAllActor
  | createItemActor (itemName : ByteString) (female : Bool) (form : TESForm) (flag : Bool)
      (node : ByteString)
  | setItemFormActor (itemName : ByteString) (female : Bool) (form : TESForm)
  | setItemAttachmentModeActor (itemName : ByteString) (female : Bool) (mode : Nat)
      (flag : Bool)
  | setItemNodeActor (itemName : ByteString) (female : Bool) (node : ByteString)
  | setItemLeftWeaponActor (itemName : ByteString) (female : Bool) (left : Bool)
  | setItemEnabledActor (itemName : ByteString) (female : Bool) (enabled : Bool)
  | evaluate
deriving DecidableEq

/-- `ConfigureRemoteItem`: the calls that create and place one item. -/
def configureRemoteItem (itemName : ByteString) (remoteForm : TESForm) (node : NodeSelection)
    (leftWeapon : Bool) : List PapyrusCall :=
  [.createItemActor itemName false remoteForm false node.node,
    .setItemFormActor itemName true remoteForm] ++
  [false, true].flatMap fun female =>
    [.setItemAttachmentModeActor itemName female (if node.parentAttachment then 1 else 0) false,
      .setItemNodeActor itemName female node.node] ++
    (if leftWeapon then [.setItemLeftWeaponActor itemName female true] else []) ++
    [.setItemEnabledActor itemName female true]

/-- An item the watchdog keeps in place. -/
structure TrackedRemoteObject where
  itemName : ByteString
  kind : IEDObjectKind
  slot : Option Nat
  remoteFormID : FormID
  expectedAttachment : ByteString
  object : CapturedIEDObject
  acquired : Bool
  corrections : Nat
deriving DecidableEq

/-- The entry as `Apply` made it, without what the watchdog counts on it. -/
def TrackedRemoteObject.untouched (tracked : TrackedRemoteObject) : TrackedRemoteObject :=
  { tracked with acquired := false, corrections := 0 }

/-- The items of a proxy, with the peer they come from. -/
structure TrackedProxyState where
  connectionID : ConnectionID
  displayName : ByteString
  objects : List TrackedRemoteObject
deriving DecidableEq

/-- An item of one `Apply`: the calls that configure it and its tracked entry. -/
structure RenderedItem where
  calls : List PapyrusCall
  tracked : TrackedRemoteObject

/-- `fmt` with `{:02}`: at least two decimal digits. -/
def twoDigits (value : Nat) : ByteString :=
  if value < 10 then byteOf '0' :: formatNat value else formatNat value

/-- One turn of the loop that collects the first visible object of each slot. -/
def fillSlot (visible : Vector (Option CapturedIEDObject) 19) (object : CapturedIEDObject) :
    Vector (Option CapturedIEDObject) 19 :=
  match object.slot with
  | none => visible
  | some slot =>
    if object.kind ≠ .kSlot ∨ ¬ object.visible then visible
    else if inside : slot.toNat < 19 then
      if visible[slot.toNat] = none then visible.set slot.toNat (some object) else visible
    else visible

/-- The visible object of each slot. -/
def visibleSlots (objects : List CapturedIEDObject) : Vector (Option CapturedIEDObject) 19 :=
  objects.foldl fillSlot (Vector.replicate 19 none)

/-- The item of a slot, unless its form is unknown here. -/
def renderSlot (game : GameData) (slot : Fin 19) (object : CapturedIEDObject) :
    Option RenderedItem :=
  (game.resolveFormIdentity object.form).map fun remoteForm =>
    let itemName := ascii "remote-slot-" ++ twoDigits slot
    let nodeSelection := slotNode object slot
    { calls := configureRemoteItem itemName remoteForm nodeSelection (kLeftWeaponSlots.get slot)
      tracked := {
        itemName
        kind := .kSlot
        slot := some slot
        remoteFormID := remoteForm.formID
        expectedAttachment := expectedAttachment nodeSelection
        object
        acquired := false
        corrections := 0 } }

/-- The items of the slots, in order. -/
def renderSlots (game : GameData) (objects : List CapturedIEDObject) : List RenderedItem :=
  (List.finRange 19).filterMap fun slot =>
    ((visibleSlots objects).get slot).bind (renderSlot game slot)

/-- The parent name expected of a custom item. -/
def customAttachment (object : CapturedIEDObject) (node : NodeSelection) : ByteString :=
  if kReferencePrefix.isPrefixOf object.attachmentNode ∨
      kParentPrefix.isPrefixOf object.attachmentNode then object.attachmentNode
  else expectedAttachment node

/-- The item of a custom object. -/
def customItem (customIndex : Nat) (object : CapturedIEDObject) (nodeSelection : NodeSelection)
    (remoteForm : TESForm) : RenderedItem :=
  let itemName := ascii "remote-custom-" ++ twoDigits customIndex
  { calls := configureRemoteItem itemName remoteForm nodeSelection false
    tracked := {
      itemName
      kind := .kCustom
      slot := none
      remoteFormID := remoteForm.formID
      expectedAttachment := customAttachment object nodeSelection
      object
      acquired := false
      corrections := 0 } }

/-- A custom object is rendered if it is visible, has a node, and its form is
known here. -/
def renderCustom (game : GameData) (customIndex : Nat) (object : CapturedIEDObject) :
    Option RenderedItem :=
  if object.kind ≠ .kCustom ∨ ¬ object.visible then none
  else
    match customNode object, game.resolveFormIdentity object.form with
    | some nodeSelection, some remoteForm =>
      some (customItem customIndex object nodeSelection remoteForm)
    | _, _ => none

/-- The custom loop of `Apply`; `customIndex` counts the items created so far. -/
def renderCustoms (game : GameData) : Nat → List CapturedIEDObject → List RenderedItem
  | _, [] => []
  | customIndex, object :: objects =>
    match renderCustom game customIndex object with
    | some item => item :: renderCustoms game (customIndex + 1) objects
    | none => renderCustoms game customIndex objects

/-- All items of a state, slots first. -/
def renderItems (game : GameData) (state : LocalIEDState) : List RenderedItem :=
  renderSlots game state.objects ++ renderCustoms game 0 state.objects

/-- The entries a complete `Apply` of the state tracks. -/
def trackedObjects (game : GameData) (state : LocalIEDState) : List TrackedRemoteObject :=
  (renderItems game state).map RenderedItem.tracked

/-- The calls a complete `Apply` of the state dispatches. -/
def applyCalls (game : GameData) (state : LocalIEDState) : List PapyrusCall :=
  [.removeActorBlock, .deleteAllActor] ++ (renderItems game state).flatMap RenderedItem.calls ++
    [.evaluate]

/-- The calls of `ClearOwnedItems`. -/
def clearCalls : List PapyrusCall := [.removeActorBlock, .deleteAllActor, .evaluate]

/-! ## What is tracked -/

/-- What the slot loop has to find for an index. -/
def CapturedIEDObject.FillsSlot (object : CapturedIEDObject) (slot : Fin 19) : Prop :=
  object.kind = .kSlot ∧ object.visible = true ∧ object.slot.map UInt32.toNat = some slot.val

instance (object : CapturedIEDObject) (slot : Fin 19) : Decidable (object.FillsSlot slot) :=
  inferInstanceAs (Decidable (_ ∧ _ ∧ _))

/-- One turn fills an empty entry and leaves every other one alone. -/
theorem fillSlot_getElem (visible : Vector (Option CapturedIEDObject) 19)
    (object : CapturedIEDObject) (slot : Fin 19) :
    (fillSlot visible object).get slot =
      (visible.get slot).or (if object.FillsSlot slot then some object else none) := by
  change (fillSlot visible object)[slot] = visible[slot].or _
  unfold fillSlot CapturedIEDObject.FillsSlot
  split
  · next missing => simp [missing]
  · next index found =>
      simp only [found, Option.map_some, Option.some.injEq]
      split_ifs with other inside free
      · have misses : ¬ (object.kind = .kSlot ∧ object.visible = true ∧
            index.toNat = slot.val) := by tauto
        simp [misses]
      · by_cases here : index.toNat = slot.val
        · have shown : object.kind = .kSlot ∧ object.visible = true := by tauto
          simp only [here] at free
          simp [here, shown, free]
        · simp [here]
      · by_cases here : index.toNat = slot.val
        · obtain ⟨earlier, taken⟩ := Option.ne_none_iff_exists'.mp free
          simp only [here] at taken
          simp [taken]
        · simp [here]
      · have misses : index.toNat ≠ slot.val := by omega
        simp [misses]

/-- The slot loop keeps the first visible object of each slot. -/
theorem visibleSlots_getElem (objects : List CapturedIEDObject) (slot : Fin 19) :
    (visibleSlots objects).get slot = objects.find? (·.FillsSlot slot) := by
  have loop : ∀ visible : Vector (Option CapturedIEDObject) 19,
      (objects.foldl fillSlot visible).get slot =
        (visible.get slot).or (objects.find? (·.FillsSlot slot)) := by
    induction objects with
    | nil => simp
    | cons object objects ih =>
        intro visible
        rw [List.foldl_cons, ih, fillSlot_getElem, Option.or_assoc, List.find?_cons]
        by_cases fills : object.FillsSlot slot <;> simp [fills]
  rw [visibleSlots, loop]
  simp

/-- Every custom item comes from an object of the list. -/
theorem exists_of_mem_renderCustoms {game : GameData} {customIndex : Nat}
    {objects : List CapturedIEDObject} {item : RenderedItem}
    (member : item ∈ renderCustoms game customIndex objects) :
    ∃ index, ∃ object ∈ objects, renderCustom game index object = some item := by
  induction objects generalizing customIndex with
  | nil => simp [renderCustoms] at member
  | cons object objects ih =>
      have later {start : Nat} (inside : item ∈ renderCustoms game start objects) :
          ∃ index, ∃ other ∈ object :: objects, renderCustom game index other = some item := by
        obtain ⟨index, other, among, made⟩ := ih inside
        exact ⟨index, other, List.mem_cons_of_mem _ among, made⟩
      rw [renderCustoms] at member
      split at member
      · next made rendered =>
          rcases List.mem_cons.mp member with rfl | inside
          · exact ⟨customIndex, object, List.mem_cons_self, rendered⟩
          · exact later inside
      · exact later member

/-- The shape of a custom item. -/
theorem eq_of_renderCustom_eq_some {game : GameData} {customIndex : Nat}
    {object : CapturedIEDObject} {item : RenderedItem}
    (made : renderCustom game customIndex object = some item) :
    ∃ nodeSelection remoteForm, item = customItem customIndex object nodeSelection remoteForm := by
  unfold renderCustom at made
  split at made
  · cases made
  · split at made
    · next nodeSelection remoteForm _ _ =>
        cases made
        exact ⟨nodeSelection, remoteForm, rfl⟩
    · cases made

/-- `Apply` starts every entry with nothing acquired or corrected. -/
theorem fresh_of_mem_trackedObjects {game : GameData} {state : LocalIEDState}
    {tracked : TrackedRemoteObject} (member : tracked ∈ trackedObjects game state) :
    tracked.acquired = false ∧ tracked.corrections = 0 := by
  obtain ⟨item, rendered, rfl⟩ := List.mem_map.mp member
  rcases List.mem_append.mp rendered with slot | custom
  · obtain ⟨index, _, made⟩ := List.mem_filterMap.mp slot
    obtain ⟨object, _, made⟩ := Option.bind_eq_some_iff.mp made
    obtain ⟨remoteForm, _, rfl⟩ := Option.map_eq_some_iff.mp made
    exact ⟨rfl, rfl⟩
  · obtain ⟨index, object, _, made⟩ := exists_of_mem_renderCustoms custom
    obtain ⟨nodeSelection, remoteForm, rfl⟩ := eq_of_renderCustom_eq_some made
    exact ⟨rfl, rfl⟩

/-- A slot is tracked exactly when its first visible object has a known form. -/
theorem exists_tracked_slot_iff (game : GameData) (state : LocalIEDState) (slot : Fin 19) :
    (∃ tracked ∈ trackedObjects game state, tracked.slot = some slot.val) ↔
      ∃ object, state.objects.find? (·.FillsSlot slot) = some object ∧
        (game.resolveFormIdentity object.form).isSome := by
  simp only [trackedObjects, renderItems, List.map_append, List.mem_append, List.mem_map,
    renderSlots, List.mem_filterMap, List.mem_finRange, true_and, visibleSlots_getElem]
  constructor
  · rintro ⟨tracked, ⟨item, ⟨index, rendered⟩, rfl⟩ | ⟨item, custom, rfl⟩, here⟩
    · obtain ⟨object, found, made⟩ := Option.bind_eq_some_iff.mp rendered
      obtain ⟨remoteForm, resolved, rfl⟩ := Option.map_eq_some_iff.mp made
      obtain rfl : index = slot := Fin.ext (Option.some.inj here)
      exact ⟨object, found, by simp [resolved]⟩
    · obtain ⟨index, object, _, made⟩ := exists_of_mem_renderCustoms custom
      obtain ⟨nodeSelection, remoteForm, rfl⟩ := eq_of_renderCustom_eq_some made
      cases here
  · rintro ⟨object, found, resolved⟩
    obtain ⟨remoteForm, known⟩ := Option.isSome_iff_exists.mp resolved
    have made : renderSlot game slot object =
        some ((renderSlot game slot object).get (by simp [renderSlot, known])) := by simp
    refine ⟨_, .inl ⟨_, ⟨slot, by rw [found, Option.bind_some, made]⟩, rfl⟩, ?_⟩
    simp [renderSlot, known]

end IEDSyncTogether
