import IEDSyncTogether.Render.Specification
import IEDSyncTogether.State.RoundTrip

/-!
# The parent the watchdog looks for

IED hangs an item below `OBJECT P <node>` or `OBJECT R <node>`, by the mode and the node
it was told. A slot entry looks for that name. A custom entry looks for its captured
attachment as soon as this starts with a prefix, also if no node stands behind it.
-/

namespace IEDSyncTogether

open Base

/-- The attachment modes an item was given. -/
def dispatchedModes (calls : List PapyrusCall) (itemName : ByteString) : List Nat :=
  calls.filterMap fun
    | .setItemAttachmentModeActor name _ mode _ => if name = itemName then some mode else none
    | _ => none

/-- The nodes an item was created on or moved to. -/
def dispatchedNodes (calls : List PapyrusCall) (itemName : ByteString) : List ByteString :=
  calls.filterMap fun
    | .createItemActor name _ _ _ node => if name = itemName then some node else none
    | .setItemNodeActor name _ node => if name = itemName then some node else none
    | _ => none

/-- The parent IED makes for a mode and a node. -/
def createdParent (mode : Nat) (node : ByteString) : ByteString :=
  attachmentPrefix (mode = 1) ++ node

/-- The entry looks for the parent of its item, whichever call is asked. -/
def SearchesCreated (calls : List PapyrusCall) (tracked : TrackedRemoteObject) : Prop :=
  dispatchedModes calls tracked.itemName ≠ [] ∧ dispatchedNodes calls tracked.itemName ≠ [] ∧
    ∀ mode ∈ dispatchedModes calls tracked.itemName,
      ∀ node ∈ dispatchedNodes calls tracked.itemName,
        tracked.expectedAttachment = createdParent mode node

instance (calls : List PapyrusCall) (tracked : TrackedRemoteObject) :
    Decidable (SearchesCreated calls tracked) :=
  inferInstanceAs (Decidable (_ ∧ _ ∧ _))

/-- The captured attachment is a prefix without a node behind it. -/
def CapturedIEDObject.BarePrefix (object : CapturedIEDObject) : Prop :=
  object.attachmentNode = kReferencePrefix ∨ object.attachmentNode = kParentPrefix

instance (object : CapturedIEDObject) : Decidable object.BarePrefix :=
  inferInstanceAs (Decidable (_ ∨ _))

/-- The expected parent is the prefix of the mode and the node. -/
theorem expectedAttachment_eq (node : NodeSelection) :
    expectedAttachment node = attachmentPrefix node.parentAttachment ++ node.node := by
  obtain ⟨node, parentAttachment⟩ := node
  cases parentAttachment <;> rfl

/-- A bare prefix is no prefix in front of a node. -/
theorem attachmentPrefix_append_ne {first second : Bool} {node : ByteString} (present : node ≠ []) :
    attachmentPrefix first ++ node ≠ attachmentPrefix second := by
  intro same
  have lengths := congrArg List.length same
  have positive := List.length_pos_iff.mpr present
  have width : ∀ parentAttachment, (attachmentPrefix parentAttachment).length = 9 := by decide
  rw [List.length_append, width, width] at lengths
  omega

/-- An object has a bare prefix if its attachment is a prefix with nothing behind it. -/
theorem CapturedIEDObject.barePrefix_iff (object : CapturedIEDObject) :
    object.BarePrefix ↔
      ∃ parentAttachment, object.attachmentNode = attachmentPrefix parentAttachment := by
  simp only [Bool.exists_bool, BarePrefix]
  rfl

/-- The attachments with a known prefix are those with the prefix of a mode. -/
theorem isPrefixOf_iff_attachmentPrefix (attachmentNode : ByteString) :
    (kReferencePrefix.isPrefixOf attachmentNode ∨ kParentPrefix.isPrefixOf attachmentNode) ↔
      ∃ parentAttachment, attachmentPrefix parentAttachment <+: attachmentNode := by
  simp only [Bool.exists_bool, List.isPrefixOf_iff_prefix]
  rfl

/-- A captured attachment that names no node has a prefix only if it is one. -/
theorem prefix_iff_of_not_captured {attachmentNode : ByteString}
    (missing : capturedAttachment attachmentNode = none) :
    (∃ parentAttachment, attachmentPrefix parentAttachment <+: attachmentNode) ↔
      ∃ parentAttachment, attachmentNode = attachmentPrefix parentAttachment := by
  constructor
  · rintro ⟨parentAttachment, suffix, same⟩
    by_cases empty : suffix = []
    · exact ⟨parentAttachment, by rw [← same, empty, List.append_nil]⟩
    · have named : capturedAttachment attachmentNode = some ⟨suffix, parentAttachment⟩ :=
        capturedAttachment_eq_some_iff.mpr ⟨empty, same.symm⟩
      rw [missing] at named
      cases named
  · rintro ⟨parentAttachment, rfl⟩
    exact ⟨parentAttachment, List.prefix_rfl⟩

/-- The two computations of the parent of a custom item agree unless the captured
attachment is a bare prefix. -/
theorem customAttachment_eq_iff {object : CapturedIEDObject} {node : NodeSelection}
    (chosen : customNode object = some node) :
    customAttachment object node = expectedAttachment node ↔ ¬ object.BarePrefix := by
  rw [expectedAttachment_eq, object.barePrefix_iff]
  unfold customNode at chosen
  unfold customAttachment
  simp only [isPrefixOf_iff_attachmentPrefix]
  cases captured : capturedAttachment object.attachmentNode with
  | some selection =>
      obtain rfl : selection = node := by simpa [captured] using chosen
      obtain ⟨present, whole⟩ := capturedAttachment_eq_some_iff.mp captured
      rw [if_pos ⟨_, _, whole.symm⟩, whole]
      simp only [true_iff, not_exists]
      intro parentAttachment
      exact attachmentPrefix_append_ne present
  | none =>
      -- The anchor is the node, although the attachment may start with a prefix.
      obtain ⟨anchored, rfl⟩ : object.anchorNode ≠ [] ∧ ⟨object.anchorNode, true⟩ = node := by
        simpa [captured] using chosen
      simp only [prefix_iff_of_not_captured captured]
      split
      · next bare =>
          obtain ⟨parentAttachment, same⟩ := bare
          rw [same]
          exact iff_of_false (attachmentPrefix_append_ne anchored).symm (not_not_intro ⟨_, rfl⟩)
      · next named =>
          rw [expectedAttachment_eq]
          exact iff_of_true rfl named

/-! ## What is dispatched for an item -/

section Dispatched

variable (itemName name : ByteString) (remoteForm : TESForm) (node : NodeSelection)
  (leftWeapon : Bool)

/-- The two modes dispatched for an item are its attachment mode. -/
theorem dispatchedModes_configureRemoteItem :
    dispatchedModes (configureRemoteItem itemName remoteForm node leftWeapon) name =
      if itemName = name then List.replicate 2 (if node.parentAttachment then 1 else 0) else [] := by
  by_cases same : itemName = name <;> cases leftWeapon <;>
    simp [dispatchedModes, configureRemoteItem, same]

/-- The three nodes dispatched for an item are its node. -/
theorem dispatchedNodes_configureRemoteItem :
    dispatchedNodes (configureRemoteItem itemName remoteForm node leftWeapon) name =
      if itemName = name then List.replicate 3 node.node else [] := by
  by_cases same : itemName = name <;> cases leftWeapon <;>
    simp [dispatchedNodes, configureRemoteItem, same]

end Dispatched

/-- What is read off the calls for one name belongs to the only item of that name. -/
theorem filterMap_applyCalls_of_mem {game : GameData} {state : LocalIEDState} {item : RenderedItem}
    (member : item ∈ renderItems game state) {β : Type} {read : PapyrusCall → Option β}
    (block : read .removeActorBlock = none) (deleted : read .deleteAllActor = none)
    (evaluated : read .evaluate = none)
    (silent : ∀ other ∈ renderItems game state,
      other.tracked.itemName ≠ item.tracked.itemName → other.calls.filterMap read = []) :
    (applyCalls game state).filterMap read = item.calls.filterMap read := by
  rw [filterMap_applyCalls block deleted evaluated]
  refine flatMap_eq_of_nodup ?_ member silent
  simpa [trackedObjects, Function.comp_def] using nodup_itemNames game state

/-- Every call for the name of an item has the mode and the node of this item. -/
theorem dispatched_applyCalls {game : GameData} {state : LocalIEDState} {item : RenderedItem}
    (member : item ∈ renderItems game state) {remoteForm : TESForm} {node : NodeSelection}
    {leftWeapon : Bool}
    (calls : item.calls = configureRemoteItem item.tracked.itemName remoteForm node leftWeapon) :
    dispatchedModes (applyCalls game state) item.tracked.itemName =
        List.replicate 2 (if node.parentAttachment then 1 else 0) ∧
      dispatchedNodes (applyCalls game state) item.tracked.itemName =
        List.replicate 3 node.node := by
  have silent {other : RenderedItem} (inside : other ∈ renderItems game state)
      (apart : other.tracked.itemName ≠ item.tracked.itemName) :
      dispatchedModes other.calls item.tracked.itemName = [] ∧
        dispatchedNodes other.calls item.tracked.itemName = [] := by
    obtain ⟨remoteForm, node, leftWeapon, calls, _⟩ := exists_of_mem_renderItems inside
    rw [calls, dispatchedModes_configureRemoteItem, dispatchedNodes_configureRemoteItem,
      if_neg apart, if_neg apart]
    exact ⟨rfl, rfl⟩
  constructor
  · rw [dispatchedModes, filterMap_applyCalls_of_mem member rfl rfl rfl fun _ inside apart =>
      (silent inside apart).1, calls]
    exact (dispatchedModes_configureRemoteItem _ _ _ _ _).trans (if_pos rfl)
  · rw [dispatchedNodes, filterMap_applyCalls_of_mem member rfl rfl rfl fun _ inside apart =>
      (silent inside apart).2, calls]
    exact (dispatchedNodes_configureRemoteItem _ _ _ _ _).trans (if_pos rfl)

/-- An entry looks for the parent of its item unless it is a custom entry with a bare
prefix for its attachment. -/
theorem searchesCreated_iff {game : GameData} {state : LocalIEDState} {item : RenderedItem}
    (member : item ∈ renderItems game state) :
    SearchesCreated (applyCalls game state) item.tracked ↔
      ¬ (item.tracked.object.kind = .kCustom ∧ item.tracked.object.BarePrefix) := by
  obtain ⟨remoteForm, node, leftWeapon, calls, _, kinds⟩ := exists_of_mem_renderItems member
  obtain ⟨modes, nodes⟩ := dispatched_applyCalls member calls
  have created : createdParent (if node.parentAttachment then 1 else 0) node.node =
      expectedAttachment node := by
    rw [expectedAttachment_eq, createdParent]
    cases node.parentAttachment <;> rfl
  have reduced : SearchesCreated (applyCalls game state) item.tracked ↔
      item.tracked.expectedAttachment = expectedAttachment node := by
    rw [SearchesCreated, modes, nodes, ← created]
    simp
  rw [reduced]
  rcases kinds with ⟨slot, same⟩ | ⟨custom, chosen, same⟩
  · rw [same, slot]
    simp
  · rw [same, customAttachment_eq_iff chosen, custom]
    simp

/-- Every entry of a rendering `Apply` looks for the parent that was dispatched for its
item, except exactly the custom entries with a bare prefix for their attachment. -/
theorem watched_parent_iff (game : GameData) {environment : GameEnvironment}
    {renderer : RemoteIEDRenderer} {request : ApplyRequest}
    (renders : renderer.Renders environment request) :
    ∃ tracked,
      (renderer.apply game environment request).renderer.trackedProxies.lookup
          request.proxyFormID = some tracked ∧
        ∀ entry ∈ tracked.objects,
          SearchesCreated (renderer.apply game environment request).calls entry ↔
            ¬ (entry.object.kind = .kCustom ∧ entry.object.BarePrefix) := by
  refine ⟨_, lookup_apply_of_renders game renders, ?_⟩
  rw [renderer.apply_calls, if_pos renders]
  intro entry member
  obtain ⟨item, rendered, rfl⟩ := List.mem_map.mp member
  exact searchesCreated_iff rendered

/-- The sword and the shield are looked for where they were created. -/
theorem gear_watched :
    ∃ tracked, gearShown.trackedProxies.lookup 0xFF000800 = some tracked ∧
      ∀ entry ∈ tracked.objects, SearchesCreated (applyCalls armory gearState) entry ↔
        ¬ (entry.object.kind = .kCustom ∧ entry.object.BarePrefix) :=
  watched_parent_iff armory gearState_renders

/-- A custom sword whose attachment has lost its node, beside the spine. -/
def strayedSword : CapturedIEDObject :=
  { hipSword with
    kind := .kCustom
    slot := none
    attachmentNode := ascii "OBJECT R "
    anchorNode := ascii "NPC Spine2" }

/-- A state with the strayed sword alone. -/
def strayedState : LocalIEDState := ⟨Vector.replicate 19 none, [strayedSword]⟩

/-- A decoded custom object with a bare prefix is created below its anchor and looked for
elsewhere. -/
theorem strayedSword_not_found :
    let outcome := RemoteIEDRenderer.initial.apply skyrim (acceptingFrom 0)
      (sampleRequest strayedState)
    decodeLocalIEDState (encodeLocalIEDState strayedState) = some strayedState ∧
      ∃ tracked, outcome.renderer.trackedProxies.lookup 0xFF000800 = some tracked ∧
        ∃ entry ∈ tracked.objects,
          entry.expectedAttachment = ascii "OBJECT R " ∧
            dispatchedModes outcome.calls entry.itemName = List.replicate 2 1 ∧
            dispatchedNodes outcome.calls entry.itemName =
              List.replicate 3 (ascii "NPC Spine2") ∧
            ¬ SearchesCreated outcome.calls entry := by
  intro outcome
  have renders : RemoteIEDRenderer.initial.Renders (acceptingFrom 0)
      (sampleRequest strayedState) := by decide
  have onGrid : ∀ object ∈ strayedState.objects, object.OnGrid := by
    simp only [strayedState, List.mem_singleton, forall_eq]
    exact CapturedIEDObject.onGrid_of_replicate rfl rfl ⟨0, by norm_num⟩ ⟨0, by norm_num⟩
      ⟨1000000, by norm_num [strayedSword, hipSword]⟩
  have bounded : ∀ object ∈ strayedState.objects, object.SlotBounded := by
    simp [strayedState, CapturedIEDObject.SlotBounded, strayedSword]
  refine ⟨by rw [decode_encode bounded, if_pos (by decide), strayedState.rounded_eq onGrid],
    _, lookup_apply_of_renders skyrim renders, ?_⟩
  have calls : outcome.calls = applyCalls skyrim strayedState := by
    rw [RemoteIEDRenderer.apply_calls, if_pos renders]
    rfl
  let form : TESForm := ⟨0x12EB7, some ⟨skyrimSword.plugin, false⟩⟩
  have items : renderItems skyrim strayedState =
      [customItem 0 strayedSword ⟨ascii "NPC Spine2", true⟩ form] := by rfl
  have member : customItem 0 strayedSword ⟨ascii "NPC Spine2", true⟩ form ∈
      renderItems skyrim strayedState := by
    rw [items]
    exact List.mem_singleton_self _
  refine ⟨_, List.mem_map_of_mem member, by rfl, ?_⟩
  rw [calls, searchesCreated_iff member]
  decide

end IEDSyncTogether
