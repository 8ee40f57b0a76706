import IEDSyncTogether.Capture.SceneScan
import IEDSyncTogether.State.RoundTrip
import Mathlib.Data.List.Lex
import Mathlib.Data.Prod.Lex

/-!
# The local capture

`CompleteCapture` turns the queried slots and the scene into a state, encodes it,
and reports it if the payload differs from the last one. `std::sort` is any sort
by the comparator; it is a parameter with its guarantees as fields.
-/

namespace IEDSyncTogether

open Base

/-- `operator<` of two optional slots: an absent slot comes first. -/
def slotBefore : Option UInt32 → Option UInt32 → Bool
  | none, some _ => true
  | some first, some second => first < second
  | _, none => false

/-- The comparator of `CompleteCapture`. -/
def captureBefore (lhs rhs : CapturedIEDObject) : Bool :=
  if lhs.form.plugin ≠ rhs.form.plugin then
    lhs.form.plugin.map UInt8.toNat < rhs.form.plugin.map UInt8.toNat
  else if lhs.form.localFormID ≠ rhs.form.localFormID then
    lhs.form.localFormID < rhs.form.localFormID
  else if lhs.slot ≠ rhs.slot then slotBefore lhs.slot rhs.slot
  else if lhs.attachmentNode ≠ rhs.attachmentNode then
    lhs.attachmentNode.map UInt8.toNat < rhs.attachmentNode.map UInt8.toNat
  else lhs.objectNode.map UInt8.toNat < rhs.objectNode.map UInt8.toNat

/-- A sort by the comparator, not necessarily stable. -/
structure ObjectSort where
  sort : List CapturedIEDObject → List CapturedIEDObject
  perm : ∀ objects, (sort objects).Perm objects
  ordered : ∀ objects,
    (sort objects).Pairwise fun first second => captureBefore second first = false

/-- Float comparison of two arrays, which does not tell the zeros apart. -/
def sameNumbers {count : Nat} (lhs rhs : Vector ExactFloat count) : Bool :=
  lhs.map ExactFloat.toRat = rhs.map ExactFloat.toRat

/-- `SameLogicalObject`: all fields, with numbers compared by value. -/
def sameLogicalObject (lhs rhs : CapturedIEDObject) : Bool :=
  lhs.kind = rhs.kind ∧ lhs.form = rhs.form ∧ lhs.slot = rhs.slot ∧ lhs.visible = rhs.visible ∧
    lhs.objectNode = rhs.objectNode ∧ lhs.attachmentNode = rhs.attachmentNode ∧
    lhs.anchorNode = rhs.anchorNode ∧ sameNumbers lhs.position rhs.position ∧
    sameNumbers lhs.rotationMatrix rhs.rotationMatrix ∧ lhs.scale.toRat = rhs.scale.toRat

/-- `std::unique` behind a kept element: the next one is kept if it differs. -/
def uniqueAfter (kept : CapturedIEDObject) : List CapturedIEDObject → List CapturedIEDObject
  | [] => []
  | object :: objects =>
    if sameLogicalObject kept object then uniqueAfter kept objects
    else object :: uniqueAfter object objects

/-- `std::unique`: of a run of equal neighbours the first one stays. -/
def unique : List CapturedIEDObject → List CapturedIEDObject
  | [] => []
  | object :: objects => object :: uniqueAfter object objects

/-- The form IDs of the occupied slots, 0 for an empty or unknown one. -/
def slottedForms (game : GameData) (slots : SlotState) : Vector FormID 19 :=
  slots.map fun slot =>
    match slot.bind game.resolveFormIdentity with
    | none => 0
    | some form => form.formID

/-- A slot has the FormID its identity resolves to on the sender, or zero. -/
theorem slottedForms_getElem (game : GameData) (slots : SlotState) (slot : Fin 19) :
    (slottedForms game slots).get slot =
      match (slots.get slot).bind game.resolveFormIdentity with
      | none => 0
      | some form => form.formID :=
  Vector.getElem_map _ slot.isLt

/-- The state `CompleteCapture` builds; there is no scene without a loaded player. -/
def captureState (game : GameData) (sorting : ObjectSort) (scene : Option PlayerScene)
    (slots : SlotState) : LocalIEDState where
  slots
  objects :=
    match scene with
    | none => unique (sorting.sort [])
    | some scene => unique (sorting.sort (scene.scan game (slottedForms game slots)))

/-- The running probe with the last state it reported and that state's payload. -/
structure LocalCaptureProbe where
  running : Bool
  captureInFlight : Bool
  lastState : LocalIEDState
  lastPayload : ByteString
  /-- A state-changed handler is installed. -/
  handlerSet : Bool

/-- The probe after a completed capture, whether the capture was stored, and the
state and payload handed to the handler. -/
structure CaptureOutcome where
  probe : LocalCaptureProbe
  stored : Bool
  reported : Option (LocalIEDState × ByteString)

namespace LocalCaptureProbe

/-- A started probe that has captured nothing yet. -/
def started : LocalCaptureProbe where
  running := true
  captureInFlight := false
  lastState := ⟨Vector.replicate 19 none, []⟩
  lastPayload := []
  handlerSet := true

/-- `Reset`: what was reported last is forgotten. -/
def reset (probe : LocalCaptureProbe) : LocalCaptureProbe :=
  { probe with
    lastState := ⟨Vector.replicate 19 none, []⟩
    lastPayload := []
    captureInFlight := false }

/-- `CompleteCapture`: the captured state is reported if its payload is new. -/
def completeCapture (game : GameData) (sorting : ObjectSort) (scene : Option PlayerScene)
    (probe : LocalCaptureProbe) (slots : SlotState) : CaptureOutcome :=
  let state := captureState game sorting scene slots
  let payload := encodeLocalIEDState state
  if payload ≠ probe.lastPayload then
    { probe := { probe with
        lastState := state
        lastPayload := payload
        captureInFlight := false }
      stored := true
      reported := if probe.handlerSet then some (state, payload) else none }
  else ⟨{ probe with captureInFlight := false }, false, none⟩

end LocalCaptureProbe

/-! ## The comparator -/

/-- The fields the comparator looks at, in their order. -/
def captureKey (object : CapturedIEDObject) : List ℕ ×ₗ ℕ ×ₗ ℕ ×ₗ List ℕ ×ₗ List ℕ :=
  toLex (object.form.plugin.map UInt8.toNat, toLex (object.form.localFormID.toNat,
    toLex (object.slot.elim 0 (·.toNat + 1), toLex (object.attachmentNode.map UInt8.toNat,
      object.objectNode.map UInt8.toNat))))

theorem map_toNat_inj {first second : ByteString} :
    first.map UInt8.toNat = second.map UInt8.toNat ↔ first = second :=
  (List.map_injective_iff.mpr fun _ _ same => UInt8.toNat_inj.mp same).eq_iff

/-- `std::optional` orders the empty slot in front of every other. -/
theorem slotBefore_eq (first second : Option UInt32) :
    slotBefore first second =
      decide (first.elim 0 (·.toNat + 1) < second.elim 0 (·.toNat + 1)) := by
  cases first <;> cases second <;> simp [slotBefore, UInt32.lt_iff_toNat_lt]

theorem slotRank_inj {first second : Option UInt32} :
    first.elim 0 (·.toNat + 1) = second.elim 0 (·.toNat + 1) ↔ first = second := by
  cases first <;> cases second <;> simp [UInt32.toNat_inj]

/-- The comparator is the lexicographic order of the keys. -/
theorem captureBefore_eq (lhs rhs : CapturedIEDObject) :
    captureBefore lhs rhs = decide (captureKey lhs < captureKey rhs) := by
  simp only [captureKey, Prod.Lex.toLex_lt_toLex, map_toNat_inj, UInt32.toNat_inj, slotRank_inj]
  unfold captureBefore
  by_cases plugin : lhs.form.plugin = rhs.form.plugin
  · by_cases localID : lhs.form.localFormID = rhs.form.localFormID
    · by_cases slot : lhs.slot = rhs.slot
      · by_cases attachment : lhs.attachmentNode = rhs.attachmentNode
        · simp [plugin, localID, slot, attachment]
        · simp [plugin, localID, slot, attachment]
      · simp [plugin, localID, slot, slotBefore_eq]
    · simp [plugin, localID, UInt32.lt_iff_toNat_lt]
  · simp [plugin]

/-- The order the sort has to establish. -/
def captureAtMost (first second : CapturedIEDObject) : Bool :=
  captureKey first ≤ captureKey second

/-- A sort by the comparator exists. -/
def captureSort : ObjectSort where
  sort objects := objects.mergeSort captureAtMost
  perm objects := List.mergeSort_perm objects captureAtMost
  ordered objects := by
    have transitive : ∀ a b c, captureAtMost a b = true → captureAtMost b c = true →
        captureAtMost a c = true := by
      simp only [captureAtMost, decide_eq_true_eq]
      exact fun a b c => le_trans
    have total : ∀ a b, (captureAtMost a b || captureAtMost b a) = true := by
      simp only [captureAtMost, Bool.or_eq_true, decide_eq_true_eq]
      exact fun a b => le_total _ _
    refine (List.pairwise_mergeSort transitive total objects).imp ?_
    intro first second before
    rw [captureBefore_eq, decide_eq_false_iff_not, not_lt]
    exact of_decide_eq_true before
/-! ## The captured objects -/

/-- `unique` only drops an object behind a logically equal one. -/
theorem exists_same_of_mem_unique {objects : List CapturedIEDObject} {object : CapturedIEDObject}
    (member : object ∈ objects) :
    ∃ kept ∈ unique objects, kept = object ∨ sameLogicalObject kept object := by
  have after : ∀ (rest : List CapturedIEDObject) (kept : CapturedIEDObject), object ∈ rest →
      ∃ other ∈ kept :: uniqueAfter kept rest, other = object ∨ sameLogicalObject other object := by
    intro rest
    induction rest with
    | nil => intro kept inside; cases inside
    | cons first rest ih =>
        intro kept inside
        rw [uniqueAfter]
        split
        · next same =>
            rcases List.mem_cons.mp inside with rfl | later
            · exact ⟨kept, List.mem_cons_self, .inr same⟩
            · exact ih kept later
        · rcases List.mem_cons.mp inside with rfl | later
          · exact ⟨object, List.mem_cons_of_mem _ List.mem_cons_self, .inl rfl⟩
          · obtain ⟨other, among, same⟩ := ih first later
            exact ⟨other, List.mem_cons_of_mem _ among, same⟩
  cases objects with
  | nil => cases member
  | cons first rest =>
      rcases List.mem_cons.mp member with rfl | later
      · exact ⟨object, List.mem_cons_self, .inl rfl⟩
      · exact after rest first later

theorem mem_of_mem_unique {objects : List CapturedIEDObject} {object : CapturedIEDObject}
    (member : object ∈ unique objects) : object ∈ objects := by
  have after : ∀ (rest : List CapturedIEDObject) (kept : CapturedIEDObject),
      object ∈ uniqueAfter kept rest → object ∈ rest := by
    intro rest
    induction rest with
    | nil => intro kept inside; cases inside
    | cons first rest ih =>
        intro kept inside
        rw [uniqueAfter] at inside
        split at inside
        · exact List.mem_cons_of_mem _ (ih kept inside)
        · rcases List.mem_cons.mp inside with rfl | later
          · exact List.mem_cons_self
          · exact List.mem_cons_of_mem _ (ih first later)
  cases objects with
  | nil => cases member
  | cons first rest =>
      rcases List.mem_cons.mp member with rfl | later
      · exact List.mem_cons_self
      · exact List.mem_cons_of_mem _ (after rest first later)

/-- What a loaded node yields is captured, or something logically equal is. -/
theorem exists_captured {game : GameData} (sorting : ObjectSort) {scene : PlayerScene}
    {slots : SlotState} {address : Fin scene.count} {object : CapturedIEDObject}
    (loaded : scene.Loaded address)
    (yields : scene.captureObject game (slottedForms game slots) address = some object) :
    ∃ kept ∈ (captureState game sorting (some scene) slots).objects,
      kept = object ∨ sameLogicalObject kept object :=
  exists_same_of_mem_unique
    ((sorting.perm _).mem_iff.mpr (PlayerScene.mem_scan_iff.mpr ⟨address, loaded, yields⟩))

/-- Every captured object comes from a loaded node of the scene. -/
theorem exists_of_mem_captureState {game : GameData} {sorting : ObjectSort}
    {scene : Option PlayerScene} {slots : SlotState} {object : CapturedIEDObject}
    (member : object ∈ (captureState game sorting scene slots).objects) :
    ∃ loaded ∈ scene, ∃ address, loaded.Loaded address ∧
      loaded.captureObject game (slottedForms game slots) address = some object := by
  cases scene with
  | none =>
      have listed := (sorting.perm []).mem_iff.mp (mem_of_mem_unique member)
      cases listed
  | some scene =>
      have listed := (sorting.perm _).mem_iff.mp (mem_of_mem_unique member)
      exact ⟨scene, rfl, PlayerScene.mem_scan_iff.mp listed⟩

/-- The cast of `FindSlot` keeps the index. -/
theorem findSlot_map_toNat (formID : FormID) (slottedForms : Vector FormID 19) :
    (findSlot formID slottedForms).map UInt32.toNat =
      slottedForms.toList.findIdx? (· = formID) := by
  cases located : slottedForms.toList.findIdx? (· = formID) with
  | none => simp [findSlot, located]
  | some index =>
      obtain ⟨inside, _⟩ := List.findIdx?_eq_some_iff_getElem.mp located
      have small : index < 2 ^ 32 := by
        have count : slottedForms.toList.length = 19 := by simp
        omega
      rw [findSlot, located, Option.map_some, Option.map_some, Nat.toUInt32,
        UInt32.toNat_ofNat_of_lt' small]

/-- `FindSlot` finds the first slot with the form. -/
theorem findSlot_iff {formID : FormID} {slottedForms : Vector FormID 19} {slot : Fin 19} :
    (findSlot formID slottedForms).map UInt32.toNat = some slot.val ↔
      slottedForms.get slot = formID ∧ ∀ earlier < slot, slottedForms.get earlier ≠ formID := by
  rw [findSlot_map_toNat, List.findIdx?_eq_some_iff_getElem]
  constructor
  · rintro ⟨inside, here, before⟩
    refine ⟨by simpa using here, ?_⟩
    intro earlier smaller
    simpa using before earlier.val smaller
  · rintro ⟨here, before⟩
    refine ⟨by simp, by simpa using here, ?_⟩
    intro index smaller
    simpa using before ⟨index, by omega⟩ smaller

/-- The slot index found for a form is one of the 19. -/
theorem findSlot_lt {formID : FormID} {slottedForms : Vector FormID 19} {slot : UInt32}
    (found : findSlot formID slottedForms = some slot) : slot.toNat < 19 := by
  have located := findSlot_map_toNat formID slottedForms
  rw [found, Option.map_some] at located
  obtain ⟨inside, _⟩ := List.findIdx?_eq_some_iff_getElem.mp located.symm
  simpa using inside

/-- A captured object carries the identity of a known form. -/
theorem PlayerScene.captureObject_eq_some {scene : PlayerScene} {game : GameData}
    {forms : Vector FormID 19} {address : Fin scene.count} {captured : CapturedIEDObject}
    (yields : scene.captureObject game forms address = some captured) :
    ∃ formID form, parseIEDObjectFormID (scene.object address).name = some formID ∧
      game.lookupByID formID = some form ∧ (makeFormIdentity (some form)).isSome ∧
      captured = scene.makeCapturedObject game address formID (findSlot formID forms) := by
  obtain ⟨formID, parsed, rest⟩ := Option.bind_eq_some_iff.mp yields
  obtain ⟨form, known, identified⟩ := Option.bind_eq_some_iff.mp rest
  split at identified
  · next persistent =>
      cases identified
      exact ⟨formID, form, parsed, known, persistent, rfl⟩
  · cases identified

/-- Captured objects have slot indices the wire format can carry. -/
theorem slotBounded_of_mem_captureState {game : GameData} {sorting : ObjectSort}
    {scene : Option PlayerScene} {slots : SlotState} {object : CapturedIEDObject}
    (member : object ∈ (captureState game sorting scene slots).objects) :
    object.SlotBounded := by
  obtain ⟨loaded, _, address, _, captured⟩ := exists_of_mem_captureState member
  obtain ⟨formID, form, _, _, _, rfl⟩ := PlayerScene.captureObject_eq_some captured
  intro slot found
  exact (findSlot_lt found).trans (by decide)

/-- A captured state is accepted exactly if the slots can be addressed. -/
theorem decode_captureState (game : GameData) (sorting : ObjectSort) (scene : Option PlayerScene)
    (slots : SlotState) :
    decodeLocalIEDState (encodeLocalIEDState (captureState game sorting scene slots)) =
      if Addressable slots then some (captureState game sorting scene slots).rounded else none :=
  decode_encode fun _ member => slotBounded_of_mem_captureState member

/-- The slots of queried forms can be addressed exactly if no form with an identity
has the local form ID 0. -/
theorem addressable_queried_iff (queried : Vector (Option TESForm) 19) :
    Addressable (queried.map makeFormIdentity) ↔
      ∀ form, some form ∈ queried.toList → (makeFormIdentity (some form)).isSome →
        form.getLocalFormID ≠ 0 := by
  simp only [Addressable, Vector.toList_map, List.mem_map, forall_exists_index, and_imp,
    forall_apply_eq_imp_iff₂]
  constructor
  · intro accepted form member identified
    obtain ⟨identity, made⟩ := Option.isSome_iff_exists.mp identified
    rw [← localFormID_of_makeFormIdentity made]
    exact (accepted (some form) member identity made).2
  · intro nonzero queriedForm member identity made
    cases queriedForm with
    | none => cases made
    | some form =>
        refine ⟨plugin_ne_nil_of_makeFormIdentity made, ?_⟩
        rw [localFormID_of_makeFormIdentity made]
        exact nonzero form member (Option.isSome_iff_exists.mpr ⟨identity, made⟩)

/-- The sender's payload is accepted by the decoder exactly if no queried form with
an identity has the local form ID 0. -/
theorem captured_payload_accepted_iff (game : GameData) (sorting : ObjectSort)
    (scene : Option PlayerScene) (queried : Vector (Option TESForm) 19) :
    (decodeLocalIEDState (encodeLocalIEDState
        (captureState game sorting scene (queried.map makeFormIdentity)))).isSome ↔
      ∀ form, some form ∈ queried.toList → (makeFormIdentity (some form)).isSome →
        form.getLocalFormID ≠ 0 := by
  rw [decode_captureState, Option.isSome_ite, addressable_queried_iff]

/-- The first form of a plugin, whose local form ID is 0, is captured and then
refused by every receiver. -/
theorem zero_local_form_refused :
    let form : TESForm := ⟨0x01000000, some ⟨ascii "Foo.esp", false⟩⟩
    let queried : Vector (Option TESForm) 19 :=
      (Vector.replicate 19 none).set 0 (some form) (by decide)
    (makeFormIdentity (some form)).isSome = true ∧
      decodeLocalIEDState (encodeLocalIEDState
        (captureState skyrim captureSort none (queried.map makeFormIdentity))) = none := by
  intro form queried
  have identified : (makeFormIdentity (some form)).isSome = true := by decide
  refine ⟨identified, ?_⟩
  rw [decode_captureState, if_neg]
  intro addressable
  exact (addressable_queried_iff queried).mp addressable form (by decide) identified (by decide)

end IEDSyncTogether
