import IEDSyncTogether.Base.Settling
import IEDSyncTogether.Render.Cache
import Mathlib.Data.List.Nodup

/-!
# What a watchdog tick repairs

The search finds the first node with an item's form and parent, so all items with
one form and parent look at one node. A tick repairs every item exactly if the
items of each such node settle at once and the others find their own nodes in place.
-/

namespace IEDSyncTogether

open Base

/-- The entry is a node for this form below this attachment. -/
def SceneEntry.Carries (entry : SceneEntry) (remoteFormID : FormID)
    (expectedAttachment : ByteString) : Prop :=
  parseIEDObjectFormID entry.name = some remoteFormID ∧ entry.parentName = expectedAttachment

instance (entry : SceneEntry) (remoteFormID : FormID) (expectedAttachment : ByteString) :
    Decidable (entry.Carries remoteFormID expectedAttachment) :=
  inferInstanceAs (Decidable (_ ∧ _))

section Search

variable (remoteFormID : FormID) (expectedAttachment : ByteString)

mutual

/-- The search finds the first entry in preorder. -/
theorem findRemoteIEDObject_eq (parentName : ByteString) : (node : SceneNode) →
    findRemoteIEDObject remoteFormID expectedAttachment parentName node =
      ((node.entries parentName).find? (·.Carries remoteFormID expectedAttachment)).map
        SceneEntry.address
  | .node address name children => by
      rw [findRemoteIEDObject, SceneNode.entries, List.find?_cons]
      split
      · next carries => simp [SceneEntry.Carries, carries]
      · next other =>
          have misses : decide (SceneEntry.Carries ⟨address, name, parentName⟩ remoteFormID
              expectedAttachment) = false := decide_eq_false other
          rw [misses, findAmongChildren_eq name children]

/-- The search below a node is a search in the entries of the scene below it. -/
theorem findAmongChildren_eq (parentName : ByteString) : (children : List SceneNode) →
    findAmongChildren remoteFormID expectedAttachment parentName children =
      ((childEntries parentName children).find?
        (·.Carries remoteFormID expectedAttachment)).map SceneEntry.address
  | [] => by simp [findAmongChildren, childEntries]
  | child :: children => by
      rw [findAmongChildren, childEntries, List.find?_append, findRemoteIEDObject_eq parentName child,
        findAmongChildren_eq parentName children]
      cases (child.entries parentName).find? (·.Carries remoteFormID expectedAttachment) <;> rfl

end

end Search

/-- The items look for a node with the same form and parent. -/
def SameNode (first second : TrackedRemoteObject) : Prop :=
  first.remoteFormID = second.remoteFormID ∧
    first.expectedAttachment = second.expectedAttachment

instance (first second : TrackedRemoteObject) : Decidable (SameNode first second) :=
  inferInstanceAs (Decidable (_ ∧ _))

namespace ProxyScene

/-- The node at the address has the item's form and hangs where it should. -/
def Carries (scene : ProxyScene) (tracked : TrackedRemoteObject) (address : Nat) : Prop :=
  ∃ entry ∈ scene.entries, entry.address = address ∧
    entry.Carries tracked.remoteFormID tracked.expectedAttachment

instance (scene : ProxyScene) (tracked : TrackedRemoteObject) (address : Nat) :
    Decidable (scene.Carries tracked address) :=
  inferInstanceAs (Decidable (∃ entry ∈ scene.entries, _ ∧ _))

variable {scene : ProxyScene} {tracked other : TrackedRemoteObject} {address : Nat}

/-- The search returns the first entry that carries the item. -/
theorem findObject_eq (scene : ProxyScene) (tracked : TrackedRemoteObject) :
    scene.findObject tracked =
      (scene.entries.find?
        (·.Carries tracked.remoteFormID tracked.expectedAttachment)).map SceneEntry.address :=
  findRemoteIEDObject_eq _ _ _ _

/-- What the search returns carries the item. -/
theorem carries_of_findObject (found : scene.findObject tracked = some address) :
    scene.Carries tracked address := by
  rw [findObject_eq] at found
  obtain ⟨entry, first, rfl⟩ := Option.map_eq_some_iff.mp found
  exact ⟨entry, List.mem_of_find?_eq_some first, rfl, by simpa using List.find?_some first⟩

/-- A node belongs to one form and one attachment. -/
theorem sameNode_of_carries (here : scene.Carries tracked address)
    (there : scene.Carries other address) : SameNode tracked other := by
  obtain ⟨entry, member, rfl, form, attachment⟩ := here
  obtain ⟨twin, among, same, twinForm, twinAttachment⟩ := there
  obtain rfl : twin = entry := List.inj_on_of_nodup_map scene.distinct among member same
  exact ⟨Option.some.inj (form.symm.trans twinForm), attachment.symm.trans twinAttachment⟩

/-- Two items with a node in common look for the same node. -/
theorem findObject_congr (here : scene.Carries tracked address)
    (there : scene.Carries other address) : scene.findObject tracked = scene.findObject other := by
  obtain ⟨form, attachment⟩ := sameNode_of_carries here there
  rw [findObject, findObject, form, attachment]

/-- The search returns a node as soon as one carries the item. -/
theorem exists_findObject (carries : scene.Carries tracked address) :
    ∃ first, scene.findObject tracked = some first := by
  obtain ⟨entry, member, _, matching⟩ := carries
  have some : (scene.entries.find?
      (·.Carries tracked.remoteFormID tracked.expectedAttachment)).isSome :=
    List.find?_isSome.mpr ⟨entry, member, by simpa using matching⟩
  obtain ⟨first, found⟩ := Option.isSome_iff_exists.mp some
  exact ⟨first.address, by rw [findObject_eq, found, Option.map_some]⟩

/-! ## One tick over a scene -/

/-- The transform is the captured one within the epsilons. -/
def InPlace (actual : NiTransform) (tracked : TrackedRemoteObject) : Bool :=
  !needsCorrection actual tracked.object

/-- The transform the watchdog gives the node of an item. -/
def captured (tracked : TrackedRemoteObject) : NiTransform := applyRawTransform tracked.object

/-- The items whose search ends at the address. -/
def itemsAt (scene : ProxyScene) (objects : List TrackedRemoteObject) (address : Nat) :
    List TrackedRemoteObject :=
  objects.filter fun tracked => scene.findObject tracked = some address

/-- The items at a node are those whose search ends there. -/
theorem mem_itemsAt {objects : List TrackedRemoteObject} :
    tracked ∈ scene.itemsAt objects address ↔
      tracked ∈ objects ∧ scene.findObject tracked = some address := by
  simp [itemsAt]

/-- A tick for one item leaves the nodes of the scene. -/
@[simp] theorem entries_tickObject (scene : ProxyScene) (tracked : TrackedRemoteObject) :
    (scene.tickObject tracked).1.entries = scene.entries := by
  unfold tickObject
  split
  · rfl
  · split <;> rfl

/-- A tick for one item changes no search. -/
@[simp] theorem findObject_tickObject (scene : ProxyScene) (tracked : TrackedRemoteObject) :
    (scene.tickObject tracked).1.findObject = scene.findObject := by
  funext other
  rw [findObject_eq, findObject_eq, entries_tickObject]

/-- A tick for one item writes its transform where its search ends, unless it is in place. -/
theorem tickObject_transform (scene : ProxyScene) (tracked : TrackedRemoteObject)
    (address : Nat) :
    (scene.tickObject tracked).1.transform address =
      if scene.findObject tracked = some address ∧
          InPlace (scene.transform address) tracked = false then captured tracked
      else scene.transform address := by
  unfold tickObject InPlace
  split
  · next missing => simp [missing]
  · next place found =>
      by_cases here : place = address
      · subst here
        split <;> simp_all [captured]
      · have other : address ≠ place := fun same => here same.symm
        split <;> simp [found, here, Function.update_of_ne other]

@[simp] theorem entries_tickObjects (scene : ProxyScene) (objects : List TrackedRemoteObject) :
    (scene.tickObjects objects).1.entries = scene.entries := by
  induction objects generalizing scene with
  | nil => rfl
  | cons tracked objects ih =>
      rw [tickObjects]
      simp only [ih, entries_tickObject]

@[simp] theorem findObject_tickObjects (scene : ProxyScene) (objects : List TrackedRemoteObject) :
    (scene.tickObjects objects).1.findObject = scene.findObject := by
  funext other
  rw [findObject_eq, findObject_eq, entries_tickObjects]

@[simp] theorem carries_tickObjects (scene : ProxyScene) (objects : List TrackedRemoteObject) :
    (scene.tickObjects objects).1.Carries = scene.Carries := by
  funext other place
  rw [Carries, Carries, entries_tickObjects]

/-- Each transform is settled for the items whose search ends there. -/
theorem tickObjects_transform (scene : ProxyScene) (objects : List TrackedRemoteObject)
    (address : Nat) :
    (scene.tickObjects objects).1.transform address =
      settle InPlace captured (scene.transform address) (scene.itemsAt objects address) := by
  induction objects generalizing scene with
  | nil => rfl
  | cons tracked objects ih =>
      have rest : (scene.tickObject tracked).1.itemsAt objects address =
          scene.itemsAt objects address := by rw [itemsAt, findObject_tickObject, itemsAt]
      rw [tickObjects]
      simp only [ih, rest, tickObject_transform]
      by_cases here : scene.findObject tracked = some address
      · have among : scene.itemsAt (tracked :: objects) address =
            tracked :: scene.itemsAt objects address := by simp [itemsAt, here]
        rw [among, settle_cons]
        cases InPlace (scene.transform address) tracked <;> simp [here]
      · have among : scene.itemsAt (tracked :: objects) address =
            scene.itemsAt objects address := by simp [itemsAt, here]
        simp [among, here]

/-- The item finds its node in place, if it finds one. -/
def Quiet (scene : ProxyScene) (tracked : TrackedRemoteObject) : Prop :=
  ∀ address, scene.findObject tracked = some address →
    InPlace (scene.transform address) tracked = true

/-- An item is not counted as corrected exactly if it is quiet. -/
theorem tickObject_corrections_iff (scene : ProxyScene) (tracked : TrackedRemoteObject) :
    (scene.tickObject tracked).2.corrections = tracked.corrections ↔ scene.Quiet tracked := by
  unfold tickObject Quiet InPlace
  split
  · next missing => simp [missing]
  · next place found => split <;> simp_all

/-- A quiet item leaves the scene alone. -/
theorem Quiet.tickObject (quiet : scene.Quiet tracked) : (scene.tickObject tracked).1 = scene := by
  unfold ProxyScene.tickObject
  split
  · rfl
  · next place found =>
      have fine : needsCorrection (scene.transform place) tracked.object = false := by
        simpa [InPlace] using quiet place found
      simp [fine]

/-- A tick corrects nothing exactly if every item is quiet. -/
theorem tickObjects_corrections_iff (scene : ProxyScene) (objects : List TrackedRemoteObject) :
    (scene.tickObjects objects).2.map TrackedRemoteObject.corrections =
        objects.map TrackedRemoteObject.corrections ↔
      ∀ tracked ∈ objects, scene.Quiet tracked := by
  induction objects with
  | nil => simp [tickObjects]
  | cons tracked objects ih =>
      rw [tickObjects, List.map_cons, List.map_cons, List.cons.injEq, tickObject_corrections_iff,
        List.forall_mem_cons]
      refine and_congr_right fun quiet => ?_
      rw [quiet.tickObject]
      exact ih

/-- The items after a tick look for the same nodes and transforms as before. -/
theorem forall_quiet_tickObjects (scene ticked : ProxyScene) (objects : List TrackedRemoteObject) :
    (∀ tracked ∈ (scene.tickObjects objects).2, ticked.Quiet tracked) ↔
      ∀ tracked ∈ objects, ticked.Quiet tracked := by
  have untouched (items : List TrackedRemoteObject) : (∀ tracked ∈ items, ticked.Quiet tracked) ↔
      ∀ tracked ∈ items.map TrackedRemoteObject.untouched, ticked.Quiet tracked := by
    rw [List.forall_mem_map]
    rfl
  rw [untouched, untouched_tickObjects, ← untouched]

/-! ## Captured transforms fit mutually -/

theorem maxDelta_comm {count : Nat} (first second : Vector ExactFloat count) :
    maxDelta first second = maxDelta second first := by
  unfold maxDelta
  congr 1
  funext delta index
  rw [abs_sub_comm]

theorem maxDelta_self {count : Nat} (numbers : Vector ExactFloat count) :
    maxDelta numbers numbers = 0 := by
  unfold maxDelta
  induction List.finRange count with
  | nil => rfl
  | cons index indices ih => simpa using ih

theorem clampFloat_of_mem {value low high : ExactFloat} (above : low.toRat ≤ value.toRat)
    (below : value.toRat ≤ high.toRat) : clampFloat value low high = value := by
  rw [clampFloat, if_neg (not_lt.mpr above), if_neg (not_lt.mpr below)]

/-- The scales the watchdog can reproduce. -/
def ScalesInRange (objects : List TrackedRemoteObject) : Prop :=
  ∀ tracked ∈ objects,
    1 / 100 ≤ tracked.object.scale.toRat ∧ tracked.object.scale.toRat ≤ 100

/-- A scale within the bounds is restored as captured. -/
theorem captured_eq {objects : List TrackedRemoteObject} (scales : ScalesInRange objects)
    (member : tracked ∈ objects) : captured tracked =
      ⟨tracked.object.rotationMatrix, tracked.object.position, tracked.object.scale⟩ := by
  obtain ⟨above, below⟩ := scales tracked member
  rw [captured, applyRawTransform, clampFloat_of_mem (by simpa using above)
    (by simpa using below)]

/-- An item is in place where it was put. -/
theorem inPlace_captured {objects : List TrackedRemoteObject} (scales : ScalesInRange objects)
    (member : tracked ∈ objects) : InPlace (captured tracked) tracked = true := by
  rw [captured_eq scales member]
  simp [InPlace, needsCorrection, maxMatrixDelta, maxPositionDelta, maxDelta_self,
    kRotationEpsilon, kPositionEpsilon, kScaleEpsilon]

/-- With scales in range an item is in place where another one was put exactly if
the other is in place where it was put. -/
theorem mutuallyFitting_of_scales {objects : List TrackedRemoteObject}
    (scales : ScalesInRange objects) : MutuallyFitting InPlace captured objects := by
  intro first one second two fits
  have symmetric : needsCorrection (captured second) first.object =
      needsCorrection (captured first) second.object := by
    rw [captured_eq scales one, captured_eq scales two, needsCorrection, needsCorrection,
      decide_eq_decide]
    simp only [maxMatrixDelta, maxPositionDelta, maxDelta_comm first.object.rotationMatrix,
      maxDelta_comm first.object.position, abs_sub_comm first.object.scale.toRat]
  rw [InPlace, symmetric]
  exact fits

/-! ## One tick repairs -/

/-- A node of its own for every item. -/
structure Assignment (scene : ProxyScene) (objects : List TrackedRemoteObject)
    (node : Fin objects.length → Nat) : Prop where
  injective : Function.Injective node
  carries : ∀ index, scene.Carries objects[index] (node index)

/-- The items have nodes of their own that show them. -/
def Shown (scene : ProxyScene) (objects : List TrackedRemoteObject) : Prop :=
  ∃ node, scene.Assignment objects node ∧
    ∀ index, InPlace (scene.transform (node index)) objects[index] = true

/-- Every node settles at once for the items whose search ends there, and the items
have nodes of their own, each the node its search ends at or one already in place. -/
structure Repairable (scene : ProxyScene) (objects : List TrackedRemoteObject) : Prop where
  settles : ∀ address,
    SettlesAtOnce InPlace captured (scene.transform address) (scene.itemsAt objects address)
  assigned : ∃ node, scene.Assignment objects node ∧
    ∀ index, scene.findObject objects[index] = some (node index) ∨
      InPlace (scene.transform (node index)) objects[index] = true

/-- A further tick corrects nothing exactly if every node settles at once. -/
theorem forall_quiet_iff_settles {objects : List TrackedRemoteObject}
    (scales : ScalesInRange objects) :
    (∀ tracked ∈ objects, (scene.tickObjects objects).1.Quiet tracked) ↔
      ∀ address, SettlesAtOnce InPlace captured (scene.transform address)
        (scene.itemsAt objects address) := by
  have settled (address : Nat) : (∀ tracked ∈ scene.itemsAt objects address,
      InPlace ((scene.tickObjects objects).1.transform address) tracked = true) ↔
        SettlesAtOnce InPlace captured (scene.transform address)
          (scene.itemsAt objects address) := by
    rw [tickObjects_transform]
    exact settle_fits_iff ((mutuallyFitting_of_scales scales).subset
      fun _ among => (mem_itemsAt.mp among).1)
  constructor
  · intro quiet address
    refine (settled address).mp fun tracked among => ?_
    obtain ⟨member, found⟩ := mem_itemsAt.mp among
    exact quiet tracked member address (by rwa [findObject_tickObjects])
  · intro settles tracked member address found
    rw [findObject_tickObjects] at found
    exact (settled address).mpr (settles address) tracked (mem_itemsAt.mpr ⟨member, found⟩)

/-- A node no search of its items ends at is left alone. -/
theorem tickObjects_transform_of_ne {objects : List TrackedRemoteObject}
    (carries : scene.Carries tracked address) (elsewhere : scene.findObject tracked ≠ some address) :
    (scene.tickObjects objects).1.transform address = scene.transform address := by
  have nobody : scene.itemsAt objects address = [] := by
    rw [itemsAt, List.filter_eq_nil_iff]
    intro other _ found
    rw [decide_eq_true_eq] at found
    exact elsewhere ((findObject_congr carries (carries_of_findObject found)).trans found)
  rw [tickObjects_transform, nobody]
  rfl

/-- After a tick all items are shown and a further tick corrects nothing exactly if
the scene was repairable. -/
theorem shown_and_quiet_iff {objects : List TrackedRemoteObject} (scales : ScalesInRange objects) :
    (scene.tickObjects objects).1.Shown objects ∧
        (∀ tracked ∈ objects, (scene.tickObjects objects).1.Quiet tracked) ↔
      scene.Repairable objects := by
  constructor
  · rintro ⟨⟨node, ⟨injective, carries⟩, shown⟩, quiet⟩
    rw [carries_tickObjects] at carries
    refine ⟨(forall_quiet_iff_settles scales).mp quiet, node, ⟨injective, carries⟩, ?_⟩
    intro index
    by_cases found : scene.findObject objects[index] = some (node index)
    · exact .inl found
    · have here := shown index
      rw [tickObjects_transform_of_ne (carries index) found] at here
      exact .inr here
  · rintro ⟨settles, node, ⟨injective, carries⟩, ready⟩
    have quiet := (forall_quiet_iff_settles scales).mpr settles
    refine ⟨⟨node, ⟨injective, ?_⟩, ?_⟩, quiet⟩
    · rwa [carries_tickObjects]
    · intro index
      by_cases found : scene.findObject objects[index] = some (node index)
      · exact quiet _ (List.getElem_mem _) _ (by rwa [findObject_tickObjects])
      · rw [tickObjects_transform_of_ne (carries index) found]
        exact (ready index).resolve_left found

/-- Among items that look for different nodes, at most one ends at an address. -/
theorem length_itemsAt_le_one {objects : List TrackedRemoteObject}
    (apart : objects.Pairwise fun first second => ¬ SameNode first second) (address : Nat) :
    (scene.itemsAt objects address).length ≤ 1 := by
  have alone : (scene.itemsAt objects address).Pairwise fun first second =>
      ¬ SameNode first second := apart.filter _
  have same : ∀ first ∈ scene.itemsAt objects address,
      ∀ second ∈ scene.itemsAt objects address, SameNode first second := by
    intro first one second two
    exact sameNode_of_carries (carries_of_findObject (mem_itemsAt.mp one).2)
      (carries_of_findObject (mem_itemsAt.mp two).2)
  match items : scene.itemsAt objects address with
  | [] => exact Nat.zero_le 1
  | [_] => exact Nat.le_refl 1
  | first :: second :: rest =>
      rw [items] at alone same
      exact absurd (same first (by simp) second (by simp))
        ((List.pairwise_cons.mp alone).1 second (by simp))

/-- Items no two of which look for the same node are repaired. -/
theorem repairable_of_apart {objects : List TrackedRemoteObject} (scales : ScalesInRange objects)
    (nodes : ∀ tracked ∈ objects, ∃ address, scene.Carries tracked address)
    (apart : objects.Pairwise fun first second => ¬ SameNode first second) :
    scene.Repairable objects where
  settles address := settlesAtOnce_of_alone (length_itemsAt_le_one apart address)
    fun _ among => inPlace_captured scales (mem_itemsAt.mp among).1
  assigned := by
    have found (index : Fin objects.length) :
        ∃ address, scene.findObject objects[index] = some address := by
      obtain ⟨_, carries⟩ := nodes objects[index] (List.getElem_mem _)
      exact exists_findObject carries
    choose node search using found
    refine ⟨node, ⟨?_, fun index => carries_of_findObject (search index)⟩,
      fun index => .inl (search index)⟩
    intro first second same
    by_contra differ
    have carries := carries_of_findObject (search second)
    rw [← same] at carries
    have shared := sameNode_of_carries (carries_of_findObject (search first)) carries
    rcases lt_or_gt_of_ne differ with before | after
    · exact List.pairwise_iff_getElem.mp apart _ _ _ _ before shared
    · exact List.pairwise_iff_getElem.mp apart _ _ _ _ after ⟨shared.1.symm, shared.2.symm⟩

end ProxyScene

/-! ## A tick of the renderer -/

namespace RemoteIEDRenderer

/-- What one tick does to the scene and the items of a loaded proxy. -/
theorem watchdogTick_of_loaded {renderer : RemoteIEDRenderer}
    {scenes : ProxyFormID → Option ProxyScene} {proxyFormID : ProxyFormID} {scene : ProxyScene}
    {tracked : TrackedProxyState} (loaded : scenes proxyFormID = some scene)
    (known : renderer.trackedProxies.lookup proxyFormID = some tracked) :
    (renderer.watchdogTick scenes).2 proxyFormID = some (scene.tickObjects tracked.objects).1 ∧
      (renderer.watchdogTick scenes).1.trackedProxies.lookup proxyFormID =
        some { tracked with objects := (scene.tickObjects tracked.objects).2 } := by
  simp [watchdogTick, loaded, known, UnorderedMap.lookup_mapValues]

/-- One tick repairs the proxy: afterwards its items have nodes of their own that
show them, and a second tick counts no correction. -/
def Repairs (renderer : RemoteIEDRenderer) (scenes : ProxyFormID → Option ProxyScene)
    (proxyFormID : ProxyFormID) (objects : List TrackedRemoteObject) : Prop :=
  let first := renderer.watchdogTick scenes
  let second := first.1.watchdogTick first.2
  ∃ scene once twice, first.2 proxyFormID = some scene ∧
    first.1.trackedProxies.lookup proxyFormID = some once ∧
    second.1.trackedProxies.lookup proxyFormID = some twice ∧
    scene.Shown objects ∧
    twice.objects.map TrackedRemoteObject.corrections =
      once.objects.map TrackedRemoteObject.corrections

/-- Whether a proxy is repaired is decided by its scene and its items. -/
theorem repairs_iff {renderer : RemoteIEDRenderer} {scenes : ProxyFormID → Option ProxyScene}
    {proxyFormID : ProxyFormID} {scene : ProxyScene} {tracked : TrackedProxyState}
    (loaded : scenes proxyFormID = some scene)
    (known : renderer.trackedProxies.lookup proxyFormID = some tracked) :
    renderer.Repairs scenes proxyFormID tracked.objects ↔
      (scene.tickObjects tracked.objects).1.Shown tracked.objects ∧
        ∀ item ∈ tracked.objects, (scene.tickObjects tracked.objects).1.Quiet item := by
  obtain ⟨loadedOnce, knownOnce⟩ := watchdogTick_of_loaded loaded known
  obtain ⟨_, knownTwice⟩ := watchdogTick_of_loaded loadedOnce knownOnce
  rw [← ProxyScene.forall_quiet_tickObjects scene, ← ProxyScene.tickObjects_corrections_iff]
  constructor
  · rintro ⟨ticked, once, twice, scenes, first, second, shown, same⟩
    cases loadedOnce.symm.trans scenes
    cases knownOnce.symm.trans first
    cases knownTwice.symm.trans second
    exact ⟨shown, same⟩
  · rintro ⟨shown, same⟩
    exact ⟨_, _, _, loadedOnce, knownOnce, knownTwice, shown, same⟩

/-- A watchdog tick repairs a loaded proxy with scales in range exactly if its scene
was repairable. -/
theorem watchdog_repairs_iff {renderer : RemoteIEDRenderer}
    {scenes : ProxyFormID → Option ProxyScene} {proxyFormID : ProxyFormID} {scene : ProxyScene}
    {tracked : TrackedProxyState} (loaded : scenes proxyFormID = some scene)
    (known : renderer.trackedProxies.lookup proxyFormID = some tracked)
    (scales : ProxyScene.ScalesInRange tracked.objects) :
    renderer.Repairs scenes proxyFormID tracked.objects ↔ scene.Repairable tracked.objects :=
  (repairs_iff loaded known).trans (ProxyScene.shown_and_quiet_iff scales)

end RemoteIEDRenderer

/-! ## Two items on one attachment -/

/-- An iron sword on the hip in a given size. -/
def hipItem (size : Nat) : TrackedRemoteObject where
  itemName := ascii "remote-custom-00"
  kind := .kCustom
  slot := none
  remoteFormID := 0x12EB7
  expectedAttachment := ascii "OBJECT R WeaponSword"
  object := { hipSword with scale := ⟨false, size⟩ }
  acquired := false
  corrections := 0

/-- Two sword nodes on one attachment, both as the first item wants them. -/
def hipScene : ProxyScene where
  rootParent := []
  root := .node 0 (ascii "NPC") [.node 1 (ascii "OBJECT R WeaponSword")
    [.node 2 (ascii "OBJECT [00012EB7]") [], .node 3 (ascii "OBJECT [00012EB7]") []]]
  transform _ := ProxyScene.captured (hipItem 1)
  distinct := by decide

/-- A renderer that tracks the given items on one proxy. -/
def trackingRenderer (objects : List TrackedRemoteObject) : RemoteIEDRenderer :=
  { RemoteIEDRenderer.initial with
    trackedProxies := (∅ : UnorderedMap ProxyFormID TrackedProxyState).insert 0xFF000800
      ⟨7, ascii "Lydia", objects⟩ }

/-- Whole scales from one to a hundred are in range. -/
theorem scalesInRange_of_whole {objects : List TrackedRemoteObject}
    (whole : ∀ tracked ∈ objects, ∃ size : Nat, tracked.object.scale = ⟨false, size⟩ ∧
      1 ≤ size ∧ size ≤ 100) : ProxyScene.ScalesInRange objects := by
  intro tracked member
  obtain ⟨size, same, lower, upper⟩ := whole tracked member
  have scale : tracked.object.scale.toRat = size := by simp [same, ExactFloat.toRat]
  rw [scale]
  constructor
  · exact le_trans (by norm_num) (Nat.one_le_cast.mpr lower)
  · exact_mod_cast upper

/-- Items whose scales are whole numbers from 1 to 100 have scales within the bounds. -/
theorem hipItem_scales (sizes : List Nat) (range : ∀ size ∈ sizes, 1 ≤ size ∧ size ≤ 100) :
    ProxyScene.ScalesInRange (sizes.map hipItem) := by
  refine scalesInRange_of_whole fun tracked member => ?_
  obtain ⟨size, among, rfl⟩ := List.mem_map.mp member
  exact ⟨size, rfl, range size among⟩

/-- An item of another size is off. -/
theorem inPlace_hipItem {first second : Nat} (range : 1 ≤ first ∧ first ≤ 100)
    (differ : first ≠ second) :
    ProxyScene.InPlace (ProxyScene.captured (hipItem first)) (hipItem second) = false := by
  have scale : (ProxyScene.captured (hipItem first)).scale.toRat = first := by
    have scales := hipItem_scales [first] (by simpa using range)
    rw [ProxyScene.captured_eq scales (by simp)]
    simp [hipItem, ExactFloat.toRat]
  have other : (hipItem second).object.scale.toRat = second := by simp [hipItem, ExactFloat.toRat]
  have apart : (1 : ℚ) ≤ |(first : ℚ) - second| := by
    exact_mod_cast Int.one_le_abs (sub_ne_zero.mpr (Nat.cast_injective.ne differ))
  have off : kScaleEpsilon < |(first : ℚ) - second| :=
    lt_of_lt_of_le (by norm_num [kScaleEpsilon]) apart
  simp [ProxyScene.InPlace, needsCorrection, scale, other, off]

/-- The renderer tracks the items on the proxy FF000800. -/
theorem lookup_trackingRenderer (objects : List TrackedRemoteObject) :
    (trackingRenderer objects).trackedProxies.lookup 0xFF000800 =
      some ⟨7, ascii "Lydia", objects⟩ :=
  AList.lookup_insert _

/-- A shield on the back in a given size. -/
def backItem (size : Nat) : TrackedRemoteObject where
  itemName := ascii "remote-slot-13"
  kind := .kSlot
  slot := some 13
  remoteFormID := 0x12EB6
  expectedAttachment := ascii "OBJECT B Shield"
  object := { hipSword with scale := ⟨false, size⟩ }
  acquired := false
  corrections := 0

/-- The second sword, on the left hip. -/
def leftItem : TrackedRemoteObject :=
  { hipItem 1 with expectedAttachment := ascii "OBJECT L WeaponSword" }

/-- A sword and a shield of another size than in the scene, and a sword that is in place. -/
def gear : List TrackedRemoteObject := [hipItem 2, backItem 3, leftItem]

/-- A scene with a node for each item, and a second one for the first. -/
def gearScene : ProxyScene where
  rootParent := []
  root := .node 0 (ascii "NPC")
    [.node 1 (ascii "OBJECT R WeaponSword")
      [.node 2 (ascii "OBJECT [00012EB7]") [], .node 3 (ascii "OBJECT [00012EB7]") []],
      .node 4 (ascii "OBJECT B Shield") [.node 5 (ascii "OBJECT [00012EB6]") []],
      .node 6 (ascii "OBJECT L WeaponSword") [.node 7 (ascii "OBJECT [00012EB7]") []]]
  transform _ := ProxyScene.captured (hipItem 1)
  distinct := by decide

/-- Three items on nodes of their own are put right by one tick. -/
theorem gear_repaired :
    (trackingRenderer gear).Repairs (fun _ => some gearScene) 0xFF000800 gear := by
  have scales : ProxyScene.ScalesInRange gear := by
    apply scalesInRange_of_whole
    simp only [gear, List.forall_mem_cons]
    exact ⟨⟨2, rfl, by decide⟩, ⟨3, rfl, by decide⟩, ⟨1, rfl, by decide⟩, by simp⟩
  have nodes : ∀ tracked ∈ gear, ∃ address, gearScene.Carries tracked address := by
    simp only [gear, List.forall_mem_cons]
    exact ⟨⟨2, by decide⟩, ⟨5, by decide⟩, ⟨7, by decide⟩, by simp⟩
  have apart : gear.Pairwise fun first second => ¬ SameNode first second := by decide
  exact (RemoteIEDRenderer.watchdog_repairs_iff rfl (lookup_trackingRenderer gear) scales).mpr
    (ProxyScene.repairable_of_apart scales nodes apart)

/-- A tick puts the first node right for the second item and wrong for the first. -/
theorem twin_items_not_repaired :
    (∃ node, hipScene.Assignment ([1, 2].map hipItem) node) ∧
      ProxyScene.ScalesInRange ([1, 2].map hipItem) ∧
      ¬ (trackingRenderer ([1, 2].map hipItem)).Repairs (fun _ => some hipScene) 0xFF000800
        ([1, 2].map hipItem) := by
  have scales := hipItem_scales [1, 2] (by decide)
  refine ⟨⟨fun index => index.val + 2, by decide, by decide⟩, scales, ?_⟩
  intro repairs
  have tick := (RemoteIEDRenderer.repairs_iff rfl (lookup_trackingRenderer _)).mp repairs
  have settles := ((ProxyScene.shown_and_quiet_iff scales).mp tick).settles 2
  have one : hipItem 1 ∈ hipScene.itemsAt ([1, 2].map hipItem) 2 :=
    ProxyScene.mem_itemsAt.mpr ⟨by simp, by decide⟩
  have two : hipItem 2 ∈ hipScene.itemsAt ([1, 2].map hipItem) 2 :=
    ProxyScene.mem_itemsAt.mpr ⟨by simp, by decide⟩
  have first := inPlace_hipItem (by decide : 1 ≤ 1 ∧ 1 ≤ 100) (by decide : 1 ≠ 2)
  have second := inPlace_hipItem (by decide : 1 ≤ 2 ∧ 2 ≤ 100) (by decide : 2 ≠ 1)
  rcases settles with all | ⟨acting, found, all⟩
  · exact absurd (all _ two) (by simp [hipScene, first])
  · obtain ⟨member, _⟩ := ProxyScene.mem_itemsAt.mp (List.mem_of_find?_eq_some found)
    simp only [List.map_cons, List.map_nil, List.mem_cons, List.not_mem_nil, or_false] at member
    rcases member with rfl | rfl
    · exact absurd (all _ two) (by simp [first])
    · exact absurd (all _ one) (by simp [second])

end IEDSyncTogether
