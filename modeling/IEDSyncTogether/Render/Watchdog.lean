import IEDSyncTogether.Render.Renderer
import IEDSyncTogether.Scene.ObjectNode

/-!
# The transform watchdog

One tick walks the tracked items in order, searches each item's node from the
proxy's root, and overwrites the node's transform if it is off the captured one.
The items share one scene, so an item sees the corrections made before it.
-/

namespace IEDSyncTogether

open Base

/-- A node of a proxy's scene with its non-null children. -/
inductive SceneNode where
  | node (address : Nat) (name : ByteString) (children : List SceneNode)

/-- A node as the search meets it, with the name of its parent. -/
structure SceneEntry where
  address : Nat
  name : ByteString
  parentName : ByteString
deriving DecidableEq

mutual

/-- The nodes below and including this one, in depth-first preorder. -/
def SceneNode.entries (parentName : ByteString) : SceneNode → List SceneEntry
  | .node address name children => ⟨address, name, parentName⟩ :: childEntries name children

/-- The entries below a list of children. -/
def childEntries (parentName : ByteString) : List SceneNode → List SceneEntry
  | [] => []
  | child :: children => child.entries parentName ++ childEntries parentName children

end

/-- The scene of one proxy: its tree, the name of the root's parent (empty if
there is none), and the local transform of every node. -/
structure ProxyScene where
  rootParent : ByteString
  root : SceneNode
  transform : Nat → NiTransform
  distinct : ((root.entries rootParent).map SceneEntry.address).Nodup

mutual

/-- `FindRemoteIEDObject`: the first node in preorder with the form and the parent's name. -/
def findRemoteIEDObject (remoteFormID : FormID) (expectedAttachment : ByteString)
    (parentName : ByteString) : SceneNode → Option Nat
  | .node address name children =>
    if parseIEDObjectFormID name = some remoteFormID ∧ parentName = expectedAttachment then
      some address
    else findAmongChildren remoteFormID expectedAttachment name children

/-- The child loop of `FindRemoteIEDObject`. -/
def findAmongChildren (remoteFormID : FormID) (expectedAttachment : ByteString)
    (parentName : ByteString) : List SceneNode → Option Nat
  | [] => none
  | child :: children =>
    match findRemoteIEDObject remoteFormID expectedAttachment parentName child with
    | some found => some found
    | none => findAmongChildren remoteFormID expectedAttachment parentName children

end

/-- The largest tolerated difference of a matrix entry. -/
def kRotationEpsilon : ℚ := 1 / 10000

/-- The largest tolerated difference of a coordinate. -/
def kPositionEpsilon : ℚ := 1 / 1000

/-- The largest tolerated difference of the scale. -/
def kScaleEpsilon : ℚ := 1 / 10000

/-- The largest absolute difference of two arrays, from 0 up. -/
def maxDelta {count : Nat} (actual expected : Vector ExactFloat count) : ℚ :=
  (List.finRange count).foldl
    (fun delta index => max delta |actual[index].toRat - expected[index].toRat|) 0

/-- `MaxMatrixDelta`. -/
def maxMatrixDelta (matrix expected : Vector ExactFloat 9) : ℚ := maxDelta matrix expected

/-- `MaxPositionDelta`. -/
def maxPositionDelta (point expected : Vector ExactFloat 3) : ℚ := maxDelta point expected

/-- `std::clamp` on floats. -/
def clampFloat (value low high : ExactFloat) : ExactFloat :=
  if value.toRat < low.toRat then low else if high.toRat < value.toRat then high else value

/-- `ApplyRawTransform`: the captured transform with its scale clamped. -/
def applyRawTransform (captured : CapturedIEDObject) : NiTransform where
  translate := captured.position
  scale := clampFloat captured.scale (.ofRat (1 / 100)) (.ofRat 100)
  rotate := captured.rotationMatrix

/-- The comparison of the watchdog with the captured transform, whose scale is not clamped here. -/
def needsCorrection (actual : NiTransform) (captured : CapturedIEDObject) : Bool :=
  kRotationEpsilon < maxMatrixDelta actual.rotate captured.rotationMatrix ∨
    kPositionEpsilon < maxPositionDelta actual.translate captured.position ∨
    kScaleEpsilon < |actual.scale.toRat - captured.scale.toRat|

namespace ProxyScene

/-- The nodes of a scene in preorder. -/
def entries (scene : ProxyScene) : List SceneEntry := scene.root.entries scene.rootParent

/-- The node the watchdog takes for a tracked item. -/
def findObject (scene : ProxyScene) (tracked : TrackedRemoteObject) : Option Nat :=
  findRemoteIEDObject tracked.remoteFormID tracked.expectedAttachment scene.rootParent scene.root

/-- One turn of the item loop of `WatchdogTick`. -/
def tickObject (scene : ProxyScene) (tracked : TrackedRemoteObject) :
    ProxyScene × TrackedRemoteObject :=
  match scene.findObject tracked with
  | none => (scene, tracked)
  | some address =>
    if needsCorrection (scene.transform address) tracked.object then
      ({ scene with
          transform := Function.update scene.transform address (applyRawTransform tracked.object) },
        { tracked with acquired := true, corrections := tracked.corrections + 1 })
    else (scene, { tracked with acquired := true })

/-- The item loop of `WatchdogTick` on one proxy. -/
def tickObjects (scene : ProxyScene) : List TrackedRemoteObject →
    ProxyScene × List TrackedRemoteObject
  | [] => (scene, [])
  | tracked :: objects =>
    let head := scene.tickObject tracked
    let tail := head.1.tickObjects objects
    (tail.1, head.2 :: tail.2)

end ProxyScene

namespace RemoteIEDRenderer

/-- `WatchdogTick` over the scenes of the loaded proxies; an actor without a
scene and the player have none. -/
def watchdogTick (renderer : RemoteIEDRenderer) (scenes : ProxyFormID → Option ProxyScene) :
    RemoteIEDRenderer × (ProxyFormID → Option ProxyScene) :=
  ({ renderer with
      trackedProxies := UnorderedMap.mapValues
        (fun proxyFormID tracked =>
          match scenes proxyFormID with
          | none => tracked
          | some scene => { tracked with objects := (scene.tickObjects tracked.objects).2 })
        renderer.trackedProxies },
    fun proxyFormID =>
      match scenes proxyFormID, renderer.trackedProxies.lookup proxyFormID with
      | some scene, some tracked => some (scene.tickObjects tracked.objects).1
      | scene, _ => scene)

/-- The task of `ScheduleWatchdogTick`. -/
def runWatchdogTask (renderer : RemoteIEDRenderer) (scenes : ProxyFormID → Option ProxyScene) :
    RemoteIEDRenderer × (ProxyFormID → Option ProxyScene) :=
  { renderer with watchdogTaskQueued := false }.watchdogTick scenes

end RemoteIEDRenderer

/-! ## A tick touches only what it counts -/

/-- A tick leaves the entries as `Apply` made them. -/
theorem ProxyScene.untouched_tickObjects (scene : ProxyScene)
    (objects : List TrackedRemoteObject) :
    (scene.tickObjects objects).2.map TrackedRemoteObject.untouched =
      objects.map TrackedRemoteObject.untouched := by
  induction objects generalizing scene with
  | nil => rfl
  | cons tracked objects ih =>
      have head : (scene.tickObject tracked).2.untouched = tracked.untouched := by
        unfold tickObject
        split
        · rfl
        · split_ifs <;> rfl
      simp only [tickObjects, List.map_cons, head, ih]

namespace RemoteIEDRenderer

/-- A watchdog task changes nothing that is shown. -/
@[simp] theorem displayed_runWatchdogTask (renderer : RemoteIEDRenderer)
    (scenes : ProxyFormID → Option ProxyScene) :
    (renderer.runWatchdogTask scenes).1.displayed = renderer.displayed := by
  funext proxyFormID
  simp only [displayed, runWatchdogTask, watchdogTick, UnorderedMap.lookup_mapValues,
    Option.map_map]
  congr 1
  funext tracked
  simp only [Function.comp_apply]
  split
  · rfl
  · exact ProxyScene.untouched_tickObjects _ _

/-- A watchdog task changes no cached signature. -/
@[simp] theorem signature_runWatchdogTask (renderer : RemoteIEDRenderer)
    (scenes : ProxyFormID → Option ProxyScene) :
    (renderer.runWatchdogTask scenes).1.signature = renderer.signature := rfl

end RemoteIEDRenderer

end IEDSyncTogether
