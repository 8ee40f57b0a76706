import IEDSyncTogether.Base.Traversal
import IEDSyncTogether.Scene.ObjectNode

/-!
# The scan of the player's scene

`VisitIEDObjects` walks the object graph with a visited set, since children may
be shared, and appends a captured object for every node whose name carries a form
with an identity. The walk is the generic traversal; what it appends is a
function of the visited nodes.
-/

namespace IEDSyncTogether

open Base

/-- A node of the player's scene; `children` is empty unless it is a `NiNode`,
and a null child is `none`. -/
structure NiAVObject (count : Nat) where
  name : ByteString
  parent : Option (Fin count)
  appCulled : Bool
  localTransform : NiTransform
  children : List (Option (Fin count))

/-- The object graph of the loaded player with its root. -/
structure PlayerScene where
  count : Nat
  object : Fin count → NiAVObject count
  root : Fin count

/-- `Q`: three decimal places, ties away from zero. -/
def quantizeCapture (value : ExactFloat) : ExactFloat := value.quantize roundHalfAway 3

/-- `FindSlot`: the first slot with the form. -/
def findSlot (formID : FormID) (slottedForms : Vector FormID 19) : Option UInt32 :=
  (slottedForms.toList.findIdx? (· = formID)).map Nat.toUInt32

namespace PlayerScene

variable (scene : PlayerScene)

/-- The name of a node, empty for a null pointer. -/
def nameOf (address : Option (Fin scene.count)) : ByteString :=
  match address with
  | none => []
  | some address => (scene.object address).name

/-- `MakeCapturedObject`: the node with its parent and the parent's parent. -/
def makeCapturedObject (game : GameData) (object : Fin scene.count) (formID : FormID)
    (slot : Option UInt32) : CapturedIEDObject :=
  let node := scene.object object
  let anchor := node.parent.bind fun attachment => (scene.object attachment).parent
  { form := (makeFormIdentity (game.lookupByID formID)).getD ⟨[], 0⟩
    slot
    kind := if slot.isSome then .kSlot else .kCustom
    visible := !node.appCulled
    objectNode := node.name
    attachmentNode := scene.nameOf node.parent
    anchorNode := scene.nameOf anchor
    position := node.localTransform.translate.map quantizeCapture
    rotationMatrix := node.localTransform.rotate.map quantizeCapture
    scale := quantizeCapture node.localTransform.scale }

/-- What `VisitIEDObjects` appends for one node. -/
def captureObject (game : GameData) (slottedForms : Vector FormID 19)
    (object : Fin scene.count) : Option CapturedIEDObject := do
  let formID ← parseIEDObjectFormID (scene.object object).name
  let form ← game.lookupByID formID
  if (makeFormIdentity (some form)).isSome then
    some (scene.makeCapturedObject game object formID (findSlot formID slottedForms))
  else none

/-- A node with the name of a persistent form is captured. -/
theorem captureObject_of_parsed {game : GameData} {slottedForms : Vector FormID 19}
    {object : Fin scene.count} {formID : FormID} {form : TESForm}
    (parsed : parseIEDObjectFormID (scene.object object).name = some formID)
    (known : game.lookupByID formID = some form)
    (persistent : (makeFormIdentity (some form)).isSome) :
    scene.captureObject game slottedForms object =
      some (scene.makeCapturedObject game object formID (findSlot formID slottedForms)) := by
  simp [captureObject, parsed, known, persistent]

/-- The visited set, in the order of the first visits, and the captured objects. -/
structure Visit where
  visited : List (Fin scene.count)
  out : List CapturedIEDObject

/-- The recursion of `VisitIEDObjects`; the fuel bounds its depth. -/
def visitIEDObjects (game : GameData) (slottedForms : Vector FormID 19) :
    Nat → Fin scene.count → scene.Visit → scene.Visit
  | 0, _, progress => progress
  | fuel + 1, object, progress =>
    if object ∈ progress.visited then progress
    else
      (scene.object object).children.foldl
        (fun progress child =>
          match child with
          | none => progress
          | some child => visitIEDObjects game slottedForms fuel child progress)
        ⟨progress.visited ++ [object],
          progress.out ++ (scene.captureObject game slottedForms object).toList⟩

/-- The scan from the root; more depth than there are nodes is never used. -/
def scan (game : GameData) (slottedForms : Vector FormID 19) : List CapturedIEDObject :=
  (scene.visitIEDObjects game slottedForms (scene.count + 1) scene.root ⟨[], []⟩).out

/-! ## The scan visits what is reachable -/

/-- The non-null children. -/
def childNodes (object : Fin scene.count) : List (Fin scene.count) :=
  (scene.object object).children.filterMap id

/-- The node is loaded: it hangs below the root. -/
def Loaded (object : Fin scene.count) : Prop :=
  Relation.ReflTransGen (Edge scene.childNodes) scene.root object

variable {scene}

/-- The walk is the generic traversal, and the output belongs to its nodes. -/
theorem visitIEDObjects_eq (game : GameData) (slottedForms : Vector FormID 19) (fuel : Nat)
    (object : Fin scene.count) (progress : scene.Visit)
    (belongs : progress.out =
      progress.visited.filterMap (scene.captureObject game slottedForms)) :
    let next := scene.visitIEDObjects game slottedForms fuel object progress
    next.visited = depthFirst scene.childNodes fuel object progress.visited ∧
      next.out = next.visited.filterMap (scene.captureObject game slottedForms) := by
  induction fuel generalizing object progress with
  | zero => exact ⟨rfl, belongs⟩
  | succ fuel ih =>
      rw [visitIEDObjects, depthFirst]
      split
      · exact ⟨rfl, belongs⟩
      · -- the child loop, null children skipped
        have loop : ∀ (nodes : List (Option (Fin scene.count))) (start : scene.Visit),
            start.out = start.visited.filterMap (scene.captureObject game slottedForms) →
            let last := nodes.foldl (fun progress child =>
              match child with
              | none => progress
              | some child => scene.visitIEDObjects game slottedForms fuel child progress) start
            last.visited = (nodes.filterMap id).foldl
                (fun visited child => depthFirst scene.childNodes fuel child visited)
                start.visited ∧
              last.out = last.visited.filterMap (scene.captureObject game slottedForms) := by
          intro nodes
          induction nodes with
          | nil => exact fun start holds => ⟨rfl, holds⟩
          | cons child nodes loop =>
              intro start holds
              cases child with
              | none => exact loop start holds
              | some child =>
                  obtain ⟨visited, out⟩ := ih child start holds
                  obtain ⟨visitedLast, outLast⟩ := loop _ out
                  refine ⟨?_, outLast⟩
                  rw [List.foldl_cons, visitedLast, visited]
                  rfl
        apply loop
        rw [List.filterMap_append, belongs]
        cases captured : scene.captureObject game slottedForms object <;> simp [captured]

/-- A captured object is in the scan exactly if a loaded node yields it. -/
theorem mem_scan_iff {game : GameData} {slottedForms : Vector FormID 19}
    {captured : CapturedIEDObject} :
    captured ∈ scene.scan game slottedForms ↔
      ∃ object, scene.Loaded object ∧
        scene.captureObject game slottedForms object = some captured := by
  obtain ⟨visited, out⟩ := scene.visitIEDObjects_eq game slottedForms (scene.count + 1)
    scene.root ⟨[], []⟩ rfl
  rw [scan, out, visited, List.mem_filterMap]
  have enough : Fintype.card (Fin scene.count) < scene.count + 1 := by simp
  simp only [mem_depthFirst_iff enough, Loaded]

end PlayerScene

end IEDSyncTogether
