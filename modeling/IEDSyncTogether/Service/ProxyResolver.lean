import IEDSyncTogether.State.FormIdentity

/-!
# Remote players among the loaded actors

`ProxyResolver` looks for the actor of a remote player by its name: an actor with a
dynamic form and a dynamic base, the nearest one if several have the name. The game's
actor lists and positions are the parameter `GameWorld`.
-/

namespace IEDSyncTogether

open Base

/-- A loaded actor: its form, the form of its base, its display name, and the distance
of its position to the one of the local player. -/
structure Actor where
  formID : FormID
  isPlayerRef : Bool
  base : Option FormID
  name : Option ByteString
  playerDistance : ℚ
deriving DecidableEq

/-- The handles of `ProcessLists`; a handle may not resolve. -/
structure ProcessLists where
  highActorHandles : List (Option Actor)
  middleHighActorHandles : List (Option Actor)
  middleLowActorHandles : List (Option Actor)
  lowActorHandles : List (Option Actor)

/-- What the game answers at one moment: its process lists, whether there is a local
player, and the actor a form ID belongs to. -/
structure GameWorld where
  processLists : Option ProcessLists
  hasLocalPlayer : Bool
  lookupActor : FormID → Option Actor
  formID_lookupActor : ∀ formID, ∀ actor ∈ lookupActor formID, actor.formID = formID

/-- `EqualsInsensitive`. -/
def equalsInsensitive (left right : ByteString) : Bool :=
  left.length = right.length ∧
    (left.zip right).all fun pair => toLower pair.1 = toLower pair.2

/-- The form IDs from here on are made while the game runs. -/
def dynamicMask : FormID := 0xFF000000

/-- `IsLikelyRemotePlayerProxy`: an actor and its base were both made while the game runs. -/
def isLikelyRemotePlayerProxy : Option Actor → Bool
  | none => false
  | some actor =>
    if actor.isPlayerRef then false
    else
      match actor.base with
      | none => false
      | some base =>
        actor.formID &&& dynamicMask = dynamicMask ∧ base &&& dynamicMask = dynamicMask

namespace GameWorld

/-- One handle of the scan: the form IDs seen and the result. -/
def scanHandle (state : List FormID × List Actor) (handle : Option Actor) :
    List FormID × List Actor :=
  match handle with
  | none => state
  | some actor =>
    if isLikelyRemotePlayerProxy (some actor) ∧ actor.formID ∉ state.1 then
      (actor.formID :: state.1, state.2 ++ [actor])
    else state

/-- `FindRemotePlayerProxies`: the handles of the four process lists, each actor once. -/
def findRemotePlayerProxies (world : GameWorld) : List Actor :=
  match world.processLists with
  | none => []
  | some lists =>
    ((lists.highActorHandles ++ lists.middleHighActorHandles ++ lists.middleLowActorHandles ++
      lists.lowActorHandles).foldl scanHandle ([], [])).2

/-- Without a local player every distance is 0. -/
def distance (world : GameWorld) (actor : Actor) : ℚ :=
  if world.hasLocalPlayer then actor.playerDistance else 0

/-- One actor of the search: a nearer one replaces the best so far. -/
def nearer (world : GameWorld) (playerName : ByteString) (best : Option Actor) (actor : Actor) :
    Option Actor :=
  match actor.name with
  | none => best
  | some name =>
    if equalsInsensitive name playerName then
      match best with
      | none => some actor
      | some found => if world.distance actor < world.distance found then some actor else best
    else best

/-- `FindRemotePlayerProxy`: the nearest proxy with the name. -/
def findRemotePlayerProxy (world : GameWorld) (playerName : ByteString) : Option Actor :=
  if playerName = [] then none
  else world.findRemotePlayerProxies.foldl (world.nearer playerName) none

/-- The form ID of the proxy found, 0 if there is none. -/
def proxyOf (world : GameWorld) (playerName : ByteString) : FormID :=
  ((world.findRemotePlayerProxy playerName).map Actor.formID).getD 0

end GameWorld

/-- A remote player's proxy has a form ID. -/
theorem formID_ne_zero_of_proxy {actor : Actor}
    (likely : isLikelyRemotePlayerProxy (some actor) = true) : actor.formID ≠ 0 := by
  intro zero
  simp only [isLikelyRemotePlayerProxy] at likely
  split_ifs at likely
  cases based : actor.base with
  | none => simp [based] at likely
  | some base =>
      rw [based, zero, decide_eq_true_eq] at likely
      exact absurd likely.1 (by decide)

end IEDSyncTogether
