import IEDSyncTogether.Render.Repair

/-!
# How often one object is corrected

`ApplyRawTransform` clamps the scale, the check compares with the captured one. A
corrected object is accepted by the next check exactly if the clamp moves its scale
by at most the epsilon, and then an object left alone is corrected at most once.
-/

namespace IEDSyncTogether

open Base

/-- The scales the clamp moves by at most the scale epsilon. -/
def ReproducibleScale (captured : CapturedIEDObject) : Prop :=
  1 / 100 - kScaleEpsilon ≤ captured.scale.toRat ∧ captured.scale.toRat ≤ 100 + kScaleEpsilon

/-- How far the clamp moves a value. -/
theorem abs_clampFloat_sub_le_iff {value low high : ExactFloat} (ordered : low.toRat ≤ high.toRat)
    {epsilon : ℚ} (nonneg : 0 ≤ epsilon) :
    |(clampFloat value low high).toRat - value.toRat| ≤ epsilon ↔
      low.toRat - epsilon ≤ value.toRat ∧ value.toRat ≤ high.toRat + epsilon := by
  rw [abs_le]
  unfold clampFloat
  split_ifs with below above
  · constructor
    · rintro ⟨_, near⟩
      constructor <;> linarith
    · rintro ⟨near, _⟩
      constructor <;> linarith
  · constructor
    · rintro ⟨near, _⟩
      constructor <;> linarith
    · rintro ⟨_, near⟩
      constructor <;> linarith
  · rw [sub_self]
    constructor
    · intro _
      constructor <;> linarith
    · intro _
      constructor <;> linarith

/-- Right after a correction the check passes exactly on a reproducible scale. -/
theorem needsCorrection_applyRawTransform_iff (captured : CapturedIEDObject) :
    needsCorrection (applyRawTransform captured) captured = false ↔
      ReproducibleScale captured := by
  have moved := @abs_clampFloat_sub_le_iff captured.scale (.ofRat (1 / 100)) (.ofRat 100)
    (by norm_num) kScaleEpsilon (by norm_num [kScaleEpsilon])
  rw [ExactFloat.toRat_ofRat, ExactFloat.toRat_ofRat] at moved
  rw [ReproducibleScale, ← moved, needsCorrection, decide_eq_false_iff_not]
  simp only [applyRawTransform, maxMatrixDelta, maxPositionDelta, ProxyScene.maxDelta_self, not_or,
    not_lt]
  constructor
  · exact fun fine => fine.2.2
  · exact fun near => ⟨by norm_num [kRotationEpsilon], by norm_num [kPositionEpsilon], near⟩

namespace ProxyScene

/-- So many turns of the watchdog on one item of a scene nobody else changes. -/
def turns (scene : ProxyScene) (tracked : TrackedRemoteObject) :
    Nat → ProxyScene × TrackedRemoteObject
  | 0 => (scene, tracked)
  | count + 1 =>
    let turn := scene.tickObject tracked
    turn.1.turns turn.2 count

variable {scene : ProxyScene} {tracked : TrackedRemoteObject}

/-- A turn leaves the captured object, and what is searched for, as they are. -/
theorem tickObject_target (scene : ProxyScene) (tracked : TrackedRemoteObject) :
    (scene.tickObject tracked).2.object = tracked.object ∧
      scene.findObject (scene.tickObject tracked).2 = scene.findObject tracked := by
  unfold tickObject
  split
  · exact ⟨rfl, rfl⟩
  · split <;> exact ⟨rfl, rfl⟩

/-- One turn corrects at most once. -/
theorem tickObject_corrections_le (scene : ProxyScene) (tracked : TrackedRemoteObject) :
    (scene.tickObject tracked).2.corrections ≤ tracked.corrections + 1 := by
  unfold tickObject
  split
  · exact Nat.le_succ _
  · split
    · exact Nat.le_refl _
    · exact Nat.le_succ _

/-- After a turn an item with a reproducible scale is in place. -/
theorem quiet_tickObject (reproducible : ReproducibleScale tracked.object) :
    (scene.tickObject tracked).1.Quiet (scene.tickObject tracked).2 := by
  obtain ⟨object, target⟩ := scene.tickObject_target tracked
  intro address found
  rw [findObject_tickObject, target] at found
  rw [tickObject_transform, InPlace, object]
  split
  · simp [captured, (needsCorrection_applyRawTransform_iff tracked.object).mpr reproducible]
  · next fine =>
      rw [InPlace] at fine
      simpa [found] using fine

/-- A quiet item stays quiet. -/
theorem Quiet.persists (quiet : scene.Quiet tracked) :
    scene.Quiet (scene.tickObject tracked).2 := by
  obtain ⟨object, target⟩ := scene.tickObject_target tracked
  intro address found
  rw [target] at found
  rw [InPlace, object]
  exact quiet address found

/-- A quiet item is never corrected. -/
theorem Quiet.turns_corrections (quiet : scene.Quiet tracked) (count : Nat) :
    (scene.turns tracked count).2.corrections = tracked.corrections := by
  induction count generalizing tracked with
  | zero => rfl
  | succ count ih =>
      simp only [turns, quiet.tickObject]
      rw [ih quiet.persists]
      exact (scene.tickObject_corrections_iff tracked).mpr quiet

/-- An item with a reproducible scale that nobody else touches is corrected at most
once. -/
theorem turns_corrections_le (reproducible : ReproducibleScale tracked.object) (count : Nat) :
    (scene.turns tracked count).2.corrections ≤ tracked.corrections + 1 := by
  cases count with
  | zero => exact Nat.le_succ _
  | succ count =>
      rw [turns, (quiet_tickObject reproducible).turns_corrections count]
      exact scene.tickObject_corrections_le tracked

end ProxyScene

/-- The check passes right after a correction, and an object nobody else touches is
corrected at most once. -/
def StaysAccepted (captured : CapturedIEDObject) : Prop :=
  needsCorrection (applyRawTransform captured) captured = false ∧
    ∀ (scene : ProxyScene) (tracked : TrackedRemoteObject) (count : Nat),
      tracked.object = captured →
        (scene.turns tracked count).2.corrections ≤ tracked.corrections + 1

/-- A corrected object stays accepted exactly if its scale is reproducible. -/
theorem corrected_stays_accepted_iff (captured : CapturedIEDObject) :
    StaysAccepted captured ↔ ReproducibleScale captured := by
  constructor
  · rintro ⟨fine, _⟩
    exact (needsCorrection_applyRawTransform_iff captured).mp fine
  · intro reproducible
    refine ⟨(needsCorrection_applyRawTransform_iff captured).mpr reproducible, ?_⟩
    rintro scene tracked count rfl
    exact ProxyScene.turns_corrections_le reproducible count

/-- The sword on the hip with the scale 0. -/
def vanishedSword : CapturedIEDObject := { hipSword with scale := ⟨false, 0⟩ }

/-- A scale of 0 arrives from the decoder, is written as 1/100, and fails the next
check. -/
theorem vanishedSword_corrected_again :
    let state : LocalIEDState := ⟨Vector.replicate 19 none, [vanishedSword]⟩
    decodeLocalIEDState (encodeLocalIEDState state) = some state ∧
      needsCorrection (applyRawTransform vanishedSword) vanishedSword = true ∧
      ¬ StaysAccepted vanishedSword := by
  intro state
  have onGrid : ∀ object ∈ state.objects, object.OnGrid := by
    simp only [state, List.mem_singleton, forall_eq]
    exact CapturedIEDObject.onGrid_of_replicate rfl rfl ⟨0, by norm_num⟩ ⟨0, by norm_num⟩
      ⟨0, by norm_num [vanishedSword]⟩
  have bounded : ∀ object ∈ state.objects, object.SlotBounded := by
    simp [state, CapturedIEDObject.SlotBounded, vanishedSword, hipSword]
  have rejected : ¬ ReproducibleScale vanishedSword := by
    rintro ⟨near, _⟩
    norm_num [vanishedSword, ExactFloat.toRat, kScaleEpsilon] at near
  refine ⟨?_, ?_, ?_⟩
  · rw [decode_encode bounded, if_pos (by decide), state.rounded_eq onGrid]
  · rw [← Bool.not_eq_false, needsCorrection_applyRawTransform_iff]
    exact rejected
  · rintro ⟨fine, _⟩
    exact rejected ((needsCorrection_applyRawTransform_iff _).mp fine)

end IEDSyncTogether
