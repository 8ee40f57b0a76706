import IEDSyncTogether.State.FormIdentity

/-!
# Slot queries

One capture asks the script VM for the 19 slots. Each slot completes once, by its
callback or because its dispatch was refused; the completion that leaves nothing
open hands the slots to the callback. That `remaining` counts the open slots, and
that the callback is held until the last one, are part of the request.
-/

namespace IEDSyncTogether

open Base

/-- A request with the slots still to be completed, and its callback while one remains. -/
structure CaptureRequest where
  slots : SlotState
  completed : Vector Bool 19
  remaining : Nat
  callbackHeld : Bool
  counted : remaining = completed.toList.count false
  held : callbackHeld = decide (remaining ≠ 0)

namespace CaptureRequest

/-- A request with every slot open. -/
def fresh : CaptureRequest where
  slots := Vector.replicate 19 none
  completed := Vector.replicate 19 false
  remaining := 19
  callbackHeld := true
  counted := by simp
  held := rfl

/-- The request still waits for a slot. -/
def Outstanding (request : CaptureRequest) : Prop := request.remaining ≠ 0

instance (request : CaptureRequest) : Decidable request.Outstanding :=
  inferInstanceAs (Decidable (_ ≠ _))

/-- Completing an open slot leaves one open slot less. -/
theorem count_set_completed {completed : Vector Bool 19} {slot : Fin 19}
    (unanswered : completed[slot] = false) :
    (completed.set slot true).toList.count false = completed.toList.count false - 1 := by
  have inside : slot.val < completed.toList.length := by simp
  have entry : completed.toList[slot.val] = false := by simpa using unanswered
  rw [Vector.toList_set, List.count_set inside, entry]
  simp

/-- `Complete`: the request afterwards, and the slots if the callback is called. -/
def complete (game : GameData) (request : CaptureRequest) (slot : Fin 19) (formID : FormID) :
    CaptureRequest × Option SlotState :=
  if answered : request.completed[slot] = true then (request, none)
  else
    let slots :=
      if formID ≠ 0 then request.slots.set slot (makeFormIdentity (game.lookupByID formID))
      else request.slots
    let remaining := request.remaining - 1
    ({  slots
        completed := request.completed.set slot true
        remaining
        callbackHeld := request.callbackHeld && decide (remaining ≠ 0)
        counted := by
          rw [count_set_completed (by simpa using answered), ← request.counted]
        held := by
          rw [request.held]
          by_cases last : remaining = 0
          · simp [last]
          · have earlier : request.remaining ≠ 0 := fun none => last (by simp [remaining, none])
            simp [last, earlier] },
      if remaining = 0 ∧ request.callbackHeld then some slots else none)

/-- A completion is late and changes nothing, or closes one slot; the last one
calls the callback. -/
theorem complete_cases (game : GameData) (request : CaptureRequest) (slot : Fin 19)
    (formID : FormID) :
    request.complete game slot formID = (request, none) ∨
      request.Outstanding ∧
        (request.complete game slot formID).1.remaining = request.remaining - 1 ∧
        ((request.complete game slot formID).2.isSome ↔ request.remaining = 1) := by
  unfold complete
  split
  · exact .inl rfl
  · next unanswered =>
      have positive : 0 < request.remaining := by
        rw [request.counted, List.count_pos_iff]
        have closed : request.completed[slot] = false := by simpa using unanswered
        rw [← closed]
        simp
      have held : request.callbackHeld = true := by
        rw [request.held]
        simpa using positive.ne'
      refine .inr ⟨positive.ne', rfl, ?_⟩
      rw [Option.isSome_ite]
      simp only [held, and_true]
      omega

/-- A request nobody waits for ignores further completions. -/
theorem complete_of_not_outstanding (game : GameData) {request : CaptureRequest}
    (settled : ¬ request.Outstanding) (slot : Fin 19) (formID : FormID) :
    request.complete game slot formID = (request, none) :=
  (request.complete_cases game slot formID).resolve_right fun step => settled step.1

/-- The callback of an outstanding request is called exactly when nothing is left. -/
theorem complete_isSome_iff (game : GameData) {request : CaptureRequest}
    (outstanding : request.Outstanding) (slot : Fin 19) (formID : FormID) :
    (request.complete game slot formID).2.isSome ↔
      ¬ (request.complete game slot formID).1.Outstanding := by
  rcases request.complete_cases game slot formID with late | ⟨_, remaining, called⟩
  · simp [late, outstanding]
  · have positive : request.remaining ≠ 0 := outstanding
    rw [called, Outstanding, remaining, not_not]
    omega

end CaptureRequest

/-- One turn of the dispatch loop: a refused dispatch completes its slot at once. -/
def dispatchSlot (game : GameData) (dispatched : Fin 19 → Bool)
    (progress : CaptureRequest × Option SlotState) (slot : Fin 19) :
    CaptureRequest × Option SlotState :=
  if dispatched slot then progress
  else
    let step := progress.1.complete game slot 0
    (step.1, progress.2.or step.2)

/-- `CapturePlayerSlots` once the player, the VM and IED are there. -/
def capturePlayerSlots (game : GameData) (dispatched : Fin 19 → Bool) :
    CaptureRequest × Option SlotState :=
  (List.finRange 19).foldl (dispatchSlot game dispatched) (.fresh, none)

/-- The loop calls the callback exactly when every dispatch was refused, that is
when nothing is left to wait for. -/
theorem capturePlayerSlots_isSome_iff (game : GameData) (dispatched : Fin 19 → Bool) :
    (capturePlayerSlots game dispatched).2.isSome ↔
      ¬ (capturePlayerSlots game dispatched).1.Outstanding := by
  have loop : ∀ (slots : List (Fin 19)) (progress : CaptureRequest × Option SlotState),
      (progress.2.isSome ↔ ¬ progress.1.Outstanding) →
      ((slots.foldl (dispatchSlot game dispatched) progress).2.isSome ↔
        ¬ (slots.foldl (dispatchSlot game dispatched) progress).1.Outstanding) := by
    intro slots
    induction slots with
    | nil => exact fun progress holds => holds
    | cons slot slots ih =>
        intro progress holds
        refine ih (dispatchSlot game dispatched progress slot) ?_
        unfold dispatchSlot
        split
        · exact holds
        · by_cases outstanding : progress.1.Outstanding
          · have pending : progress.2 = none := by
              simpa [outstanding] using holds
            simpa [pending] using CaptureRequest.complete_isSome_iff game outstanding slot 0
          · rw [CaptureRequest.complete_of_not_outstanding game outstanding]
            simpa using holds
  exact loop _ _ (by decide)

end IEDSyncTogether
