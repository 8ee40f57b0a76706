import IEDSyncTogether.Capture.Bridge

/-!
# A run of completions

The slots of one capture complete in any order and may complete again. Whatever the
order, the request records the first completion of every slot, and the callback is
called by the completion that closes the last slot.
-/

namespace IEDSyncTogether

open Base

/-- The slot and the form ID of a call of `Complete`. -/
abbrev Completion := Fin 19 × FormID

namespace CaptureRequest

/-- The request after a sequence of calls, and what each call hands to the callback. -/
def completeAll (game : GameData) (request : CaptureRequest) :
    List Completion → CaptureRequest × List (Option SlotState)
  | [] => (request, [])
  | (slot, formID) :: calls =>
    let step := request.complete game slot formID
    let rest := step.1.completeAll game calls
    (rest.1, step.2 :: rest.2)

end CaptureRequest

/-- Every slot is completed by some call. -/
def Covers (calls : List Completion) : Prop := ∀ slot : Fin 19, ∃ call ∈ calls, call.1 = slot

instance (calls : List Completion) : Decidable (Covers calls) :=
  inferInstanceAs (Decidable (∀ _, ∃ _ ∈ calls, _))

/-- The identity a slot gets from a completion with this form ID. -/
def completedIdentity (game : GameData) (formID : FormID) : Option FormIdentity :=
  if formID = 0 then none else makeFormIdentity (game.lookupByID formID)

/-- The slots as their first completions leave them. -/
def firstCompleted (game : GameData) (calls : List Completion) : SlotState :=
  Vector.ofFn fun slot => (calls.find? (·.1 = slot)).bind fun call =>
    completedIdentity game call.2

section Recording

variable {game : GameData} {calls later : List Completion}

theorem Covers.append (covers : Covers calls) (later : List Completion) :
    Covers (calls ++ later) := by
  intro slot
  obtain ⟨call, member, here⟩ := covers slot
  exact ⟨call, List.mem_append_left later member, here⟩

/-- Once every slot is completed, later calls are not the first of their slot. -/
theorem Covers.firstCompleted_append (covers : Covers calls) (later : List Completion) :
    firstCompleted game (calls ++ later) = firstCompleted game calls := by
  ext1 slot inside
  obtain ⟨call, member, here⟩ := covers ⟨slot, inside⟩
  have found : (calls.find? (·.1 = ⟨slot, inside⟩)).isSome :=
    List.find?_isSome.mpr ⟨call, member, by simpa using here⟩
  obtain ⟨first, located⟩ := Option.isSome_iff_exists.mp found
  simp [firstCompleted, List.find?_append, located]

namespace CaptureRequest

/-- Completions are carried out in order. -/
theorem completeAll_append (request : CaptureRequest) (calls later : List Completion) :
    request.completeAll game (calls ++ later) =
      let first := request.completeAll game calls
      let rest := first.1.completeAll game later
      (rest.1, first.2 ++ rest.2) := by
  induction calls generalizing request with
  | nil => rfl
  | cons call calls ih => simp only [List.cons_append, completeAll, ih]

theorem completeAll_length (request : CaptureRequest) (calls : List Completion) :
    (request.completeAll game calls).2.length = calls.length := by
  induction calls generalizing request with
  | nil => rfl
  | cons call calls ih => simp only [completeAll, List.length_cons, ih]

/-- What one call does to the completed flags and to the slots. -/
theorem complete_records (request : CaptureRequest) (slot : Fin 19) (formID : FormID)
    (other : Fin 19) :
    (request.complete game slot formID).1.completed.get other =
        (request.completed.get other || decide (slot = other)) ∧
      (request.complete game slot formID).1.slots.get other =
        if request.completed.get slot = false ∧ slot = other ∧ formID ≠ 0 then
          completedIdentity game formID
        else request.slots.get other := by
  unfold complete
  split
  · next late =>
      have answered : request.completed[slot.val] = true := by simpa using late
      constructor
      · by_cases same : slot = other
        · subst same
          simp [answered]
        · simp [same]
      · simp [answered]
  · next unanswered =>
      have fresh : request.completed[slot.val] = false := by simpa using unanswered
      constructor
      · by_cases same : slot = other
        · subst same
          simp
        · have apart : slot.val ≠ other.val := fun equal => same (Fin.ext equal)
          simp [apart, same]
      · by_cases same : slot = other
        · subst same
          by_cases zero : formID = 0 <;> simp [fresh, zero, completedIdentity]
        · have apart : slot.val ≠ other.val := fun equal => same (Fin.ext equal)
          by_cases zero : formID = 0 <;> simp [zero, same, apart]

/-- The slots handed to the callback are the recorded ones. -/
theorem slots_of_complete {request : CaptureRequest} {slot : Fin 19} {formID : FormID}
    {slots : SlotState} (called : (request.complete game slot formID).2 = some slots) :
    (request.complete game slot formID).1.slots = slots := by
  unfold complete at called ⊢
  split at called
  · cases called
  · next unanswered =>
      rw [dif_neg unanswered]
      exact Option.some.inj (Option.ite_none_right_eq_some.mp called).2

end CaptureRequest

/-- The request has recorded the first completion of every slot. -/
structure Records (game : GameData) (calls : List Completion) (request : CaptureRequest) :
    Prop where
  completed : ∀ slot : Fin 19, request.completed.get slot = true ↔ ∃ call ∈ calls, call.1 = slot
  slots : request.slots = firstCompleted game calls

namespace Records

variable {request : CaptureRequest}

/-- Nothing is recorded before the first completion. -/
theorem fresh : Records game [] .fresh where
  completed slot := by simp [CaptureRequest.fresh]
  slots := by
    ext1 slot inside
    simp [CaptureRequest.fresh, firstCompleted]

/-- One more call is recorded. -/
theorem complete (records : Records game calls request) (slot : Fin 19) (formID : FormID) :
    Records game (calls ++ [(slot, formID)]) (request.complete game slot formID).1 where
  completed other := by
    rw [(request.complete_records slot formID other).1, Bool.or_eq_true, records.completed,
      decide_eq_true_eq]
    simp [or_and_right, exists_or]
  slots := by
    ext1 other inside
    have recorded := (@CaptureRequest.complete_records game request slot formID ⟨other, inside⟩).2
    have before : request.slots[other] = (firstCompleted game calls)[other] :=
      congrArg (·[other]) records.slots
    simp only [get_eq_getElem] at recorded
    rw [recorded, before]
    by_cases same : slot = ⟨other, inside⟩
    · subst same
      by_cases answered : request.completed[other] = true
      · obtain ⟨call, member, here⟩ := (records.completed ⟨other, inside⟩).mp answered
        have found : (calls.find? (·.1 = ⟨other, inside⟩)).isSome :=
          List.find?_isSome.mpr ⟨call, member, by simpa using here⟩
        obtain ⟨first, located⟩ := Option.isSome_iff_exists.mp found
        simp [firstCompleted, List.find?_append, located, answered]
      · have missing : calls.find? (·.1 = ⟨other, inside⟩) = none := by
          rw [List.find?_eq_none]
          intro call member here
          exact answered ((records.completed ⟨other, inside⟩).mpr ⟨call, member, by simpa using here⟩)
        by_cases zero : formID = 0 <;>
          simp [firstCompleted, List.find?_append, missing, answered, zero, completedIdentity]
    · simp [firstCompleted, List.find?_append, same]

/-- The request waits exactly while some slot is not completed. -/
theorem outstanding_iff (records : Records game calls request) :
    request.Outstanding ↔ ¬ Covers calls := by
  have waiting : request.Outstanding ↔ 0 < request.completed.toList.count false := by
    rw [CaptureRequest.Outstanding, request.counted, Nat.pos_iff_ne_zero]
  rw [waiting, List.count_pos_iff, List.mem_iff_getElem]
  constructor
  · rintro ⟨slot, inside, here⟩ covers
    have slotInside : slot < 19 := by simpa using inside
    have answered := (records.completed ⟨slot, slotInside⟩).mpr (covers ⟨slot, slotInside⟩)
    simp only [Vector.getElem_toList] at here
    simp [here] at answered
  · intro uncovered
    obtain ⟨slot, missing⟩ := not_forall.mp uncovered
    refine ⟨slot, by simp, ?_⟩
    simpa using mt (records.completed slot).mp missing

/-- The callback is called by the call that completes the last slot. -/
theorem called (records : Records game calls request) (slot : Fin 19) (formID : FormID) :
    (request.complete game slot formID).2 =
      if ¬ Covers calls ∧ Covers (calls ++ [(slot, formID)]) then
        some (firstCompleted game (calls ++ [(slot, formID)]))
      else none := by
  have further := records.complete slot formID
  by_cases outstanding : request.Outstanding
  · have fires := request.complete_isSome_iff game outstanding slot formID
    rw [further.outstanding_iff, not_not] at fires
    have uncovered := records.outstanding_iff.mp outstanding
    by_cases covers : Covers (calls ++ [(slot, formID)])
    · obtain ⟨slots, called⟩ := Option.isSome_iff_exists.mp (fires.mpr covers)
      rw [if_pos ⟨uncovered, covers⟩, called, ← CaptureRequest.slots_of_complete called, further.slots]
    · rw [if_neg fun all => covers all.2]
      simpa [covers] using fires
  · have covers := not_not.mp (mt records.outstanding_iff.mpr outstanding)
    rw [CaptureRequest.complete_of_not_outstanding game outstanding, if_neg fun all => all.1 covers]

end Records

/-- A run from a fresh request records its calls. -/
theorem records_completeAll (game : GameData) (calls : List Completion) :
    Records game calls (CaptureRequest.fresh.completeAll game calls).1 := by
  induction calls using List.reverseRecOn with
  | nil => exact .fresh
  | append_singleton calls call ih =>
      rw [CaptureRequest.completeAll_append]
      exact ih.complete call.1 call.2

/-- What a run hands to the callback: the first completions if the calls cover all slots,
else nothing. -/
theorem filterMap_completeAll (game : GameData) (calls : List Completion) :
    (CaptureRequest.fresh.completeAll game calls).2.filterMap id =
      if Covers calls then [firstCompleted game calls] else [] := by
  induction calls using List.reverseRecOn with
  | nil => rfl
  | append_singleton calls call ih =>
      have called := (records_completeAll game calls).called call.1 call.2
      rw [CaptureRequest.completeAll_append]
      simp only [CaptureRequest.completeAll, List.filterMap_append, ih, called]
      by_cases before : Covers calls
      · simp [before, before.append, before.firstCompleted_append]
      · by_cases after : Covers (calls ++ [call]) <;> simp [before, after]

/-- The slots are handed over once if every slot is completed, else never. -/
theorem countP_completeAll (game : GameData) (calls : List Completion) :
    (CaptureRequest.fresh.completeAll game calls).2.countP Option.isSome =
      if Covers calls then 1 else 0 := by
  have handed := congrArg List.length (filterMap_completeAll game calls)
  rw [List.length_filterMap_eq_countP] at handed
  refine handed.trans ?_
  split <;> rfl

/-- A request nobody waits for ignores every further call. -/
theorem completeAll_of_not_outstanding {request : CaptureRequest}
    (settled : ¬ request.Outstanding) (later : List Completion) :
    request.completeAll game later = (request, List.replicate later.length none) := by
  induction later with
  | nil => rfl
  | cons call later ih =>
      simp only [CaptureRequest.completeAll,
        CaptureRequest.complete_of_not_outstanding game settled, ih]
      rfl

end Recording

/-! ## The dispatch loop -/

/-- The calls of the dispatch loop for the slots whose dispatch is refused. -/
def refusedCalls (dispatched : Fin 19 → Bool) (slots : List (Fin 19)) : List Completion :=
  (slots.filter (!dispatched ·)).map (·, 0)

/-- The dispatch loop makes the calls of the refused slots and keeps what they hand over. -/
theorem foldl_dispatchSlot (game : GameData) (dispatched : Fin 19 → Bool) (slots : List (Fin 19))
    (progress : CaptureRequest × Option SlotState) :
    slots.foldl (dispatchSlot game dispatched) progress =
      let run := progress.1.completeAll game (refusedCalls dispatched slots)
      (run.1, progress.2.or (run.2.findSome? id)) := by
  induction slots generalizing progress with
  | nil => simp [refusedCalls, CaptureRequest.completeAll]
  | cons slot slots ih =>
      rw [List.foldl_cons, ih, dispatchSlot]
      cases accepted : dispatched slot with
      | true => simp [refusedCalls, accepted]
      | false =>
          simp only [refusedCalls, accepted, List.filter_cons, Bool.not_false, if_true,
            List.map_cons, CaptureRequest.completeAll, List.findSome?_cons, id, Option.or_assoc,
            Bool.false_eq_true, if_false]
          cases (progress.1.complete game slot 0).2 <;> rfl

/-- In every sequence of completions the callback is called at most once, by the call
that completes the last slot, with the first completion of every slot; later calls
have no effect. -/
theorem slot_capture_fires_once (game : GameData) (calls : List Completion) :
    let run := CaptureRequest.fresh.completeAll game calls
    (∀ earlier call later, calls = earlier ++ call :: later →
      run.2[earlier.length]? =
        some (if ¬ Covers earlier ∧ Covers (earlier ++ [call]) then
          some (firstCompleted game calls) else none)) ∧
      run.2.countP Option.isSome = (if Covers calls then 1 else 0) ∧
      (Covers calls → ∀ later, CaptureRequest.fresh.completeAll game (calls ++ later) =
        (run.1, run.2 ++ List.replicate later.length none)) := by
  intro run
  refine ⟨?_, countP_completeAll game calls, ?_⟩
  · rintro earlier call later rfl
    have called := (records_completeAll game earlier).called call.1 call.2
    have outputs : run.2 = (CaptureRequest.fresh.completeAll game earlier).2 ++
        ((CaptureRequest.fresh.completeAll game earlier).1.completeAll game (call :: later)).2 := by
      simp only [run, CaptureRequest.completeAll_append]
    rw [outputs, List.getElem?_append_right (by rw [CaptureRequest.completeAll_length]),
      CaptureRequest.completeAll_length, Nat.sub_self]
    simp only [CaptureRequest.completeAll, List.getElem?_cons_zero, called]
    split
    · next fires =>
        rw [← fires.2.firstCompleted_append later, List.append_assoc]
        rfl
    · rfl
  · intro covers later
    have settled : ¬ run.1.Outstanding := fun waits =>
      (records_completeAll game calls).outstanding_iff.mp waits covers
    rw [CaptureRequest.completeAll_append]
    simp only [run, completeAll_of_not_outstanding settled later]

/-- The callbacks of one capture: at most one in the dispatch loop, and the others as the
answers of the VM complete their slots. -/
def capturedSlots (game : GameData) (dispatched : Fin 19 → Bool) (answers : List Completion) :
    List SlotState :=
  let capture := capturePlayerSlots game dispatched
  capture.2.toList ++ (capture.1.completeAll game answers).2.filterMap id

/-- Of a capture whose refused slots and answers cover all slots the callback is called
once, with the first completion of every slot; before that it is not called. -/
theorem capturedSlots_eq (game : GameData) (dispatched : Fin 19 → Bool)
    (answers : List Completion) :
    let calls := refusedCalls dispatched (List.finRange 19) ++ answers
    capturedSlots game dispatched answers =
      if Covers calls then [firstCompleted game calls] else [] := by
  intro calls
  have handed (made : List Completion) :
      ((CaptureRequest.fresh.completeAll game made).2.findSome? id).toList =
        (CaptureRequest.fresh.completeAll game made).2.filterMap id := by
    rw [← List.head?_filterMap, filterMap_completeAll]
    split <;> rfl
  have loop : capturePlayerSlots game dispatched = _ :=
    foldl_dispatchSlot game dispatched (List.finRange 19) (.fresh, none)
  rw [← filterMap_completeAll, CaptureRequest.completeAll_append, List.filterMap_append, ← handed,
    capturedSlots, loop]
  rfl

end IEDSyncTogether
