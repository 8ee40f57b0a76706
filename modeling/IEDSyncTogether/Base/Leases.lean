import Mathlib.Data.List.Induction
import Mathlib.Logic.Function.Basic

/-!
# Leases

A table whose entries are renewed from time to time, and a sweep that drops those whose
renewal is too long ago. If the clock does not go back, the table is a function of the last
renewal of every key and of the last sweep.
-/

namespace IEDSyncTogether.Base

/-- A renewal of an entry, or a sweep at some time. -/
inductive LeaseEvent (Key Value : Type) where
  | renew (key : Key) (value : Value)
  | sweep (now : Nat)

variable {Key Value : Type} (renewed : Value → Nat) (timeout : Nat)

/-- A value that the last sweep did not drop. -/
def Unswept (swept : Option Nat) (value : Value) : Bool :=
  swept.all fun now => now - renewed value ≤ timeout

namespace LeaseEvent

/-- When it happens; a value knows the time of its renewal. -/
def time : LeaseEvent Key Value → Nat
  | renew _ value => renewed value
  | sweep now => now

/-- The time of a sweep. -/
def sweepTime : LeaseEvent Key Value → Option Nat
  | renew _ _ => none
  | sweep now => some now

/-- The value an event renews a key with. -/
def renewalOf [DecidableEq Key] (key : Key) : LeaseEvent Key Value → Option Value
  | renew other value => if other = key then some value else none
  | sweep _ => none

/-- What it does to the table. -/
def act [DecidableEq Key] (leases : Key → Option Value) : LeaseEvent Key Value → Key → Option Value
  | renew key value => Function.update leases key (some value)
  | sweep now => fun key => (leases key).filter (Unswept renewed timeout (some now))

end LeaseEvent

variable {renewed timeout} {events : List (LeaseEvent Key Value)}

variable (events) in
/-- The time of the last sweep. -/
def lastSweep : Option Nat := (events.filterMap LeaseEvent.sweepTime).getLast?

/-- A sweep at the end is the last one. -/
theorem lastSweep_concat (events : List (LeaseEvent Key Value)) (event : LeaseEvent Key Value) :
    lastSweep (events ++ [event]) = event.sweepTime.or (lastSweep events) := by
  cases swept : event.sweepTime <;> simp [lastSweep, swept]

/-- The last sweep is one of the events. -/
theorem exists_of_lastSweep {now : Nat} (last : lastSweep events = some now) :
    LeaseEvent.sweep now ∈ events := by
  obtain ⟨event, member, swept⟩ := List.mem_filterMap.mp (List.mem_of_getLast? last)
  cases event with
  | renew key value => cases swept
  | sweep other =>
      obtain rfl := Option.some.inj swept
      exact member

variable [DecidableEq Key]

variable (renewed timeout events) in
/-- The table after the events. -/
def held : Key → Option Value := events.foldl (LeaseEvent.act renewed timeout) fun _ => none

variable (events) in
/-- The value of the last renewal of a key. -/
def lastRenewal (key : Key) : Option Value :=
  (events.filterMap (LeaseEvent.renewalOf key)).getLast?

/-- The last event acts last. -/
theorem held_concat (events : List (LeaseEvent Key Value)) (event : LeaseEvent Key Value) :
    held renewed timeout (events ++ [event]) =
      event.act renewed timeout (held renewed timeout events) :=
  List.foldl_append

/-- A renewal at the end is the last one of its key. -/
theorem lastRenewal_concat (events : List (LeaseEvent Key Value)) (event : LeaseEvent Key Value)
    (key : Key) :
    lastRenewal (events ++ [event]) key = (event.renewalOf key).or (lastRenewal events key) := by
  cases renewal : event.renewalOf key <;> simp [lastRenewal, renewal]

/-- An entry is held if its last renewal was not too long before the last sweep. -/
theorem held_eq (ascending : (events.map (LeaseEvent.time renewed)).Pairwise (· ≤ ·)) (key : Key) :
    held renewed timeout events key =
      (lastRenewal events key).filter (Unswept renewed timeout (lastSweep events)) := by
  induction events using List.reverseRecOn with
  | nil => rfl
  | append_singleton events event ih =>
      rw [List.map_append, List.pairwise_append] at ascending
      obtain ⟨before, _, later⟩ := ascending
      have latest {now : Nat} (last : lastSweep events = some now) : now ≤ event.time renewed :=
        later now (List.mem_map.mpr ⟨_, exists_of_lastSweep last, rfl⟩) _
          (List.mem_singleton.mpr rfl)
      rw [held_concat, lastRenewal_concat, lastSweep_concat]
      cases event with
      | renew other value =>
          by_cases here : other = key
          · subst here
            have fresh : Unswept renewed timeout (lastSweep events) value = true := by
              cases last : lastSweep events with
              | none => rfl
              | some now =>
                  have order : now ≤ renewed value := latest last
                  simp only [Unswept, Option.all_some, decide_eq_true_eq]
                  omega
            simp [LeaseEvent.act, LeaseEvent.renewalOf, LeaseEvent.sweepTime, Option.filter, fresh]
          · simp [LeaseEvent.act, LeaseEvent.renewalOf, LeaseEvent.sweepTime, here,
              Function.update_of_ne (Ne.symm here), ih before]
      | sweep now =>
          simp only [LeaseEvent.act, LeaseEvent.renewalOf, LeaseEvent.sweepTime, Option.none_or,
            Option.some_or, ih before]
          cases lastRenewal events key with
          | none => rfl
          | some value =>
              cases last : lastSweep events with
              | none => rfl
              | some earlier =>
                  have order : earlier ≤ now := latest last
                  have stronger : Unswept renewed timeout (some now) value = true →
                      Unswept renewed timeout (some earlier) value = true := by
                    simp only [Unswept, Option.all_some, decide_eq_true_eq]
                    omega
                  by_cases kept : Unswept renewed timeout (some earlier) value = true
                  · simp [Option.filter, kept]
                  · simp [Option.filter, kept, mt stronger kept]

end IEDSyncTogether.Base
