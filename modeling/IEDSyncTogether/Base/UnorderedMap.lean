import Mathlib.Data.List.AList

/-!
# Unordered maps

`std::unordered_map` as an association list with distinct keys. The order of
the entries is one possible enumeration order; everything below is stated
through `lookup`, which does not depend on it.
-/

namespace IEDSyncTogether.Base

/-- A finite map with its entries in some enumeration order. -/
abbrev UnorderedMap (Key Value : Type) := AList fun _ : Key => Value

namespace UnorderedMap

variable {Key Value : Type}

/-- Rewrite every value in place. -/
def mapValues (update : Key → Value → Value) (map : UnorderedMap Key Value) :
    UnorderedMap Key Value where
  entries := map.entries.map fun entry => ⟨entry.1, update entry.1 entry.2⟩
  nodupKeys := by
    have keys : (map.entries.map fun entry => (⟨entry.1, update entry.1 entry.2⟩ :
        Sigma fun _ : Key => Value)).keys = map.entries.keys := by
      simp [List.keys]
    rw [List.NodupKeys, keys]
    exact map.nodupKeys

/-- Erase every value with a property. -/
def eraseValues (unwanted : Value → Bool) (map : UnorderedMap Key Value) :
    UnorderedMap Key Value where
  entries := map.entries.filter fun entry => !unwanted entry.2
  nodupKeys := List.NodupKeys.sublist List.filter_sublist map.nodupKeys

variable [DecidableEq Key] (map : UnorderedMap Key Value)

/-- What is left after erasing was there before. -/
theorem mem_lookup_of_eraseValues {unwanted : Value → Bool} {key : Key} {value : Value}
    (left : value ∈ (eraseValues unwanted map).lookup key) : value ∈ map.lookup key := by
  rw [AList.mem_lookup_iff] at left ⊢
  exact (List.mem_filter.mp left).1

/-- Erasing acts on each value alone. -/
theorem lookup_eraseValues (unwanted : Value → Bool) (key : Key) :
    (eraseValues unwanted map).lookup key = (map.lookup key).filter fun value => !unwanted value := by
  cases found : map.lookup key with
  | none =>
      cases left : (eraseValues unwanted map).lookup key with
      | none => rfl
      | some value =>
          rw [Option.mem_def.mp (mem_lookup_of_eraseValues map left)] at found
          cases found
  | some value =>
      have entry := AList.mem_lookup_iff.mp found
      cases dropped : unwanted value with
      | false =>
          have kept : value ∈ (eraseValues unwanted map).lookup key :=
            AList.mem_lookup_iff.mpr (List.mem_filter.mpr ⟨entry, by simp [dropped]⟩)
          simpa [Option.filter, dropped] using kept
      | true =>
          cases left : (eraseValues unwanted map).lookup key with
          | none => simp [Option.filter, dropped]
          | some other =>
              have kept := (List.mem_filter.mp (AList.mem_lookup_iff.mp left)).2
              have same := Option.mem_def.mp (mem_lookup_of_eraseValues map left)
              rw [found, Option.some.injEq] at same
              simp [← same, dropped] at kept

/-- The keys left are those that are not erased. -/
theorem mem_eraseValues (unwanted : Value → Bool) (key : Key) :
    key ∈ eraseValues unwanted map ↔
      key ∈ map ∧ key ∉ (map.entries.filter fun entry => unwanted entry.2).keys := by
  have erased : key ∈ (map.entries.filter fun entry => unwanted entry.2).keys ↔
      ∃ value, map.lookup key = some value ∧ unwanted value = true := by
    simp only [List.mem_keys, List.mem_filter, ← AList.mem_lookup_iff, Option.mem_def]
  rw [erased, ← AList.lookup_isSome, ← AList.lookup_isSome, lookup_eraseValues]
  cases map.lookup key with
  | none => simp
  | some value => cases unwanted value <;> simp [Option.filter, *]

/-- An in-place rewrite acts on each value alone. -/
theorem lookup_mapValues (update : Key → Value → Value) (key : Key) :
    (mapValues update map).lookup key = (map.lookup key).map (update key) := by
  obtain ⟨entries, distinct⟩ := map
  induction entries with
  | nil => rfl
  | cons entry entries ih =>
      obtain ⟨other, value⟩ := entry
      have tail := ih (List.nodupKeys_cons.mp distinct).2
      simp only [AList.lookup, mapValues, List.map_cons] at tail ⊢
      by_cases same : key = other
      · subst same
        simp
      · rw [List.dlookup_cons_ne _ _ same, List.dlookup_cons_ne _ _ same, tail]

section Enumeration

variable {map} {enumeration : UnorderedMap Key Value}
  {wanted : (Sigma fun _ : Key => Value) → Bool}

/-- An entry of any enumeration is what the map holds. -/
theorem mem_enumeration_iff (perm : enumeration.entries.Perm map.entries)
    {entry : Sigma fun _ : Key => Value} :
    entry ∈ enumeration.entries ↔ map.lookup entry.1 = some entry.2 := by
  rw [perm.mem_iff, ← Option.mem_def, AList.mem_lookup_iff]

/-- A search finds nothing if nothing in the map is wanted. -/
theorem find?_enumeration_eq_none (perm : enumeration.entries.Perm map.entries)
    (unwanted : ∀ entry, map.lookup entry.1 = some entry.2 → wanted entry = false) :
    enumeration.entries.find? wanted = none := by
  rw [List.find?_eq_none]
  intro entry member
  rw [unwanted entry ((mem_enumeration_iff perm).mp member)]
  exact Bool.false_ne_true

/-- If all that is wanted looks alike, so does the first that a search finds, whatever the
enumeration order. -/
theorem exists_find?_enumeration {Look : Type} {look : Value → Look}
    (perm : enumeration.entries.Perm map.entries) {key : Key} {value : Value}
    (known : map.lookup key = some value) (hit : wanted ⟨key, value⟩ = true)
    (alike : ∀ entry, map.lookup entry.1 = some entry.2 → wanted entry = true →
      look entry.2 = look value) :
    ∃ entry, enumeration.entries.find? wanted = some entry ∧ look entry.2 = look value := by
  have found : (enumeration.entries.find? wanted).isSome = true := by
    rw [List.find?_isSome]
    exact ⟨⟨key, value⟩, (mem_enumeration_iff perm).mpr known, hit⟩
  obtain ⟨entry, first⟩ := Option.isSome_iff_exists.mp found
  have member := (mem_enumeration_iff perm).mp (List.mem_of_find?_eq_some first)
  exact ⟨entry, first, alike entry member (List.find?_some first)⟩

end Enumeration

end UnorderedMap

end IEDSyncTogether.Base
