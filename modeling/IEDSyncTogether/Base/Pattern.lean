import Mathlib.Data.List.TakeWhile

/-!
# Sequence patterns

Regular expressions that are a sequence of character classes, each once, at least once or
any number of times. `Matches` is their language with the texts of the captured parts. If no
repeated class meets what may follow it, a text matches in at most one way, and the greedy
matcher finds it.
-/

namespace IEDSyncTogether.Base

/-- How often a part of a pattern may match. -/
inductive Quantifier where
  | once
  | any
  | atLeastOnce
deriving DecidableEq

/-- A character class with its quantifier; a captured part is a group of its own. -/
structure PatternPart (α : Type) where
  accepts : α → Bool
  quantifier : Quantifier
  captured : Bool

variable {α : Type}

namespace PatternPart

/-- The texts of a part. -/
def Reads (part : PatternPart α) (piece : List α) : Prop :=
  (∀ item ∈ piece, part.accepts item = true) ∧
    match part.quantifier with
    | .once => piece.length = 1
    | .any => True
    | .atLeastOnce => piece ≠ []

/-- A captured part puts its piece in front of the later ones. -/
def captures (part : PatternPart α) (piece : List α) (later : List (List α)) : List (List α) :=
  if part.captured then piece :: later else later

/-- Read as much as the part takes. -/
def read (part : PatternPart α) (text : List α) : Option (List α × List α) :=
  match part.quantifier with
  | .once =>
    match text with
    | [] => none
    | item :: rest => if part.accepts item then some ([item], rest) else none
  | .any => some (text.takeWhile part.accepts, text.dropWhile part.accepts)
  | .atLeastOnce =>
    if text.takeWhile part.accepts = [] then none
    else some (text.takeWhile part.accepts, text.dropWhile part.accepts)

end PatternPart

/-- A front of the text is in the language, with these captured texts and that rest. -/
inductive Matches : List (PatternPart α) → List α → List (List α) → List α → Prop where
  | nil (text : List α) : Matches [] text [] text
  | cons {part : PatternPart α} {parts : List (PatternPart α)} {piece text rest : List α}
      {later : List (List α)} (first : part.Reads piece) (others : Matches parts text later rest) :
      Matches (part :: parts) (piece ++ text) (part.captures piece later) rest

/-- The greedy matcher. -/
def matchFront : List (PatternPart α) → List α → Option (List (List α) × List α)
  | [], text => some ([], text)
  | part :: parts, text => do
    let (piece, text) ← part.read text
    let (later, rest) ← matchFront parts text
    return (part.captures piece later, rest)

/-- What follows ends every run of a class: it starts with an item outside the class. -/
def Ends (accepts : α → Bool) : List (PatternPart α) → Prop
  | [] => False
  | part :: parts =>
    (∀ item, accepts item = true → part.accepts item = false) ∧
      (part.quantifier = .any → Ends accepts parts)

/-- No repeated class meets what may follow it. -/
def Unambiguous : List (PatternPart α) → Prop
  | [] => True
  | part :: parts => (part.quantifier ≠ .once → Ends part.accepts parts) ∧ Unambiguous parts

section Matching

variable {part : PatternPart α} {parts : List (PatternPart α)} {piece text rest : List α}
  {captured : List (List α)}

/-- A matching text goes on outside a class that its pattern ends. -/
theorem Ends.head {accepts : α → Bool} (ends : Ends accepts parts)
    (matching : Matches parts text captured rest) :
    ∀ item ∈ text.head?, accepts item = false := by
  induction matching with
  | nil text => exact ends.elim
  | @cons part parts piece text rest later first others ih =>
      obtain ⟨disjoint, further⟩ := ends
      cases piece with
      | nil =>
          have open_ : part.quantifier = .any := by
            have shape := first.2
            cases quantifier : part.quantifier with
            | once => simp [quantifier] at shape
            | any => rfl
            | atLeastOnce => simp [quantifier] at shape
          exact ih (further open_)
      | cons item piece =>
          rintro _ ⟨⟩
          have inside := first.1 item List.mem_cons_self
          by_contra taken
          rw [disjoint item (by simpa using taken)] at inside
          exact Bool.false_ne_true inside

/-- A run is read up to the first item outside the class. -/
theorem span_append {accepts : α → Bool} (all : ∀ item ∈ piece, accepts item = true)
    (stop : ∀ item ∈ text.head?, accepts item = false) :
    (piece ++ text).takeWhile accepts = piece ∧ (piece ++ text).dropWhile accepts = text := by
  rw [List.takeWhile_append_of_pos all, List.dropWhile_append_of_pos all]
  cases text with
  | nil => simp
  | cons item text => simp [stop item rfl]

/-- What a part reads makes up the text with the rest. -/
theorem PatternPart.reads_of_read (found : part.read text = some (piece, rest)) :
    part.Reads piece ∧ text = piece ++ rest := by
  unfold PatternPart.read at found
  unfold PatternPart.Reads
  have all : ∀ item ∈ text.takeWhile part.accepts, part.accepts item = true :=
    fun item => List.mem_takeWhile_imp
  cases quantifier : part.quantifier with
  | once =>
      cases text with
      | nil => simp [quantifier] at found
      | cons item text =>
          simp only [quantifier, Option.ite_none_right_eq_some, Option.some.injEq,
            Prod.mk.injEq] at found
          obtain ⟨taken, rfl, rfl⟩ := found
          simpa using taken
  | any =>
      simp only [quantifier, Option.some.injEq, Prod.mk.injEq] at found
      obtain ⟨rfl, rfl⟩ := found
      exact ⟨⟨all, trivial⟩, List.takeWhile_append_dropWhile.symm⟩
  | atLeastOnce =>
      simp only [quantifier, Option.ite_none_left_eq_some, Option.some.injEq,
        Prod.mk.injEq] at found
      obtain ⟨some, rfl, rfl⟩ := found
      exact ⟨⟨all, some⟩, List.takeWhile_append_dropWhile.symm⟩

/-- A part reads one of its texts in front of an item outside its class. -/
theorem PatternPart.read_append (reads : part.Reads piece)
    (stop : part.quantifier ≠ .once → ∀ item ∈ text.head?, part.accepts item = false) :
    part.read (piece ++ text) = some (piece, text) := by
  obtain ⟨all, shape⟩ := reads
  unfold PatternPart.read
  cases quantifier : part.quantifier with
  | once =>
      rw [quantifier] at shape
      obtain ⟨item, rfl⟩ := List.length_eq_one_iff.mp shape
      simp [all item List.mem_cons_self]
  | any =>
      obtain ⟨run, after⟩ := span_append all (stop (by simp [quantifier]))
      simp only [run, after]
  | atLeastOnce =>
      rw [quantifier] at shape
      obtain ⟨run, after⟩ := span_append all (stop (by simp [quantifier]))
      simp only [run, after, if_neg shape]

/-- The greedy matcher finds texts of the language, -/
theorem matches_of_matchFront (found : matchFront parts text = some (captured, rest)) :
    Matches parts text captured rest := by
  induction parts generalizing text captured with
  | nil =>
      cases found
      exact .nil _
  | cons part parts ih =>
      simp only [matchFront, bind, Option.bind_eq_some_iff, pure, Option.some.injEq,
        Prod.mk.injEq, Prod.exists] at found
      obtain ⟨piece, text, read, later, rest, further, rfl, rfl⟩ := found
      obtain ⟨reads, rfl⟩ := PatternPart.reads_of_read read
      exact .cons reads (ih further)

/-- and every one of an unambiguous pattern. -/
theorem matchFront_eq_some_iff (unambiguous : Unambiguous parts) :
    matchFront parts text = some (captured, rest) ↔ Matches parts text captured rest := by
  refine ⟨matches_of_matchFront, fun matching => ?_⟩
  induction matching with
  | nil text => rfl
  | @cons part parts piece text rest later first others ih =>
      obtain ⟨ends, unambiguous⟩ := unambiguous
      have read := PatternPart.read_append first fun repeated => (ends repeated).head others
      simp only [matchFront, read, ih unambiguous, bind, Option.bind_some, pure]

/-- A match is in front of the text. -/
theorem Matches.suffix (matching : Matches parts text captured rest) : rest <:+ text := by
  induction matching with
  | nil text => exact List.suffix_rfl
  | cons first others ih => exact ih.trans (List.suffix_append _ _)

end Matching

/-! ## Literal text -/

section Literal

variable (same : α → α → Bool)

/-- The parts of a word, for a comparison of its items. -/
def literal (word : List α) : List (PatternPart α) := word.map fun item => ⟨same item, .once, false⟩

variable {same} {word : List α} {parts : List (PatternPart α)}

/-- A literal in front adds no ambiguity. -/
theorem unambiguous_literal_append :
    Unambiguous (literal same word ++ parts) ↔ Unambiguous parts := by
  induction word with
  | nil => rfl
  | cons item word ih => simpa [literal, Unambiguous] using ih

/-- A word ends a run by its first item. -/
theorem ends_literal_cons {accepts : α → Bool} {item : α} :
    Ends accepts (literal same (item :: word) ++ parts) ↔
      ∀ other, accepts other = true → same item other = false := by
  simp [literal, Ends]

/-- A word matches itself. -/
theorem Matches.literal_append {text rest : List α} {captured : List (List α)}
    (reflexive : ∀ item ∈ word, same item item = true) (matching : Matches parts text captured rest) :
    Matches (literal same word ++ parts) (word ++ text) captured rest := by
  induction word with
  | nil => exact matching
  | cons item word ih =>
      have later := ih fun other among => reflexive other (List.mem_cons_of_mem _ among)
      refine @Matches.cons _ ⟨same item, .once, false⟩ _ [item] _ _ _ ⟨?_, rfl⟩ later
      simpa using reflexive item List.mem_cons_self

end Literal

/-! ## The matches of a text -/

/-- The successive matches from the left, each behind the one before. Patterns with an empty
match are not searched for. -/
def matchAll (parts : List (PatternPart α)) (text : List α) : List (List (List α)) :=
  match matchFront parts text with
  | some (captured, rest) =>
    if rest.length < text.length then captured :: matchAll parts rest else []
  | none =>
    match text with
    | [] => []
    | _ :: text => matchAll parts text
termination_by text.length

/-- A text of matches with these captured texts, in gaps without an item that starts one. -/
inductive Written (starts : α → Bool) (parts : List (PatternPart α)) :
    List α → List (List (List α)) → Prop where
  | done {gap : List α} (plain : ∀ item ∈ gap, starts item = false) : Written starts parts gap []
  | further {gap text rest : List α} {captured : List (List α)} {others : List (List (List α))}
      (plain : ∀ item ∈ gap, starts item = false) (matching : Matches parts text captured rest)
      (later : Written starts parts rest others) :
      Written starts parts (gap ++ text) (captured :: others)

section Search

variable {first : PatternPart α} {parts : List (PatternPart α)}

/-- No match starts in a gap. -/
theorem matchAll_gap (single : first.quantifier = .once) {gap : List α}
    (plain : ∀ item ∈ gap, first.accepts item = false) (text : List α) :
    matchAll (first :: parts) (gap ++ text) = matchAll (first :: parts) text := by
  induction gap with
  | nil => rfl
  | cons item gap ih =>
      have missed : matchFront (first :: parts) (item :: (gap ++ text)) = none := by
        have other := plain item List.mem_cons_self
        simp [matchFront, PatternPart.read, single, other]
      rw [List.cons_append, matchAll, missed]
      exact ih fun other among => plain other (List.mem_cons_of_mem _ among)

/-- The matches written in a text are the ones found. -/
theorem matchAll_of_written (single : first.quantifier = .once)
    (unambiguous : Unambiguous (first :: parts)) {text : List α} {found : List (List (List α))}
    (written : Written first.accepts (first :: parts) text found) :
    matchAll (first :: parts) text = found := by
  induction written with
  | @done gap plain =>
      have empty := @matchAll_gap _ first parts single gap plain []
      rw [List.append_nil] at empty
      rw [empty, matchAll]
      simp [matchFront, PatternPart.read, single]
  | @further gap text rest captured others plain matching later ih =>
      have shorter : rest.length < text.length := by
        cases matching with
        | @cons _ _ piece after _ _ reads others =>
            have size := others.suffix.length_le
            have one : piece.length = 1 := by simpa [PatternPart.Reads, single] using reads.2
            rw [List.length_append]
            omega
      have front := (matchFront_eq_some_iff unambiguous).mpr matching
      rw [matchAll_gap single plain, matchAll.eq_def, front]
      simp only [if_pos shorter, ih]

end Search

end IEDSyncTogether.Base
