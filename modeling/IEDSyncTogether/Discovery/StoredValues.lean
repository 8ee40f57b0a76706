import IEDSyncTogether.Base.Fields
import IEDSyncTogether.Base.SortedByKey
import IEDSyncTogether.Config.Load
import IEDSyncTogether.Discovery.LocalStorage

/-!
# The latest value of a key

`StrServerDiscovery` goes through all files of the local storage, reads a value behind every
place of the key, and takes the one of the youngest file, there the last one. The directory
lists its files in any order.
-/

namespace IEDSyncTogether

open Base

/-- A directory entry. A query of the file system that fails has no answer, and no more has a
file that cannot be opened. -/
structure StorageEntry where
  isRegularFile : Option Bool
  extension : ByteString
  data : Option ByteString
  lastWriteTime : Option Int

/-- A value found in a file, the time of the file, and its place among all that were found. -/
structure StoredValue where
  modified : Int
  order : Nat
  value : Option ByteString

/-- The loop over the places of a key in a file. The number of values is the next order. -/
def pushStoredValues (key data : ByteString) (modified : Int) (position : Nat)
    (values : List StoredValue) : Except StringError (List StoredValue) :=
  -- No key is empty, so every turn moves on.
  if _nonempty : key = [] then .ok values
  else
    match _found : findText key (data.drop position) with
    | none => .ok values
    | some offset => do
      let next := position + offset + key.length
      let value ← tryReadChromiumLocalStorageValue data next
      pushStoredValues key data modified next (values ++ [⟨modified, values.length, value⟩])
termination_by data.length - position
decreasing_by
  have inside := findText_le _found
  have size : 0 < key.length := List.length_pos_iff.mpr _nonempty
  rw [List.length_drop] at inside
  omega

/-- The files of the storage are logs and tables. -/
def isStorageFile (extension : ByteString) : Bool :=
  stricmpEqual extension (ascii ".log") ∨ stricmpEqual extension (ascii ".ldb")

/-- A turn of the loop over the directory; `ec` is whether a query has failed. A failure is
never taken back, so that the entries behind it are passed over. -/
def readEntry (key : ByteString) (state : List StoredValue × Bool) (entry : StorageEntry) :
    Except StringError (List StoredValue × Bool) :=
  let (values, ec) := state
  if ec then .ok (values, true)
  else
    match entry.isRegularFile with
    | none => .ok (values, true)
    | some false => .ok (values, false)
    | some true =>
      if ¬ isStorageFile entry.extension then .ok (values, false)
      else
        match entry.data with
        | none => .ok (values, false)
        | some data => do
          let further ← pushStoredValues key data (entry.lastWriteTime.getD 0) 0 values
          return (further, entry.lastWriteTime.isNone ∧ values.length < further.length)

/-- The comparison of the sort; the order makes it total. -/
def StoredValue.before (left right : StoredValue) : Bool :=
  if left.modified ≠ right.modified then left.modified < right.modified
  else left.order ≤ right.order

/-- `ReadLocalStorageValues`: what all files hold for a key, the oldest first. -/
def readLocalStorageValues (storage : List StorageEntry) (key : ByteString) :
    Except StringError (List StoredValue) := do
  let (values, _) ← storage.foldlM (readEntry key) ([], false)
  return values.mergeSort StoredValue.before

/-- `ReadLatestLocalStorageValue`: the last value that was found, readable or not. -/
def readLatestLocalStorageValue (storage : List StorageEntry) (key : ByteString) :
    Except StringError (Option ByteString) := do
  let values ← readLocalStorageValues storage key
  return values.getLast?.bind StoredValue.value

/-! ## The values of a file -/

/-- The value read behind a place of a key; the search throws nothing. -/
def storedValueAt (data : ByteString) (offset : Nat) : Option ByteString :=
  (tryReadChromiumLocalStorageValue data offset).toOption.join

/-- Reading a value throws nothing. -/
theorem tryReadChromiumLocalStorageValue_eq (data : ByteString) (offset : Nat) :
    tryReadChromiumLocalStorageValue data offset = .ok (storedValueAt data offset) := by
  obtain ⟨found, read, _⟩ := readStoredValueFrom_ok data offset 8
  rw [storedValueAt, tryReadChromiumLocalStorageValue, read]
  rfl

/-- A short printable value in its layout is read back. -/
theorem storedValueAt_of_layout {data value rest : ByteString} {offset : Nat}
    (present : value ≠ []) (short : value.length ≤ 2048)
    (printable : ∀ ch ∈ value, 0x20 ≤ ch ∧ ch < 0x7F)
    (layout : data.drop offset = varint value.length ++ 1 :: (value ++ rest)) :
    storedValueAt data offset = some value := by
  have inside : offset < data.length := by
    have size := congrArg List.length layout
    simp only [List.length_drop, List.length_append, List.length_cons] at size
    omega
  have first := readStoredValue_of_layout present short printable layout
  rw [storedValueAt, tryReadChromiumLocalStorageValue, readStoredValueFrom, if_pos inside, first]
  rfl

/-- Values are numbered in the order they are found. -/
def Numbered (values : List StoredValue) : Prop :=
  values.map StoredValue.order = List.range values.length

/-- A value with the next number continues the numbering. -/
theorem Numbered.append {values : List StoredValue} (numbered : Numbered values) (modified : Int)
    (value : Option ByteString) : Numbered (values ++ [⟨modified, values.length, value⟩]) := by
  rw [Numbered, List.map_append, numbered]
  simp [List.range_succ]

section File

variable {key data : ByteString} {modified : Int} {position : Nat} {values : List StoredValue}

/-- A file without the key adds nothing. -/
theorem pushStoredValues_of_missing (missing : ¬ key <:+: data.drop position) :
    pushStoredValues key data modified position values = .ok values := by
  rw [← findText_eq_none_iff] at missing
  rw [pushStoredValues]
  split
  · rfl
  · split
    · rfl
    · next offset found => cases missing.symm.trans found

/-- The first place of the key adds a value, and the search goes on behind it. -/
theorem pushStoredValues_of_found (nonempty : key ≠ []) {offset : Nat}
    (found : findText key (data.drop position) = some offset) :
    pushStoredValues key data modified position values =
      pushStoredValues key data modified (position + offset + key.length)
        (values ++ [⟨modified, values.length,
          storedValueAt data (position + offset + key.length)⟩]) := by
  rw [pushStoredValues, dif_neg nonempty]
  split
  · next missing => cases missing.symm.trans found
  · next other again =>
      cases again.symm.trans found
      simp only [tryReadChromiumLocalStorageValue_eq, bind, Except.bind]

/-- The search of a file throws nothing. -/
theorem exists_pushStoredValues (key data : ByteString) (modified : Int) (position : Nat)
    (values : List StoredValue) :
    ∃ found, pushStoredValues key data modified position values = .ok found := by
  induction position, values using pushStoredValues.induct key data modified with
  | case1 position values empty => exact ⟨values, by rw [pushStoredValues, dif_pos empty]⟩
  | case2 position values _ missing =>
      exact ⟨values, pushStoredValues_of_missing (findText_eq_none_iff.mp missing)⟩
  | case3 position values nonempty offset found next ih =>
      obtain ⟨pushed, further⟩ := ih (storedValueAt data next)
      exact ⟨pushed, (pushStoredValues_of_found nonempty found).trans further⟩

/-- A file adds values with its time. -/
theorem pushStoredValues_ok (nonempty : key ≠ []) (modified : Int) (position : Nat)
    (numbered : Numbered values) :
    ∃ found, pushStoredValues key data modified position values = .ok (values ++ found) ∧
      Numbered (values ++ found) ∧ ∀ value ∈ found, value.modified = modified := by
  induction position, values using pushStoredValues.induct key data modified with
  | case1 position values empty => exact absurd empty nonempty
  | case2 position values _ missing =>
      refine ⟨[], ?_, by simpa using numbered, by simp⟩
      rw [pushStoredValues_of_missing (findText_eq_none_iff.mp missing), List.append_nil]
  | case3 position values _ offset found next ih =>
      obtain ⟨later, pushed, numbered, times⟩ :=
        ih (storedValueAt data next) (numbered.append modified _)
      rw [List.append_assoc] at pushed numbered
      refine ⟨_, (pushStoredValues_of_found nonempty found).trans pushed, numbered, ?_⟩
      exact List.forall_mem_append.mpr ⟨by simp, times⟩

/-- The last value is the one behind the last place of the key. -/
theorem pushStoredValues_last (nonempty : key ≠ []) (unbordered : Unbordered key)
    {before rest : ByteString} (shape : data.drop position = before ++ (key ++ rest))
    (last : ¬ key <:+: rest) (modified : Int) (values : List StoredValue) :
    ∃ found order, pushStoredValues key data modified position values = .ok (values ++ (found ++
      [⟨modified, order, storedValueAt data (position + before.length + key.length)⟩])) := by
  induction position, values using pushStoredValues.induct key data modified generalizing before with
  | case1 position values empty => exact absurd empty nonempty
  | case2 position values _ missing =>
      rw [shape, findText_eq_none_iff] at missing
      exact absurd ⟨before, rest, List.append_assoc ..⟩ missing
  | case3 position values _ offset found next =>
      rename_i ih
      have turn := @pushStoredValues_of_found key data modified position values nonempty offset found
      rw [shape] at found
      rcases findText_of_unbordered unbordered found with rfl | earlier
      · have behind : data.drop (position + before.length + key.length) = rest := by
          rw [← List.drop_drop, ← List.drop_drop, shape, List.drop_left, List.drop_left]
        refine ⟨[], values.length, turn.trans ?_⟩
        rw [pushStoredValues_of_missing (by rwa [behind]), List.nil_append]
      · have behind : data.drop next = before.drop (offset + key.length) ++ (key ++ rest) := by
          rw [← List.drop_append_of_le_length earlier, ← shape, List.drop_drop, ← Nat.add_assoc]
        obtain ⟨later, order, pushed⟩ := ih (storedValueAt data next) behind
        refine ⟨⟨modified, values.length, storedValueAt data next⟩ :: later, order, ?_⟩
        have same : next + (before.drop (offset + key.length)).length = position + before.length := by
          rw [List.length_drop]
          omega
        rw [same, List.append_assoc] at pushed
        exact turn.trans pushed

end File

/-! ## The values of the directory -/

/-- The queries of an entry do not fail. -/
def StorageEntry.Answers (entry : StorageEntry) : Prop :=
  entry.isRegularFile.isSome ∧ entry.lastWriteTime.isSome

/-- The time and the data of a file that mentions a key. -/
def StorageEntry.mention (entry : StorageEntry) (key : ByteString) : Option (Int × ByteString) := do
  let time ← entry.lastWriteTime
  let data ← entry.data
  if entry.isRegularFile = some true ∧ isStorageFile entry.extension ∧ key <:+: data then
    some (time, data)
  else none

section Directory

variable {key : ByteString} {values : List StoredValue}

/-- An entry without data to search adds nothing. -/
theorem readEntry_of_passed {entry : StorageEntry} (known : entry.isRegularFile.isSome)
    (passed : entry.isRegularFile = some false ∨ isStorageFile entry.extension = false ∨
      entry.data = none) :
    readEntry key (values, false) entry = .ok (values, false) := by
  obtain ⟨regular, known⟩ := Option.isSome_iff_exists.mp known
  cases regular with
  | false => simp [readEntry, known]
  | true =>
      rcases passed with other | other | other
      · cases known.symm.trans other
      · simp [readEntry, known, other]
      · simp [readEntry, known, other]

/-- An open file of the storage is searched for the key. -/
theorem readEntry_of_file {entry : StorageEntry} {time : Int} {data : ByteString}
    (regular : entry.isRegularFile = some true) (file : isStorageFile entry.extension = true)
    (opened : entry.data = some data) (timed : entry.lastWriteTime = some time) :
    readEntry key (values, false) entry =
      (pushStoredValues key data time 0 values).map (·, false) := by
  cases pushed : pushStoredValues key data time 0 values <;>
    simp [readEntry, regular, file, opened, timed, pushed, bind, Except.bind, Except.map, pure,
      Except.pure]

/-- An entry adds values with the time of its mention. -/
theorem readEntry_ok (nonempty : key ≠ []) (numbered : Numbered values) {entry : StorageEntry}
    (answers : entry.Answers) :
    ∃ found, readEntry key (values, false) entry = .ok (values ++ found, false) ∧
      Numbered (values ++ found) ∧
      ∀ value ∈ found, ∃ data, entry.mention key = some (value.modified, data) := by
  obtain ⟨known, timed⟩ := answers
  by_cases passed : entry.isRegularFile = some false ∨ isStorageFile entry.extension = false ∨
      entry.data = none
  · refine ⟨[], ?_, by simpa using numbered, by simp⟩
    rw [readEntry_of_passed known passed, List.append_nil]
  · obtain ⟨regular, known⟩ := Option.isSome_iff_exists.mp known
    obtain ⟨time, timed⟩ := Option.isSome_iff_exists.mp timed
    rw [known, not_or, not_or, Option.some.injEq, Bool.not_eq_false, Bool.not_eq_false] at passed
    obtain ⟨rfl, file, opened⟩ := passed
    obtain ⟨data, opened⟩ := Option.ne_none_iff_exists'.mp opened
    by_cases mentioned : key <:+: data
    · obtain ⟨found, pushed, numbered, times⟩ := pushStoredValues_ok nonempty time 0 numbered
      refine ⟨found, ?_, numbered, fun value among => ⟨data, ?_⟩⟩
      · rw [readEntry_of_file known file opened timed, pushed]
        rfl
      · simp [StorageEntry.mention, timed, opened, known, file, mentioned, times value among]
    · refine ⟨[], ?_, by simpa using numbered, by simp⟩
      rw [readEntry_of_file known file opened timed,
        pushStoredValues_of_missing (by rwa [List.drop_zero]), List.append_nil]
      rfl

/-- No entry makes the search throw, -/
theorem exists_readEntry (key : ByteString) (state : List StoredValue × Bool)
    (entry : StorageEntry) : ∃ next, readEntry key state entry = .ok next := by
  obtain ⟨values, ec⟩ := state
  cases ec with
  | true => exact ⟨_, rfl⟩
  | false =>
      cases regular : entry.isRegularFile with
      | none => exact ⟨(values, true), by simp [readEntry, regular]⟩
      | some kind =>
          by_cases passed : kind = false ∨ isStorageFile entry.extension = false ∨
              entry.data = none
          · exact ⟨_, readEntry_of_passed (by simp [regular]) (by simpa [regular] using passed)⟩
          · rw [not_or, not_or, Bool.not_eq_false, Bool.not_eq_false] at passed
            obtain ⟨rfl, file, opened⟩ := passed
            obtain ⟨data, opened⟩ := Option.ne_none_iff_exists'.mp opened
            obtain ⟨found, pushed⟩ := exists_pushStoredValues key data
              (entry.lastWriteTime.getD 0) 0 values
            simp [readEntry, regular, file, opened, pushed, bind, Except.bind, pure, Except.pure]

/-- so that the search always ends. -/
theorem exists_readLatestLocalStorageValue (storage : List StorageEntry) (key : ByteString) :
    ∃ value, readLatestLocalStorageValue storage key = .ok value := by
  have every (state : List StoredValue × Bool) :
      ∃ final, storage.foldlM (readEntry key) state = .ok final := by
    induction storage generalizing state with
    | nil => exact ⟨state, rfl⟩
    | cons entry entries ih =>
        obtain ⟨next, read⟩ := exists_readEntry key state entry
        rw [List.foldlM_cons, read]
        exact ih next
  obtain ⟨final, read⟩ := every ([], false)
  rw [readLatestLocalStorageValue, readLocalStorageValues, read]
  exact ⟨_, rfl⟩

/-- If every entry of a part of the directory answers, the loop over it ends without an error,
and the values it adds are numbered and come from entries that mention the key. -/
theorem foldlM_readEntry_ok (nonempty : key ≠ []) (numbered : Numbered values)
    {entries : List StorageEntry} (answer : ∀ entry ∈ entries, entry.Answers) :
    ∃ found, entries.foldlM (readEntry key) (values, false) = .ok (values ++ found, false) ∧
      Numbered (values ++ found) ∧
      ∀ value ∈ found, ∃ entry ∈ entries, ∃ data,
        entry.mention key = some (value.modified, data) := by
  induction entries generalizing values with
  | nil => exact ⟨[], by simp [pure, Except.pure], by simpa using numbered, by simp⟩
  | cons entry entries ih =>
      have ⟨first, others⟩ := List.forall_mem_cons.mp answer
      obtain ⟨found, read, numbered, times⟩ := readEntry_ok nonempty numbered first
      obtain ⟨later, further, numbered, laterTimes⟩ := ih numbered others
      rw [List.append_assoc] at further numbered
      refine ⟨found ++ later, ?_, numbered, fun value among => ?_⟩
      · rw [List.foldlM_cons, read]
        exact further
      · rcases List.mem_append.mp among with here | there
        · exact ⟨entry, List.mem_cons_self, times value here⟩
        · obtain ⟨other, listed, mention⟩ := laterTimes value there
          exact ⟨other, List.mem_cons_of_mem _ listed, mention⟩

end Directory

/-! ## The latest value -/

/-- Values are ordered by the time of their file, then by their place. -/
theorem StoredValue.before_iff {left right : StoredValue} :
    left.before right = true ↔ left.modified < right.modified ∨
      left.modified = right.modified ∧ left.order ≤ right.order := by
  rw [StoredValue.before]
  split_ifs with differ
  · simp [differ]
  · simp [not_not.mp differ]

/-- The last value of the youngest file is sorted last. -/
theorem getLast?_sorted {older earlier others : List StoredValue} {latest : StoredValue}
    (numbered : Numbered (older ++ (earlier ++ [latest]) ++ others))
    (before : ∀ value ∈ older, value.modified < latest.modified)
    (same : ∀ value ∈ earlier, value.modified = latest.modified)
    (behind : ∀ value ∈ others, value.modified < latest.modified) :
    ((older ++ (earlier ++ [latest]) ++ others).mergeSort StoredValue.before).getLast? =
      some latest := by
  have increasing : (older ++ (earlier ++ [latest]) ++ others).Pairwise
      fun a b => a.order < b.order := by
    rw [← List.pairwise_map, numbered]
    exact List.pairwise_lt_range
  have first := (List.pairwise_append.mp (List.pairwise_append.mp
    (List.pairwise_append.mp increasing).1).2.1).2.2
  refine getLast?_mergeSort ?_ ?_ (by simp) fun other among => ?_
  · simp only [StoredValue.before_iff]
    omega
  · simp only [Bool.or_eq_true, StoredValue.before_iff]
    omega
  · rw [← Bool.not_eq_true, StoredValue.before_iff]
    simp only [List.mem_append, List.mem_singleton] at among
    rcases among with (old | inside | rfl) | late
    · have time := before other old
      omega
    · have time := same other inside
      have order := first other inside latest List.mem_cons_self
      omega
    · exact .inl rfl
    · have time := behind other late
      omega

/-- The file that mentions the key last, its time and its data, whatever the place of the file in
the directory. -/
def YoungestMention (storage : List StorageEntry) (key data : ByteString) : Prop :=
  ∃ front entry back time, storage = front ++ entry :: back ∧
    entry.mention key = some (time, data) ∧
    ∀ other ∈ front ++ back, ∀ mention ∈ other.mention key, mention.1 < time

section Latest

variable {storage : List StorageEntry} {key : ByteString}

/-- A file that mentions the key is a regular one of the storage that can be read. -/
theorem StorageEntry.of_mention {entry : StorageEntry} {time : Int} {data : ByteString}
    (mention : entry.mention key = some (time, data)) :
    entry.isRegularFile = some true ∧ isStorageFile entry.extension = true ∧
      entry.data = some data ∧ entry.lastWriteTime = some time := by
  simp only [StorageEntry.mention, bind, Option.bind_eq_some_iff, Option.ite_none_right_eq_some,
    Option.some.injEq, Prod.mk.injEq] at mention
  obtain ⟨_, timed, _, opened, ⟨regular, file, _⟩, rfl, rfl⟩ := mention
  exact ⟨regular, file, opened, timed⟩

/-- Without a mention of the key there is no value. -/
theorem readLatestLocalStorageValue_of_missing (nonempty : key ≠ [])
    (answer : ∀ entry ∈ storage, entry.Answers)
    (missing : ∀ entry ∈ storage, entry.mention key = none) :
    readLatestLocalStorageValue storage key = .ok none := by
  obtain ⟨found, read, _, mentions⟩ := @foldlM_readEntry_ok key [] nonempty rfl storage answer
  have nothing : found = [] := by
    refine List.eq_nil_iff_forall_not_mem.mpr fun value among => ?_
    obtain ⟨entry, listed, data, mention⟩ := mentions value among
    rw [missing entry listed] at mention
    cases mention
  rw [nothing] at read
  simp [readLatestLocalStorageValue, readLocalStorageValues, read, bind, Except.bind, pure,
    Except.pure]

/-- The latest value is the one behind the last place of the key in the youngest file. -/
theorem readLatestLocalStorageValue_of_youngest {before rest : ByteString} (nonempty : key ≠ [])
    (unbordered : Unbordered key) (answer : ∀ entry ∈ storage, entry.Answers)
    (youngest : YoungestMention storage key (before ++ (key ++ rest))) (last : ¬ key <:+: rest) :
    readLatestLocalStorageValue storage key =
      .ok (storedValueAt (before ++ (key ++ rest)) (before.length + key.length)) := by
  obtain ⟨front, entry, back, time, rfl, mention, older⟩ := youngest
  obtain ⟨regular, file, opened, timed⟩ := StorageEntry.of_mention mention
  have answers := List.forall_mem_append.mp answer
  obtain ⟨first, readFirst, numbered, firstTimes⟩ :=
    @foldlM_readEntry_ok key [] nonempty rfl front answers.1
  obtain ⟨found, pushed, numbered, times⟩ :=
    @pushStoredValues_ok key (before ++ (key ++ rest)) _ nonempty time 0 numbered
  obtain ⟨earlier, order, lastly⟩ := @pushStoredValues_last key (before ++ (key ++ rest)) 0 nonempty
    unbordered before rest rfl last time ([] ++ first)
  cases List.append_cancel_left (Except.ok.inj (pushed.symm.trans lastly))
  obtain ⟨behind, readBack, numbered, backTimes⟩ :=
    foldlM_readEntry_ok nonempty numbered (List.forall_mem_cons.mp answers.2).2
  have sorted := getLast?_sorted numbered ?_ ?_ ?_
  · rw [readLatestLocalStorageValue, readLocalStorageValues, List.foldlM_append, readFirst]
    simp only [bind, Except.bind, pure, Except.pure, List.foldlM_cons]
    rw [readEntry_of_file regular file opened timed, pushed]
    simp only [Except.map, readBack, sorted, Option.bind_some]
    rw [Nat.zero_add]
  · intro value among
    obtain ⟨other, listed, data, found⟩ := firstTimes value (by simpa using among)
    exact older other (List.mem_append_left _ listed) _ found
  · exact fun value among => times value (List.mem_append_left _ among)
  · intro value among
    obtain ⟨other, listed, data, found⟩ := backTimes value among
    exact older other (List.mem_append_right _ listed) _ found

end Latest

end IEDSyncTogether
