import IEDSyncTogether.Base.Fields
import IEDSyncTogether.Config.Load

/-!
# The password in the server's configuration

A player who hosts the server has its password in an INI file. `ReadIniValue` goes through
the lines and returns the first value of the key in a section of the name; a comment sign
ends a value.
-/

namespace IEDSyncTogether

open Base

/-- The value of an assignment without a comment behind it. -/
def withoutComment (text : ByteString) : ByteString :=
  let value := trim text
  match findFirstOf value (ascii ";#") 0 with
  | some comment => trim (value.take comment)
  | none => value

/-- The loop of `ReadIniValue` over the lines left. -/
def readIniLoop (section_ key : ByteString) (inSection : Bool) : List ByteString → Option ByteString
  | [] => none
  | line :: lines =>
    let line := trim line
    if line = [] ∨ line.head? = some (byteOf ';') ∨ line.head? = some (byteOf '#') then
      readIniLoop section_ key inSection lines
    else if line.head? = some (byteOf '[') ∧ line.getLast? = some (byteOf ']') then
      let current := substr line 1 (line.length - 2)
      readIniLoop section_ key (stricmpEqual current section_) lines
    else if ¬ inSection then readIniLoop section_ key inSection lines
    else
      match findText (ascii "=") line with
      | none => readIniLoop section_ key inSection lines
      | some separator =>
        if stricmpEqual (trim (line.take separator)) key then
          some (withoutComment (line.drop (separator + 1)))
        else readIniLoop section_ key inSection lines

/-- The value of a key in a file; none for a file that cannot be opened. -/
def readIniValue (file : Option ByteString) (section_ key : ByteString) : Option ByteString :=
  file.bind fun text => readIniLoop section_ key false (text.splitOn (byteOf '\n'))

/-- `ReadServerPasswordFromConfig`: an empty password counts as none. -/
def readServerPasswordFromConfig (file : Option ByteString) : Option ByteString :=
  match readIniValue file (ascii "GameServer") (ascii "sPassword") with
  | none => none
  | some password => if password = [] then none else some password

/-! ## The assignments of a file -/

/-- What a line of an INI file is: blank or a comment, a section, or a key with its value. -/
inductive IniLine where
  | skipped
  | header (name : ByteString)
  | assignment (key value : ByteString)

/-- What a line is by itself. -/
def iniLine (line : ByteString) : IniLine :=
  let line := trim line
  if line = [] ∨ line.head? = some (byteOf ';') ∨ line.head? = some (byteOf '#') then .skipped
  else if line.head? = some (byteOf '[') ∧ line.getLast? = some (byteOf ']') then
    .header (substr line 1 (line.length - 2))
  else
    match findText (ascii "=") line with
    | none => .skipped
    | some separator => .assignment (trim (line.take separator)) (line.drop (separator + 1))

/-- A key and its value with the section they stand in. -/
structure Assignment where
  section_ : ByteString
  key : ByteString
  value : ByteString
deriving DecidableEq

/-- The assignments under the headers; those in front of the first one are in no section. -/
def assignments (current : Option ByteString) : List ByteString → List Assignment
  | [] => []
  | line :: lines =>
    match iniLine line with
    | .skipped => assignments current lines
    | .header name => assignments (some name) lines
    | .assignment key value =>
      match current with
      | none => assignments current lines
      | some section_ => ⟨section_, key, value⟩ :: assignments current lines

/-- The first assignment of a file to the key in a section of the name. -/
def firstAssignment (text section_ key : ByteString) : Option Assignment :=
  (assignments none (text.splitOn (byteOf '\n'))).find? fun assignment =>
    stricmpEqual assignment.section_ section_ ∧ stricmpEqual assignment.key key

section Reading

variable {section_ key text : ByteString}

/-- A turn of the loop depends on what its line is. -/
theorem readIniLoop_cons (section_ key : ByteString) (inSection : Bool) (line : ByteString)
    (lines : List ByteString) :
    readIniLoop section_ key inSection (line :: lines) =
      match iniLine line with
      | .skipped => readIniLoop section_ key inSection lines
      | .header name => readIniLoop section_ key (stricmpEqual name section_) lines
      | .assignment other value =>
        if inSection = true ∧ stricmpEqual other key then some (withoutComment value)
        else readIniLoop section_ key inSection lines := by
  simp only [readIniLoop, iniLine]
  split
  · rfl
  · split
    · rfl
    · cases findText (ascii "=") (trim line) <;> cases inSection <;> simp

/-- The loop knows only whether the current section is the one asked for. -/
theorem readIniLoop_eq (current : Option ByteString) (lines : List ByteString) :
    readIniLoop section_ key (current.any (stricmpEqual · section_)) lines =
      ((assignments current lines).find? fun assignment =>
        stricmpEqual assignment.section_ section_ ∧ stricmpEqual assignment.key key).map
          fun assignment => withoutComment assignment.value := by
  induction lines generalizing current with
  | nil => rfl
  | cons line lines ih =>
      rw [readIniLoop_cons, assignments]
      cases iniLine line with
      | skipped => exact ih current
      | header name => exact ih (some name)
      | assignment other value =>
          cases current with
          | none => simpa using ih none
          | some name =>
              by_cases found : stricmpEqual name section_ ∧ stricmpEqual other key
              · simp [found]
              · simp only [Option.any_some, List.find?_cons, decide_eq_false found, if_neg found]
                exact ih (some name)

/-- What is read from a file is the value of the first assignment to the key in any section of
the name, without the comment behind it. -/
theorem ini_value_read (text section_ key : ByteString) :
    readIniValue (some text) section_ key =
      (firstAssignment text section_ key).map fun assignment => withoutComment assignment.value :=
  readIniLoop_eq none _

/-- The value read is that of the first assignment, up to a comment behind it. -/
theorem readIniValue_of_firstAssignment {assignment : Assignment}
    (configured : firstAssignment text section_ key = some assignment) :
    readIniValue (some text) section_ key = some (withoutComment assignment.value) := by
  refine (readIniLoop_eq none _).trans ?_
  rw [firstAssignment] at configured
  rw [configured, Option.map_some]

/-! ## Passwords that survive -/

theorem length_trim_le (value : ByteString) : (trim value).length ≤ value.length :=
  (List.rdropWhile_prefix _ _).length_le.trans (List.dropWhile_suffix _).length_le

/-- A value stays as it is exactly if it has no comment sign. -/
theorem withoutComment_eq_trim_iff (value : ByteString) :
    withoutComment value = trim value ↔
      byteOf ';' ∉ trim value ∧ byteOf '#' ∉ trim value := by
  rw [withoutComment]
  cases found : findFirstOf (trim value) (ascii ";#") 0 with
  | none =>
      simp only [findFirstOf, List.drop_zero, Option.map_eq_none_iff,
        List.findIdx?_eq_none_iff, decide_eq_false_iff_not] at found
      refine iff_of_true rfl ⟨fun sign => found _ sign ?_, fun sign => found _ sign ?_⟩
      · exact List.mem_cons_self
      · exact List.mem_cons_of_mem _ List.mem_cons_self
  | some comment =>
      have bounds := findFirstOf_some_bounds found
      refine iff_of_false (fun same => ?_) ?_
      · have size := length_trim_le ((trim value).take comment)
        rw [show trim ((trim value).take comment) = trim value from same, List.length_take] at size
        omega
      · simp only [findFirstOf, List.drop_zero, Option.map_eq_some_iff,
          List.findIdx?_eq_some_iff_getElem, decide_eq_true_eq, Nat.zero_add] at found
        obtain ⟨_, ⟨inside, sign, _⟩, rfl⟩ := found
        rintro ⟨noSemicolon, noHash⟩
        rcases List.mem_cons.mp sign with here | later
        · exact noSemicolon (here ▸ List.getElem_mem inside)
        · exact noHash (List.mem_singleton.mp later ▸ List.getElem_mem inside)

/-- The server's password is read as it was configured exactly if it is not empty and has no
comment sign in it. -/
theorem server_password_kept_iff {assignment : Assignment}
    (configured : firstAssignment text (ascii "GameServer") (ascii "sPassword") = some assignment) :
    readServerPasswordFromConfig (some text) = some (trim assignment.value) ↔
      trim assignment.value ≠ [] ∧ byteOf ';' ∉ trim assignment.value ∧
        byteOf '#' ∉ trim assignment.value := by
  rw [readServerPasswordFromConfig, readIniValue_of_firstAssignment configured]
  simp only [Option.ite_none_left_eq_some, Option.some.injEq]
  rw [withoutComment_eq_trim_iff]
  constructor
  · rintro ⟨present, plain⟩
    rw [(withoutComment_eq_trim_iff _).mpr plain] at present
    exact ⟨present, plain⟩
  · rintro ⟨present, plain⟩
    rw [(withoutComment_eq_trim_iff _).mpr plain]
    exact ⟨present, plain⟩

/-- A password with a sharp sign loses its end. -/
theorem sharp_password_cut :
    let text := ascii "[GameServer]\nuPort=10578\n sPassword = mead#42 \n"
    readServerPasswordFromConfig (some text) ≠ some (ascii "mead#42") := by
  intro text read
  have configured : firstAssignment text (ascii "GameServer") (ascii "sPassword") =
      some ⟨ascii "GameServer", ascii "sPassword", ascii " mead#42"⟩ := by
    decide +kernel
  exact absurd ((server_password_kept_iff configured).mp read).2.2 (by decide +kernel)

end Reading

end IEDSyncTogether
