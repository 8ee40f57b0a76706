import IEDSyncTogether.Base.Pattern
import IEDSyncTogether.Discovery.ServerAddress
import IEDSyncTogether.Discovery.StoredValues

/-!
# The state of the Skyrim Together client

The client keeps the address and the password of the last server in its local storage, and a
list of saved servers, an array of objects in JSON. `ReadClientState` takes the password from
the list if none is stored for the last server.
-/

namespace IEDSyncTogether

open Base

/-- The last server of the client, its password, and its address as it is stored. -/
structure ClientState where
  remotePeer : Option RemotePeer
  password : Option ByteString
  rawAddress : ByteString
deriving DecidableEq

/-- The pattern compares without case. -/
def sameLetter (expected found : UInt8) : Bool := toLower expected = toLower found

/-- Any number of blanks. -/
def blanks : PatternPart UInt8 := ⟨isSpace, .any, false⟩

/-- A character of a quoted text. -/
def insideQuotes (ch : UInt8) : Bool := ch ≠ byteOf '"'

/-- The parts of a text in the pattern. -/
def word (text : String) : List (PatternPart UInt8) := literal sameLetter (ascii text)

/-- The pattern of a saved server: address, port and password are its groups. -/
def itemPattern : List (PatternPart UInt8) :=
  word "\x7b" ++ blanks :: (word "\"ip\"" ++ blanks :: (word ":" ++ blanks :: (word "\"" ++
    ⟨insideQuotes, .atLeastOnce, true⟩ :: (word "\"" ++ blanks :: (word "," ++ blanks ::
    (word "\"port\"" ++ blanks :: (word ":" ++ blanks ::
    ⟨fun ch => (decimalValue ch).isSome, .atLeastOnce, true⟩ :: blanks :: (word "," ++ blanks ::
    (word "\"password\"" ++ blanks :: (word ":" ++ blanks :: (word "\"" ++
    ⟨insideQuotes, .any, true⟩ :: word "\"")))))))))))

/-- The password of a match, if its host is the one of the peer. -/
def passwordOfMatch (peer : RemotePeer) : List ByteString → Option ByteString
  | [host, _, password] =>
    if stricmpEqual host peer.host ∧ password ≠ [] then some password else none
  | _ => none

/-- `ReadPasswordFromSavedServerList`: the first match with the host of the peer and a password. -/
def readPasswordFromSavedServerList (storage : List StorageEntry) (peer : RemotePeer) :
    Except StringError (Option ByteString) := do
  let savedServerList ← readLatestLocalStorageValue storage (ascii "savedServerList")
  return savedServerList.bind fun list => (matchAll itemPattern list).findSome? (passwordOfMatch peer)

/-- `ReadClientState`: without a stored password the list of saved servers is searched. -/
def readClientState (storage : List StorageEntry) (iedSyncPort : UInt16) :
    Except StringError ClientState := do
  let address ← readLatestLocalStorageValue storage (ascii "last_connected_address")
  let remotePeer := address.bind (parseStrAddress · iedSyncPort)
  let rawAddress := address.getD []
  let password ← readLatestLocalStorageValue storage (ascii "last_connected_password")
  if password.getD [] ≠ [] then return ⟨remotePeer, password, rawAddress⟩
  else
    match remotePeer with
    | none => return ⟨remotePeer, none, rawAddress⟩
    | some peer =>
      return ⟨remotePeer, ← readPasswordFromSavedServerList storage peer, rawAddress⟩

/-! ## The saved servers -/

/-- A saved server as it stands in the list. -/
structure SavedServer where
  host : ByteString
  port : ByteString
  password : ByteString
  host_present : host ≠ []
  host_plain : byteOf '"' ∉ host
  port_present : port ≠ []
  port_digits : ∀ ch ∈ port, (decimalValue ch).isSome
  password_plain : byteOf '"' ∉ password

namespace SavedServer

variable (blank : Nat → ByteString) (server : SavedServer)

/-- The start of an object of the list, with blanks between its tokens. -/
def item : ByteString :=
  ascii "\x7b" ++ blank 0 ++ ascii "\"ip\"" ++ blank 1 ++ ascii ":" ++ blank 2 ++
    ascii "\"" ++ server.host ++ ascii "\"" ++ blank 3 ++ ascii "," ++ blank 4 ++
    ascii "\"port\"" ++ blank 5 ++ ascii ":" ++ blank 6 ++ server.port ++ blank 7 ++
    ascii "," ++ blank 8 ++ ascii "\"password\"" ++ blank 9 ++ ascii ":" ++ blank 10 ++
    ascii "\"" ++ server.password ++ ascii "\""

end SavedServer

/-- A text with the objects of these servers, and no other start of an object between them. -/
inductive SavedServerList : ByteString → List SavedServer → Prop where
  | done {gap : ByteString} (plain : byteOf '{' ∉ gap) : SavedServerList gap []
  | further {gap rest : ByteString} {servers : List SavedServer} (plain : byteOf '{' ∉ gap)
      {blank : Nat → ByteString} (spaces : ∀ place, ∀ ch ∈ blank place, isSpace ch = true)
      (server : SavedServer) (later : SavedServerList rest servers) :
      SavedServerList (gap ++ (server.item blank ++ rest)) (server :: servers)

section Pattern

variable {accepts : UInt8 → Bool} {parts : List (PatternPart UInt8)} {text rest piece : ByteString}
  {captured : List ByteString}

/-- A character that is no letter is the same as itself only. -/
theorem sameLetter_iff {mark ch : UInt8} (plain : mark < 65 ∨ 122 < mark) :
    sameLetter mark ch = true ↔ ch = mark := by
  rw [UInt8.lt_iff_toNat_lt, UInt8.lt_iff_toNat_lt] at plain
  have kept : toLower mark = mark := by
    rw [toLower, if_neg]
    rw [UInt8.le_iff_toNat_le, UInt8.le_iff_toNat_le]
    simp at plain ⊢
    omega
  rw [sameLetter, decide_eq_true_eq, kept, toLower]
  split_ifs with capital
  · rw [UInt8.le_iff_toNat_le, UInt8.le_iff_toNat_le] at capital
    rw [← UInt8.toNat_inj, ← UInt8.toNat_inj, UInt8.toNat_add]
    simp at plain capital ⊢
    omega
  · exact eq_comm

/-- A word ends the runs of a class without its first character. -/
theorem ends_word {word_ : String} {mark : UInt8} {letters : ByteString}
    (shape : ascii word_ = mark :: letters) (plain : mark < 65 ∨ 122 < mark)
    (outside : accepts mark = false) : Ends accepts (word word_ ++ parts) := by
  rw [word, shape, ends_literal_cons]
  intro other inside
  rw [← Bool.not_eq_true, sameLetter_iff plain]
  rintro rfl
  rw [inside] at outside
  cases outside

/-- A class in front of a word it cannot read is unambiguous. -/
theorem unambiguous_part_word {part : PatternPart UInt8} {word_ : String} {mark : UInt8}
    {letters : ByteString} (shape : ascii word_ = mark :: letters)
    (plain : mark < 65 ∨ 122 < mark) (outside : part.accepts mark = false)
    (unambiguous : Unambiguous parts) : Unambiguous (part :: (word word_ ++ parts)) :=
  ⟨fun _ => ends_word shape plain outside, unambiguous_literal_append.mpr unambiguous⟩

/-- A digit is not a blank. -/
theorem isSpace_eq_false_of_digit {ch : UInt8} (digit : (decimalValue ch).isSome) :
    isSpace ch = false :=
  isSpace_of_bounds (decimalValue_bounds digit).1

/-- Every run of the pattern ends with the token behind it. -/
theorem unambiguous_itemPattern : Unambiguous itemPattern := by
  refine unambiguous_literal_append.mpr ?_
  iterate 7 refine unambiguous_part_word rfl (by decide) rfl ?_
  refine ⟨fun _ => ⟨fun ch blank => ?_, nofun⟩, ?_⟩
  · cases digit : (decimalValue ch).isSome with
    | false => exact digit
    | true => cases (isSpace_eq_false_of_digit digit).symm.trans blank
  · refine ⟨fun _ => ⟨fun ch digit => isSpace_eq_false_of_digit digit, fun _ => ?_⟩, ?_⟩
    · exact ends_word rfl (by decide) rfl
    · iterate 4 refine unambiguous_part_word rfl (by decide) rfl ?_
      rw [← List.append_nil (word "\"")]
      exact unambiguous_part_word rfl (by decide) rfl trivial

/-- A pattern that starts with a word matches the word itself. -/
theorem matches_word {word_ : String} (matching : Matches parts text captured rest) :
    Matches (word word_ ++ parts) (ascii word_ ++ text) captured rest :=
  matching.literal_append fun _ _ => decide_eq_true rfl

/-- A pattern that starts with blanks matches any blanks. -/
theorem matches_blanks (spaces : ∀ ch ∈ piece, isSpace ch = true)
    (matching : Matches parts text captured rest) :
    Matches (blanks :: parts) (piece ++ text) captured rest :=
  @Matches.cons _ blanks _ _ _ _ _ ⟨spaces, trivial⟩ matching

/-- A group captures the text its class reads. -/
theorem matches_group {quantifier : Quantifier}
    (reads : PatternPart.Reads ⟨accepts, quantifier, true⟩ piece)
    (matching : Matches parts text captured rest) :
    Matches (⟨accepts, quantifier, true⟩ :: parts) (piece ++ text) (piece :: captured) rest :=
  .cons reads matching

/-- A text without quotes can stand between quotes. -/
theorem insideQuotes_of_plain (plain : byteOf '"' ∉ piece) :
    ∀ ch ∈ piece, insideQuotes ch = true :=
  fun _ among => decide_eq_true fun quote => plain (quote ▸ among)

/-- The pattern matches a saved server. -/
theorem SavedServer.matches_item {blank : Nat → ByteString}
    (spaces : ∀ place, ∀ ch ∈ blank place, isSpace ch = true) (server : SavedServer)
    (rest : ByteString) :
    Matches itemPattern (server.item blank ++ rest) [server.host, server.port, server.password]
      rest := by
  have last : Matches (word "\"") (ascii "\"" ++ rest) [] rest := by
    rw [← List.append_nil (word "\"")]
    exact matches_word (.nil rest)
  unfold SavedServer.item itemPattern
  simp only [List.append_assoc]
  refine matches_word (matches_blanks (spaces 0) (matches_word (matches_blanks (spaces 1) ?_)))
  refine matches_word (matches_blanks (spaces 2) (matches_word ?_))
  refine matches_group ⟨insideQuotes_of_plain server.host_plain, server.host_present⟩ ?_
  refine matches_word (matches_blanks (spaces 3) (matches_word (matches_blanks (spaces 4) ?_)))
  refine matches_word (matches_blanks (spaces 5) (matches_word (matches_blanks (spaces 6) ?_)))
  refine matches_group ⟨server.port_digits, server.port_present⟩ ?_
  refine matches_blanks (spaces 7) (matches_word (matches_blanks (spaces 8) ?_))
  refine matches_word (matches_blanks (spaces 9) (matches_word (matches_blanks (spaces 10) ?_)))
  exact matches_word (matches_group ⟨insideQuotes_of_plain server.password_plain, trivial⟩ last)

/-- The servers of a list are the matches found in it. -/
theorem SavedServerList.matchAll {servers : List SavedServer}
    (list : SavedServerList text servers) :
    matchAll itemPattern text =
      servers.map fun server => [server.host, server.port, server.password] := by
  have gaps {gap : ByteString} (plain : byteOf '{' ∉ gap) :
      ∀ ch ∈ gap, sameLetter (byteOf '{') ch = false := by
    intro ch among
    rw [← Bool.not_eq_true, sameLetter_iff (by decide)]
    rintro rfl
    exact plain among
  refine matchAll_of_written rfl unambiguous_itemPattern ?_
  induction list with
  | done plain => exact .done (gaps plain)
  | further plain spaces server later ih =>
      exact .further (gaps plain) (server.matches_item spaces _) ih

end Pattern

/-! ## What the client state says -/

/-- A value stands in its layout behind the last place of a key in the youngest file that
mentions the key. -/
def Stores (storage : List StorageEntry) (key value : ByteString) : Prop :=
  (value ≠ [] ∧ value.length ≤ 2048 ∧ ∀ ch ∈ value, 0x20 ≤ ch ∧ ch < 0x7F) ∧
    ∃ before rest, YoungestMention storage key
        (before ++ (key ++ (varint value.length ++ 1 :: (value ++ rest)))) ∧
      ¬ key <:+: varint value.length ++ 1 :: (value ++ rest)

section Storage

variable {storage : List StorageEntry} {key value : ByteString}

/-- A stored value is read. -/
theorem readLatestLocalStorageValue_of_stores (nonempty : key ≠ []) (unbordered : Unbordered key)
    (answer : ∀ entry ∈ storage, entry.Answers) (stores : Stores storage key value) :
    readLatestLocalStorageValue storage key = .ok (some value) := by
  obtain ⟨⟨present, short, printable⟩, before, rest, youngest, last⟩ := stores
  rw [readLatestLocalStorageValue_of_youngest nonempty unbordered answer youngest last,
    storedValueAt_of_layout present short printable]
  rw [← List.drop_drop, List.drop_left, List.drop_left]

/-- Reading the client state throws nothing. -/
theorem exists_readClientState (storage : List StorageEntry) (iedSyncPort : UInt16) :
    ∃ state, readClientState storage iedSyncPort = .ok state := by
  obtain ⟨address, connected⟩ :=
    exists_readLatestLocalStorageValue storage (ascii "last_connected_address")
  obtain ⟨password, stored⟩ :=
    exists_readLatestLocalStorageValue storage (ascii "last_connected_password")
  obtain ⟨list, saved⟩ := exists_readLatestLocalStorageValue storage (ascii "savedServerList")
  simp only [readClientState, readPasswordFromSavedServerList, connected, stored, saved, bind,
    Except.bind]
  split
  · exact ⟨_, rfl⟩
  · split <;> exact ⟨_, rfl⟩

/-- A stored password is the one of the client state, whatever the address. -/
theorem readClientState_password {password : ByteString}
    (answer : ∀ entry ∈ storage, entry.Answers)
    (stored : Stores storage (ascii "last_connected_password") password) (iedSyncPort : UInt16) :
    ∃ state, readClientState storage iedSyncPort = .ok state ∧ state.password = some password := by
  obtain ⟨address, connected⟩ :=
    exists_readLatestLocalStorageValue storage (ascii "last_connected_address")
  have read := readLatestLocalStorageValue_of_stores (by decide) (by decide) answer stored
  have present : password ≠ [] := stored.1.1
  simp only [readClientState, connected, read, Option.getD_some, bind, Except.bind]
  exact ⟨_, if_pos present, rfl⟩

/-- The first saved server with the host of the peer and a password counts. -/
theorem findSome?_passwordOfMatch (peer : RemotePeer) (servers : List SavedServer) :
    (servers.map fun server => [server.host, server.port, server.password]).findSome?
        (passwordOfMatch peer) =
      (servers.find? fun server =>
        stricmpEqual server.host peer.host ∧ server.password ≠ []).map SavedServer.password := by
  induction servers with
  | nil => rfl
  | cons server servers ih =>
      rw [List.map_cons, List.findSome?_cons, List.find?_cons, passwordOfMatch]
      by_cases chosen : stricmpEqual server.host peer.host ∧ server.password ≠ []
      · simp [chosen]
      · simp only [if_neg chosen, decide_eq_false chosen, ih]

/-- The client state names the last server by the host of its address. The password is the one
stored for the last server, and without one the first non-empty one of the saved servers with
that host. -/
theorem client_state_read {address host : ByteString} (iedSyncPort : UInt16)
    (answer : ∀ entry ∈ storage, entry.Answers)
    (connected : Stores storage (ascii "last_connected_address") address)
    (named : NamesServer address host) :
    (∀ password, Stores storage (ascii "last_connected_password") password →
      readClientState storage iedSyncPort =
        .ok ⟨some ⟨host, iedSyncPort⟩, some password, address⟩) ∧
    ((∀ entry ∈ storage, entry.mention (ascii "last_connected_password") = none) →
      ∀ list servers, Stores storage (ascii "savedServerList") list →
        SavedServerList list servers →
        readClientState storage iedSyncPort = .ok ⟨some ⟨host, iedSyncPort⟩,
          (servers.find? fun server => stricmpEqual server.host host ∧ server.password ≠ []).map
            SavedServer.password,
          address⟩) := by
  have parsed := parseStrAddress_of_namesServer named iedSyncPort
  have address := readLatestLocalStorageValue_of_stores (by decide) (by decide) answer connected
  constructor
  · intro password stored
    have read := readLatestLocalStorageValue_of_stores (by decide) (by decide) answer stored
    have present := stored.1.1
    simp [readClientState, address, read, parsed, present, bind, Except.bind, pure, Except.pure]
  · intro missing list servers stored written
    have nothing := readLatestLocalStorageValue_of_missing (by decide) answer missing
    have saved := readLatestLocalStorageValue_of_stores (by decide) (by decide) answer stored
    simp [readClientState, readPasswordFromSavedServerList, address, nothing, parsed, saved,
      written.matchAll, findSome?_passwordOfMatch, bind, Except.bind, pure, Except.pure]

end Storage

/-- A record of the storage with a short value. -/
def storedRecord (key value : ByteString) : ByteString :=
  key ++ value.length.toUInt8 :: 1 :: value

/-- A table with the last address and another record, younger than a log. -/
def visitedStorage (log record : ByteString) : List StorageEntry :=
  [⟨some true, ascii ".log", some log, some 1⟩,
    ⟨some true, ascii ".LDB", some (storedRecord (ascii "last_connected_address")
      (ascii "whiterun.example:10578") ++ record), some 2⟩]

/-- Every file of the storage can be read. -/
theorem answers_visitedStorage (log record : ByteString) :
    ∀ entry ∈ visitedStorage log record, entry.Answers := by
  simp [visitedStorage, StorageEntry.Answers]

/-- The last server had a password, and an older one stands in the log. -/
def visitedServers : List StorageEntry :=
  visitedStorage (storedRecord (ascii "last_connected_password") (ascii "old"))
    (storedRecord (ascii "last_connected_password") (ascii "secret"))

/-- A saved server without a password. -/
def openServer : SavedServer where
  host := ascii "whiterun.example"
  port := ascii "1"
  password := []
  host_present := by decide
  host_plain := by decide
  port_present := by decide
  port_digits := by decide +kernel
  password_plain := by decide

/-- The server of the last address in another spelling. -/
def whiterunServer : SavedServer where
  host := ascii "Whiterun.Example"
  port := ascii "10578"
  password := ascii "hall"
  host_present := by decide
  host_plain := by decide
  port_present := by decide
  port_digits := by decide +kernel
  password_plain := by decide

/-- The list of the two servers; one blank stands in front of the second port. -/
def savedList : ByteString :=
  ascii "[" ++ (openServer.item (fun _ => []) ++ (ascii "\x7d," ++
    (whiterunServer.item (fun place => if place = 6 then ascii " " else []) ++ ascii "\x7d]")))

/-- The list is a text with the two servers. -/
theorem savedList_servers : SavedServerList savedList [openServer, whiterunServer] := by
  refine .further (by decide) (by simp) openServer (.further (by decide) ?_ whiterunServer
    (.done (by decide)))
  intro place ch among
  split at among
  · rw [List.mem_singleton.mp among]
    rfl
  · cases among

/-- No password is stored for the last server, and the servers are saved. -/
def savedServers : List StorageEntry :=
  visitedStorage (storedRecord (ascii "savedServerList") (ascii "[]"))
    (storedRecord (ascii "savedServerList") savedList)

/-- A short value stands behind one byte of its length. -/
theorem stores_of_short {storage : List StorageEntry} {key value before rest : ByteString}
    (printable : value ≠ [] ∧ value.length < 128 ∧ ∀ ch ∈ value, 0x20 ≤ ch ∧ ch < 0x7F)
    (youngest : YoungestMention storage key
      (before ++ (key ++ value.length.toUInt8 :: 1 :: (value ++ rest))))
    (last : ¬ key <:+: value.length.toUInt8 :: 1 :: (value ++ rest)) : Stores storage key value := by
  obtain ⟨present, short, letters⟩ := printable
  have length : varint value.length = [value.length.toUInt8] := by rw [varint, if_pos short]
  refine ⟨⟨present, by omega, letters⟩, before, rest, ?_, ?_⟩
  · rw [length]
    exact youngest
  · rw [length]
    exact last

/-- Both storages hold the last address. -/
theorem stores_whiterun :
    Stores visitedServers (ascii "last_connected_address") (ascii "whiterun.example:10578") ∧
      Stores savedServers (ascii "last_connected_address") (ascii "whiterun.example:10578") := by
  constructor
  · exact @stores_of_short _ _ _ [] (storedRecord (ascii "last_connected_password")
      (ascii "secret")) (by decide +kernel)
      ⟨[_], _, [], 2, rfl, by decide +kernel, by decide +kernel⟩ (by decide +kernel)
  · exact @stores_of_short _ _ _ [] (storedRecord (ascii "savedServerList") savedList)
      (by decide +kernel) ⟨[_], _, [], 2, rfl, by decide +kernel, by decide +kernel⟩
      (by decide +kernel)

/-- The first storage holds the password of the last server. -/
theorem stores_secret :
    Stores visitedServers (ascii "last_connected_password") (ascii "secret") :=
  @stores_of_short _ _ _ (storedRecord (ascii "last_connected_address")
    (ascii "whiterun.example:10578")) [] (by decide +kernel)
    ⟨[_], _, [], 2, rfl, by decide +kernel, by decide +kernel⟩ (by decide +kernel)

/-- The second storage holds the list. -/
theorem stores_savedList : Stores savedServers (ascii "savedServerList") savedList :=
  @stores_of_short _ _ _ (storedRecord (ascii "last_connected_address")
    (ascii "whiterun.example:10578")) [] (by decide +kernel)
    ⟨[_], _, [], 2, rfl, by decide +kernel, by decide +kernel⟩ (by decide +kernel)

/-- The stored password of the last server, and the saved one of its host. -/
theorem whiterun_read :
    readClientState visitedServers 38471 = .ok ⟨some ⟨ascii "whiterun.example", 38471⟩,
        some (ascii "secret"), ascii "whiterun.example:10578"⟩ ∧
      readClientState savedServers 38471 = .ok ⟨some ⟨ascii "whiterun.example", 38471⟩,
        some (ascii "hall"), ascii "whiterun.example:10578"⟩ := by
  have named := @NamesServer.hostAndPort (ascii "whiterun.example:10578")
    (ascii "whiterun.example") (ascii "10578") 10578 (by decide +kernel)
    (by decide +kernel) (by decide) (by decide) (by decide +kernel)
  have missing : ∀ entry ∈ savedServers,
      entry.mention (ascii "last_connected_password") = none := by
    decide +kernel
  constructor
  · exact (client_state_read 38471 (answers_visitedStorage _ _) stores_whiterun.1 named).1 _
      stores_secret
  · exact (client_state_read 38471 (answers_visitedStorage _ _) stores_whiterun.2 named).2 missing
      _ _ stores_savedList savedList_servers

end IEDSyncTogether
