import IEDSyncTogether.Config.RemotePeers

/-!
# The address of the last server

Skyrim Together stores the server a player connected to as a host with an optional port.
`ParseStrAddress` keeps the host; the port of this program's own packets replaces the one of
the server.
-/

namespace IEDSyncTogether

open Base

/-- The characters of a host name. -/
def isSafeHostByte (ch : UInt8) : Bool :=
  48 ≤ ch ∧ ch ≤ 57 ∨ 65 ≤ ch ∧ ch ≤ 90 ∨ 97 ≤ ch ∧ ch ≤ 122 ∨
    ch = byteOf '.' ∨ ch = byteOf '-' ∨ ch = byteOf '_'

/-- `IsSafeHost`. -/
def isSafeHost (host : ByteString) : Bool :=
  host ≠ [] ∧ host.length ≤ 253 ∧ host.all isSafeHostByte

/-- The text in front of a port, or the whole address if no port is behind the last colon. -/
def strAddressHost (value : ByteString) : Option ByteString :=
  match rfindText [byteOf ':'] value with
  | none => some value
  | some separator =>
    let portText := value.drop (separator + 1)
    if portText ≠ [] ∧ portText.all fun ch => (decimalValue ch).isSome then
      match stoul portText with
      | none => none
      | some parsed =>
        if parsed = 0 ∨ 65535 < parsed then none else some (trim (value.take separator))
    else some value

/-- `ParseStrAddress`: a safe host with the port of the synchronisation, whatever port the
address has. -/
def parseStrAddress (value : ByteString) (iedSyncPort : UInt16) : Option RemotePeer :=
  let value := trim value
  if value = [] ∨ byteOf '|' ∈ value ∨ byteOf '/' ∈ value ∨ byteOf '\\' ∈ value then none
  else
    match strAddressHost value with
    | none => none
    | some host => if isSafeHost host then some ⟨host, iedSyncPort⟩ else none

/-! ## The grammar of addresses -/

/-- A text that names a server: a host between blanks, with a port behind a colon or without. -/
inductive NamesServer (value : ByteString) : ByteString → Prop where
  | host (safe : isSafeHost (trim value) = true) : NamesServer value (trim value)
  | hostAndPort {before portText : ByteString} {port : Nat}
      (shape : trim value = before ++ byteOf ':' :: portText)
      (number : decimalNumber portText = some port) (positive : port ≠ 0) (small : port ≤ 65535)
      (safe : isSafeHost (trim before) = true) : NamesServer value (trim before)

section Address

variable {value host : ByteString} {ch : UInt8}

/-- Only blanks are trimmed. -/
theorem mem_trim_or_isSpace (among : ch ∈ value) : ch ∈ trim value ∨ isSpace ch = true := by
  rw [← @List.takeWhile_append_dropWhile _ isSpace value, List.mem_append] at among
  rcases among with front | rest
  · exact .inr (List.mem_takeWhile_imp front)
  · rw [← @List.rdropWhile_append_rtakeWhile _ isSpace (value.dropWhile isSpace),
      List.mem_append] at rest
    exact rest.imp_right List.mem_rtakeWhile_imp

/-- A character that is not safe is not in a safe host. -/
theorem not_mem_of_isSafeHost (safe : isSafeHost host = true)
    (other : isSafeHostByte ch = false) : ch ∉ host := by
  intro among
  simp only [isSafeHost, decide_eq_true_eq, List.all_eq_true] at safe
  rw [safe.2.2 ch among] at other
  cases other

/-- A colon is in no host. -/
theorem rfindText_colon_of_isSafeHost (safe : isSafeHost host = true) :
    rfindText [byteOf ':'] host = none := by
  have cut := rfindText_colon host
  cases found : rfindText [byteOf ':'] host with
  | none => rfl
  | some separator =>
      rw [found] at cut
      have colon : byteOf ':' ∈ host := by
        rw [cut.1]
        exact List.mem_append_right _ List.mem_cons_self
      exact absurd colon (not_mem_of_isSafeHost safe rfl)

/-- A whole number consists of digits. -/
theorem all_decimalValue_of_decimalNumber {number : Nat}
    (whole : decimalNumber value = some number) :
    value ≠ [] ∧ value.all (fun ch => (decimalValue ch).isSome) = true := by
  rw [decimalNumber, Option.ite_none_right_eq_some] at whole
  exact ⟨whole.1.1, by simpa using whole.1.2⟩

/-- The host in front of a port that is a whole number. -/
theorem strAddressHost_of_port {before portText : ByteString} {number : Nat}
    (whole : decimalNumber portText = some number) :
    strAddressHost (before ++ byteOf ':' :: portText) =
      if number = 0 ∨ 65535 < number then none else some (trim before) := by
  have digits := all_decimalValue_of_decimalNumber whole
  have plain : byteOf ':' ∉ portText := by
    intro among
    have digit := List.all_eq_true.mp digits.2 _ among
    cases digit
  have cut := rfindText_colon (before ++ byteOf ':' :: portText)
  cases found : rfindText [byteOf ':'] (before ++ byteOf ':' :: portText) with
  | none =>
      rw [found] at cut
      exact absurd (List.mem_append_right _ List.mem_cons_self) cut
  | some separator =>
      rw [found] at cut
      obtain ⟨front, back⟩ := append_cons_inj_last plain cut.2 cut.1
      rw [strAddressHost, found]
      simp only [← front, ← back, if_pos digits]
      by_cases fits : number < 2 ^ 32
      · have word : number.toUInt32.toNat = number := Nat.mod_eq_of_lt fits
        have same : (number.toUInt32 = 0 ∨ 65535 < number.toUInt32) ↔
            (number = 0 ∨ 65535 < number) := by
          rw [← UInt32.toNat_inj, UInt32.lt_iff_toNat_lt, word]
          simp
        simp only [stoul_of_decimalNumber whole fits, same]
      · rw [stoul_eq_none_of_decimalNumber whole (Nat.not_lt.mp fits), if_pos (by omega)]

/-- Without a whole number behind the last colon the host is the address. -/
theorem strAddressHost_of_safe (safe : isSafeHost value = true) :
    strAddressHost value = some value := by
  rw [strAddressHost, rfindText_colon_of_isSafeHost safe]

/-- A safe host is all of the address, or stands in front of a port. -/
theorem namesServer_of_strAddressHost (found : strAddressHost (trim value) = some host)
    (safe : isSafeHost host = true) : NamesServer value host := by
  have cut := rfindText_colon (trim value)
  cases colon : rfindText [byteOf ':'] (trim value) with
  | none =>
      rw [strAddressHost, colon] at found
      cases found
      exact .host safe
  | some separator =>
      rw [colon] at cut
      by_cases digits : (trim value).drop (separator + 1) ≠ [] ∧
          ((trim value).drop (separator + 1)).all (fun ch => (decimalValue ch).isSome) = true
      · have whole : decimalNumber ((trim value).drop (separator + 1)) = some _ :=
          if_pos ⟨digits.1, by simpa using digits.2⟩
        have port := @strAddressHost_of_port ((trim value).take separator) _ _ whole
        rw [← cut.1, found] at port
        split_ifs at port with refused
        rw [not_or] at refused
        cases port
        exact .hostAndPort cut.1 whole refused.1 (Nat.not_lt.mp refused.2) safe
      · simp only [strAddressHost, colon, if_neg digits, Option.some.injEq] at found
        subst found
        have other := rfindText_colon_of_isSafeHost safe
        cases colon.symm.trans other

/-- An address that names a server is made of the host, blanks, a colon and digits. -/
theorem NamesServer.trim_plain (named : NamesServer value host) (other : isSafeHostByte ch = false)
    (visible : isSpace ch = false) (plain : ch ≠ byteOf ':') : ch ∉ trim value := by
  cases named with
  | host safe => exact not_mem_of_isSafeHost safe other
  | @hostAndPort before portText _ shape number _ _ safe =>
      rw [shape, List.mem_append, List.mem_cons, not_or, not_or]
      refine ⟨fun among => ?_, plain, fun among => ?_⟩
      · rcases mem_trim_or_isSpace among with inside | blank
        · exact not_mem_of_isSafeHost safe other inside
        · rw [visible] at blank
          cases blank
      · have digit := List.all_eq_true.mp (all_decimalValue_of_decimalNumber number).2 ch among
        have bounds := decimalValue_bounds digit
        simp [isSafeHostByte, bounds] at other

/-- An address that names a server is not blank. -/
theorem NamesServer.trim_ne_nil (named : NamesServer value host) : trim value ≠ [] := by
  cases named with
  | host safe =>
      intro empty
      rw [empty] at safe
      cases safe
  | hostAndPort shape =>
      rw [shape]
      exact List.append_ne_nil_of_right_ne_nil _ (List.cons_ne_nil _ _)

/-- The host of an address that names a server. -/
theorem NamesServer.addressHost (named : NamesServer value host) :
    strAddressHost (trim value) = some host ∧ isSafeHost host = true := by
  cases named with
  | host safe => exact ⟨strAddressHost_of_safe safe, safe⟩
  | hostAndPort shape number positive small safe =>
      rw [shape, strAddressHost_of_port number, if_neg (by omega)]
      exact ⟨rfl, safe⟩

/-- The parser takes only addresses that name a server, -/
theorem namesServer_of_parseStrAddress {iedSyncPort : UInt16} {peer : RemotePeer}
    (parsed : parseStrAddress value iedSyncPort = some peer) :
    NamesServer value peer.host ∧ peer.port = iedSyncPort := by
  simp only [parseStrAddress, Option.ite_none_left_eq_some] at parsed
  obtain ⟨_, parsed⟩ := parsed
  cases found : strAddressHost (trim value) with
  | none => simp [found] at parsed
  | some host =>
      simp only [found, Option.ite_none_right_eq_some, Option.some.injEq] at parsed
      obtain ⟨safe, rfl⟩ := parsed
      exact ⟨namesServer_of_strAddressHost found safe, rfl⟩

/-- and all of them. -/
theorem parseStrAddress_of_namesServer (named : NamesServer value host) (iedSyncPort : UInt16) :
    parseStrAddress value iedSyncPort = some ⟨host, iedSyncPort⟩ := by
  have kept : ¬ (trim value = [] ∨ byteOf '|' ∈ trim value ∨ byteOf '/' ∈ trim value ∨
      byteOf '\\' ∈ trim value) := by
    simp only [not_or]
    exact ⟨named.trim_ne_nil, named.trim_plain rfl rfl (by decide),
      named.trim_plain rfl rfl (by decide), named.trim_plain rfl rfl (by decide)⟩
  obtain ⟨found, safe⟩ := named.addressHost
  simp only [parseStrAddress, if_neg kept, found, if_pos safe]

/-- An address is taken exactly if it names a server, whose port is replaced. -/
theorem server_address_grammar (value : ByteString) (iedSyncPort : UInt16) (peer : RemotePeer) :
    parseStrAddress value iedSyncPort = some peer ↔
      NamesServer value peer.host ∧ peer.port = iedSyncPort := by
  refine ⟨namesServer_of_parseStrAddress, ?_⟩
  rintro ⟨named, rfl⟩
  exact parseStrAddress_of_namesServer named peer.port

end Address

end IEDSyncTogether
