import IEDSyncTogether.Base.Distinct
import IEDSyncTogether.Base.Fields
import IEDSyncTogether.Base.NumberGrammar
import IEDSyncTogether.Service.ProxyResolver
import Mathlib.Data.List.DropRight

/-!
# The list of remote peers

`Config` reads its peers from a text of items between commas and semicolons. An item is a
host, or a host and a port behind the last colon; hosts are compared without case, the first
of several equal peers counts, and the list ends after 64 peers.
-/

namespace IEDSyncTogether

open Base

/-- A host by name or address, and its port. -/
structure RemotePeer where
  host : ByteString
  port : UInt16
deriving DecidableEq

/-- `Trim`: blanks on either side are dropped. -/
def trim (value : ByteString) : ByteString := (value.dropWhile isSpace).rdropWhile isSpace

/-- An exception of `stoul` makes the item invalid. -/
def parseRemotePeer (value : ByteString) (defaultPort : UInt16) : Option RemotePeer :=
  let value := trim value
  if value = [] then none
  else do
    let (port, value) ←
      match rfindText [byteOf ':'] value with
      | none => some (defaultPort, value)
      | some separator => do
        let portText := trim (value.drop (separator + 1))
        let parsed ← stoul portText
        if parsed = 0 ∨ 65535 < parsed then none
        else some (parsed.toUInt16, value.take separator)
    let host := trim value
    if host = [] ∨ byteOf '|' ∈ host then none else some ⟨host, port⟩

/-- The key of a peer in the set of those seen. -/
def peerKey (peer : RemotePeer) : ByteString :=
  peer.host.map toLower ++ byteOf ':' :: formatNat peer.port.toNat

/-- The part of a turn of `ParseRemotePeers` that takes the item. -/
def pushPeer (defaultPort : UInt16) (peers : List RemotePeer) (seen : List ByteString)
    (item : ByteString) : List RemotePeer × List ByteString :=
  match parseRemotePeer item defaultPort with
  | some peer =>
    if peerKey peer ∈ seen then (peers, seen) else (peers ++ [peer], peerKey peer :: seen)
  | none => (peers, seen)

/-- The loop of `ParseRemotePeers` from `start`. -/
def parseRemotePeersLoop (value : ByteString) (defaultPort : UInt16) (start : Nat)
    (peers : List RemotePeer) (seen : List ByteString) : List RemotePeer :=
  if start ≤ value.length then
    match _found : findFirstOf value (ascii ",;") start with
    | none => (pushPeer defaultPort peers seen (value.drop start)).1
    | some stop =>
      let (peers, seen) := pushPeer defaultPort peers seen (substr value start (stop - start))
      if 64 ≤ peers.length then peers
      else parseRemotePeersLoop value defaultPort (stop + 1) peers seen
  else peers
termination_by value.length + 1 - start
decreasing_by
  have bounds := findFirstOf_some_bounds _found
  omega

/-- `ParseRemotePeers`: the accepted entries in their order, each once, at most 64. -/
def parseRemotePeers (value : ByteString) (defaultPort : UInt16) : List RemotePeer :=
  parseRemotePeersLoop value defaultPort 0 [] []

/-! ## The peers of the grammar -/

/-- The peer a properly written item names: a host alone has the default port, and the port
behind the last colon is a whole decimal number. -/
inductive NamesPeer (defaultPort : UInt16) (item : ByteString) : RemotePeer → Prop where
  | host (present : trim item ≠ []) (whole : byteOf '|' ∉ trim item)
      (alone : byteOf ':' ∉ trim item) : NamesPeer defaultPort item ⟨trim item, defaultPort⟩
  | hostAndPort {before portText : ByteString} {port : UInt16}
      (shape : trim item = before ++ byteOf ':' :: portText) (last : byteOf ':' ∉ portText)
      (number : decimalNumber (trim portText) = some port.toNat) (positive : port ≠ 0)
      (present : trim before ≠ []) (whole : byteOf '|' ∉ trim before) :
      NamesPeer defaultPort item ⟨trim before, port⟩

/-- The peer an item names, if it is properly written. -/
def namedPeer (item : ByteString) (defaultPort : UInt16) : Option RemotePeer :=
  let text := trim item
  match rfindText [byteOf ':'] text with
  | none => if text = [] ∨ byteOf '|' ∈ text then none else some ⟨text, defaultPort⟩
  | some separator => do
    let number ← decimalNumber (trim (text.drop (separator + 1)))
    let host := trim (text.take separator)
    if number = 0 ∨ 65535 < number ∨ host = [] ∨ byteOf '|' ∈ host then none
    else some ⟨host, number.toUInt16⟩

/-- What two peers of the list must not share. -/
def foldedPeer (peer : RemotePeer) : ByteString × UInt16 := (peer.host.map toLower, peer.port)

/-- The first 64 different peers that the items of a list name. -/
def namedPeers (value : ByteString) (defaultPort : UInt16) : List RemotePeer :=
  (distinctFrom foldedPeer []
    ((value.splitOnP (· ∈ ascii ",;")).filterMap (namedPeer · defaultPort))).take 64

/-- An item cut at its last colon. -/
theorem rfindText_colon (text : ByteString) :
    match rfindText [byteOf ':'] text with
    | none => byteOf ':' ∉ text
    | some separator => text = text.take separator ++ byteOf ':' :: text.drop (separator + 1) ∧
        byteOf ':' ∉ text.drop (separator + 1) := by
  induction text with
  | nil => simp [rfindText]
  | cons item text ih =>
      rw [rfindText]
      cases found : rfindText [byteOf ':'] text with
      | some separator =>
          rw [found] at ih
          simpa using ih
      | none =>
          rw [found] at ih
          by_cases here : item = byteOf ':'
          · simpa [here] using ih
          · simpa [here, Ne.symm here] using ih

/-- The properly written items are those of the grammar. -/
theorem namedPeer_eq_some_iff {item : ByteString} {defaultPort : UInt16} {peer : RemotePeer} :
    namedPeer item defaultPort = some peer ↔ NamesPeer defaultPort item peer := by
  have cut := rfindText_colon (trim item)
  rw [namedPeer]
  cases found : rfindText [byteOf ':'] (trim item) with
  | none =>
      rw [found] at cut
      simp only [Option.ite_none_left_eq_some, not_or, Option.some.injEq]
      constructor
      · rintro ⟨⟨present, whole⟩, rfl⟩
        exact .host present whole cut
      · rintro (⟨present, whole, _⟩ | ⟨shape, _, _, _, _, _⟩)
        · exact ⟨⟨present, whole⟩, rfl⟩
        · rw [shape] at cut
          exact absurd (List.mem_append_right _ List.mem_cons_self) cut
  | some separator =>
      rw [found] at cut
      obtain ⟨shape, last⟩ := cut
      simp only [bind, Option.bind_eq_some_iff, Option.ite_none_left_eq_some, not_or,
        Option.some.injEq]
      constructor
      · rintro ⟨number, whole, ⟨positive, small, present, plain⟩, rfl⟩
        have port : number.toUInt16.toNat = number := Nat.mod_eq_of_lt (by omega)
        refine .hostAndPort shape last (by rw [whole, port]) ?_ present plain
        intro zero
        rw [zero] at port
        exact positive port.symm
      · rintro (⟨_, _, alone⟩ | ⟨other, free, whole, positive, present, plain⟩)
        · rw [shape] at alone
          exact absurd (List.mem_append_right _ List.mem_cons_self) alone
        · obtain ⟨rfl, rfl⟩ := append_cons_inj_last last free (shape.symm.trans other)
          refine ⟨_, whole, ⟨?_, ?_, present, plain⟩, by simp⟩
          · exact fun zero => positive (UInt16.toNat_inj.mp zero)
          · have bound := UInt16.toNat_lt ‹UInt16›
            omega

/-! ## What the parser computes -/

theorem trim_trim (value : ByteString) : trim (trim value) = trim value := by
  have front : (trim value).dropWhile isSpace = trim value := by
    rw [List.dropWhile_eq_self_iff]
    intro nonempty
    obtain ⟨rest, shape⟩ : trim value <+: value.dropWhile isSpace := List.rdropWhile_prefix _ _
    have inside : 0 < (value.dropWhile isSpace).length := by
      rw [← shape, List.length_append]
      omega
    have first : (trim value)[0] = (value.dropWhile isSpace)[0] := by
      simp only [← shape, List.getElem_append_left nonempty]
    rw [first]
    exact List.dropWhile_get_zero_not isSpace value inside
  rw [trim, front, trim, List.rdropWhile_idempotent]

/-- The parser takes every properly written item. -/
theorem parseRemotePeer_of_namedPeer {item : ByteString} {defaultPort : UInt16}
    {peer : RemotePeer} (named : namedPeer item defaultPort = some peer) :
    parseRemotePeer item defaultPort = some peer := by
  rw [namedPeer] at named
  rw [parseRemotePeer]
  cases found : rfindText [byteOf ':'] (trim item) with
  | none =>
      simp only [found, Option.ite_none_left_eq_some, not_or, Option.some.injEq] at named
      obtain ⟨⟨present, whole⟩, rfl⟩ := named
      simp [present, whole, trim_trim]
  | some separator =>
      have present : trim item ≠ [] := by
        intro empty
        rw [empty] at found
        cases found
      simp only [found, bind, Option.bind_eq_some_iff, Option.ite_none_left_eq_some, not_or,
        Option.some.injEq] at named
      obtain ⟨number, whole, ⟨positive, small, host, plain⟩, rfl⟩ := named
      have parsed := stoul_of_decimalNumber whole (by omega)
      have word : number.toUInt32.toNat = number := Nat.mod_eq_of_lt (by omega)
      have kept : ¬ (number.toUInt32 = 0 ∨ 65535 < number.toUInt32) := by
        rw [← UInt32.toNat_inj, UInt32.lt_iff_toNat_lt, word]
        simp
        omega
      have port : number.toUInt32.toUInt16 = number.toUInt16 := by
        rw [← UInt16.toNat_inj, UInt32.toNat_toUInt16, word]
        rfl
      simp [present, parsed, kept, host, plain, port]

/-- A turn takes the item in front of the others. -/
theorem pushPeer_append (defaultPort : UInt16) (peers : List RemotePeer) (seen : List ByteString)
    (item : ByteString) (items : List ByteString) (room : peers.length < 64) :
    (pushPeer defaultPort peers seen item).1 ++
        (distinctFrom peerKey (pushPeer defaultPort peers seen item).2
          (items.filterMap (parseRemotePeer · defaultPort))).take
            (64 - (pushPeer defaultPort peers seen item).1.length) =
      peers ++ (distinctFrom peerKey seen
        ((item :: items).filterMap (parseRemotePeer · defaultPort))).take (64 - peers.length) := by
  rw [pushPeer]
  cases parsed : parseRemotePeer item defaultPort with
  | none => simp only [List.filterMap_cons, parsed]
  | some peer =>
      simp only [List.filterMap_cons, parsed]
      by_cases known : peerKey peer ∈ seen
      · simp only [if_pos known, distinctFrom_cons_of_mem known]
      · have left : 64 - peers.length = 64 - (peers ++ [peer]).length + 1 := by
          rw [List.length_append, List.length_singleton]
          omega
        simp only [if_neg known, distinctFrom_cons_of_not_mem known]
        rw [left, List.take_succ_cons, List.append_assoc, List.singleton_append]

/-- The loop takes the first peers with new keys, up to the limit. -/
theorem parseRemotePeersLoop_eq {value : ByteString} (defaultPort : UInt16) {start : Nat}
    (peers : List RemotePeer) (seen : List ByteString) (inside : start ≤ value.length)
    (room : peers.length < 64) :
    parseRemotePeersLoop value defaultPort start peers seen =
      peers ++ (distinctFrom peerKey seen (((value.drop start).splitOnP (· ∈ ascii ",;")).filterMap
        (parseRemotePeer · defaultPort))).take (64 - peers.length) := by
  induction start, peers, seen using parseRemotePeersLoop.induct value defaultPort with
  | case1 start peers seen _ found =>
      have turn := pushPeer_append defaultPort peers seen (value.drop start) [] room
      rw [splitOnP_drop, parseRemotePeersLoop, if_pos inside]
      split
      · next missing =>
          simp only [missing, ← turn, List.filterMap_nil, distinctFrom, List.take_nil,
            List.append_nil]
      · next stop other => cases found.symm.trans other
  | case2 start peers seen _ stop found later further pushed full =>
      have turn := pushPeer_append defaultPort peers seen (substr value start (stop - start))
        ((value.drop (stop + 1)).splitOnP (· ∈ ascii ",;")) room
      rw [splitOnP_drop, parseRemotePeersLoop, if_pos inside]
      split
      · next missing => cases found.symm.trans missing
      · next other again =>
          cases found.symm.trans again
          rw [pushed, Nat.sub_eq_zero_of_le full, List.take_zero, List.append_nil] at turn
          simp only [again, ← turn, pushed, if_pos full]
  | case3 start peers seen _ stop found later further pushed free ih =>
      have bounds := findFirstOf_some_bounds found
      have turn := pushPeer_append defaultPort peers seen (substr value start (stop - start))
        ((value.drop (stop + 1)).splitOnP (· ∈ ascii ",;")) room
      rw [splitOnP_drop, parseRemotePeersLoop, if_pos inside]
      split
      · next missing => cases found.symm.trans missing
      · next other again =>
          cases found.symm.trans again
          rw [pushed, ← ih (by omega) (Nat.not_le.mp free)] at turn
          simp only [again, ← turn, pushed, if_neg free]
  | case4 start peers seen outside => exact absurd inside outside

/-- The key of a peer names its folded host and its port. -/
theorem distinctFrom_peerKey (peers : List RemotePeer) :
    distinctFrom peerKey [] peers = distinctFrom foldedPeer [] peers := by
  have injective : Function.Injective fun folded : ByteString × UInt16 =>
      folded.1 ++ byteOf ':' :: formatNat folded.2.toNat := by
    intro one other same
    have plain (value : Nat) : byteOf ':' ∉ formatNat value := not_mem_formatNat (by decide)
    obtain ⟨hosts, ports⟩ := append_cons_inj_last (plain _) (plain _) same
    exact Prod.ext hosts (UInt16.toNat_inj.mp (formatNat_injective ports))
  exact distinctFrom_comp injective foldedPeer [] peers

/-- The loop keeps the first 64 different entries the items are accepted for. -/
theorem parseRemotePeers_eq (value : ByteString) (defaultPort : UInt16) :
    parseRemotePeers value defaultPort =
      (distinctFrom foldedPeer [] ((value.splitOnP (· ∈ ascii ",;")).filterMap
        (parseRemotePeer · defaultPort))).take 64 := by
  have loop := parseRemotePeersLoop_eq defaultPort [] [] (Nat.zero_le value.length) (by decide)
  rw [distinctFrom_peerKey] at loop
  exact loop

/-! ## Sloppy items -/

/-- An item with a sign in front of its port or more text behind it. A port behind a minus
counts down from the size of the word. -/
inductive SloppyPeer (item : ByteString) : RemotePeer → Prop where
  | hostAndPort {before portText sign digits rest : ByteString} {number : Nat} {port : UInt16}
      (shape : trim item = before ++ byteOf ':' :: portText) (last : byteOf ':' ∉ portText)
      (found : NumberPrefix (trim portText) sign digits rest number)
      (sloppy : sign ≠ [] ∨ rest ≠ [])
      (value : port.toNat = if sign = [45] then 2 ^ 32 - number else number)
      (positive : port ≠ 0) (present : trim before ≠ []) (whole : byteOf '|' ∉ trim before) :
      SloppyPeer item ⟨trim before, port⟩

/-- A trimmed text does not start with a blank. -/
theorem trim_start (value : ByteString) : ∀ byte ∈ (trim value).head?, isSpace byte = false := by
  intro byte first
  obtain ⟨rest, shape⟩ : trim value <+: value.dropWhile isSpace := List.rdropWhile_prefix _ _
  have front : byte ∈ (value.dropWhile isSpace).head? := by
    rw [← shape, List.head?_append, first, Option.some_or]
    rfl
  obtain ⟨text, same⟩ := List.head?_eq_some_iff.mp front
  have nonempty : value.dropWhile isSpace ≠ [] := by simp [same]
  have blank := List.dropWhile_get_zero_not isSpace value (List.length_pos_iff.mpr nonempty)
  simpa [same] using blank

/-- A word in the range of the ports is its port. -/
theorem port_of_word {number : Nat} (fits : number < 2 ^ 32) {port : UInt16} :
    ¬ (number.toUInt32 = 0 ∨ 65535 < number.toUInt32) ∧ number.toUInt32.toUInt16 = port ↔
      port ≠ 0 ∧ port.toNat = number := by
  have word : number.toUInt32.toNat = number := Nat.mod_eq_of_lt fits
  have bound := port.toNat_lt
  have nonzero : port ≠ 0 ↔ port.toNat ≠ 0 := not_congr UInt16.toNat_inj.symm
  rw [nonzero, not_or, ← UInt32.toNat_inj, UInt32.lt_iff_toNat_lt, ← UInt16.toNat_inj,
    UInt32.toNat_toUInt16, word]
  simp only [UInt32.toNat_zero, UInt32.reduceToNat]
  omega

/-- A port that `stoul` reads, by the sign and the digits of the text. -/
theorem stoul_port_iff {text : ByteString} (start : ∀ byte ∈ text.head?, isSpace byte = false)
    {port : UInt16} :
    (∃ parsed, stoul text = some parsed ∧ ¬ (parsed = 0 ∨ 65535 < parsed) ∧
        parsed.toUInt16 = port) ↔
      port ≠ 0 ∧ ∃ sign digits rest number, NumberPrefix text sign digits rest number ∧
        port.toNat = if sign = [45] then 2 ^ 32 - number else number := by
  constructor
  · rintro ⟨parsed, read, range⟩
    obtain ⟨word, unsigned, rfl⟩ := Option.map_eq_some_iff.mp read
    obtain ⟨sign, digits, rest, number, found⟩ :=
      exists_numberPrefix start (Option.isSome_of_eq_some unsigned)
    rw [found.readUnsigned start] at unsigned
    split_ifs at unsigned with large minus <;> obtain rfl := Option.some.inj unsigned
    · obtain ⟨positive, value⟩ := (port_of_word (Nat.mod_lt _ (by decide))).mp range
      refine ⟨positive, sign, digits, rest, number, found, ?_⟩
      rw [if_pos minus, value]
      have nonzero := mt UInt16.toNat_inj.mp positive
      rw [value, UInt16.toNat_zero] at nonzero
      omega
    · obtain ⟨positive, value⟩ := (port_of_word (Nat.not_le.mp large)).mp range
      exact ⟨positive, sign, digits, rest, number, found, by rw [if_neg minus, value]⟩
  · rintro ⟨positive, sign, digits, rest, number, found, value⟩
    have bound := port.toNat_lt
    have nonzero := mt UInt16.toNat_inj.mp positive
    rw [UInt16.toNat_zero] at nonzero
    have small : ¬ 2 ^ 32 ≤ number := by
      split_ifs at value <;> omega
    have same : (if sign = [45] then (2 ^ 32 - number) % 2 ^ 32 else number) = port.toNat := by
      split_ifs at value ⊢ <;> omega
    have read : stoul text = some port.toNat.toUInt32 := by
      rw [stoul, found.readUnsigned start, if_neg small, same, Option.map_some]
    exact ⟨_, read, (port_of_word (by omega)).mpr ⟨positive, rfl⟩⟩

/-- An item with a colon is a host and a port that `stoul` reads. -/
theorem parseRemotePeer_of_colon {item : ByteString} {defaultPort : UInt16} {separator : Nat}
    (found : rfindText [byteOf ':'] (trim item) = some separator) {peer : RemotePeer} :
    parseRemotePeer item defaultPort = some peer ↔
      (∃ parsed, stoul (trim ((trim item).drop (separator + 1))) = some parsed ∧
        ¬ (parsed = 0 ∨ 65535 < parsed) ∧ parsed.toUInt16 = peer.port) ∧
      trim ((trim item).take separator) ≠ [] ∧ byteOf '|' ∉ trim ((trim item).take separator) ∧
      trim ((trim item).take separator) = peer.host := by
  have present : trim item ≠ [] := by
    intro empty
    rw [empty] at found
    cases found
  obtain ⟨host, port⟩ := peer
  cases read : stoul (trim ((trim item).drop (separator + 1))) with
  | none => simp [parseRemotePeer, present, found, read]
  | some parsed =>
      by_cases range : parsed = 0 ∨ 65535 < parsed
      · simp only [parseRemotePeer, if_neg present, found, read, range, if_true, bind,
          Option.bind_some, Option.bind_none, reduceCtorEq, Option.some.injEq, exists_eq_left',
          not_true_eq_false, false_and]
      · simp only [parseRemotePeer, if_neg present, found, read, if_neg range, bind,
          Option.bind_some, Option.ite_none_left_eq_some, Option.some.injEq, RemotePeer.mk.injEq,
          not_or, exists_eq_left']
        tauto

/-- The parser takes the properly written items and the sloppy ones. -/
theorem parseRemotePeer_eq_some_iff {item : ByteString} {defaultPort : UInt16}
    {peer : RemotePeer} :
    parseRemotePeer item defaultPort = some peer ↔
      NamesPeer defaultPort item peer ∨ SloppyPeer item peer := by
  have cut := rfindText_colon (trim item)
  cases found : rfindText [byteOf ':'] (trim item) with
  | none =>
      rw [found] at cut
      constructor
      · intro parsed
        rw [parseRemotePeer, Option.ite_none_left_eq_some] at parsed
        obtain ⟨present, parsed⟩ := parsed
        simp only [found, trim_trim, bind, Option.bind_some, Option.ite_none_left_eq_some, not_or,
          Option.some.injEq] at parsed
        obtain ⟨⟨_, whole⟩, rfl⟩ := parsed
        exact .inl (.host present whole cut)
      · rintro (named | ⟨shape, _, _, _, _, _, _, _⟩)
        · exact parseRemotePeer_of_namedPeer (namedPeer_eq_some_iff.mpr named)
        · rw [shape] at cut
          exact absurd (List.mem_append_right _ List.mem_cons_self) cut
  | some separator =>
      rw [found] at cut
      obtain ⟨shape, last⟩ := cut
      rw [parseRemotePeer_of_colon found, stoul_port_iff (trim_start _)]
      constructor
      · rintro ⟨⟨positive, sign, digits, rest, number, read, value⟩, present, whole, same⟩
        obtain ⟨host, port⟩ := peer
        obtain rfl := same
        by_cases proper : sign = [] ∧ rest = []
        · obtain ⟨rfl, rfl⟩ := proper
          have text : trim ((trim item).drop (separator + 1)) = digits := by simpa using read.shape
          refine .inl (.hostAndPort shape last ?_ positive present whole)
          rw [text, read.whole, value, if_neg (by decide)]
        · exact .inr (.hostAndPort shape last read (by tauto) value positive present whole)
      · rintro (named | ⟨other, free, read, _, value, positive, present, whole⟩)
        · have parsed := parseRemotePeer_of_namedPeer (namedPeer_eq_some_iff.mpr named)
          rwa [parseRemotePeer_of_colon found, stoul_port_iff (trim_start _)] at parsed
        · obtain ⟨rfl, rfl⟩ := append_cons_inj_last free last (other.symm.trans shape)
          exact ⟨⟨positive, _, _, _, _, read, value⟩, present, whole, rfl⟩

/-- The sloppy items are those the parser takes although they name no peer. -/
theorem sloppyPeer_iff {item : ByteString} {defaultPort : UInt16} {peer : RemotePeer} :
    SloppyPeer item peer ↔
      parseRemotePeer item defaultPort = some peer ∧ namedPeer item defaultPort = none := by
  constructor
  · intro sloppy
    refine ⟨parseRemotePeer_eq_some_iff.mpr (.inr sloppy), Option.eq_none_iff_forall_ne_some.mpr ?_⟩
    intro other named
    obtain ⟨shape, last, found, extra, _, _, _, _⟩ := sloppy
    rcases namedPeer_eq_some_iff.mp named with ⟨_, _, alone⟩ | ⟨same, free, whole, _, _, _⟩
    · rw [shape] at alone
      exact alone (List.mem_append_right _ List.mem_cons_self)
    · obtain ⟨rfl, rfl⟩ := append_cons_inj_last free last (same.symm.trans shape)
      rw [found.decimalNumber_eq_none extra] at whole
      cases whole
  · rintro ⟨parsed, unnamed⟩
    rcases parseRemotePeer_eq_some_iff.mp parsed with named | sloppy
    · rw [namedPeer_eq_some_iff.mpr named] at unnamed
      cases unnamed
    · exact sloppy

/-- A sloppy item does no harm: its peer was listed before, or the list is full, or the next
properly written item with a new peer names exactly the same. -/
def SloppyItemsHarmless (value : ByteString) (defaultPort : UInt16) : Prop :=
  Harmless foldedPeer (parseRemotePeer · defaultPort) (namedPeer · defaultPort) 64 []
    (value.splitOnP (· ∈ ascii ",;"))

/-- The parser returns the peers the items name exactly if the sloppy items do no harm. -/
theorem parseRemotePeers_named_iff (value : ByteString) (defaultPort : UInt16) :
    parseRemotePeers value defaultPort = namedPeers value defaultPort ↔
      SloppyItemsHarmless value defaultPort := by
  rw [parseRemotePeers_eq, namedPeers, SloppyItemsHarmless]
  exact take_distinctFrom_eq_iff fun _ _ named => parseRemotePeer_of_namedPeer named

/-- Text behind the digits of a port is ignored. -/
theorem suffixed_port_taken :
    parseRemotePeers (ascii "198.51.100.7:80abc") 38471 = [⟨ascii "198.51.100.7", 80⟩] ∧
      namedPeers (ascii "198.51.100.7:80abc") 38471 = [] := by
  rw [parseRemotePeers_eq]
  decide

end IEDSyncTogether
