import IEDSyncTogether.Network.Authentication
import IEDSyncTogether.Network.GameplayPacket
import IEDSyncTogether.Network.UdpTransport

/-!
# Relaying

A relay forwards a packet that is not marked and marks the copy. The mark is read from
the first field that contains `relay=` and written into the first field that is
`relay=0`, or put in front of all fields. A copy is forwarded again if its mark is read from a field
that only ends like a mark.
-/

namespace IEDSyncTogether

open Base

variable {digest : HmacDigest} {transport : UdpTransport} {fields : List ByteString}

/-- The value of the mark in a field. -/
abbrev relayValue : ByteString → Option ByteString := valueOf bar (ascii "relay" ++ [byteOf '='])

theorem relayValue_zero : relayValue (ascii "relay=0") = some (ascii "0") := by decide

theorem relayValue_one : relayValue (ascii "relay=1") = some (ascii "1") := by decide

theorem fieldValue_relay (fields : List ByteString) :
    fieldValue (gameplayText fields) (ascii "relay") = fields.findSome? relayValue :=
  fieldValue_gameplayText (by decide) fields

/-- The fields of the copy before it is signed. -/
def relayedFields (fields : List ByteString) : List ByteString :=
  eraseLast isAuth (markFields (eraseLast isAuth fields))

/-- What a relay makes of a packet with the prefix. -/
theorem relayedPacket_gameplayText (relaying : transport.relayMode = true) (present : fields ≠ [])
    (free : FreeOf bar fields) :
    transport.relayedPacket digest (gameplayText fields) =
      if (fields.findSome? relayValue).getD (ascii "0") ≠ ascii "0" then .ok none
      else if eraseLast isAuth fields = [] then .error .outOfRange
      else .ok ((tagFields digest transport.sharedSecret (gameplayText (relayedFields fields))).map
        fun tags => gameplayText (relayedFields fields ++ tags)) := by
  simp only [UdpTransport.relayedPacket, relaying, isPrefixOf_gameplayText present, readField_eq,
    fieldValue_relay, markRelayed_gameplayText free, bind, Except.bind, pure, Except.pure,
    not_true_eq_false, or_self, if_false]
  split_ifs
  · rfl
  · rfl
  · rw [signed_gameplayText, relayedFields]
    cases tagFields digest transport.sharedSecret
        (gameplayText (eraseLast isAuth (markFields (eraseLast isAuth fields)))) with
    | none => rfl
    | some tags => simp only [Option.elim_some, gameplayText_ne_nil, if_false, Option.map_some]

/-- The copy has a field, the mark. -/
theorem relayedFields_ne_nil (fields : List ByteString) : relayedFields fields ≠ [] := by
  have mark := mem_markFields (eraseLast isAuth fields)
  rw [relayedFields, ne_eq, eraseLast_eq_nil (List.ne_nil_of_mem mark)]
  rintro ⟨field, single, starts⟩
  rw [single, List.mem_singleton] at mark
  subst mark
  exact absurd starts (by decide)

/-- The field of a tag has no mark. -/
theorem findSome?_tagFields {sharedSecret content : ByteString} {tags : List ByteString}
    (tagged : tagFields digest sharedSecret content = some tags) :
    tags.findSome? relayValue = none := by
  unfold tagFields at tagged
  split at tagged
  · cases tagged
    rfl
  · obtain ⟨tag, computed, rfl⟩ := Option.map_eq_some_iff.mp tagged
    rw [List.findSome?_singleton, relayValue, valueOf_auth computed (by decide)]

/-- A relay forwards the first packet as the second, whatever its state. -/
def Forwards (packet copy : ByteString) : Prop :=
  ∃ (digest : HmacDigest) (transport : UdpTransport),
    transport.relayedPacket digest packet = .ok (some copy)

/-- If a `relay=0` field is rewritten and the value read from the content is 0, then it is
read from a field that is `relay=0` and not from a longer one. -/
def RelaySafe (packet : ByteString) : Prop :=
  findText (ascii "|relay=0|") (withoutAuth packet) ≠ none →
    fieldValue (withoutAuth (withoutAuth packet)) (ascii "relay") = some (ascii "0") →
    ((withoutAuth (withoutAuth packet)).splitOn bar).find?
      (fun field => (findText (ascii "relay=") field).isSome) = some (ascii "relay=0")

/-- The fields of a forwarded packet and of its copy. -/
theorem exists_of_forwards {packet copy : ByteString} (forwarded : Forwards packet copy) :
    ∃ fields, FreeOf bar fields ∧ packet = gameplayText fields ∧
      (fields.findSome? relayValue).getD (ascii "0") = ascii "0" ∧
      fieldValue copy (ascii "relay") = (relayedFields fields).findSome? relayValue := by
  obtain ⟨digest, transport, sent⟩ := forwarded
  cases relaying : transport.relayMode with
  | false => simp [UdpTransport.relayedPacket, relaying] at sent
  | true =>
      cases gameplay : kGameplayPrefix.isPrefixOf packet with
      | false => simp [UdpTransport.relayedPacket, gameplay] at sent
      | true =>
          obtain ⟨fields, present, free, rfl⟩ := exists_gameplayText gameplay
          rw [relayedPacket_gameplayText relaying present free] at sent
          split_ifs at sent with marked
          · cases sent
          · obtain ⟨tags, tagged, rfl⟩ := Option.map_eq_some_iff.mp (Except.ok.inj sent)
            refine ⟨fields, free, rfl, not_not.mp marked, ?_⟩
            rw [fieldValue_relay, List.findSome?_append, findSome?_tagFields tagged, Option.or_none]

/-- A `relay=0` field is rewritten if the text has one between two bars. -/
theorem findText_marker (free : FreeOf bar fields) :
    findText (ascii "|relay=0|") (gameplayText fields) = none ↔
      replaceInner (ascii "relay=0") (ascii "relay=1") fields = none := by
  have marker : ascii "|relay=0|" = bar :: (ascii "relay=0" ++ [bar]) := rfl
  have replaced := replaceFirst_gameplayText free
  rw [replaceFirst, ← marker] at replaced
  rw [← @Option.map_eq_none_iff _ _ _ gameplayText, ← replaced, Option.map_eq_none_iff]

/-- Replacing the first `relay=0` field changes the value read unless that value comes
from a field in front of it. -/
theorem first_relay_iff {before : List ByteString} (absent : ascii "relay=0" ∉ before)
    (after : List ByteString) :
    (∃ value, (before ++ ascii "relay=1" :: after).findSome? relayValue = some value ∧
      value ≠ ascii "0") ↔
    ((before ++ ascii "relay=0" :: after).findSome? relayValue = some (ascii "0") →
      (before ++ ascii "relay=0" :: after).find?
        (fun field => (findText (ascii "relay=") field).isSome) = some (ascii "relay=0")) := by
  have named (field : ByteString) :
      (findText (ascii "relay=") field).isSome = (relayValue field).isSome := by
    rw [relayValue, valueOf, Option.isSome_map]
    rfl
  simp only [named, List.findSome?_append, List.findSome?_cons, relayValue_zero,
    relayValue_one, List.find?_append, List.find?_cons, Option.isSome_some]
  cases found : before.find? fun field => (relayValue field).isSome with
  | none =>
      have nowhere : before.findSome? relayValue = none := by
        rw [List.findSome?_eq_none_iff]
        intro field member
        have missing := List.find?_eq_none.mp found field member
        simpa using missing
      rw [nowhere]
      simp [ascii, byteOf]
  | some field =>
      have member := List.mem_of_find?_eq_some found
      have differs : field ≠ ascii "relay=0" := fun same => absent (same ▸ member)
      have marked := List.find?_some found
      have somewhere : (before.findSome? relayValue).isSome :=
        List.findSome?_isSome_iff.mpr ⟨field, member, marked⟩
      obtain ⟨value, read⟩ := Option.isSome_iff_exists.mp somewhere
      rw [read]
      simp [differs]

/-- A copy is marked for every relay exactly if the packet is safe. -/
theorem marked_iff_relaySafe {packet copy : ByteString} (forwarded : Forwards packet copy) :
    (∃ value, fieldValue copy (ascii "relay") = some value ∧ value ≠ ascii "0") ↔
      RelaySafe packet := by
  obtain ⟨fields, free, rfl, _, value⟩ := exists_of_forwards forwarded
  have kept : FreeOf bar (eraseLast isAuth fields) :=
    fun field member => free field ((eraseLast_sublist fields).subset member)
  have bare : FreeOf bar (eraseLast isAuth (eraseLast isAuth fields)) :=
    fun field member => kept field ((eraseLast_sublist _).subset member)
  rw [value, RelaySafe, withoutAuth_gameplayText free, withoutAuth_gameplayText kept, ne_eq,
    findText_marker kept, fieldValue_relay, splitOn_gameplayText bare,
    List.find?_cons_of_neg (by decide), List.find?_cons_of_neg (by decide), relayedFields, markFields]
  cases done : replaceInner (ascii "relay=0") (ascii "relay=1") (eraseLast isAuth fields) with
  | none =>
      rw [Option.getD_none, eraseLast_cons_of_eq_false (by decide), List.findSome?_cons,
        relayValue_one]
      simp [ascii, byteOf]
  | some marked =>
      obtain ⟨front, next, back, shape, absent, rfl⟩ := replaceInner_eq_some done
      obtain ⟨before, after, sub, around⟩ := @exists_eraseLast_around _ isAuth front (next :: back)
      rw [Option.getD_some, shape, around _ (by decide), around _ (by decide),
        first_relay_iff fun member => absent (sub.subset member)]
      simp

/-- A copy of a safe packet is marked and no relay forwards it; any other copy is not. -/
theorem relayed_once_iff {packet copy : ByteString}
    (forwarded : transport.relayedPacket digest packet = .ok (some copy)) :
    ((∃ value, readField copy (ascii "relay") = .ok (some value) ∧ value ≠ ascii "0") ↔
      RelaySafe packet) ∧
    (RelaySafe packet → ∀ hops, List.IsChain Forwards (packet :: hops) → hops.length ≤ 1) := by
  constructor
  · simpa using marked_iff_relaySafe ⟨digest, transport, forwarded⟩
  · intro safe hops chain
    match hops with
    | [] => exact Nat.zero_le 1
    | [_] => exact Nat.le_refl 1
    | next :: again :: _ =>
        rw [List.isChain_cons_cons, List.isChain_cons_cons] at chain
        obtain ⟨first, second, _⟩ := chain
        obtain ⟨value, marked, differs⟩ := (marked_iff_relaySafe first).mpr safe
        obtain ⟨fields, _, rfl, unmarked, _⟩ := exists_of_forwards second
        rw [fieldValue_relay] at marked
        rw [marked] at unmarked
        exact absurd unmarked differs

/-- A relay without a secret and without peers. -/
def openRelay : UdpTransport where
  relayMode := true
  autoDiscovery := false
  localPort := 38471
  localPlayerName := ascii "Relay"
  instanceID := ascii "00001000-0000000000100000"
  sharedSecret := []
  configuredPeers := []
  peers := ∅

/-- A plain state is forwarded once. -/
theorem relayed_once_state :
    ((∃ value, readField (ascii "IEDST|v1|id=A|from=42|relay=1|STATE") (ascii "relay") =
        .ok (some value) ∧ value ≠ ascii "0") ↔
      RelaySafe (ascii "IEDST|v1|id=A|from=42|relay=0|STATE")) ∧
    (RelaySafe (ascii "IEDST|v1|id=A|from=42|relay=0|STATE") → ∀ hops,
      List.IsChain Forwards (ascii "IEDST|v1|id=A|from=42|relay=0|STATE" :: hops) →
        hops.length ≤ 1) :=
  @relayed_once_iff (fun _ _ => none) openRelay _ _ (by decide)

/-- A field that only ends like a mark is read, and another one is rewritten: the copy is
forwarded again. -/
theorem shadowed_mark_forwarded_again :
    openRelay.relayedPacket (fun _ _ => none) (ascii "IEDST|v1|id=A|xrelay=0|relay=0|STATE") =
        .ok (some (ascii "IEDST|v1|id=A|xrelay=0|relay=1|STATE")) ∧
      readField (ascii "IEDST|v1|id=A|xrelay=0|relay=1|STATE") (ascii "relay") =
        .ok (some (ascii "0")) ∧
      openRelay.relayedPacket (fun _ _ => none) (ascii "IEDST|v1|id=A|xrelay=0|relay=1|STATE") =
        .ok (some (ascii "IEDST|v1|relay=1|id=A|xrelay=0|relay=1|STATE")) ∧
      List.IsChain Forwards [ascii "IEDST|v1|id=A|xrelay=0|relay=0|STATE",
        ascii "IEDST|v1|id=A|xrelay=0|relay=1|STATE",
        ascii "IEDST|v1|relay=1|id=A|xrelay=0|relay=1|STATE"] := by
  have first : openRelay.relayedPacket (fun _ _ => none)
      (ascii "IEDST|v1|id=A|xrelay=0|relay=0|STATE") =
      .ok (some (ascii "IEDST|v1|id=A|xrelay=0|relay=1|STATE")) := by decide
  have second : openRelay.relayedPacket (fun _ _ => none)
      (ascii "IEDST|v1|id=A|xrelay=0|relay=1|STATE") =
      .ok (some (ascii "IEDST|v1|relay=1|id=A|xrelay=0|relay=1|STATE")) := by decide
  refine ⟨first, by decide, second, ?_⟩
  rw [List.isChain_cons_cons, List.isChain_cons_cons]
  exact ⟨⟨_, _, first⟩, ⟨_, _, second⟩, List.isChain_singleton _⟩

end IEDSyncTogether
