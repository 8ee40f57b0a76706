import IEDSyncTogether.Network.Relay

/-!
# A turn of the receiver loop

Every string operation of a turn is in range except one: the relay's mark is inserted at
the length of the prefix, and cutting the only field out of a packet leaves it one byte
shorter than that.
-/

namespace IEDSyncTogether

open Base

variable {digest : HmacDigest} {transport : UdpTransport} {fields : List ByteString}

/-- A turn does not throw, and what it forwards of a gameplay packet has the prefix. -/
def ReceivesSafely (digest : HmacDigest) (transport : UdpTransport) (packet : ByteString)
    (source : Endpoint) (now : Nat) : Prop :=
  ∃ reception, transport.receive digest packet source now = .ok reception ∧
    (kGameplayPrefix.isPrefixOf packet = true →
      ∀ datagram ∈ reception.sent, kGameplayPrefix.isPrefixOf datagram.packet = true)

/-- Nothing but an `auth` field stands behind the prefix, and that field names neither
this instance nor a mark. -/
def LoneAuthField (transport : UdpTransport) (packet : ByteString) : Prop :=
  ∃ tag, packet = ascii "IEDST|v1|auth=" ++ tag ∧ bar ∉ tag ∧
    readField packet (ascii "id") ≠ .ok (some transport.instanceID) ∧
    (readField packet (ascii "relay") = .ok none ∨
      readField packet (ascii "relay") = .ok (some (ascii "0")))

/-- Discovery does not throw. -/
theorem handleDiscovery_ok (digest : HmacDigest) (transport : UdpTransport) (packet : ByteString)
    (source : Endpoint) (now : Nat) :
    ∃ handled, transport.handleDiscovery digest packet source now = .ok handled ∧
      handled.isSome = kDiscoveryPrefix.isPrefixOf packet := by
  have registered (port : UInt16) (name id : ByteString) :
      ∃ result, transport.registerPeer digest source port name id now = .ok result := by
    unfold UdpTransport.registerPeer
    split_ifs
    · exact ⟨_, rfl⟩
    · simp only [UdpTransport.sendHelloTo, signPacket_eq, bind, Except.bind]
      split_ifs <;> exact ⟨_, rfl⟩
  unfold UdpTransport.handleDiscovery
  cases discovery : kDiscoveryPrefix.isPrefixOf packet with
  | false => exact ⟨none, rfl, rfl⟩
  | true =>
      simp only [not_true_eq_false, if_false, readField_eq, bind, Except.bind, pure, Except.pure]
      cases fieldValue packet (ascii "id") with
      | none => exact ⟨_, rfl, rfl⟩
      | some id =>
          cases fieldValue packet (ascii "name") with
          | none => exact ⟨_, rfl, rfl⟩
          | some name =>
              simp only
              generalize (if fieldValue packet (ascii "observed") = some (ascii "1") then source.port
                else parsePort (fieldValue packet (ascii "port"))) = port
              obtain ⟨result, done⟩ := registered port ((hexDecode name).getD (ascii "Peer")) id
              split_ifs
              · exact ⟨_, rfl, rfl⟩
              · rw [done]
                exact ⟨_, rfl, rfl⟩

/-- A gameplay packet is no discovery packet. -/
theorem discovery_of_gameplay {packet : ByteString}
    (gameplay : kGameplayPrefix.isPrefixOf packet = true) :
    kDiscoveryPrefix.isPrefixOf packet = false := by
  obtain ⟨body, rfl⟩ := List.isPrefixOf_iff_prefix.mp gameplay
  rfl

section Turn

variable {packet : ByteString} {source : Endpoint} {now : Nat}

/-- A packet that is not authentic is dropped. -/
theorem receive_of_unauthentic
    (refused : authentic digest transport.sharedSecret packet = false) :
    transport.receive digest packet source now = .ok ⟨transport, [], none⟩ := by
  simp only [UdpTransport.receive, authenticatePacket_eq, refused, bind, Except.bind]
  split <;> rfl

/-- An authentic discovery packet is answered, and handed to nobody. -/
theorem receive_of_discovery (discovery : kDiscoveryPrefix.isPrefixOf packet = true)
    (accepted : authentic digest transport.sharedSecret packet = true) :
    ∃ greeted sent,
      transport.handleDiscovery digest packet source now = .ok (some (greeted, sent)) ∧
      transport.receive digest packet source now = .ok ⟨greeted, sent, none⟩ := by
  obtain ⟨handled, done, handles⟩ := handleDiscovery_ok digest transport packet source now
  rw [discovery] at handles
  obtain ⟨⟨greeted, sent⟩, rfl⟩ := Option.isSome_iff_exists.mp handles
  refine ⟨greeted, sent, done, ?_⟩
  simp only [UdpTransport.receive, discovery, authenticatePacket_eq, accepted, done, bind,
    Except.bind]
  rfl

/-- An authentic gameplay packet is touched, relayed and delivered, unless the transport has
sent it itself. -/
theorem receive_of_gameplay (gameplay : kGameplayPrefix.isPrefixOf packet = true)
    (accepted : authentic digest transport.sharedSecret packet = true) :
    transport.receive digest packet source now =
      if fieldValue packet (ascii "id") = some transport.instanceID then
        .ok ⟨transport, [], none⟩
      else do
        let touched ← transport.touchGameplayPeer packet source now
        let sent ← touched.relayGameplayPacket digest packet source
        return ⟨touched, sent, some packet⟩ := by
  obtain ⟨handled, discovery, handles⟩ :=
    handleDiscovery_ok digest transport packet source now
  rw [discovery_of_gameplay gameplay, Option.isSome_eq_false_iff, Option.isNone_iff_eq_none]
    at handles
  subst handles
  simp only [UdpTransport.receive, gameplay, authenticatePacket_eq, accepted, discovery,
    readField_eq, bind, Except.bind, pure, Except.pure, not_true_eq_false, and_false, if_false,
    if_true]

/-- Touching a sender reads its name and does not throw. -/
theorem exists_touched (transport : UdpTransport) (packet : ByteString) (source : Endpoint)
    (now : Nat) :
    ∃ touched, transport.touchGameplayPeer packet source now = .ok touched ∧
      touched = { transport with peers := touched.peers } := by
  simp only [UdpTransport.touchGameplayPeer, readField_eq, bind, Except.bind]
  split_ifs <;> exact ⟨_, rfl, rfl⟩

end Turn

/-- A gameplay packet that passes the checks is touched, relayed and delivered. -/
theorem receive_gameplayText {source : Endpoint} {now : Nat}
    (relaying : transport.relayMode = true) (present : fields ≠ []) (free : FreeOf bar fields)
    (accepted : authentic digest transport.sharedSecret (gameplayText fields) = true) :
    ∃ touched : UdpTransport, transport.receive digest (gameplayText fields) source now =
      if fieldValue (gameplayText fields) (ascii "id") = some transport.instanceID then
        .ok ⟨transport, [], none⟩
      else if (fields.findSome? relayValue).getD (ascii "0") ≠ ascii "0" then
        .ok ⟨touched, [], some (gameplayText fields)⟩
      else if eraseLast isAuth fields = [] then .error .outOfRange
      else .ok ⟨touched,
        (tagFields digest transport.sharedSecret (gameplayText (relayedFields fields))).elim []
          fun tags => (touched.snapshotDestinations (some source)).flatMap
            (UdpTransport.sendPacketTo (gameplayText (relayedFields fields ++ tags))),
        some (gameplayText fields)⟩ := by
  have gameplay := isPrefixOf_gameplayText present
  obtain ⟨touched, touch, same⟩ := exists_touched transport (gameplayText fields) source now
  have relays : touched.relayMode = true := by rw [same, relaying]
  have keyed : touched.sharedSecret = transport.sharedSecret := by rw [same]
  refine ⟨touched, ?_⟩
  rw [receive_of_gameplay gameplay accepted]
  simp only [touch, readField_eq, UdpTransport.relayGameplayPacket,
    relayedPacket_gameplayText relays present free, keyed, bind, Except.bind, pure, Except.pure]
  split_ifs
  · rfl
  · rfl
  · rfl
  · cases tagFields digest transport.sharedSecret (gameplayText (relayedFields fields)) <;> rfl

/-- A lone `auth` field, by the fields. -/
theorem loneAuthField_gameplayText (present : fields ≠ []) (free : FreeOf bar fields) :
    LoneAuthField transport (gameplayText fields) ↔
      fieldValue (gameplayText fields) (ascii "id") ≠ some transport.instanceID ∧
      (fields.findSome? relayValue).getD (ascii "0") = ascii "0" ∧
      eraseLast isAuth fields = [] := by
  have alone (tag : ByteString) :
      ascii "IEDST|v1|auth=" ++ tag = gameplayText [ascii "auth=" ++ tag] := by
    rw [gameplayText_cons, joined_nil, ← List.append_assoc]
    rfl
  have unmarked : (fields.findSome? relayValue = none ∨
      fields.findSome? relayValue = some (ascii "0")) ↔
      (fields.findSome? relayValue).getD (ascii "0") = ascii "0" := by
    cases fields.findSome? relayValue <;> simp
  simp only [LoneAuthField, readField_eq, fieldValue_relay, ne_eq, Except.ok.injEq, unmarked]
  constructor
  · rintro ⟨tag, shape, whole, other, plain⟩
    have field : bar ∉ ascii "auth=" ++ tag := by
      rw [List.mem_append, not_or]
      exact ⟨by decide, whole⟩
    rw [alone] at shape
    have single := gameplayText_inj free shape (by simpa [FreeOf] using field)
    refine ⟨other, plain, (eraseLast_eq_nil present).mpr ⟨_, single, ?_⟩⟩
    exact List.isPrefixOf_iff_prefix.mpr (List.prefix_append _ _)
  · rintro ⟨other, plain, erased⟩
    obtain ⟨field, single, starts⟩ := (eraseLast_eq_nil present).mp erased
    obtain ⟨tag, rfl⟩ := List.isPrefixOf_iff_prefix.mp starts
    have whole : bar ∉ ascii "auth=" ++ tag := free _ (by simp [single])
    exact ⟨tag, by rw [alone, single], fun member => whole (List.mem_append_right _ member),
      other, plain⟩

/-- A turn on an authentic gameplay packet is safe unless a lone field is cut out of it. -/
theorem receivesSafely_gameplayText {source : Endpoint} {now : Nat}
    (relaying : transport.relayMode = true) (present : fields ≠ []) (free : FreeOf bar fields)
    (accepted : authentic digest transport.sharedSecret (gameplayText fields) = true) :
    ReceivesSafely digest transport (gameplayText fields) source now ↔
      ¬ LoneAuthField transport (gameplayText fields) := by
  obtain ⟨touched, turn⟩ :=
    @receive_gameplayText digest transport fields source now relaying present free accepted
  rw [loneAuthField_gameplayText present free, ReceivesSafely, turn]
  split_ifs with own marked lone
  · simp [own]
  · simp [own, marked]
  · simp [own, not_not.mp marked, lone]
  · refine iff_of_true ⟨_, rfl, fun _ datagram member => ?_⟩ fun alone => lone alone.2.2
    cases tagged : tagFields digest transport.sharedSecret (gameplayText (relayedFields fields)) with
    | none => simp [tagged] at member
    | some tags =>
        rw [tagged, Option.elim_some] at member
        rw [UdpTransport.packet_of_mem_sends member]
        exact isPrefixOf_gameplayText (by simp [relayedFields_ne_nil])

/-- A turn on an authentic discovery packet is safe. -/
theorem receivesSafely_discovery {packet : ByteString} {source : Endpoint} {now : Nat}
    (discovery : kDiscoveryPrefix.isPrefixOf packet = true)
    (accepted : authentic digest transport.sharedSecret packet = true) :
    ReceivesSafely digest transport packet source now := by
  have other : kGameplayPrefix.isPrefixOf packet ≠ true := by
    intro gameplay
    rw [discovery_of_gameplay gameplay] at discovery
    cases discovery
  obtain ⟨greeted, sent, _, received⟩ :=
    @receive_of_discovery digest transport packet source now discovery accepted
  exact ⟨⟨greeted, sent, none⟩, received, fun gameplay => absurd gameplay other⟩

/-- A relay's turn on an authentic packet is safe unless nothing but an `auth` field
stands behind the prefix: then the mark is inserted past the end. -/
theorem receive_safe_iff {packet : ByteString} {source : Endpoint} {now : Nat}
    (relaying : transport.relayMode = true)
    (known : kDiscoveryPrefix.isPrefixOf packet = true ∨ kGameplayPrefix.isPrefixOf packet = true)
    (accepted : authenticatePacket digest transport.sharedSecret packet = .ok true) :
    ReceivesSafely digest transport packet source now ↔ ¬ LoneAuthField transport packet := by
  rw [authenticatePacket_eq, Except.ok.injEq] at accepted
  rcases known with discovery | gameplay
  · refine iff_of_true (receivesSafely_discovery discovery accepted) ?_
    rintro ⟨tag, rfl, _⟩
    cases discovery
  · obtain ⟨fields, present, free, rfl⟩ := exists_gameplayText gameplay
    exact receivesSafely_gameplayText relaying present free accepted

/-- The address of a sender. -/
def senderEndpoint : Endpoint := ⟨#v[192, 0, 2, 7], 38471⟩

/-- A plain state is received without an exception. -/
theorem receive_safe_state :
    ReceivesSafely (fun _ _ => none) openRelay (ascii "IEDST|v1|id=A|from=42|relay=0|STATE")
      senderEndpoint 0 ↔ ¬ LoneAuthField openRelay (ascii "IEDST|v1|id=A|from=42|relay=0|STATE") :=
  receive_safe_iff rfl (by decide) rfl

/-- A datagram of fourteen bytes that passes every check makes the turn throw. -/
theorem lone_auth_throws :
    openRelay.relayMode = true ∧
      kGameplayPrefix.isPrefixOf (ascii "IEDST|v1|auth=") = true ∧
      authenticatePacket (fun _ _ => none) openRelay.sharedSecret (ascii "IEDST|v1|auth=") =
        .ok true ∧
      openRelay.receive (fun _ _ => none) (ascii "IEDST|v1|auth=") senderEndpoint 0 =
        .error .outOfRange ∧
      ¬ ReceivesSafely (fun _ _ => none) openRelay (ascii "IEDST|v1|auth=") senderEndpoint 0 := by
  have throws : openRelay.receive (fun _ _ => none) (ascii "IEDST|v1|auth=") senderEndpoint 0 =
      .error .outOfRange := by
    rfl
  refine ⟨rfl, by decide, rfl, throws, ?_⟩
  rintro ⟨reception, received, _⟩
  rw [throws] at received
  cases received

end IEDSyncTogether
