import IEDSyncTogether.Config.RemotePeers

/-!
# Loading the configuration

`Config::Load` reads the main INI file and, if there is one, the file of a relay host over
it. What a file holds is arbitrary; numbers are put within their bounds, and the list of
peers together with the older single peer has no peer twice.
-/

namespace IEDSyncTogether

open Base

/-- The values of a file by section and key, as `GetPrivateProfileIntW` and
`GetPrivateProfileStringW` find them. -/
structure IniFile where
  number : ByteString → ByteString → Option UInt32
  text : ByteString → ByteString → Option ByteString

namespace IniFile

variable (file : IniFile) (section_ key : ByteString)

/-- `ReadUInt`: the number of a key, or the fallback. -/
def readUInt (fallback : UInt32) : UInt32 := (file.number section_ key).getD fallback

/-- `ReadBool`: every number but zero is true. -/
def readBool (fallback : Bool) : Bool :=
  file.readUInt section_ key (if fallback then 1 else 0) ≠ 0

/-- `ReadString`: the text of a key, or the fallback. -/
def readString (fallback : ByteString) : ByteString := (file.text section_ key).getD fallback

end IniFile

/-- The transports a configuration can ask for. -/
inductive TransportMode where
  | kSTR
  | kAuto
  | kUDP
deriving DecidableEq

/-- The settings that the main file and the file of the relay host decide. -/
structure Config where
  networkEnabled : Bool
  transportMode : TransportMode
  udpFallback : Bool
  requireStrBridge : Bool
  autoDiscovery : Bool
  relayMode : Bool
  autoRemoteFromSTR : Bool
  autoSharedSecretFromSTR : Bool
  suppressRemoteNpcDisplays : Bool
  localPort : UInt16
  peerPort : UInt16
  autoRemotePort : UInt16
  captureIntervalMs : UInt32
  resendIntervalMs : UInt32
  discoveryIntervalMs : UInt32
  peerTimeoutMs : UInt32
  peerHost : ByteString
  remotePeers : List RemotePeer
  sharedSecret : ByteString

/-- `std::clamp` as the source spells it, with `std::min` inside `std::max`. -/
def clamp (value minValue maxValue : UInt32) : UInt32 :=
  let smaller := if maxValue < value then maxValue else value
  if minValue < smaller then smaller else minValue

/-- A port out of range becomes the fallback. -/
def clampPort (value : UInt32) (fallback : UInt16) : UInt16 :=
  if 0 < value ∧ value ≤ 65535 then value.toUInt16 else fallback

/-- `ParseTransportMode`: everything unknown means STR. -/
def parseTransportMode (value : ByteString) : TransportMode :=
  let value := (trim value).map toLower
  if value = ascii "auto" then .kAuto
  else if value = ascii "udp" ∨ value = ascii "legacyudp" then .kUDP
  else .kSTR

/-- `_stricmp` finds no difference up to the first null character. -/
def stricmpEqual (first second : ByteString) : Bool :=
  (first.takeWhile (· ≠ 0)).map toLower = (second.takeWhile (· ≠ 0)).map toLower

namespace Config

/-- The default member initialisers of `Config`. -/
def initial : Config where
  networkEnabled := true
  transportMode := .kSTR
  udpFallback := false
  requireStrBridge := true
  autoDiscovery := true
  relayMode := false
  autoRemoteFromSTR := true
  autoSharedSecretFromSTR := false
  suppressRemoteNpcDisplays := false
  localPort := 38471
  peerPort := 38471
  autoRemotePort := 38471
  captureIntervalMs := 750
  resendIntervalMs := 5000
  discoveryIntervalMs := 2000
  peerTimeoutMs := 10000
  peerHost := []
  remotePeers := []
  sharedSecret := []

/-- The peer of `PeerHost` joins the list unless it is there. -/
def addLegacyPeer (peers : List RemotePeer) (legacyPeer : Option RemotePeer) : List RemotePeer :=
  match legacyPeer with
  | none => peers
  | some legacyPeer =>
    if peers.any fun peer => stricmpEqual peer.host legacyPeer.host ∧ peer.port = legacyPeer.port then
      peers
    else peers ++ [legacyPeer]

/-- The part of `Load` that reads the main file. -/
def loadMain (file : IniFile) : Config :=
  let network := ascii "Network"
  let timing := ascii "Timing"
  let localPort := clampPort
    (file.readUInt network (ascii "LocalPort") initial.localPort.toUInt32) initial.localPort
  let peerPort :=
    clampPort (file.readUInt network (ascii "PeerPort") localPort.toUInt32) localPort
  let peerHost := file.readString network (ascii "PeerHost") []
  { networkEnabled :=
      file.readBool network (ascii "Enabled") initial.networkEnabled &&
        !file.readBool network (ascii "Disabled") false
    transportMode := parseTransportMode (file.readString network (ascii "Transport") (ascii "STR"))
    udpFallback := file.readBool network (ascii "UdpFallback") initial.udpFallback
    requireStrBridge := file.readBool network (ascii "RequireStrBridge") initial.requireStrBridge
    autoDiscovery := file.readBool network (ascii "AutoDiscovery") initial.autoDiscovery
    relayMode := file.readBool network (ascii "RelayMode") initial.relayMode
    autoRemoteFromSTR := file.readBool network (ascii "AutoRemoteFromSTR") initial.autoRemoteFromSTR
    autoSharedSecretFromSTR :=
      file.readBool network (ascii "AutoSharedSecretFromSTR") initial.autoSharedSecretFromSTR
    suppressRemoteNpcDisplays :=
      file.readBool (ascii "Compatibility") (ascii "SuppressRemoteNpcDisplays")
        initial.suppressRemoteNpcDisplays
    localPort
    peerPort
    autoRemotePort :=
      clampPort (file.readUInt network (ascii "AutoRemotePort") localPort.toUInt32) localPort
    captureIntervalMs :=
      clamp (file.readUInt timing (ascii "CaptureIntervalMs") initial.captureIntervalMs) 250 30000
    resendIntervalMs :=
      clamp (file.readUInt timing (ascii "ResendIntervalMs") initial.resendIntervalMs) 1000 60000
    discoveryIntervalMs :=
      clamp (file.readUInt network (ascii "DiscoveryIntervalMs") initial.discoveryIntervalMs) 250
        30000
    peerTimeoutMs :=
      clamp (file.readUInt network (ascii "PeerTimeoutMs") initial.peerTimeoutMs) 2000 120000
    peerHost
    remotePeers :=
      addLegacyPeer (parseRemotePeers (file.readString network (ascii "RemotePeers") []) peerPort)
        (parseRemotePeer peerHost peerPort)
    sharedSecret := file.readString network (ascii "SharedSecret") [] }

/-- The part of `Load` that reads the file of a relay host. -/
def overrideRelayHost (config : Config) (file : IniFile) : Config :=
  let network := ascii "Network"
  let relayTransport := trim (file.readString network (ascii "Transport") [])
  let relaySharedSecret := file.readString network (ascii "SharedSecret") []
  { config with
    transportMode :=
      if relayTransport = [] then config.transportMode else parseTransportMode relayTransport
    udpFallback := file.readBool network (ascii "UdpFallback") config.udpFallback
    requireStrBridge := file.readBool network (ascii "RequireStrBridge") config.requireStrBridge
    autoDiscovery := file.readBool network (ascii "AutoDiscovery") config.autoDiscovery
    relayMode := file.readBool network (ascii "RelayMode") config.relayMode
    autoRemoteFromSTR := file.readBool network (ascii "AutoRemoteFromSTR") config.autoRemoteFromSTR
    autoSharedSecretFromSTR :=
      file.readBool network (ascii "AutoSharedSecretFromSTR") config.autoSharedSecretFromSTR
    localPort := clampPort
      (file.readUInt network (ascii "LocalPort") config.localPort.toUInt32) config.localPort
    autoRemotePort := clampPort
      (file.readUInt network (ascii "AutoRemotePort") config.autoRemotePort.toUInt32)
      config.autoRemotePort
    sharedSecret := if relaySharedSecret = [] then config.sharedSecret else relaySharedSecret }

/-- `Load`: the main file, overridden by the file of the relay host if there is one. -/
def load (main : IniFile) (relayHost : Option IniFile) : Config :=
  match relayHost with
  | none => loadMain main
  | some relayHost => (loadMain main).overrideRelayHost relayHost

/-- What the rest of the program relies on. -/
structure Valid (config : Config) : Prop where
  localPort : config.localPort ≠ 0
  peerPort : config.peerPort ≠ 0
  autoRemotePort : config.autoRemotePort ≠ 0
  captureInterval : 250 ≤ config.captureIntervalMs.toNat ∧ config.captureIntervalMs.toNat ≤ 30000
  resendInterval : 1000 ≤ config.resendIntervalMs.toNat ∧ config.resendIntervalMs.toNat ≤ 60000
  discoveryInterval :
    250 ≤ config.discoveryIntervalMs.toNat ∧ config.discoveryIntervalMs.toNat ≤ 30000
  peerTimeout : 2000 ≤ config.peerTimeoutMs.toNat ∧ config.peerTimeoutMs.toNat ≤ 120000
  peers : ∀ peer ∈ config.remotePeers, peer.port ≠ 0 ∧ peer.host ≠ [] ∧ byteOf '|' ∉ peer.host
  distinct : (config.remotePeers.map foldedPeer).Nodup
  few : config.remotePeers.length ≤ 65
  legacyPeer : ∀ legacyPeer, parseRemotePeer config.peerHost config.peerPort = some legacyPeer →
    ∃ peer ∈ config.remotePeers,
      stricmpEqual peer.host legacyPeer.host ∧ peer.port = legacyPeer.port

/-! ## Numbers and hosts -/

/-- A clamped number lies within its bounds. -/
theorem clamp_bounds (value : UInt32) {minValue maxValue : UInt32}
    (ordered : minValue.toNat ≤ maxValue.toNat) :
    minValue.toNat ≤ (clamp value minValue maxValue).toNat ∧
      (clamp value minValue maxValue).toNat ≤ maxValue.toNat := by
  simp only [clamp, UInt32.lt_iff_toNat_lt]
  split_ifs <;> omega

/-- A clamped port can be used if the fallback can. -/
theorem clampPort_ne_zero (value : UInt32) {fallback : UInt16} (usable : fallback ≠ 0) :
    clampPort value fallback ≠ 0 := by
  rw [clampPort]
  split_ifs with within
  · obtain ⟨positive, small⟩ := within
    rw [UInt32.lt_iff_toNat_lt] at positive
    rw [UInt32.le_iff_toNat_le] at small
    intro zero
    have same := congrArg UInt16.toNat zero
    rw [UInt32.toNat_toUInt16] at same
    simp at same positive small
    omega
  · exact usable

/-- A parsed peer has a usable port and a host that fits into a field. -/
theorem parseRemotePeer_valid {value : ByteString} {defaultPort : UInt16} {peer : RemotePeer}
    (usable : defaultPort ≠ 0) (parsed : parseRemotePeer value defaultPort = some peer) :
    peer.port ≠ 0 ∧ peer.host ≠ [] ∧ byteOf '|' ∉ peer.host := by
  rw [parseRemotePeer] at parsed
  cases found : rfindText [byteOf ':'] (trim value) with
  | none =>
      simp only [found, Option.ite_none_left_eq_some, bind, Option.bind_some, not_or,
        Option.some.injEq] at parsed
      obtain ⟨_, ⟨present, whole⟩, rfl⟩ := parsed
      exact ⟨usable, present, whole⟩
  | some separator =>
      simp only [found, Option.ite_none_left_eq_some, bind, Option.bind_eq_some_iff] at parsed
      obtain ⟨_, number, _, parsed⟩ := parsed
      by_cases invalid : number = 0 ∨ 65535 < number
      · simp only [if_pos invalid, Option.bind_none, reduceCtorEq] at parsed
      simp only [if_neg invalid, Option.bind_some, Option.ite_none_left_eq_some, not_or,
        Option.some.injEq] at parsed
      obtain ⟨⟨present, whole⟩, rfl⟩ := parsed
      refine ⟨fun zero => invalid ?_, present, whole⟩
      have same := congrArg UInt16.toNat zero
      rw [UInt32.toNat_toUInt16] at same
      rw [← UInt32.toNat_inj, UInt32.lt_iff_toNat_lt]
      simp at same ⊢
      omega

/-- Equal folded hosts are equal for `_stricmp`, which reads less of them. -/
theorem stricmpEqual_of_toLower_eq {first second : ByteString}
    (same : first.map toLower = second.map toLower) : stricmpEqual first second := by
  have plain : (fun item : UInt8 => decide (item ≠ 0)) =
      (fun item : UInt8 => decide (item ≠ 0)) ∘ toLower := by
    funext item
    have kept : toLower item = 0 ↔ item = 0 := by
      rw [toLower]
      split_ifs with capital
      · rw [UInt8.le_iff_toNat_le, UInt8.le_iff_toNat_le] at capital
        rw [← UInt8.toNat_inj, ← UInt8.toNat_inj, UInt8.toNat_add]
        simp at capital ⊢
        omega
      · rfl
    simp [kept]
  rw [stricmpEqual, decide_eq_true_eq, plain, ← List.takeWhile_map, ← List.takeWhile_map, same]

/-! ## The list with the older peer -/

variable {peers : List RemotePeer} {legacyPeer : RemotePeer}

/-- The legacy peer is known already or added as a new one. -/
theorem addLegacyPeer_some (peers : List RemotePeer) (legacyPeer : RemotePeer) :
    addLegacyPeer peers (some legacyPeer) = peers ∧
        (∃ peer ∈ peers, stricmpEqual peer.host legacyPeer.host ∧ peer.port = legacyPeer.port) ∨
      addLegacyPeer peers (some legacyPeer) = peers ++ [legacyPeer] ∧
        foldedPeer legacyPeer ∉ peers.map foldedPeer := by
  by_cases duplicate : ∃ peer ∈ peers,
      stricmpEqual peer.host legacyPeer.host ∧ peer.port = legacyPeer.port
  · refine .inl ⟨?_, duplicate⟩
    rw [addLegacyPeer, if_pos]
    simpa using duplicate
  · refine .inr ⟨?_, ?_⟩
    · rw [addLegacyPeer, if_neg]
      simpa using duplicate
    · rw [List.mem_map]
      rintro ⟨peer, listed, same⟩
      obtain ⟨hosts, ports⟩ := Prod.mk.inj same
      exact duplicate ⟨peer, listed, stricmpEqual_of_toLower_eq hosts, ports⟩

/-- The peers of the list are parsed, and there are at most 64 without the older one. -/
theorem parseRemotePeers_valid {value : ByteString} {defaultPort : UInt16}
    (usable : defaultPort ≠ 0) :
    (∀ peer ∈ parseRemotePeers value defaultPort,
        peer.port ≠ 0 ∧ peer.host ≠ [] ∧ byteOf '|' ∉ peer.host) ∧
      ((parseRemotePeers value defaultPort).map foldedPeer).Nodup ∧
      (parseRemotePeers value defaultPort).length ≤ 64 := by
  rw [parseRemotePeers_eq]
  refine ⟨fun peer listed => ?_, ?_, List.length_take_le ..⟩
  · obtain ⟨item, _, parsed⟩ :=
      List.mem_filterMap.mp
        ((distinctFrom_sublist ..).subset (List.mem_of_mem_take listed))
    exact parseRemotePeer_valid usable parsed
  · rw [List.map_take]
    exact (nodup_map_distinctFrom _ _ _).sublist (List.take_sublist ..)

/-- The older peer joins a list without breaking it, and is in it afterwards. -/
theorem addLegacyPeer_valid {peerHost : ByteString} {peerPort : UInt16} (usable : peerPort ≠ 0)
    (valid : ∀ peer ∈ peers, peer.port ≠ 0 ∧ peer.host ≠ [] ∧ byteOf '|' ∉ peer.host)
    (distinct : (peers.map foldedPeer).Nodup) (few : peers.length ≤ 64) :
    (∀ peer ∈ addLegacyPeer peers (parseRemotePeer peerHost peerPort),
        peer.port ≠ 0 ∧ peer.host ≠ [] ∧ byteOf '|' ∉ peer.host) ∧
      ((addLegacyPeer peers (parseRemotePeer peerHost peerPort)).map foldedPeer).Nodup ∧
      (addLegacyPeer peers (parseRemotePeer peerHost peerPort)).length ≤ 65 ∧
      ∀ legacyPeer, parseRemotePeer peerHost peerPort = some legacyPeer →
        ∃ peer ∈ addLegacyPeer peers (parseRemotePeer peerHost peerPort),
          stricmpEqual peer.host legacyPeer.host ∧ peer.port = legacyPeer.port := by
  cases parsed : parseRemotePeer peerHost peerPort with
  | none => exact ⟨valid, distinct, Nat.le_succ_of_le few, nofun⟩
  | some legacyPeer =>
      rcases addLegacyPeer_some peers legacyPeer with ⟨kept, listed⟩ | ⟨joined, new⟩
      · rw [kept]
        refine ⟨valid, distinct, Nat.le_succ_of_le few, ?_⟩
        rintro _ ⟨⟩
        exact listed
      · rw [joined, List.map_append, List.length_append]
        refine ⟨?_, ?_, Nat.succ_le_succ few, ?_⟩
        · intro peer listed
          rcases List.mem_append.mp listed with old | legacy
          · exact valid peer old
          · rw [List.mem_singleton.mp legacy]
            exact parseRemotePeer_valid usable parsed
        · exact distinct.append (List.nodup_singleton _) (by simpa using new)
        · rintro _ ⟨⟩
          refine ⟨legacyPeer, List.mem_append_right _ List.mem_cons_self, ?_, rfl⟩
          exact stricmpEqual_of_toLower_eq rfl

/-- Every main file yields valid settings. -/
theorem loadMain_valid (file : IniFile) : (loadMain file).Valid := by
  have localPort : (loadMain file).localPort ≠ 0 := clampPort_ne_zero _ (by decide)
  have peerPort : (loadMain file).peerPort ≠ 0 := clampPort_ne_zero _ localPort
  obtain ⟨valid, distinct, few⟩ :=
    @parseRemotePeers_valid
    (file.readString (ascii "Network") (ascii "RemotePeers") []) _ peerPort
  obtain ⟨peers, distinct, few, legacyPeer⟩ :=
    @addLegacyPeer_valid _ (loadMain file).peerHost _ peerPort valid distinct few
  exact {
    localPort
    peerPort
    autoRemotePort := clampPort_ne_zero _ localPort
    captureInterval := @clamp_bounds _ 250 30000 (by decide)
    resendInterval := @clamp_bounds _ 1000 60000 (by decide)
    discoveryInterval := @clamp_bounds _ 250 30000 (by decide)
    peerTimeout := @clamp_bounds _ 2000 120000 (by decide)
    peers
    distinct
    few
    legacyPeer }

/-- The file of a relay host changes neither the peers nor the bounds of the numbers. -/
theorem Valid.overrideRelayHost {config : Config} (valid : config.Valid) (file : IniFile) :
    (config.overrideRelayHost file).Valid :=
  { valid with
    localPort := clampPort_ne_zero _ valid.localPort
    autoRemotePort := clampPort_ne_zero _ valid.autoRemotePort }

/-- Whatever the files hold, the configuration has usable ports, intervals within their
bounds and at most 65 usable peers, no two of them the same without case, with the older
single peer among them. -/
theorem load_valid (main : IniFile) (relayHost : Option IniFile) :
    (load main relayHost).Valid := by
  cases relayHost with
  | none => exact loadMain_valid main
  | some relayHost => exact (loadMain_valid main).overrideRelayHost relayHost

end Config

end IEDSyncTogether
