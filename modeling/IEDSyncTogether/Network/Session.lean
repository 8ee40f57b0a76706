import IEDSyncTogether.Base.Toggles
import IEDSyncTogether.Discovery.ClientState
import IEDSyncTogether.Discovery.ServerConfig
import IEDSyncTogether.Network.UdpNetwork

/-!
# Starting and stopping the UDP transport

`UdpTransport::Start` acquires Winsock and a socket and gives them back if a later step
fails; `Stop` gives them back at the end. While the transport runs, its maintenance thread
takes a shared secret and a peer over from Skyrim Together. The system answers each call
through parameters. The threads' turns are atomic, and what a start sends is left out.
-/

namespace IEDSyncTogether

open Base

/-- What a transport acquires from the process. -/
inductive Resource where
  | winsock
  | socket
  | channel (handle : UInt64)
deriving DecidableEq

/-- The answers of the files and the name resolution to one refresh; the clock counts
nanoseconds. -/
structure RefreshAnswer where
  now : Nat
  serverConfig : Option ByteString
  secretStorage : List StorageEntry
  remoteStorage : List StorageEntry
  resolve : RemotePeer → Option Endpoint

/-- The answers of the system to `Start`. -/
structure UdpStartAnswer where
  wsaStartup : Bool
  socket : Bool
  bind : Bool
  resolve : RemotePeer → Option Endpoint
  processID : UInt32
  tickCount : UInt64
  localPlayerName : ByteString
  refresh : RefreshAnswer

/-- The members of `UdpTransport` that `Start` and `Stop` manage, around the running transport;
`maintained` is whether its maintenance thread was started. -/
structure UdpSession where
  running : Bool
  socketOpen : Bool
  maintained : Bool
  config : Config
  lastStrAutoConfigRefresh : Nat
  transport : UdpTransport

namespace UdpSession

/-- A constructed transport. -/
def initial : UdpSession where
  running := false
  socketOpen := false
  maintained := false
  config := Config.initial
  lastStrAutoConfigRefresh := 0
  transport :=
    { relayMode := Config.initial.relayMode
      autoDiscovery := Config.initial.autoDiscovery
      localPort := Config.initial.localPort
      localPlayerName := []
      instanceID := []
      sharedSecret := []
      configuredPeers := []
      peers := ∅ }

variable (session : UdpSession)

/-- Whether a refresh reads the files: it is forced, the first one, or five seconds have passed. -/
def refreshDue (force : Bool) (now : Nat) : Bool :=
  (session.config.autoRemoteFromSTR ∨ session.config.autoSharedSecretFromSTR) ∧
    (force ∨ session.lastStrAutoConfigRefresh = 0 ∨
      5000000000 ≤ now - session.lastStrAutoConfigRefresh)

/-- The password of Skyrim Together: a host reads its server's, a guest the one it entered. -/
def strPassword (answer : RefreshAnswer) : Except StringError (Option ByteString) :=
  if session.config.relayMode then .ok (readServerPasswordFromConfig answer.serverConfig)
  else do
    let state ← readClientState answer.secretStorage session.config.autoRemotePort
    return state.password

/-- The first half of a refresh; a configured secret is kept. -/
def refreshSharedSecret (answer : RefreshAnswer) : Except StringError UdpSession :=
  if ¬ session.config.autoSharedSecretFromSTR ∨ session.config.sharedSecret ≠ [] then .ok session
  else do
    let password := (← session.strPassword answer).getD []
    if password = [] then return session
    else return { session with transport := { session.transport with sharedSecret := password } }

/-- The second half of a refresh; only a new endpoint is added. -/
def refreshRemotePeer (answer : RefreshAnswer) : Except StringError UdpSession :=
  if ¬ session.config.autoRemoteFromSTR ∨ session.config.relayMode then .ok session
  else do
    let state ← readClientState answer.remoteStorage session.config.autoRemotePort
    match state.remotePeer.bind answer.resolve with
    | none => return session
    | some resolved =>
      if resolved ∈ session.transport.configuredPeers then return session
      else return { session with
        transport := { session.transport with
          configuredPeers := session.transport.configuredPeers ++ [resolved] } }

/-- `RefreshSkyrimTogetherAutoConfig`: the secret first, then the endpoints of the host. -/
def refreshSkyrimTogetherAutoConfig (force : Bool) (answer : RefreshAnswer) :
    Except StringError UdpSession :=
  if ¬ session.refreshDue force answer.now then .ok session
  else do
    let session ← { session with lastStrAutoConfigRefresh := answer.now }.refreshSharedSecret answer
    session.refreshRemotePeer answer

/-- The members `Start` sets before it asks the system. -/
def configure (config : Config) (localPlayerName : ByteString) : UdpSession :=
  { session with
    config
    lastStrAutoConfigRefresh := 0
    transport := { session.transport with
      relayMode := config.relayMode
      autoDiscovery := config.autoDiscovery
      localPort := config.localPort
      localPlayerName := sanitizeField localPlayerName
      sharedSecret := config.sharedSecret } }

/-- The members `Start` sets once the socket is bound. -/
def bound (answer : UdpStartAnswer) : UdpSession :=
  { session with
    socketOpen := true
    transport := { session.transport with
      configuredPeers :=
        distinctFrom addressToString [] (session.config.remotePeers.filterMap answer.resolve)
      instanceID := udpInstanceID answer.processID answer.tickCount } }

/-- What `Start` and `Stop` return and leave, with the resources they acquire and release. -/
structure Outcome where
  started : Bool
  session : UdpSession
  calls : List (Resource × Bool)

/-- `Start`: Winsock first, then the socket; a step that fails releases what was taken before
it. -/
def start (config : Config) (handler : Bool) (answer : UdpStartAnswer) :
    Except StringError Outcome :=
  if session.running then .ok ⟨true, session, []⟩
  else if ¬ config.networkEnabled ∨ ¬ handler then .ok ⟨false, session, []⟩
  else
    let session := session.configure config answer.localPlayerName
    if ¬ answer.wsaStartup then .ok ⟨false, session, []⟩
    else if ¬ answer.socket then
      .ok ⟨false, { session with socketOpen := false }, [(.winsock, true), (.winsock, false)]⟩
    else if ¬ answer.bind then
      .ok ⟨false, { session with socketOpen := false },
        [(.winsock, true), (.socket, true), (.socket, false), (.winsock, false)]⟩
    else do
      let session ← (session.bound answer).refreshSkyrimTogetherAutoConfig true answer.refresh
      let maintained := config.autoDiscovery ∨ session.transport.configuredPeers ≠ [] ∨
        config.relayMode ∨ config.autoRemoteFromSTR ∨ config.autoSharedSecretFromSTR
      return ⟨true, { session with running := true, maintained },
        [(.winsock, true), (.socket, true)]⟩

/-- `Stop`: the socket is closed and Winsock is cleaned up. -/
def stop : UdpSession × List (Resource × Bool) :=
  if ¬ session.running then (session, [])
  else
    ({ session with
        running := false
        socketOpen := false
        maintained := false
        transport := { session.transport with peers := ∅, configuredPeers := [], sharedSecret := [] } },
      (if session.socketOpen then [(.socket, false)] else []) ++ [(.winsock, false)])

/-! ## What a refresh changes -/

variable {session} {next : UdpSession} {force : Bool} {answer : RefreshAnswer}

/-- A refresh may replace an unconfigured secret, and add one endpoint unless it runs on a host. -/
structure Refreshed (session next : UdpSession) : Prop where
  frame : next = { session with
    lastStrAutoConfigRefresh := next.lastStrAutoConfigRefresh
    transport := { session.transport with
      sharedSecret := next.transport.sharedSecret
      configuredPeers := next.transport.configuredPeers } }
  secret : session.config.sharedSecret ≠ [] →
    next.transport.sharedSecret = session.transport.sharedSecret
  endpoints : next.transport.configuredPeers = session.transport.configuredPeers ∨
    session.config.relayMode = false ∧ ∃ resolved ∉ session.transport.configuredPeers,
      next.transport.configuredPeers = session.transport.configuredPeers ++ [resolved]

/-- A refresh leaves the session running or not. -/
theorem Refreshed.running (refreshed : Refreshed session next) :
    next.running = session.running := by
  rw [refreshed.frame]

/-- A refresh leaves the configuration. -/
theorem Refreshed.config (refreshed : Refreshed session next) :
    next.config = session.config := by
  rw [refreshed.frame]

/-- Nothing is a refresh as well. -/
theorem Refreshed.refl (session : UdpSession) : Refreshed session session :=
  ⟨rfl, fun _ => rfl, .inl rfl⟩

/-- The secret is refreshed without an exception, and a configured one is kept. -/
theorem exists_refreshSharedSecret (session : UdpSession) (answer : RefreshAnswer) :
    ∃ secret, session.refreshSharedSecret answer = .ok { session with
        transport := { session.transport with sharedSecret := secret } } ∧
      (session.config.sharedSecret ≠ [] → secret = session.transport.sharedSecret) := by
  rw [refreshSharedSecret]
  by_cases kept : ¬ session.config.autoSharedSecretFromSTR ∨ session.config.sharedSecret ≠ []
  · exact ⟨_, if_pos kept, fun _ => rfl⟩
  · rw [if_neg kept]
    rw [not_or, not_not, not_not] at kept
    have password : ∃ password, session.strPassword answer = .ok password := by
      rw [strPassword]
      split
      · exact ⟨_, rfl⟩
      · obtain ⟨state, read⟩ := exists_readClientState answer.secretStorage
          session.config.autoRemotePort
        rw [read]
        exact ⟨_, rfl⟩
    obtain ⟨password, read⟩ := password
    simp only [read, bind, Except.bind]
    split
    · exact ⟨_, rfl, fun present => absurd kept.2 present⟩
    · exact ⟨_, rfl, fun present => absurd kept.2 present⟩

/-- The endpoints are refreshed without an exception; a guest may get one it did not have. -/
theorem exists_refreshRemotePeer (session : UdpSession) (answer : RefreshAnswer) :
    ∃ endpoints, session.refreshRemotePeer answer = .ok { session with
        transport := { session.transport with configuredPeers := endpoints } } ∧
      (endpoints = session.transport.configuredPeers ∨
        session.config.relayMode = false ∧ ∃ resolved ∉ session.transport.configuredPeers,
          endpoints = session.transport.configuredPeers ++ [resolved]) := by
  rw [refreshRemotePeer]
  by_cases kept : ¬ session.config.autoRemoteFromSTR ∨ session.config.relayMode = true
  · exact ⟨_, if_pos kept, .inl rfl⟩
  · rw [if_neg kept]
    obtain ⟨state, read⟩ := exists_readClientState answer.remoteStorage
      session.config.autoRemotePort
    simp only [read, bind, Except.bind]
    cases state.remotePeer.bind answer.resolve with
    | none => exact ⟨_, rfl, .inl rfl⟩
    | some resolved =>
        by_cases known : resolved ∈ session.transport.configuredPeers
        · exact ⟨_, if_pos known, .inl rfl⟩
        · refine ⟨_, if_neg known, .inr ⟨?_, resolved, known, rfl⟩⟩
          simpa using (not_or.mp kept).2

/-- A refresh throws nothing. The clock is remembered if the files were read. -/
theorem exists_refresh (session : UdpSession) (force : Bool) (answer : RefreshAnswer) :
    ∃ next, session.refreshSkyrimTogetherAutoConfig force answer = .ok next ∧
      Refreshed session next ∧ next.lastStrAutoConfigRefresh =
        if session.refreshDue force answer.now then answer.now
        else session.lastStrAutoConfigRefresh := by
  rw [refreshSkyrimTogetherAutoConfig]
  by_cases due : session.refreshDue force answer.now = true
  · obtain ⟨secret, first, kept⟩ := exists_refreshSharedSecret
      { session with lastStrAutoConfigRefresh := answer.now } answer
    obtain ⟨endpoints, second, added⟩ := exists_refreshRemotePeer
      { session with
        lastStrAutoConfigRefresh := answer.now
        transport := { session.transport with sharedSecret := secret } } answer
    rw [if_neg (not_not.mpr due), first]
    exact ⟨_, second, ⟨rfl, kept, added⟩, (if_pos due).symm⟩
  · exact ⟨session, if_pos due, .refl session, (if_neg due).symm⟩

/-! ## What a session keeps -/

/-- The resources a session holds. -/
def held (session : UdpSession) : List Resource :=
  if session.running then [.socket, .winsock] else []

/-- A stopped session holds nothing and knows nobody. A running one has different endpoints, the
configured secret if there is one, and on a host no endpoint that was not configured. -/
structure Valid (session : UdpSession) : Prop where
  socket : session.socketOpen = session.running
  idle : session.running = false → session.maintained = false ∧ session.transport.peers = ∅ ∧
    session.transport.configuredPeers = []
  distinct : session.transport.configuredPeers.Nodup
  generated : session.running = true → GeneratedInstanceID session.transport.instanceID
  options : session.running = true →
    session.transport.relayMode = session.config.relayMode ∧
      session.transport.autoDiscovery = session.config.autoDiscovery ∧
      session.transport.localPort = session.config.localPort
  secret : session.running = true → session.config.sharedSecret ≠ [] →
    session.transport.sharedSecret = session.config.sharedSecret
  host : session.running = true → session.config.relayMode = true →
    session.transport.configuredPeers.length ≤ session.config.remotePeers.length

/-- A constructed session is valid. -/
theorem valid_initial : initial.Valid where
  socket := rfl
  idle _ := ⟨rfl, rfl, rfl⟩
  distinct := List.nodup_nil
  generated := nofun
  options := nofun
  secret := nofun
  host := nofun

/-- A failed start leaves a stopped session. -/
theorem Valid.configure (valid : session.Valid) (stopped : session.running = false)
    (config : Config) (localPlayerName : ByteString) :
    (session.configure config localPlayerName).Valid where
  socket := valid.socket
  idle := valid.idle
  distinct := valid.distinct
  generated running := absurd (stopped.symm.trans running) Bool.false_ne_true
  options _ := ⟨rfl, rfl, rfl⟩
  secret _ _ := rfl
  host running := absurd (stopped.symm.trans running) Bool.false_ne_true

/-- A refresh adds no endpoint twice, and none on a host. -/
theorem Refreshed.nodup (refreshed : Refreshed session next)
    (distinct : session.transport.configuredPeers.Nodup) :
    next.transport.configuredPeers.Nodup := by
  rcases refreshed.endpoints with same | ⟨_, resolved, new, added⟩
  · rwa [same]
  · rw [added]
    exact distinct.append (List.nodup_singleton _) (by simpa using new)

/-- A host keeps its configured endpoints. -/
theorem Refreshed.host (refreshed : Refreshed session next)
    (host : session.config.relayMode = true) :
    next.transport.configuredPeers = session.transport.configuredPeers := by
  rcases refreshed.endpoints with same | ⟨guest, _⟩
  · exact same
  · rw [host] at guest
    cases guest

/-- A refresh keeps the session valid. -/
theorem Valid.refresh (valid : session.Valid) (running : session.running = true)
    (refreshed : Refreshed session next) : next.Valid := by
  have frame := refreshed.frame
  have config := refreshed.config
  have on := refreshed.running.trans running
  constructor
  · rw [frame]
    exact valid.socket
  · intro stopped
    rw [on] at stopped
    cases stopped
  · exact refreshed.nodup valid.distinct
  · intro _
    rw [frame]
    exact valid.generated running
  · intro _
    rw [frame]
    exact valid.options running
  · intro _ present
    rw [config] at present ⊢
    rw [refreshed.secret present]
    exact valid.secret running present
  · intro _ host
    rw [config] at host ⊢
    rw [refreshed.host host]
    exact valid.host running host

/-- A bound socket and a first refresh make a running session. -/
theorem valid_of_started {config : Config} {localPlayerName : ByteString} {answer : UdpStartAnswer}
    (refreshed : Refreshed ((session.configure config localPlayerName).bound answer) next)
    (maintained : Bool) : { next with running := true, maintained }.Valid := by
  have frame := refreshed.frame
  have same := refreshed.config
  have endpoints : (distinctFrom addressToString []
      (config.remotePeers.filterMap answer.resolve)).Nodup :=
    (nodup_map_distinctFrom addressToString [] _).of_map _
  constructor
  · exact congrArg UdpSession.socketOpen frame
  · exact nofun
  · exact refreshed.nodup endpoints
  · intro _
    exact .inl ⟨answer.processID, answer.tickCount,
      congrArg (UdpTransport.instanceID ∘ UdpSession.transport) frame⟩
  · intro _
    change next.transport.relayMode = next.config.relayMode ∧
      next.transport.autoDiscovery = next.config.autoDiscovery ∧
      next.transport.localPort = next.config.localPort
    rw [frame]
    exact ⟨rfl, rfl, rfl⟩
  · intro _ present
    change next.config.sharedSecret ≠ [] at present
    rw [same] at present
    exact (refreshed.secret present).trans (congrArg Config.sharedSecret same).symm
  · intro _ host
    change next.config.relayMode = true at host
    change next.transport.configuredPeers.length ≤ next.config.remotePeers.length
    rw [same] at host ⊢
    rw [refreshed.host host]
    exact ((distinctFrom_sublist ..).length_le).trans (List.length_filterMap_le ..)

/-- What a session acquires: Winsock and one socket. -/
def Owns : Resource → Prop
  | .winsock | .socket => True
  | _ => False

/-- A step that leaves the session running or not takes and releases nothing. -/
theorem settles_nothing (same : next.running = session.running) :
    Settles Owns session.held next.held [] := by
  rw [held, held, same]
  exact .nothing Owns _

/-- Winsock is taken by a session that holds nothing. -/
theorem settles_winsock : Settles Owns [] [.winsock] [(.winsock, true)] :=
  .acquire trivial (by simp)

/-- The socket is taken beside Winsock. -/
theorem settles_socket : Settles Owns [.winsock] [.socket, .winsock] [(.socket, true)] :=
  .acquire trivial (by simp)

/-- The socket is released before Winsock. -/
theorem settles_closed : Settles Owns [.socket, .winsock] [.winsock] [(.socket, false)] :=
  .release trivial (by simp)

/-- Winsock is released last. -/
theorem settles_cleaned : Settles Owns [.winsock] [] [(.winsock, false)] :=
  .release trivial (by simp)

/-- `Start` throws nothing. It runs the session or gives everything back. -/
theorem exists_start (valid : session.Valid) (config : Config) (handler : Bool)
    (answer : UdpStartAnswer) :
    ∃ outcome, session.start config handler answer = .ok outcome ∧ outcome.session.Valid ∧
      (outcome.session.running = true →
        session.running = true ∨ outcome.session.config = config) ∧
      Settles Owns session.held outcome.session.held outcome.calls := by
  rw [start]
  cases running : session.running with
  | true => exact ⟨_, rfl, valid, fun _ => .inl rfl, settles_nothing rfl⟩
  | false =>
      have stopped : (session.configure config answer.localPlayerName).running = false := running
      have configured := valid.configure running config answer.localPlayerName
      have never {next : UdpSession} {goal : Prop} (off : next.running = false)
          (on : next.running = true) : goal := by
        rw [off] at on
        cases on
      have idle : session.held = [] := by simp [held, running]
      have still : (session.configure config answer.localPlayerName).held = [] := by
        simp [held, stopped]
      have closed : { session.configure config answer.localPlayerName with
          socketOpen := false }.Valid := { configured with socket := stopped.symm }
      rw [if_neg Bool.false_ne_true]
      split
      · exact ⟨_, rfl, valid, never running, settles_nothing rfl⟩
      · dsimp only
        split
        · exact ⟨_, rfl, configured, never running, settles_nothing rfl⟩
        · split
          · refine ⟨_, rfl, closed, never running, ?_⟩
            rw [idle]
            exact still ▸ settles_winsock.trans settles_cleaned
          · split
            · refine ⟨_, rfl, closed, never running, ?_⟩
              rw [idle]
              exact still ▸
                (settles_winsock.trans settles_socket).trans (settles_closed.trans settles_cleaned)
            · obtain ⟨next, refresh, refreshed, _⟩ := exists_refresh
                ((session.configure config answer.localPlayerName).bound answer) true answer.refresh
              rw [refresh]
              refine ⟨_, rfl, valid_of_started refreshed _, fun _ => .inr refreshed.config, ?_⟩
              rw [idle]
              exact settles_winsock.trans settles_socket

/-- `Stop` gives everything back. -/
theorem stop_spec (valid : session.Valid) :
    session.stop.1.Valid ∧ session.stop.1.running = false ∧
      Settles Owns session.held session.stop.1.held session.stop.2 := by
  rw [stop]
  cases running : session.running with
  | false => exact ⟨valid, running, settles_nothing rfl⟩
  | true =>
      rw [if_neg (by simp)]
      refine ⟨?_, rfl, ?_⟩
      · exact ⟨rfl, fun _ => ⟨rfl, rfl, rfl⟩, List.nodup_nil, nofun, nofun, nofun, nofun⟩
      · have open_ := valid.socket.trans running
        simp only [held, running, open_, if_true]
        exact settles_closed.trans settles_cleaned

/-- A turn of the receiver or of the expiry changes only the peers. -/
theorem Valid.peers (valid : session.Valid) (running : session.running = true)
    {transport : UdpTransport} (same : session.transport.SameIdentity transport) :
    { session with transport }.Valid := by
  rw [same]
  exact { valid with idle := fun stopped => absurd (running.symm.trans stopped) (by simp) }

end UdpSession

end IEDSyncTogether
