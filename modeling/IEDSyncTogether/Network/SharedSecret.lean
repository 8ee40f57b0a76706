import IEDSyncTogether.Network.Session

/-!
# The secret of a host and its guests

Without a configured secret, a host takes the password of its server over from the server's
configuration and a guest takes the one it entered last from the client's storage. They end
up with the same secret unless the password contains a comment sign of the INI reader.
-/

namespace IEDSyncTogether

open Base

/-- The system gives `Start` what it asks for. -/
structure UdpStartAnswer.Serves (answer : UdpStartAnswer) : Prop where
  wsaStartup : answer.wsaStartup = true
  socket : answer.socket = true
  bind : answer.bind = true

/-- A configuration that takes its secret over from Skyrim Together. -/
structure Config.TakesSecretOver (config : Config) : Prop where
  enabled : config.networkEnabled = true
  automatic : config.autoSharedSecretFromSTR = true
  unset : config.sharedSecret = []

namespace UdpSession

variable {session : UdpSession} {config : Config} {answer : UdpStartAnswer}

@[simp] theorem bound_configure_config (session : UdpSession) (config : Config)
    (localPlayerName : ByteString) (answer : UdpStartAnswer) :
    ((session.configure config localPlayerName).bound answer).config = config := rfl

/-- The secret a first refresh finds is the one of the started transport. -/
theorem exists_start_of_serves (stopped : session.running = false) (serves : answer.Serves)
    (takes : config.TakesSecretOver) {password : Option ByteString}
    (read : ((session.configure config answer.localPlayerName).bound answer).strPassword
      answer.refresh = .ok password) :
    ∃ outcome, session.start config true answer = .ok outcome ∧ outcome.started = true ∧
      outcome.session.transport.sharedSecret = password.getD [] := by
  obtain ⟨enabled, automatic, unset⟩ := takes
  let fresh := { (session.configure config answer.localPlayerName).bound answer with
    lastStrAutoConfigRefresh := answer.refresh.now }
  have secret : fresh.refreshSharedSecret answer.refresh = .ok { fresh with
      transport := { fresh.transport with sharedSecret := password.getD [] } } := by
    have automatic' : fresh.config.autoSharedSecretFromSTR = true := automatic
    have unset' : fresh.config.sharedSecret = [] := unset
    have kept : fresh.transport.sharedSecret = [] := unset
    have found : fresh.strPassword answer.refresh = .ok password := read
    rw [refreshSharedSecret, if_neg (by simp [automatic', unset'])]
    simp only [found, bind, Except.bind]
    split
    · next empty =>
        rw [empty, ← kept]
        rfl
    · rfl
  obtain ⟨endpoints, peer, _⟩ := exists_refreshRemotePeer { fresh with
    transport := { fresh.transport with sharedSecret := password.getD [] } } answer.refresh
  have refresh : ((session.configure config answer.localPlayerName).bound
      answer).refreshSkyrimTogetherAutoConfig true answer.refresh = .ok { fresh with
        transport := { fresh.transport with
          sharedSecret := password.getD [], configuredPeers := endpoints } } := by
    have due : ((session.configure config answer.localPlayerName).bound answer).refreshDue true
        answer.refresh.now = true := by
      simp [refreshDue, automatic]
    rw [refreshSkyrimTogetherAutoConfig, if_neg (not_not.mpr due), secret]
    exact peer
  rw [start, if_neg (by simp [stopped]), if_neg (by simp [enabled])]
  simp only [serves.wsaStartup, serves.socket, serves.bind, refresh, bind, Except.bind]
  exact ⟨_, rfl, rfl, rfl⟩

/-- A host and a guest whose server has one password start with that secret. The host reads
another one exactly if the password contains a comment sign. -/
theorem secrets_agree_iff {host guest : UdpSession} {hostConfig guestConfig : Config}
    {hostAnswer guestAnswer : UdpStartAnswer} {text password : ByteString} {assignment : Assignment}
    (hostStopped : host.running = false) (guestStopped : guest.running = false)
    (hostTakes : hostConfig.TakesSecretOver) (guestTakes : guestConfig.TakesSecretOver)
    (hosts : hostConfig.relayMode = true) (visits : guestConfig.relayMode = false)
    (hostServes : hostAnswer.Serves) (guestServes : guestAnswer.Serves)
    (file : hostAnswer.refresh.serverConfig = some text)
    (configured : firstAssignment text (ascii "GameServer") (ascii "sPassword") = some assignment)
    (same : trim assignment.value = password)
    (answer : ∀ entry ∈ guestAnswer.refresh.secretStorage, entry.Answers)
    (stored : Stores guestAnswer.refresh.secretStorage (ascii "last_connected_password")
      password) :
    ∃ hostStarted guestStarted, host.start hostConfig true hostAnswer = .ok hostStarted ∧
      guest.start guestConfig true guestAnswer = .ok guestStarted ∧
      hostStarted.started = true ∧ guestStarted.started = true ∧
      guestStarted.session.transport.sharedSecret = password ∧
      (hostStarted.session.transport.sharedSecret = password ↔
        byteOf ';' ∉ password ∧ byteOf '#' ∉ password) := by
  have hostRead : ((host.configure hostConfig hostAnswer.localPlayerName).bound
      hostAnswer).strPassword hostAnswer.refresh =
        .ok (readServerPasswordFromConfig (some text)) := by
    rw [strPassword, bound_configure_config, if_pos hosts, file]
  have guestRead : ((guest.configure guestConfig guestAnswer.localPlayerName).bound
      guestAnswer).strPassword guestAnswer.refresh = .ok (some password) := by
    obtain ⟨state, read, kept⟩ := readClientState_password answer stored guestConfig.autoRemotePort
    rw [strPassword, bound_configure_config, if_neg (by simp [visits]), read, ← kept]
    rfl
  obtain ⟨hostStarted, hostStart, hostOn, hostSecret⟩ :=
    exists_start_of_serves hostStopped hostServes hostTakes hostRead
  obtain ⟨guestStarted, guestStart, guestOn, guestSecret⟩ :=
    exists_start_of_serves guestStopped guestServes guestTakes guestRead
  refine ⟨hostStarted, guestStarted, hostStart, guestStart, hostOn, guestOn, guestSecret, ?_⟩
  have present : password ≠ [] := stored.1.1
  have value : (readServerPasswordFromConfig (some text)).getD [] =
      withoutComment assignment.value := by
    rw [readServerPasswordFromConfig, readIniValue_of_firstAssignment configured]
    dsimp only
    split
    · next empty => exact empty.symm
    · rfl
  rw [hostSecret, value, ← same]
  exact withoutComment_eq_trim_iff assignment.value

end UdpSession

/-- The configuration of a host or a guest who has no secret of their own. -/
def takingConfig (relayMode : Bool) : Config :=
  { Config.initial with relayMode, autoSharedSecretFromSTR := true }

/-- A process with the files of a server and of a client. -/
def whiterunAnswer : UdpStartAnswer where
  wsaStartup := true
  socket := true
  bind := true
  resolve _ := none
  processID := 7
  tickCount := 9
  localPlayerName := ascii "Lydia"
  refresh :=
    { now := 1
      serverConfig := some (ascii "[GameServer]\nsPassword = secret\n")
      secretStorage := visitedServers
      remoteStorage := visitedServers
      resolve := fun _ => none }

/-- A host and a guest started on Whiterun's stored values agree on the secret. -/
theorem whiterun_secrets_agree :
    ∃ hostStarted guestStarted,
      UdpSession.initial.start (takingConfig true) true whiterunAnswer = .ok hostStarted ∧
      UdpSession.initial.start (takingConfig false) true whiterunAnswer = .ok guestStarted ∧
      hostStarted.started = true ∧ guestStarted.started = true ∧
      guestStarted.session.transport.sharedSecret = ascii "secret" ∧
      (hostStarted.session.transport.sharedSecret = ascii "secret" ↔
        byteOf ';' ∉ ascii "secret" ∧ byteOf '#' ∉ ascii "secret") := by
  have configured : firstAssignment (ascii "[GameServer]\nsPassword = secret\n")
      (ascii "GameServer") (ascii "sPassword") =
        some ⟨ascii "GameServer", ascii "sPassword", ascii " secret"⟩ := by
    decide +kernel
  exact UdpSession.secrets_agree_iff rfl rfl ⟨rfl, rfl, rfl⟩ ⟨rfl, rfl, rfl⟩ rfl rfl
    ⟨rfl, rfl, rfl⟩ ⟨rfl, rfl, rfl⟩ rfl configured (by decide +kernel) (answers_visitedStorage _ _)
    stores_secret

end IEDSyncTogether
