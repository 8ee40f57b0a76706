import IEDSyncTogether.Network.StrTransport

/-!
# Starting and stopping the service

The service reads its configuration and starts the STR transport, the UDP transport, or the
second when the first fails. While it runs, the UDP transport's threads take their turns.
-/

namespace IEDSyncTogether

open Base

/-- What the files, the system and the messaging library answer to `SyncService::Start`. -/
structure ServiceStartAnswer where
  main : IniFile
  relayHost : Option IniFile
  installed : Bool
  str : StrStartAnswer
  udp : UdpStartAnswer

/-- The service and its transports, as far as starting and stopping manage them. -/
structure ServiceSession where
  running : Bool
  config : Config
  str : StrTransport
  udp : UdpSession

/-- When UDP is wanted, after STR has started or not. -/
def Config.wantsUdp (config : Config) (networkStarted : Bool) : Bool :=
  config.transportMode = .kUDP ∨ (config.transportMode = .kAuto ∧ ¬ networkStarted) ∨
    (config.udpFallback ∧ ¬ networkStarted)

namespace ServiceSession

/-- A constructed service. -/
def initial : ServiceSession where
  running := false
  config := Config.initial
  str := StrTransport.initial
  udp := UdpSession.initial

variable (session : ServiceSession)

/-- The first half of starting the transports. -/
def startStr (answer : StrStartAnswer) : StrTransport.Outcome :=
  if session.config.networkEnabled ∧ session.config.transportMode ≠ .kUDP then
    session.str.start session.config true answer
  else ⟨false, session.str, []⟩

/-- The second half, which knows whether the first one has started a transport. -/
def startUdp (networkStarted : Bool) (answer : UdpStartAnswer) :
    Except StringError UdpSession.Outcome :=
  if session.config.networkEnabled ∧ session.config.wantsUdp networkStarted then
    session.udp.start session.config true answer
  else .ok ⟨networkStarted, session.udp, []⟩

/-- `Start`: the configuration is read, and a transport is chosen and started. -/
def start (answer : ServiceStartAnswer) :
    Except StringError (ServiceSession × List (Resource × Bool)) :=
  if session.running then .ok (session, [])
  else
    let session := { session with config := Config.load answer.main answer.relayHost }
    if ¬ answer.installed then .ok (session, [])
    else do
      let first := session.startStr answer.str
      let second ← session.startUdp first.started answer.udp
      return ({ session with running := true, str := first.transport, udp := second.session },
        first.calls ++ second.calls)

/-- `Stop`: both transports are stopped. -/
def stop : ServiceSession × List (Resource × Bool) :=
  if ¬ session.running then (session, [])
  else
    ({ session with running := false, str := session.str.stop.1, udp := session.udp.stop.1 },
      session.str.stop.2 ++ session.udp.stop.2)

end ServiceSession

/-- What happens to a service, with the calls that acquire and release resources. -/
inductive LifecycleEvent where
  | start (answer : ServiceStartAnswer) (calls : List (Resource × Bool))
  | stop (calls : List (Resource × Bool))
  | refresh (answer : RefreshAnswer)
  | receive (packet : ByteString) (source : Endpoint) (now : Nat)
  | expirePeers (now : Nat)
  | renamePlayer (playerName : ByteString)

/-- The calls an event makes. -/
def LifecycleEvent.calls : LifecycleEvent → List (Resource × Bool)
  | start _ calls | stop calls => calls
  | _ => []

/-- The messaging library can take back what it gives. -/
def LifecycleEvent.Manages : LifecycleEvent → Prop
  | start answer _ => answer.str.Manages
  | _ => True

/-- A constructed service under any order of starts, stops and turns of its threads. -/
def lifecycleSystem (digest : HmacDigest) : TransitionSystem ServiceSession LifecycleEvent where
  Initial session := session = ServiceSession.initial
  Step session event next :=
    match event with
    | .start answer calls => session.start answer = .ok (next, calls)
    | .stop calls => session.stop = (next, calls)
    | .refresh answer => session.udp.running = true ∧ session.udp.maintained = true ∧
        ∃ udp, session.udp.refreshSkyrimTogetherAutoConfig false answer = .ok udp ∧
          next = { session with udp }
    | .receive packet source now => session.udp.running = true ∧
        ∃ reception, session.udp.transport.receiverTurn digest packet source now = .ok reception ∧
          next = { session with udp := { session.udp with transport := reception.transport } }
    | .expirePeers now => session.udp.running = true ∧ session.udp.maintained = true ∧
        next = { session with udp := { session.udp with
          transport := session.udp.transport.expirePeers
            session.udp.config.peerTimeoutMs.toNat now } }
    | .renamePlayer playerName =>
      next = { session with udp := { session.udp with
        transport := { session.udp.transport with localPlayerName := sanitizeField playerName } } }

namespace ServiceSession

/-- The resources of both transports. -/
def held (session : ServiceSession) : List Resource := session.str.held ++ session.udp.held

/-- At most one transport runs, under the configuration of the running service and in one of the
modes that ask for it. -/
structure Valid (session : ServiceSession) : Prop where
  str : session.str.Valid
  udp : session.udp.Valid
  single : session.str.running = true → session.udp.running = false
  strStarted : session.str.running = true → session.running = true ∧
    session.config.networkEnabled = true ∧ session.config.transportMode ≠ .kUDP
  udpStarted : session.udp.running = true → session.running = true ∧
    session.udp.config = session.config ∧ session.config.networkEnabled = true ∧
    (session.config.transportMode ≠ .kSTR ∨ session.config.udpFallback = true)

/-- A constructed service is valid. -/
theorem valid_initial : initial.Valid where
  str := StrTransport.valid_initial
  udp := UdpSession.valid_initial
  single := nofun
  strStarted := nofun
  udpStarted := nofun

variable {session next : ServiceSession}

/-- What the UDP transport holds is not the other one's. -/
theorem owned_udp : ∀ item ∈ session.udp.held, ¬ StrTransport.Owns item := by
  intro item held
  rw [UdpSession.held] at held
  split at held
  · simp only [List.mem_cons, List.not_mem_nil, or_false] at held
    rcases held with rfl | rfl <;> exact id
  · cases held

/-- What the STR transport holds is not the other one's. -/
theorem owned_str : ∀ item ∈ session.str.held, ¬ UdpSession.Owns item := by
  intro item held
  rw [StrTransport.held] at held
  split at held
  · rw [List.mem_singleton.mp held]
    exact id
  · cases held

/-- A service that does not run has no running transport. -/
theorem Valid.idle (valid : session.Valid) (stopped : session.running = false) :
    session.str.running = false ∧ session.udp.running = false := by
  rw [← Bool.not_eq_true, ← Bool.not_eq_true]
  constructor
  · intro on
    rw [(valid.strStarted on).1] at stopped
    cases stopped
  · intro on
    rw [(valid.udpStarted on).1] at stopped
    cases stopped

/-- STR is started if the configuration asks for it. -/
theorem startStr_spec (valid : session.str.Valid) (stopped : session.str.running = false)
    (answer : StrStartAnswer) :
    (session.startStr answer).transport.Valid ∧
      (session.startStr answer).started = (session.startStr answer).transport.running ∧
      ((session.startStr answer).transport.running = true →
        session.config.networkEnabled = true ∧ session.config.transportMode ≠ .kUDP) ∧
      (session.str.Managed → answer.Manages → (session.startStr answer).transport.Managed) ∧
      Settles StrTransport.Owns session.str.held (session.startStr answer).transport.held
        (session.startStr answer).calls := by
  rw [startStr]
  split
  · next wanted =>
      obtain ⟨kept, started, _, managed, settles⟩ :=
        StrTransport.start_spec valid session.config true answer
      exact ⟨kept, started, fun _ => wanted, managed, settles⟩
  · refine ⟨valid, stopped.symm, fun on => ?_, fun managed _ => managed, .nothing _ _⟩
    rw [stopped] at on
    cases on

/-- UDP is started if the configuration asks for it after STR. -/
theorem exists_startUdp (valid : session.udp.Valid) (stopped : session.udp.running = false)
    (networkStarted : Bool) (answer : UdpStartAnswer) :
    ∃ outcome, session.startUdp networkStarted answer = .ok outcome ∧ outcome.session.Valid ∧
      (outcome.session.running = true → outcome.session.config = session.config ∧
        session.config.networkEnabled = true ∧ session.config.wantsUdp networkStarted = true) ∧
      Settles UdpSession.Owns session.udp.held outcome.session.held outcome.calls := by
  rw [startUdp]
  split
  · next wanted =>
      obtain ⟨outcome, started, kept, configured, settles⟩ :=
        UdpSession.exists_start valid session.config true answer
      refine ⟨outcome, started, kept, fun on => ⟨?_, wanted⟩, settles⟩
      rcases configured on with already | same
      · rw [stopped] at already
        cases already
      · exact same
  · refine ⟨_, rfl, valid, fun on => ?_, .nothing _ _⟩
    rw [stopped] at on
    cases on

/-- `Start` throws nothing, and leaves at most one transport running. -/
theorem exists_start (valid : session.Valid) (answer : ServiceStartAnswer) :
    ∃ next calls, session.start answer = .ok (next, calls) ∧ next.Valid ∧
      (session.str.Managed → answer.str.Manages → next.str.Managed) ∧
      ∀ made, Balanced made session.held → Balanced (made ++ calls) next.held := by
  rw [start]
  cases running : session.running with
  | true =>
      refine ⟨_, _, rfl, valid, fun managed _ => managed, fun made balanced => ?_⟩
      rwa [List.append_nil]
  | false =>
      obtain ⟨noStr, noUdp⟩ := valid.idle running
      have never {goal : Prop} {flag : Bool} (off : flag = false) (on : flag = true) : goal := by
        rw [off] at on
        cases on
      rw [if_neg Bool.false_ne_true]
      dsimp only
      split
      · refine ⟨_, _, rfl, ?_, fun managed _ => managed, fun made balanced => ?_⟩
        · exact ⟨valid.str, valid.udp, valid.single, never noStr, never noUdp⟩
        · rwa [List.append_nil]
      · let loaded : ServiceSession :=
          ⟨false, Config.load answer.main answer.relayHost, session.str, session.udp⟩
        obtain ⟨strValid, started, wanted, managed, strSettles⟩ :=
          @startStr_spec loaded valid.str noStr answer.str
        obtain ⟨outcome, second, udpValid, configured, udpSettles⟩ :=
          @exists_startUdp loaded valid.udp noUdp (loaded.startStr answer.str).started answer.udp
        rw [second]
        refine ⟨_, _, rfl, ⟨strValid, udpValid, fun on => ?_, fun on => ?_, fun on => ?_⟩, managed,
          fun made balanced => ?_⟩
        · rw [← Bool.not_eq_true]
          intro also
          have wants := (configured also).2.2
          rw [started.trans on] at wants
          simp [Config.wantsUdp, (wanted on).2] at wants
        · exact ⟨rfl, wanted on⟩
        · obtain ⟨same, enabled, wants⟩ := configured on
          refine ⟨rfl, same, enabled, ?_⟩
          rw [Config.wantsUdp, decide_eq_true_eq] at wants
          rcases wants with mode | ⟨mode, _⟩ | ⟨fallback, _⟩
          · exact .inl (by rw [mode]; decide)
          · exact .inl (by rw [mode]; decide)
          · exact .inr fallback
        · rw [← List.append_assoc]
          exact udpSettles.beside owned_str (strSettles made _ owned_udp balanced)

/-- `Stop` leaves no transport running. -/
theorem stop_spec (valid : session.Valid) :
    session.stop.1.Valid ∧ session.stop.1.running = false ∧ (session.str.Managed →
      ∀ made, Balanced made session.held → Balanced (made ++ session.stop.2) session.stop.1.held) := by
  rw [stop]
  cases running : session.running with
  | false =>
      rw [if_pos (by simp)]
      refine ⟨valid, running, fun _ made balanced => ?_⟩
      rwa [List.append_nil]
  | true =>
      obtain ⟨strValid, noStr, strSettles⟩ := StrTransport.stop_spec valid.str
      obtain ⟨udpValid, noUdp, udpSettles⟩ := UdpSession.stop_spec valid.udp
      have never {goal : Prop} {flag : Bool} (off : flag = false) (on : flag = true) : goal := by
        rw [off] at on
        cases on
      rw [if_neg (by simp)]
      refine ⟨⟨strValid, udpValid, never noStr, never noStr, never noUdp⟩, rfl,
        fun managed made balanced => ?_⟩
      rw [← List.append_assoc]
      exact udpSettles.beside owned_str (strSettles managed made _ owned_udp balanced)

/-- A turn that keeps the UDP transport running or stopped. -/
theorem Valid.turn (valid : session.Valid) {udp : UdpSession} (kept : udp.Valid)
    (running : udp.running = session.udp.running) (config : udp.config = session.udp.config) :
    { session with udp }.Valid ∧ { session with udp }.held = session.held := by
  constructor
  · refine ⟨valid.str, kept, fun on => ?_, valid.strStarted, fun on => ?_⟩
    · exact running.trans (valid.single on)
    · obtain ⟨started, same, rest⟩ := valid.udpStarted (running ▸ on)
      exact ⟨started, config.trans same, rest⟩
  · rw [held, held, UdpSession.held, UdpSession.held, running]

/-- Every step keeps the session valid and accounts for its resources. -/
theorem Valid.step {digest : HmacDigest} {event : LifecycleEvent} (valid : session.Valid)
    (transition : (lifecycleSystem digest).Step session event next) :
    next.Valid ∧ (session.str.Managed → event.Manages → next.str.Managed ∧
      ∀ made, Balanced made session.held → Balanced (made ++ event.calls) next.held) := by
  have turned {udp : UdpSession} (kept : udp.Valid) (running : udp.running = session.udp.running)
      (config : udp.config = session.udp.config) : { session with udp }.Valid ∧
        (session.str.Managed → True → session.str.Managed ∧ ∀ made, Balanced made session.held →
          Balanced (made ++ []) { session with udp }.held) := by
    obtain ⟨whole, same⟩ := valid.turn kept running config
    refine ⟨whole, fun managed _ => ⟨managed, fun made balanced => ?_⟩⟩
    rwa [List.append_nil, same]
  cases event with
  | start answer calls =>
      obtain ⟨_, _, started, whole, managed, settles⟩ := exists_start valid answer
      cases started.symm.trans transition
      exact ⟨whole, fun already manages => ⟨managed already manages, settles⟩⟩
  | stop calls =>
      obtain ⟨whole, stopped, settles⟩ := stop_spec valid
      have same : session.stop = (next, calls) := transition
      rw [same] at whole stopped settles
      refine ⟨whole, fun managed _ => ⟨fun on => ?_, settles managed⟩⟩
      rw [(whole.idle stopped).1] at on
      cases on
  | refresh answer =>
      obtain ⟨running, _, udp, refresh, rfl⟩ := transition
      obtain ⟨_, same, refreshed, _⟩ := UdpSession.exists_refresh session.udp false answer
      cases same.symm.trans refresh
      exact turned (valid.udp.refresh running refreshed) refreshed.running refreshed.config
  | receive packet source now =>
      obtain ⟨running, reception, received, rfl⟩ := transition
      obtain ⟨plain, _⟩ := plain_of_generated (valid.udp.generated running)
      obtain ⟨same, _⟩ := UdpTransport.turn_cases plain received
      exact turned (valid.udp.peers running same) rfl rfl
  | expirePeers now =>
      obtain ⟨running, _, rfl⟩ := transition
      exact turned (valid.udp.peers running rfl) rfl rfl
  | renamePlayer playerName =>
      obtain rfl := transition
      exact turned ⟨valid.udp.socket, valid.udp.idle, valid.udp.distinct, valid.udp.generated,
        valid.udp.options, valid.udp.secret, valid.udp.host⟩ rfl rfl

end ServiceSession

/-- The calls of a run. -/
def lifecycleCalls (events : List LifecycleEvent) : List (Resource × Bool) :=
  events.flatMap LifecycleEvent.calls

namespace ServiceSession

variable {digest : HmacDigest} {events : List LifecycleEvent} {session : ServiceSession}

/-- The service is valid after every run. -/
theorem valid_of_runs (run : (lifecycleSystem digest).Runs events session) : session.Valid := by
  refine run.invariant (fun _ session => session.Valid) ?_ ?_
  · rintro _ rfl
    exact valid_initial
  · intro _ _ _ _ _ valid transition
    exact (valid.step transition).1

/-- What is held after a run has been acquired and not released since. -/
theorem balanced_of_runs (run : (lifecycleSystem digest).Runs events session)
    (manages : ∀ event ∈ events, event.Manages) :
    session.str.Managed ∧ Balanced (lifecycleCalls events) session.held := by
  induction run with
  | initial valid =>
      obtain rfl := valid
      exact ⟨nofun, balanced_nil⟩
  | @step events session event next prior transition ih =>
      rw [List.forall_mem_append, List.forall_mem_singleton] at manages
      obtain ⟨managed, balanced⟩ := ih manages.1
      obtain ⟨still, settles⟩ := ((valid_of_runs prior).step transition).2 managed manages.2
      refine ⟨still, ?_⟩
      have calls : lifecycleCalls (events ++ [event]) = lifecycleCalls events ++ event.calls := by
        simp [lifecycleCalls]
      rw [calls]
      exact settles _ balanced

/-- However often the service was started and stopped: it has acquired and not released exactly
what the one running transport holds, and nothing while it is stopped. -/
theorem service_lifecycle (run : (lifecycleSystem digest).Runs events session)
    (manages : ∀ event ∈ events, event.Manages) :
    session.Valid ∧ Balanced (lifecycleCalls events) session.held ∧
      (session.running = false → session.held = []) := by
  have valid := valid_of_runs run
  refine ⟨valid, (balanced_of_runs run manages).2, fun stopped => ?_⟩
  obtain ⟨noStr, noUdp⟩ := valid.idle stopped
  simp [held, StrTransport.held, UdpSession.held, noStr, noUdp]

end ServiceSession

/-- A first start, if it does not throw. -/
def firstStart (answer : ServiceStartAnswer) : ServiceSession :=
  match ServiceSession.initial.start answer with
  | .ok (session, _) => session
  | .error _ => ServiceSession.initial

/-- A configuration that prefers STR and takes nothing over from Skyrim Together. -/
def fallbackFile : IniFile where
  number _ key := if key = ascii "AutoRemoteFromSTR" then some 0 else none
  text _ key := if key = ascii "Transport" then some (ascii "auto") else none

/-- A process without the messaging library. -/
def fallbackAnswer : ServiceStartAnswer where
  main := fallbackFile
  relayHost := none
  installed := true
  str :=
    { library := none
      runtimeStatus := (.kNotAvailable, ⟨0, .kNone, 0⟩)
      connectionID := none
      processID := 7
      tickCount := 9
      registerChannel := (.kNotAvailable, none) }
  udp :=
    { wsaStartup := true
      socket := true
      bind := true
      resolve := fun _ => none
      processID := 7
      tickCount := 9
      localPlayerName := ascii "Lydia"
      refresh := ⟨1, none, [], [], fun _ => none⟩ }

/-- The service falls back to UDP and is stopped. -/
def fallbackEvents : List LifecycleEvent :=
  [.start fallbackAnswer [(.winsock, true), (.socket, true)],
    .stop [(.socket, false), (.winsock, false)]]

/-- The library manages the channel it never registers. -/
theorem manages_fallback : fallbackAnswer.str.Manages := by
  constructor
  · intro library found
    cases found
  · intro registered
    cases registered

/-- Without the bridge the first start opens a socket. -/
theorem start_fallback : ServiceSession.initial.start fallbackAnswer =
    .ok (firstStart fallbackAnswer, [(.winsock, true), (.socket, true)]) := rfl

/-- The stop behind it closes the socket. -/
theorem stop_fallback : (firstStart fallbackAnswer).stop =
    ((firstStart fallbackAnswer).stop.1, [(.socket, false), (.winsock, false)]) := rfl

/-- The stopped service holds nothing. -/
theorem fallback_lifecycle :
    (firstStart fallbackAnswer).stop.1.Valid ∧
      Balanced (lifecycleCalls fallbackEvents) (firstStart fallbackAnswer).stop.1.held ∧
      ((firstStart fallbackAnswer).stop.1.running = false →
        (firstStart fallbackAnswer).stop.1.held = []) := by
  have run : (lifecycleSystem fun _ _ => none).Runs fallbackEvents
      (firstStart fallbackAnswer).stop.1 :=
    .of_follows rfl ⟨_, start_fallback, _, stop_fallback, rfl⟩
  refine ServiceSession.service_lifecycle run ?_
  simp only [fallbackEvents, List.forall_mem_cons]
  exact ⟨manages_fallback, trivial, fun _ member => by cases member⟩

namespace ServiceSession

variable {digest : HmacDigest} {events : List LifecycleEvent}

/-- A state that one service hands to STRPM comes to every other service unchanged, whatever was
done with the two before, and does not come back to its own. -/
theorem str_state_delivered {first second : ServiceSession} {others : List LifecycleEvent}
    (run : (lifecycleSystem digest).Runs events first)
    (other : (lifecycleSystem digest).Runs others second) (receives : second.str.running = true)
    {playerName packet : ByteString} {revision : UInt64} {slots : SlotState}
    (sent : first.str.sentPacket playerName (statePayload revision slots) = some packet)
    {message : STRPM.Message} (carried : message.data = packet)
    (named : message.senderID = first.str.localConnectionID ∨
      message.senderID ≠ second.str.localConnectionID) :
    second.str.onMessage message = .ok
        (if second.str.localInstanceID = first.str.localInstanceID then none else some packet) ∧
      readStatePacket packet = .ok (if Addressable slots then
        some ⟨first.str.localInstanceID, sanitizeField playerName, revision, slots⟩ else none) :=
  StrTransport.onMessage_statePayload (valid_of_runs run).str (valid_of_runs other).str receives
    sent carried named

end ServiceSession

/-- The messaging library over the bridge of Skyrim Together. -/
def bridgeLibrary : STRPM.Library where
  queryInterface := some (.kOk, some ⟨STRPM.kInterfaceVersion, true, true, true⟩)
  queryDiagnostics := some (.kOk, some ⟨STRPM.kDiagnosticsVersion, true⟩)
  queryProxyResolver := none

/-- A process with the library and without configuration files. -/
def bridgeAnswer (connectionID : ConnectionID) : ServiceStartAnswer :=
  { fallbackAnswer with
    main := ⟨fun _ _ => none, fun _ _ => none⟩
    str :=
      { library := some bridgeLibrary
        runtimeStatus := (.kOk, ⟨STRPM.kDiagnosticsVersion, .kStrBridge, 1⟩)
        connectionID := some connectionID
        processID := 7
        tickCount := 9
        registerChannel := (.kOk, some 5) } }

/-- With the bridge the first start registers a channel. -/
theorem start_bridge (connectionID : ConnectionID) :
    ServiceSession.initial.start (bridgeAnswer connectionID) =
      .ok (firstStart (bridgeAnswer connectionID), [(.channel 5, true)]) := rfl

/-- A sword sent over the bridge is received and stored. -/
theorem sword_delivered :
    let packet := (firstStart (bridgeAnswer 7)).str.buildPacket (ascii "Lydia")
      (statePayload 3 swordSlots)
    (firstStart (bridgeAnswer 8)).str.onMessage ⟨packet, 7, ascii "Lydia", 1⟩ = .ok
        (if (firstStart (bridgeAnswer 8)).str.localInstanceID =
          (firstStart (bridgeAnswer 7)).str.localInstanceID then none else some packet) ∧
      readStatePacket packet = .ok (if Addressable swordSlots then
        some ⟨(firstStart (bridgeAnswer 7)).str.localInstanceID, sanitizeField (ascii "Lydia"), 3,
          swordSlots⟩ else none) := by
  intro packet
  have started (connectionID : ConnectionID) : (lifecycleSystem fun _ _ => none).Runs
      [.start (bridgeAnswer connectionID) [(.channel 5, true)]]
      (firstStart (bridgeAnswer connectionID)) :=
    .of_follows rfl ⟨_, start_bridge connectionID, rfl⟩
  have sent : (firstStart (bridgeAnswer 7)).str.sentPacket (ascii "Lydia")
      (statePayload 3 swordSlots) = some packet := by
    decide +kernel
  have receives : (firstStart (bridgeAnswer 8)).str.running = true := rfl
  have named : (firstStart (bridgeAnswer 7)).str.localConnectionID = 7 := rfl
  exact ServiceSession.str_state_delivered (started 7) (started 8) receives sent rfl (.inl named.symm)

end IEDSyncTogether
