import AACS.Cable.Cable
import AACS.Proxy.HandlerTables
import AACS.Server.ChannelTypes
import AACS.Server.Flags

/-!
How the two programs come to an agreement about the channels.

`setup` asks for the version, goes through the TLS handshake, and is asked for the service
descriptor. There is always exactly one message under way, and each that arrives takes the two
programs one step further, until both have a handler for each channel of the descriptor.
-/

namespace AACS

open Effects Transitions

namespace AAClient

def sendVersionRequest (major minor : UInt16) : ClientAct Unit :=
  sendToMobile 0 (plainBulk ||| MessageTypeFlags.Control.mask)
    (pushBackInt16 (pushBackInt16 (pushBackInt16 [] MessageType.VersionRequest.code) major) minor)

end AAClient

/-- The handshake takes so many more rounds when `SSL_connect` gets the bytes next. -/
inductive Handshake.Completes {γ δ : Type} (tls : Handshake γ δ) : γ → δ → Bytes → Nat → Prop
  | complete {connecting : γ} {accepting : δ} {bytes : Bytes}
      (through : (tls.connect connecting bytes).2 = .complete) :
      Completes tls connecting accepting bytes 0
  | round {connecting further : γ} {accepting after : δ} {bytes flight reply : Bytes} {rounds : Nat}
      (connect : tls.connect connecting bytes = (further, .answer flight))
      (accept : tls.accept accepting flight = (after, .answer reply))
      (short : flight.length ≤ 65533 ∧ reply.length ≤ 65533)
      (rest : Completes tls further after reply rounds) :
      Completes tls connecting accepting bytes (rounds + 1)

/-- GStreamer links the pipelines of the video channels of the service descriptor. -/
def Handshake.Links {γ δ : Type} (tls : Handshake γ δ) (protobuf : Protobuf) (sd : Bytes) : Prop :=
  ∀ accepting, (tls.accept accepting sd).2.refused
    (protobuf.serviceDiscoveryResponse_channels sd) = none

namespace Cable

variable {γ δ : Type}

/-- When `setup` begins; nothing has come from the phone yet. -/
def start (sd : Bytes) (connecting : γ) (accepting : δ) : Cable γ δ where
  phone := AAServer.initial
  headunit := AAClient.Session.start sd
  accepting
  connecting
  toHeadunit := []
  toPhone := AAClient.queued ((AAClient.sendVersionRequest 1 1).run (AAClient.initial sd)).log

/-! The messages of the set-up. -/

def control (flags : UInt8) (type : MessageType) (body : Bytes) : Message where
  channel := 0
  flags
  content := pushBackInt16 [] type.code ++ body

def versionRequest : Message :=
  control (AAClient.plainBulk ||| MessageTypeFlags.Control.mask) .VersionRequest [0, 1, 0, 1]

def versionResponse : Message := control AAClient.plainBulk .VersionResponse [0, 1, 0, 5, 0, 0]

def sslHandshake (bytes : Bytes) : Message := control AAClient.plainBulk .SslHandshake bytes

def authComplete : Message :=
  control (AAClient.plainBulk ||| MessageTypeFlags.Control.mask) .AuthComplete [0x08, 0x00]

def servicesRequest (protobuf : Protobuf) : Message :=
  control AAClient.encryptedBulk .ServiceDiscoveryRequest
    (protobuf.serviceDiscoveryRequest "TAG" "AAServer")

def servicesResponse (sd : Bytes) : Message :=
  control (AAClient.encryptedBulk ||| MessageTypeFlags.Control.mask) .ServiceDiscoveryResponse sd

/-- What the message is that is under way. -/
inductive Stage where
  | versionAsked
  | versionAnswered
  | handshakeAsked (flight : Bytes)
  | handshakeAnswered (reply : Bytes)
  | authenticated
  | servicesAsked
  | servicesAnswered
  | done

namespace Stage

def toPhone (sd : Bytes) : Stage → List Message
  | .versionAsked => [versionRequest]
  | .handshakeAsked flight => [sslHandshake flight]
  | .authenticated => [authComplete]
  | .servicesAnswered => [servicesResponse sd]
  | _ => []

def toHeadunit (protobuf : Protobuf) : Stage → List Message
  | .versionAnswered => [versionResponse]
  | .handshakeAnswered reply => [sslHandshake reply]
  | .servicesAsked => [servicesRequest protobuf]
  | _ => []

def phase : Stage → AAClient.Phase
  | .versionAsked | .versionAnswered => .versionResponse
  | .handshakeAsked _ | .handshakeAnswered _ => .handshake
  | _ => .dispatching

def announced (channels : List Channel) : Stage → List Channel
  | .done => channels
  | _ => []

def client (protobuf : Protobuf) (sd : Bytes) : Stage → AAClient.State
  | .servicesAnswered | .done =>
      (protobuf.serviceDiscoveryResponse_channels sd).foldl AAClient.State.install
        (AAClient.initial sd)
  | _ => AAClient.initial sd

def Shakes (tls : Handshake γ δ) (connecting : γ) (accepting : δ) (rounds : Nat) :
    Stage → Prop
  | .versionAsked | .versionAnswered => tls.Completes connecting accepting [] rounds
  | .handshakeAsked flight => ∃ after reply, tls.accept accepting flight = (after, .answer reply) ∧
      reply.length ≤ 65533 ∧ tls.Completes connecting after reply rounds
  | .handshakeAnswered reply => tls.Completes connecting accepting reply rounds
  | _ => rounds = 0

/-- How many messages are still to arrive. -/
def left (rounds : Nat) : Stage → Nat
  | .versionAsked => 2 * rounds + 5
  | .versionAnswered => 2 * rounds + 4
  | .handshakeAsked _ => 2 * rounds + 5
  | .handshakeAnswered _ => 2 * rounds + 4
  | .authenticated => 3
  | .servicesAsked => 2
  | .servicesAnswered => 1
  | .done => 0

end Stage

structure At (tls : Handshake γ δ) (protobuf : Protobuf) (sd : Bytes) (stage : Stage)
    (rounds : Nat) (cable : Cable γ δ) : Prop where
  pumping : cable.phone.threadFinished = false
  follows : cable.phone.FollowsAnnounced
    (stage.announced (protobuf.serviceDiscoveryResponse_channels sd))
    (stage.announced (protobuf.serviceDiscoveryResponse_channels sd))
  headunit : cable.headunit = { state := stage.client protobuf sd, phase := stage.phase }
  toPhone : cable.toPhone = stage.toPhone sd
  toHeadunit : cable.toHeadunit = stage.toHeadunit protobuf
  shakes : stage.Shakes tls cable.connecting cable.accepting rounds
  stored : stage = .done → cable.phone.serviceDescriptor = sd

def arrives : Event → Bool
  | .phoneReceives _ | .headunitReceives _ => true
  | .phone _ | .headunit _ => false

/-- Nobody else sends anything over the cable, and no thread of the phone fails. -/
def Undisturbed (protobuf : Protobuf) (cable : Cable γ δ) : Event → Prop
  | .phone own => own ≠ .threadTerminated ∧ ∀ state outputs,
      (AAServer.machine protobuf).step cable.phone own = some (state, outputs) →
        AAServer.queued outputs = []
  | .headunit _ => False
  | .phoneReceives _ | .headunitReceives _ => True

section Phone

variable {protobuf : Protobuf} {state : AAServer.State} {accept : AAServer.Accept}
  {write : Nat → AAServer.WriteResult}

theorem phone_takes (pumping : state.threadFinished = false) (message : Message) :
    (AAServer.machine protobuf).step state (.headunit message accept write) =
      AAServer.finishPump (AAServer.handleMessageContent protobuf accept write message) state := by
  simp only [AAServer.machine, AAServer.step, pumping, Bool.false_eq_true, if_false]

theorem phone_version (pumping : state.threadFinished = false) :
    (AAServer.machine protobuf).step state (.headunit versionRequest accept write) =
      some (state, [.enqueue 0 versionResponse.flags versionResponse.content]) := by
  rw [phone_takes pumping]
  rfl

theorem phone_handshake (pumping : state.threadFinished = false) (flight reply : Bytes) :
    (AAServer.machine protobuf).step state (.headunit (sslHandshake flight) (.answer reply) write) =
      some ({ state with sslInitialized := true },
        [.enqueue 0 (sslHandshake reply).flags (sslHandshake reply).content]) := by
  rw [phone_takes pumping]
  rfl

theorem phone_authComplete (pumping : state.threadFinished = false) :
    (AAServer.machine protobuf).step state (.headunit authComplete accept write) =
      some (state, [.enqueue 0 (servicesRequest protobuf).flags
        (servicesRequest protobuf).content]) := by
  rw [phone_takes pumping]
  rfl

theorem phone_services {sd : Bytes} (pumping : state.threadFinished = false)
    (small : ∀ channel ∈ protobuf.serviceDiscoveryResponse_channels sd,
      channel.channel_id < 256)
    (linked : accept.refused (protobuf.serviceDiscoveryResponse_channels sd) = none) :
    (AAServer.machine protobuf).step state (.headunit (servicesResponse sd) accept write) =
      some (state.discover protobuf accept sd, []) := by
  have discovery : AAServer.isServiceDiscoveryResponse (servicesResponse sd) = true := rfl
  have body : (servicesResponse sd).content.drop 2 = sd := rfl
  rw [phone_takes pumping, AAServer.finishPump,
    AAServer.handleMessageContent_discovery protobuf accept write state discovery, body,
    AAServer.handleServiceDiscoveryResponse_run fun channel inside =>
      small channel (AAServer.Accept.mem_of_installed inside), linked]
  rfl

end Phone

section Headunit

variable {protobuf : Protobuf} {state : AAClient.State} {phase : AAClient.Phase} {msg : Message}

inductive Replies : AAClient.Phase → Message → Prop
  | version : Replies .versionResponse versionResponse
  | handshake (reply : Bytes) : Replies .handshake (sslHandshake reply)

theorem handshakeTurn_reply (connect : AAClient.Connect) (reply : Bytes) :
    AAClient.handshakeTurn connect (sslHandshake reply).content =
      AAClient.handshakeTurn connect [] := by
  have named : AAClient.hasType (sslHandshake reply).content MessageType.SslHandshake.code = true :=
    rfl
  simp [AAClient.handshakeTurn, AAClient.doSslHandshake, named]

theorem headunit_connects (replies : Replies phase msg) (connect : AAClient.Connect)
    (outside : AAClient.Outside) :
    (AAClient.machine protobuf).step { state, phase } (received phase msg connect outside) =
      match (AAClient.handshakeTurn connect []).run state with
      | ⟨.ok phase, state, log⟩ => some ({ state, phase }, log)
      | ⟨.error (.thrown _), state, log⟩ => some ({ state, phase, running := false }, log)
      | ⟨.error .undefinedBehaviour, _, _⟩ => none := by
  cases replies with
  | version => cases connect <;> rfl
  | handshake reply =>
      simp only [received, AAClient.machine, AAClient.step, AAClient.Event.phase,
        AAClient.Event.body, handshakeTurn_reply, Option.all_some, decide_true, and_self, if_true]
      cases connect <;> rfl

theorem headunit_through (replies : Replies phase msg) (outside : AAClient.Outside) :
    (AAClient.machine protobuf).step { state, phase } (received phase msg .complete outside) =
      some ({ state, phase := .dispatching },
        [.enqueue 0 authComplete.flags authComplete.content]) := by
  rw [headunit_connects replies]
  rfl

theorem headunit_answers (replies : Replies phase msg) (flight : Bytes)
    (outside : AAClient.Outside) :
    (AAClient.machine protobuf).step { state, phase }
        (received phase msg (.answer flight) outside) =
      some ({ state, phase := .handshake },
        [.enqueue 0 (sslHandshake flight).flags (sslHandshake flight).content]) := by
  rw [headunit_connects replies]
  rfl

theorem headunit_services (outside : AAClient.Outside)
    (small : ∀ channel ∈ protobuf.serviceDiscoveryResponse_channels state.serviceDescription,
      channel.channel_id < 255) :
    (AAClient.machine protobuf).step { state, phase := .dispatching }
        (.message (servicesRequest protobuf) outside) =
      some ({
          state := (protobuf.serviceDiscoveryResponse_channels state.serviceDescription).foldl
            AAClient.State.install state
          phase := .dispatching },
        [.enqueue 0 (servicesResponse state.serviceDescription).flags
          (servicesResponse state.serviceDescription).content]) := by
  have content : (servicesRequest protobuf).content =
      0 :: 5 :: protobuf.serviceDiscoveryRequest "TAG" "AAServer" := rfl
  have named : bigEndian16 0 5 = MessageType.ServiceDiscoveryRequest.code := rfl
  apply AAClient.step_ok rfl rfl
  simp only [AAClient.Event.body, Act.run_bind]
  rw [AAClient.dispatch_run outside content, if_pos named,
    AAClient.handleServiceDiscoveryRequest_run small]
  rfl

end Headunit

section Steps

variable {tls : Handshake γ δ} {protobuf : Protobuf} {sd : Bytes} {stage : Stage} {rounds : Nat}
  {current next : Cable γ δ} {event : Event} {outputs : List Output}

/-- The service descriptor can be sent, and both programs have an entry for each channel. -/
structure Describable (protobuf : Protobuf) (sd : Bytes) : Prop where
  short : sd.length + 2 ≤ 10000
  request : (protobuf.serviceDiscoveryRequest "TAG" "AAServer").length + 2 < 2 ^ 31
  small : ∀ channel ∈ protobuf.serviceDiscoveryResponse_channels sd, channel.channel_id < 255

def Advances (tls : Handshake γ δ) (protobuf : Protobuf) (sd : Bytes) (left : Nat)
    (next : Cable γ δ) : Prop :=
  ∃ stage rounds, next.At tls protobuf sd stage rounds ∧ left = stage.left rounds + 1

theorem length_control (flags : UInt8) (type : MessageType) (body : Bytes) :
    (control flags type body).content.length = body.length + 2 := by
  rw [control, List.length_append, Nat.add_comm]
  rfl

theorem sslHandshake_short {bytes : Bytes} (short : bytes.length ≤ 65533) :
    (sslHandshake bytes).content.length ≤ longestForHeadunit (sslHandshake bytes).flags ∧
      (sslHandshake bytes).content.length ≤ longestForPhone (sslHandshake bytes).flags := by
  have plain : isEncrypted AAClient.plainBulk = false := by decide
  rw [sslHandshake, length_control]
  simp only [longestForHeadunit, longestForPhone, control, plain, Bool.false_eq_true, if_false]
  omega

theorem Describable.request_short (describable : Describable protobuf sd) :
    (servicesRequest protobuf).content.length ≤
      longestForHeadunit (servicesRequest protobuf).flags := by
  have encrypted : isEncrypted AAClient.encryptedBulk = true := by decide
  have request := describable.request
  rw [servicesRequest, length_control]
  simp only [longestForHeadunit, control, encrypted, if_true]
  omega

theorem Describable.response_short (describable : Describable protobuf sd) :
    (servicesResponse sd).content.length ≤ longestForPhone (servicesResponse sd).flags := by
  have encrypted :
      isEncrypted (AAClient.encryptedBulk ||| MessageTypeFlags.Control.mask) = true := by decide
  have short := describable.short
  rw [servicesResponse, length_control]
  simp only [longestForPhone, control, encrypted, if_true]
  omega

theorem phone_step {own : AAServer.Event} {state : AAServer.State} {log : List AAServer.Output}
    (other : isHeadunit own = false)
    (ran : (AAServer.machine protobuf).step current.phone own = some (state, log))
    (short : ∀ msg ∈ AAServer.queued log, msg.content.length ≤ longestForHeadunit msg.flags) :
    (cable tls protobuf).step current (.phone own) =
      some ({ current with
        phone := state
        toHeadunit := current.toHeadunit ++ AAServer.queued log }, log.map .phone) := by
  simp only [cable, step, phoneTurn, other, Bool.false_eq_true, if_false, ran, Option.bind_some,
    afterPhone, unreadByPhone]
  rw [if_pos short]

theorem headunit_step {packet : Bytes} {session : AAClient.Session} {log : List AAClient.Output}
    (ran : (AAClient.machine protobuf).step current.headunit (.packet packet) =
      some (session, log))
    (short : ∀ msg ∈ AAClient.queued log, msg.content.length ≤ longestForPhone msg.flags) :
    (cable tls protobuf).step current (.headunit packet) =
      some ({ current with
        headunit := session
        toPhone := current.toPhone ++ AAClient.queued log }, log.map .headunit) := by
  simp only [cable, step, phoneTurn, headunitTurn, ran, Option.bind_some, afterHeadunit,
    unreadByHeadunit]
  rw [if_pos short]

theorem phoneReceives_step {msg : Message} {rest : List Message} {state : AAServer.State}
    {log : List AAServer.Output} {write : Nat → AAServer.WriteResult}
    (first : current.toPhone = msg :: rest)
    (ran : (AAServer.machine protobuf).step current.phone (.headunit msg
      (tls.accept current.accepting (msg.content.drop 2)).2 write) = some (state, log))
    (short : ∀ msg ∈ AAServer.queued log, msg.content.length ≤ longestForHeadunit msg.flags) :
    (cable tls protobuf).step current (.phoneReceives write) =
      some ({ current with
        phone := state
        accepting :=
          if AAServer.isSslHandshake msg then
            (tls.accept current.accepting (msg.content.drop 2)).1
          else current.accepting
        toPhone := rest
        toHeadunit := current.toHeadunit ++ AAServer.queued log }, log.map .phone) := by
  simp only [cable, step, phoneTurn, first, List.head?_cons, Option.map_some, ran,
    Option.bind_some, afterPhone, unreadByPhone, List.tail_cons]
  rw [if_pos short]

theorem headunitReceives_step {msg : Message} {rest : List Message} {session : AAClient.Session}
    {log : List AAClient.Output} {outside : AAClient.Outside} {phase : AAClient.Phase}
    (first : current.toHeadunit = msg :: rest) (waits : current.headunit.phase = phase)
    (ran : (AAClient.machine protobuf).step current.headunit (received phase msg
      (tls.connect current.connecting (forConnect phase msg)).2 outside) = some (session, log))
    (short : ∀ msg ∈ AAClient.queued log, msg.content.length ≤ longestForPhone msg.flags) :
    (cable tls protobuf).step current (.headunitReceives outside) =
      some ({ current with
        headunit := session
        connecting :=
          if phase = .dispatching then current.connecting
          else (tls.connect current.connecting (forConnect phase msg)).1
        toHeadunit := rest
        toPhone := current.toPhone ++ AAClient.queued log }, log.map .headunit) := by
  subst waits
  simp only [cable, step, phoneTurn, headunitTurn, first, List.head?_cons, Option.map_some, ran,
    Option.bind_some, afterHeadunit, unreadByHeadunit, List.tail_cons]
  rw [if_pos short]

theorem follows_other {state : AAServer.State} {log : List AAServer.Output} {msg : Message}
    {accept : AAServer.Accept} {write : Nat → AAServer.WriteResult}
    (follows : current.phone.FollowsAnnounced [] [])
    (other : AAServer.isServiceDiscoveryResponse msg = false)
    (ran : (AAServer.machine protobuf).step current.phone (.headunit msg accept write) =
      some (state, log)) : state.FollowsAnnounced [] [] := by
  have further := AAServer.step_followsAnnounced follows ran
  simpa [AAServer.Event.installed, AAServer.Event.retyped, other] using further

theorem phoneReceives_advances (describable : Describable protobuf sd)
    (links : tls.Links protobuf sd)
    (here : current.At tls protobuf sd stage rounds) (waiting : stage.toPhone sd ≠ [])
    (write : Nat → AAServer.WriteResult) :
    ∃ next outputs, (cable tls protobuf).step current (.phoneReceives write) =
        some (next, outputs) ∧
      Advances tls protobuf sd (stage.left rounds) next := by
  have first := here.toPhone
  have silent := here.toHeadunit
  have shakes := here.shakes
  cases stage with
  | versionAsked =>
      have ran := @phone_version protobuf current.phone
        (tls.accept current.accepting (versionRequest.content.drop 2)).2 write here.pumping
      refine ⟨_, _, phoneReceives_step first ran (List.forall_mem_singleton.mpr (by decide)),
        .versionAnswered, rounds, ?_, rfl⟩
      exact ⟨here.pumping, here.follows, here.headunit, rfl, by rw [silent]; rfl, shakes,
        fun done => by cases done⟩
  | handshakeAsked flight =>
      obtain ⟨after, reply, accepted, short, rest⟩ := shakes
      have ran := @phone_handshake protobuf current.phone write here.pumping flight reply
      have answer : tls.accept current.accepting ((sslHandshake flight).content.drop 2) =
          (after, .answer reply) := accepted
      have taken := @phoneReceives_step _ _ tls protobuf current (sslHandshake flight) []
        { current.phone with sslInitialized := true } _ write first (by rw [answer]; exact ran)
        (fun msg membership => by
          cases List.mem_singleton.mp membership
          exact (sslHandshake_short short).1)
      refine ⟨_, _, taken, .handshakeAnswered reply, rounds, ?_, rfl⟩
      refine ⟨here.pumping, follows_other here.follows rfl ran, here.headunit, rfl,
        by rw [silent]; rfl, ?_, fun done => by cases done⟩
      rw [answer]
      exact rest
  | authenticated =>
      have ran := @phone_authComplete protobuf current.phone
        (tls.accept current.accepting (authComplete.content.drop 2)).2 write here.pumping
      have taken := phoneReceives_step first ran (fun msg membership => by
        cases List.mem_singleton.mp membership
        exact describable.request_short)
      refine ⟨_, _, taken, .servicesAsked, rounds, ?_, rfl⟩
      exact ⟨here.pumping, here.follows, here.headunit, rfl, by rw [silent]; rfl, shakes,
        fun done => by cases done⟩
  | servicesAnswered =>
      have small := fun channel membership =>
        Nat.lt_succ_of_lt (describable.small channel membership)
      have linked := links current.accepting
      have ran := @phone_services protobuf current.phone
        (tls.accept current.accepting ((servicesResponse sd).content.drop 2)).2 write sd
        here.pumping small linked
      have further := AAServer.step_followsAnnounced here.follows ran
      rw [AAServer.Event.installed_of_linked rfl linked,
        AAServer.Event.retyped_of_linked rfl linked] at further
      refine ⟨_, _, phoneReceives_step first ran (by simp [AAServer.queued]), .done, rounds, ?_,
        rfl⟩
      exact ⟨(AAServer.discover_threadFinished _ _ _ _).trans here.pumping, further, here.headunit,
        rfl, by rw [silent]; rfl, shakes, fun _ => AAServer.discover_serviceDescriptor _ _ _ _⟩
  | versionAnswered | handshakeAnswered | servicesAsked | done => exact absurd rfl waiting

theorem connects_advances {phase : AAClient.Phase} {msg : Message} (replies : Replies phase msg)
    (pumping : current.phone.threadFinished = false)
    (follows : current.phone.FollowsAnnounced [] [])
    (headunit : current.headunit = { state := AAClient.initial sd, phase })
    (first : current.toHeadunit = [msg]) (nothing : current.toPhone = [])
    (completes : tls.Completes current.connecting current.accepting (forConnect phase msg) rounds)
    (outside : AAClient.Outside) :
    ∃ next outputs, (cable tls protobuf).step current (.headunitReceives outside) =
        some (next, outputs) ∧
      Advances tls protobuf sd (2 * rounds + 4) next := by
  have waits : current.headunit.phase = phase := by rw [headunit]
  have early : phase ≠ .dispatching := by cases replies <;> simp
  cases completes with
  | complete through =>
      have ran := @headunit_through protobuf (AAClient.initial sd) phase msg replies outside
      rw [← headunit, ← through] at ran
      refine ⟨_, _, headunitReceives_step first waits ran
        (List.forall_mem_singleton.mpr (by decide)), .authenticated, 0, ?_, rfl⟩
      exact ⟨pumping, follows, rfl, by rw [nothing]; rfl, rfl, rfl, fun done => by cases done⟩
  | @round _ further _ after _ flight reply rounds connect accept short rest =>
      have ran := @headunit_answers protobuf (AAClient.initial sd) phase msg replies flight outside
      have answered : (tls.connect current.connecting (forConnect phase msg)).2 =
          .answer flight := by rw [connect]
      rw [← headunit, ← answered] at ran
      have taken := @headunitReceives_step _ _ tls protobuf current msg [] _ _ outside phase first
        waits ran (fun msg membership => by
          cases List.mem_singleton.mp membership
          exact (sslHandshake_short short.1).2)
      refine ⟨_, _, taken, .handshakeAsked flight, rounds, ?_, rfl⟩
      refine ⟨pumping, follows, rfl, by rw [nothing]; rfl, rfl, ⟨after, reply, accept, short.2, ?_⟩,
        fun done => by cases done⟩
      rw [if_neg early, connect]
      exact rest

theorem headunitReceives_advances (describable : Describable protobuf sd)
    (here : current.At tls protobuf sd stage rounds) (waiting : stage.toHeadunit protobuf ≠ [])
    (outside : AAClient.Outside) :
    ∃ next outputs, (cable tls protobuf).step current (.headunitReceives outside) =
        some (next, outputs) ∧
      Advances tls protobuf sd (stage.left rounds) next := by
  cases stage with
  | versionAnswered =>
      exact connects_advances .version here.pumping here.follows here.headunit here.toHeadunit
        here.toPhone here.shakes outside
  | handshakeAnswered reply =>
      exact connects_advances (.handshake reply) here.pumping here.follows here.headunit
        here.toHeadunit here.toPhone here.shakes outside
  | servicesAsked =>
      have ran := @headunit_services protobuf (AAClient.initial sd) outside describable.small
      have headunit : current.headunit =
          { state := AAClient.initial sd, phase := .dispatching } := here.headunit
      have nothing := here.toPhone
      rw [← headunit] at ran
      have taken := @headunitReceives_step _ _ tls protobuf current (servicesRequest protobuf) []
        _ _ outside .dispatching here.toHeadunit (by rw [headunit]) ran (fun msg membership => by
          cases List.mem_singleton.mp membership
          exact describable.response_short)
      refine ⟨_, _, taken, .servicesAnswered, rounds, ?_, rfl⟩
      exact ⟨here.pumping, here.follows, rfl, by rw [nothing]; rfl, rfl, here.shakes,
        fun done => by cases done⟩
  | versionAsked | handshakeAsked | authenticated | servicesAnswered | done =>
      exact absurd rfl waiting

/-- What else the phone does meanwhile changes nothing of all this. -/
theorem undisturbed_stays (here : current.At tls protobuf sd stage rounds)
    (undisturbed : current.Undisturbed protobuf event) (other : arrives event = false)
    (took : (cable tls protobuf).step current event = some (next, outputs)) :
    next.At tls protobuf sd stage rounds := by
  cases event with
  | phone own =>
      obtain ⟨running, quiet⟩ := undisturbed
      rcases step_turn took with ⟨inner, accepting, state, log, turn, ran, after⟩ |
        ⟨inner, connecting, session, log, turn, -, -⟩
      swap
      · cases turn
      simp only [phoneTurn] at turn
      split at turn
      · cases turn
      next notPump =>
      cases turn
      have plain : own.discovers = false ∧
          ∀ message accept write, own ≠ .headunit message accept write := by
        cases own with
        | headunit => exact absurd rfl notPump
        | connect | read | clientStep | sample | streamStep | threadTerminated =>
            exact ⟨rfl, by simp⟩
      have follows := AAServer.step_followsAnnounced here.follows ran
      rw [own.installed_of_not_discovers plain.1, own.retyped_of_not_discovers plain.1,
        List.append_nil] at follows
      have nothing := quiet state log ran
      unfold afterPhone at after
      split at after
      · cases after
        refine ⟨?_, follows, here.headunit, here.toPhone, ?_, here.shakes, fun done => ?_⟩
        · exact (AAServer.quiet_threadFinished ran plain.2 running).trans here.pumping
        · rw [nothing, List.append_nil]
          exact here.toHeadunit
        · have same := AAServer.step_sameDescription here.follows.wired plain.1 ran
          exact same.serviceDescriptor.trans (here.stored done)
      · cases after
  | headunit packet => exact undisturbed.elim
  | phoneReceives | headunitReceives => cases other

/-- A message that arrives takes the programs further. -/
theorem arrival_advances (describable : Describable protobuf sd) (links : tls.Links protobuf sd)
    (here : current.At tls protobuf sd stage rounds) (arrival : arrives event = true)
    (took : (cable tls protobuf).step current event = some (next, outputs)) :
    Advances tls protobuf sd (stage.left rounds) next := by
  cases event with
  | phone | headunit => cases arrival
  | phoneReceives write =>
      have waiting : stage.toPhone sd ≠ [] := by
        intro nothing
        rw [← here.toPhone] at nothing
        simp [cable, step, phoneTurn, headunitTurn, nothing] at took
      obtain ⟨after, log, taken, advances⟩ :=
        phoneReceives_advances describable links here waiting write
      rw [taken] at took
      cases took
      exact advances
  | headunitReceives outside =>
      have waiting : stage.toHeadunit protobuf ≠ [] := by
        intro nothing
        rw [← here.toHeadunit] at nothing
        simp [cable, step, phoneTurn, headunitTurn, nothing] at took
      obtain ⟨after, log, taken, advances⟩ :=
        headunitReceives_advances describable here waiting outside
      rw [taken] at took
      cases took
      exact advances

theorem arrival_enabled (describable : Describable protobuf sd) (links : tls.Links protobuf sd)
    (here : current.At tls protobuf sd stage rounds) (unfinished : 0 < stage.left rounds) :
    ∃ event next outputs, arrives event = true ∧
      (cable tls protobuf).step current event = some (next, outputs) := by
  by_cases waiting : stage.toPhone sd = []
  · have other : stage.toHeadunit protobuf ≠ [] := by
      cases stage with
      | done => exact absurd unfinished (Nat.lt_irrefl 0)
      | versionAsked | handshakeAsked | authenticated | servicesAnswered => cases waiting
      | versionAnswered | handshakeAnswered | servicesAsked => exact List.cons_ne_nil _ _
    obtain ⟨next, outputs, taken, -⟩ := headunitReceives_advances describable here other {}
    exact ⟨_, next, outputs, rfl, taken⟩
  · obtain ⟨next, outputs, taken, -⟩ :=
      phoneReceives_advances describable links here waiting fun _ => .complete
    exact ⟨_, next, outputs, rfl, taken⟩

theorem start_at {connecting : γ} {accepting : δ}
    (completes : tls.Completes connecting accepting [] rounds) :
    (start sd connecting accepting).At tls protobuf sd .versionAsked rounds :=
  ⟨rfl, ⟨AAServer.wired_initial, AAServer.initial_shows, by simp [Stage.announced],
    by simp [Stage.announced]⟩, rfl, rfl, rfl, completes, fun done => by cases done⟩

end Steps

/-- Nothing is under way, `setup` dispatches messages, and both programs have handlers of the
same kinds, those of the channels of the descriptor. -/
structure Agreed (protobuf : Protobuf) (sd : Bytes) (cable : Cable γ δ) : Prop where
  silent : cable.toPhone = [] ∧ cable.toHeadunit = []
  dispatching : cable.headunit.phase = .dispatching
  stored : cable.phone.serviceDescriptor = sd
  phone : cable.phone.kindAt =
    kindTable startTable (protobuf.serviceDiscoveryResponse_channels sd)
  headunit : cable.headunit.state.kindAt = cable.phone.kindAt

theorem At.agreed {tls : Handshake γ δ} {protobuf : Protobuf} {sd : Bytes} {stage : Stage}
    {rounds : Nat} {cable : Cable γ δ} (here : cable.At tls protobuf sd stage rounds)
    (finished : stage.left rounds = 0) : cable.Agreed protobuf sd := by
  cases stage with
  | done =>
      have kinds := here.follows.shows.kinds
      refine ⟨⟨here.toPhone, here.toHeadunit⟩, ?_, here.stored rfl, kinds, ?_⟩
      · rw [here.headunit]
        rfl
      · rw [kinds, here.headunit]
        exact (AAClient.kindAt_foldl_install _ _).trans (by rw [AAClient.initial_kindAt]; rfl)
  | versionAsked | versionAnswered | handshakeAsked | handshakeAnswered => cases finished
  | authenticated | servicesAsked | servicesAnswered => cases finished

end Cable

/-- In every run of the two programs in which nobody disturbs them, with a descriptor that can be
sent and pipelines that can be linked, as many messages arrive as the set-up takes, at most: five,
and two for each round of the handshake. Handling them ends neither program, a message can arrive
as long as some are left, and when all have arrived the two programs agree about the channels. -/
theorem setup_completes {γ δ : Type} {tls : Handshake γ δ} {protobuf : Protobuf} {sd : Bytes}
    {connecting : γ} {accepting : δ} {rounds : Nat} {events : List Cable.Event}
    {final : Cable γ δ} {trace : List (Cable.Event × List Cable.Output)}
    (describable : Cable.Describable protobuf sd) (links : tls.Links protobuf sd)
    (completes : tls.Completes connecting accepting [] rounds)
    (undisturbed : (cable tls protobuf).Within (Cable.Undisturbed protobuf)
      (Cable.start sd connecting accepting) events)
    (ran : (cable tls protobuf).run (Cable.start sd connecting accepting) events =
      some (final, trace)) :
    final.headunit.running = true ∧ final.phone.threadFinished = false ∧
      events.countP Cable.arrives ≤ 2 * rounds + 5 ∧
      (events.countP Cable.arrives < 2 * rounds + 5 → ∃ event next outputs,
        Cable.arrives event = true ∧
          (cable tls protobuf).step final event = some (next, outputs)) ∧
      (events.countP Cable.arrives = 2 * rounds + 5 → final.Agreed protobuf sd) := by
  obtain ⟨less, arrived, stage, further, here, rfl⟩ :=
    @Machine.run_countdown _ _ _ (cable tls protobuf)
      (fun left current => ∃ stage rounds, current.At tls protobuf sd stage rounds ∧
        left = stage.left rounds) Cable.arrives (Cable.Undisturbed protobuf)
      (fun holds _ arrival took => by
        obtain ⟨stage, rounds, here, rfl⟩ := holds
        obtain ⟨later, fewer, there, left⟩ :=
          Cable.arrival_advances describable links here arrival took
        exact ⟨_, left, later, fewer, there, rfl⟩)
      (fun holds undisturbed other took => by
        obtain ⟨stage, rounds, here, rfl⟩ := holds
        exact ⟨stage, rounds, Cable.undisturbed_stays here undisturbed other took, rfl⟩)
      _ _ final events trace ⟨.versionAsked, rounds, Cable.start_at completes, rfl⟩ undisturbed ran
  have total : Cable.Stage.versionAsked.left rounds = 2 * rounds + 5 := rfl
  refine ⟨by rw [here.headunit], here.pumping, by omega, fun fewer => ?_, fun all => ?_⟩
  · exact Cable.arrival_enabled describable links here (by omega)
  · exact here.agreed (by omega)

/-- A service description with an input channel, number 5. -/
def inputDescription : Bytes := [0x0a, 0x04, 0x08, 0x05, 0x22, 0x00]

/-- A handshake of one round; the client counts what it has got. -/
def oneRound : Handshake Nat Unit where
  connect got _ := (got + 1, if got = 0 then .answer [0x16] else .complete)
  accept _ _ := ((), .answer [0x17])

def sevenArrivals : List Cable.Event :=
  [.phoneReceives fun _ => .complete, .headunitReceives {}, .phoneReceives fun _ => .complete,
    .headunitReceives {}, .phoneReceives fun _ => .complete, .headunitReceives {},
    .phoneReceives fun _ => .complete]

theorem setup_completes_one_round :
    ∃ final trace, (cable oneRound .small).run (Cable.start inputDescription 0 ())
        sevenArrivals = some (final, trace) ∧
      final.headunit.running = true ∧ final.phone.threadFinished = false ∧
      sevenArrivals.countP Cable.arrives ≤ 2 * 1 + 5 ∧
      (sevenArrivals.countP Cable.arrives < 2 * 1 + 5 → ∃ event next outputs,
        Cable.arrives event = true ∧
          (cable oneRound .small).step final event = some (next, outputs)) ∧
      (sevenArrivals.countP Cable.arrives = 2 * 1 + 5 →
        final.Agreed .small inputDescription) := by
  have describable : Cable.Describable .small inputDescription :=
    ⟨by decide, by decide +kernel, by decide⟩
  have completes : oneRound.Completes 0 () [] 1 :=
    .round rfl rfl (by decide) (.complete rfl)
  have arrives : ((cable oneRound .small).run (Cable.start inputDescription 0 ())
      sevenArrivals).isSome = true := by decide +kernel
  obtain ⟨⟨final, trace⟩, ran⟩ := Option.isSome_iff_exists.mp arrives
  have undisturbed : (cable oneRound .small).Within (Cable.Undisturbed .small)
      (Cable.start inputDescription 0 ()) sevenArrivals :=
    ⟨trivial, fun _ _ _ => ⟨trivial, fun _ _ _ => ⟨trivial, fun _ _ _ => ⟨trivial, fun _ _ _ =>
      ⟨trivial, fun _ _ _ => ⟨trivial, fun _ _ _ => ⟨trivial, fun _ _ _ => trivial⟩⟩⟩⟩⟩⟩⟩
  exact ⟨final, trace, ran, setup_completes describable (fun _ => rfl) completes undisturbed ran⟩

def describedPhone (sd : Bytes) : List AAServer.Event :=
  [.headunit (Cable.servicesResponse sd) .failed fun _ => .complete]

def describedCable (sd : Bytes) (phone : AAServer.State) : Cable Nat Unit where
  phone
  headunit := { state := Cable.Stage.done.client .small sd, phase := .dispatching }
  accepting := ()
  connecting := 0
  toHeadunit := []
  toPhone := []

end AACS
