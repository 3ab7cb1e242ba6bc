import AACS.Proxy.Path

/-!
The two programs as a proxy for the phone.

What the phone sends on ordinary channels is to arrive at the head unit as it was
sent. It does, but for two kinds of messages: one that looks like a
ServiceDiscoveryRequest, which `AAClient` answers whatever its channel is, and one
on channel 0 when the service descriptor has a video or an input channel 0.
-/

namespace AACS

open Effects Transitions

namespace AAServer

/-- However the turns of the other threads fall in between: while the client's thread reads
the packets in order, it puts the messages into the send queue, one for each packet, does
nothing else, and is ready for the next packet. -/
def Relays (protobuf : Protobuf) (start : State) (scl : Nat) (packets : List Bytes)
    (messages : List Message) : Prop :=
  ∀ events final trace, (machine protobuf).run start events = some (final, trace) →
    (∀ event ∈ events, event.discovers = false) →
    readings scl events <+: packets.map .data →
    start.SameTable final ∧
      (∃ client, final.sockets scl = some client ∧ client.thread = .reading) ∧
      causedBy scl trace = (messages.take (readings scl events).length).map enqueued

section Relaying

variable {protobuf : Protobuf} {state next : State} {scl : Nat} {client : SocketClient}
  {msg : Message} {messages : List Message}

theorem causedBy_own {event : Event} {outputs : List Output} {trace : List (Event × List Output)}
    (own : event.actor = some scl) :
    causedBy scl ((event, outputs) :: trace) = outputs ++ causedBy scl trace := by
  rw [causedBy, List.flatMap_cons, if_pos own, causedBy]

theorem causedBy_other {event : Event} {outputs : List Output}
    {trace : List (Event × List Output)} (others : event.actor ≠ some scl) :
    causedBy scl ((event, outputs) :: trace) = causedBy scl trace := by
  rw [causedBy, List.flatMap_cons, if_neg others, List.nil_append, causedBy]

theorem reading_own (scl : Nat) (reading : Reading) (write : Nat → WriteResult) :
    Event.reading scl (.read scl reading write) = some reading := by
  simp [Event.reading]

theorem reading_other {event : Event} (others : event.actor ≠ some scl) :
    event.reading scl = none := by
  cases event with
  | read other reading write =>
      have different : other ≠ scl := fun same => others (congrArg some same)
      simp [Event.reading, different]
  | connect | clientStep | headunit | sample | streamStep | threadTerminated => rfl

theorem read_of_actor {event : Event} {outputs : List Output}
    (present : state.sockets scl = some client) (ready : client.thread = .reading)
    (took : (machine protobuf).step state event = some (next, outputs))
    (own : event.actor = some scl) : ∃ reading write, event = .read scl reading write := by
  cases event with
  | read other reading write =>
      cases own
      exact ⟨reading, write, rfl⟩
  | clientStep other =>
      cases own
      simp [machine, step, present, ready] at took
  | connect | headunit | sample | streamStep | threadTerminated => cases own

theorem reads_on (state : State) (present : state.sockets scl = some client) (reading : Reading) :
    ((state.buffered scl client reading).withThread scl .reading).sockets scl =
      some { client with
        thread := .reading
        buffer := client.buffer.overwrite (reading.bytes.take clientBufSize) } := by
  simp [State.buffered, State.withThread, State.updateSocket, present]

theorem relays_of_isDefault (wired : state.Wired) (present : state.sockets scl = some client)
    (ready : client.thread = .reading)
    (short : ∀ msg ∈ messages, msg.content.length ≤ clientBufSize - 3)
    (isDefault : ∀ msg ∈ messages, state.IsDefault msg.channel) :
    Relays protobuf state scl (messages.map Message.rawData) messages := by
  intro events
  induction events generalizing state client messages with
  | nil =>
      intro final trace ran plain order
      obtain ⟨rfl, rfl⟩ : state = final ∧ [] = trace := by simpa using ran
      exact ⟨refl state, ⟨client, present, ready⟩, by simp [causedBy, readings]⟩
  | cons event events inductionHypothesis =>
      intro final trace ran plain order
      obtain ⟨next, outputs, rest, took, continued, rfl⟩ :=
        (machine protobuf).run_cons_eq_some.mp ran
      obtain ⟨plainHere, plainLater⟩ := List.forall_mem_cons.mp plain
      have table := step_sameTable wired plainHere took
      have nextWired := step_wired wired took
      by_cases own : event.actor = some scl
      · obtain ⟨reading, write, rfl⟩ := read_of_actor present ready took own
        rw [readings, List.filterMap_cons_some (reading_own scl reading write)] at order ⊢
        cases messages with
        | nil => exact absurd (List.prefix_nil.mp order) (List.cons_ne_nil _ _)
        | cons msg messages =>
            obtain ⟨rfl, later⟩ := List.cons_prefix_cons.mp order
            obtain ⟨shortHere, shortLater⟩ := List.forall_mem_cons.mp short
            obtain ⟨defaultHere, defaultLater⟩ := List.forall_mem_cons.mp isDefault
            rw [step_rawData protobuf write wired present ready shortHere defaultHere] at took
            cases took
            obtain ⟨same, stays, caused⟩ := inductionHypothesis nextWired
              (reads_on state present (.data msg.rawData)) rfl shortLater
              (fun other membership => table.isDefault (defaultLater other membership))
              final rest continued plainLater later
            refine ⟨trans_of State.SameTable table same, stays, ?_⟩
            rw [causedBy_own own, caused, List.length_cons, List.take_succ_cons, List.map_cons,
              List.singleton_append, readings]
      · obtain ⟨later, found, -, thread⟩ := bystander_socket wired took own present
        rw [readings, List.filterMap_cons_none (reading_other own)] at order ⊢
        obtain ⟨same, stays, caused⟩ := inductionHypothesis nextWired found (thread.trans ready)
          short (fun msg membership => table.isDefault (isDefault msg membership))
          final rest continued plainLater order
        refine ⟨trans_of State.SameTable table same, stays, ?_⟩
        rw [causedBy_other own]
        exact caused

theorem rawData_turn {p : Packet} {clientId : Int} (write : Nat → WriteResult)
    (known : state.clients.lookup scl = some clientId) (tabled : state.Tabled)
    (raw : p.packetType = PacketType.RawData.code) :
    ∃ next outputs, finishClient scl (gotPacket write scl p) state = some (next, outputs) ∧
      (outputs ≠ [] → state.IsDefault p.channelNumber) := by
  have outcome := gotPacket_rawData write known raw
  cases installed : state.channelHandlers p.channelNumber with
  | none =>
      rw [installed] at outcome
      exact ⟨_, _, finishClient_thrown outcome, fun some => absurd rfl some⟩
  | some pointer =>
      obtain ⟨⟨channelId, flag, kind⟩, pointed, -⟩ := tabled _ _ installed
      simp only [installed, pointed, Option.map_some] at outcome
      cases kind with
      | default =>
          exact ⟨_, _, finishClient_ok outcome, fun _ =>
            ⟨_, Option.bind_eq_some_iff.mpr ⟨pointer, installed, pointed⟩, rfl⟩⟩
      | video video => exact ⟨_, _, finishClient_ok outcome, fun some => absurd rfl some⟩
      | input input => exact ⟨_, _, finishClient_ok outcome, fun some => absurd rfl some⟩

theorem isDefault_of_relays (wired : state.Wired) (tabled : state.Tabled)
    (present : state.sockets scl = some client) (ready : client.thread = .reading)
    (short : ∀ msg ∈ messages, msg.content.length ≤ clientBufSize - 3)
    (relays : Relays protobuf state scl (messages.map Message.rawData) messages) :
    ∀ msg ∈ messages, state.IsDefault msg.channel := by
  induction messages generalizing state client with
  | nil => simp
  | cons msg rest inductionHypothesis =>
      obtain ⟨shortHere, shortLater⟩ := List.forall_mem_cons.mp short
      obtain ⟨clientId, known⟩ := wired.known present (by simp [ready])
      let write : Nat → WriteResult := fun _ => .complete
      obtain ⟨next, outputs, took, passed⟩ : ∃ next outputs,
          (machine protobuf).step state (.read scl (.data msg.rawData) write) =
            some (next, outputs) ∧ (outputs ≠ [] → state.IsDefault msg.channel) := by
        rw [step_read_packet protobuf write present ready (by simp [Message.rawData]),
          packet_rawData client shortHere]
        exact rawData_turn write known tabled rfl
      have alone : (machine protobuf).run state [.read scl (.data msg.rawData) write] =
          some (next, [(.read scl (.data msg.rawData) write, outputs)]) :=
        (machine protobuf).run_cons_eq_some.mpr ⟨next, outputs, [], took, rfl, rfl⟩
      have single : readings scl [.read scl (.data msg.rawData) write] = [.data msg.rawData] := by
        simp [readings, Event.reading]
      obtain ⟨table, ⟨later, found, thread⟩, caused⟩ :=
        relays _ _ _ alone (by simp [Event.discovers]) (by simp [single])
      have sent : outputs = [enqueued msg] := by
        simpa [causedBy, Event.actor, single] using caused
      have here : state.IsDefault msg.channel := passed (by simp [sent])
      have further : Relays protobuf next scl (rest.map Message.rawData) rest := by
        intro events final trace ran plain order
        have longer : (machine protobuf).run state
            (.read scl (.data msg.rawData) write :: events) =
              some (final, (.read scl (.data msg.rawData) write, outputs) :: trace) :=
          (machine protobuf).run_cons_eq_some.mpr ⟨next, outputs, trace, took, ran, rfl⟩
        have more : readings scl (.read scl (.data msg.rawData) write :: events) =
            .data msg.rawData :: readings scl events :=
          List.filterMap_cons_some (reading_own scl _ write)
        obtain ⟨same, stays, all⟩ := relays _ _ _ longer
          (List.forall_mem_cons.mpr ⟨rfl, plain⟩)
          (by rw [more]; exact List.cons_prefix_cons.mpr ⟨rfl, order⟩)
        refine ⟨trans_of State.SameTable table.symm same, stays, ?_⟩
        rw [more, List.length_cons, List.take_succ_cons, List.map_cons, causedBy_own rfl, sent,
          List.singleton_append] at all
        exact (List.cons.inj all).2
      refine List.forall_mem_cons.mpr ⟨here, fun other membership => table.symm.isDefault ?_⟩
      exact inductionHypothesis (step_wired wired took) (tabled.sameTable table) found thread
        shortLater further other membership

end Relaying

end AAServer

/-- A message on an ordinary channel with default handlers on both sides, or one of the
forwarded types on channel 0, that fits the server's buffer. -/
structure Eligible (client : AAClient.State) (server : AAServer.State) (msg : Message) : Prop where
  forwarded : AAClient.Forwarded client msg
  ordinary : msg.channel ≠ 0 → server.IsDefault msg.channel
  short : msg.content.length ≤ AAServer.clientBufSize - 3

/-- The client hands the messages on as packets and does nothing else, and the server relays
them, however its threads take turns. -/
def Transparent (protobuf : Protobuf) (outside : AAClient.Outside) (client : AAClient.State)
    (server : AAServer.State) (scl : Nat) (messages : List Message) : Prop :=
  ∃ packets, (messages.forM (AAClient.dispatch protobuf outside)).run client =
      ⟨.ok (), client, packets.map .packet⟩ ∧
    AAServer.Relays protobuf server scl packets messages

section Transparency

variable {protobuf : Protobuf} {outside : AAClient.Outside} {client : AAClient.State}
  {server : AAServer.State} {scl : Nat} {messages : List Message}

theorem forwards_run (sends : outside.write = .ok ())
    (forwarded : ∀ msg ∈ messages, AAClient.Forwarded client msg)
    (plain : ∀ msg ∈ messages, msg.channel ≠ 0 →
      ¬ msg.hasType MessageType.ServiceDiscoveryRequest.code) :
    (messages.forM (AAClient.dispatch protobuf outside)).run client =
      ⟨.ok (), client, (messages.map Message.rawData).map .packet⟩ := by
  rw [List.map_map]
  exact Act.run_forM_emits fun msg membership =>
    AAClient.dispatch_forwards sends (forwarded msg membership) (plain msg membership)

/-- A message that looks like a ServiceDiscoveryRequest is not handed on. -/
theorem not_transparent_of_discovery {msg : Message} (membership : msg ∈ messages)
    (type : msg.hasType MessageType.ServiceDiscoveryRequest.code) :
    ¬ Transparent protobuf outside client server scl messages := by
  rintro ⟨packets, forwards, -⟩
  obtain ⟨before, ended, kept⟩ := Act.turn_of_forM (by rw [forwards]) membership
  obtain ⟨flags, content, answered⟩ := AAClient.dispatch_discovers type ended
  have among := kept _ answered
  rw [forwards] at among
  simp at among

end Transparency

/-- The two programs are transparent for exactly those sequences in which no message on an
ordinary channel looks like a ServiceDiscoveryRequest, and which use channel 0 only if its
handler in the server is a default one. -/
theorem proxy_transparency_iff (protobuf : Protobuf) {outside : AAClient.Outside}
    (sends : outside.write = .ok ()) {client : AAClient.State} {past : List AAServer.Event}
    {server : AAServer.State} {record : List (AAServer.Event × List AAServer.Output)} {scl : Nat}
    {socket : AAServer.SocketClient} {messages : List Message}
    (reached : (AAServer.machine protobuf).run AAServer.initial past = some (server, record))
    (present : server.sockets scl = some socket) (ready : socket.thread = .reading)
    (eligible : ∀ msg ∈ messages, Eligible client server msg) :
    Transparent protobuf outside client server scl messages ↔
      (∀ msg ∈ messages, msg.channel ≠ 0 →
        ¬ msg.hasType MessageType.ServiceDiscoveryRequest.code) ∧
      ((∃ msg ∈ messages, msg.channel = 0) → server.IsDefault 0) := by
  have wired := AAServer.run_wired reached
  have tabled := AAServer.run_tabled reached
  have short := fun msg membership => (eligible msg membership).short
  constructor
  · intro transparent
    have plain : ∀ msg ∈ messages, msg.channel ≠ 0 →
        ¬ msg.hasType MessageType.ServiceDiscoveryRequest.code := fun msg membership _ type =>
      not_transparent_of_discovery membership type transparent
    obtain ⟨packets, forwards, relays⟩ := transparent
    rw [forwards_run sends (fun msg membership => (eligible msg membership).forwarded) plain]
      at forwards
    have same : messages.map Message.rawData = packets :=
      List.map_injective_iff.mpr (fun _ _ => AAClient.Output.packet.inj)
        (congrArg Outcome.log forwards)
    refine ⟨plain, ?_⟩
    rintro ⟨msg, membership, control⟩
    rw [← control]
    exact AAServer.isDefault_of_relays wired tabled present ready short (same ▸ relays) msg
      membership
  · rintro ⟨plain, zero⟩
    refine ⟨messages.map Message.rawData,
      forwards_run sends (fun msg membership => (eligible msg membership).forwarded) plain,
      AAServer.relays_of_isDefault wired present ready short fun msg membership => ?_⟩
    by_cases control : msg.channel = 0
    · rw [control]
      exact zero ⟨msg, membership, control⟩
    · exact (eligible msg membership).ordinary control

/-- A service description with a default channel, number 7. -/
def audioDescription : Bytes := [0x0a, 0x04, 0x08, 0x07, 0x12, 0x00]

def audioAnnouncement : Message where
  channel := 0
  flags := 0x0b
  content := 0x00 :: 0x06 :: audioDescription

def discoveredClient : AAClient.State :=
  ((AAClient.handleServiceDiscoveryRequest .small).run (AAClient.initial audioDescription)).state

/-- The server gets the services from the head unit, and the client connects. -/
def discovery : List AAServer.Event :=
  [.headunit audioAnnouncement .failed fun _ => .complete, .connect 1 10 fun _ => 0]

def audioMessage : Message := { channel := 7, flags := 0x0f, content := [0x80, 0x00, 0x01] }

def focusRequest : Message := { channel := 0, flags := 0x0b, content := [0x00, 0x12, 0x08, 0x01] }

theorem proxy_transparency_iff_two_messages :
    ∃ server record, (AAServer.machine .small).run AAServer.initial discovery =
        some (server, record) ∧
      Transparent .small {} discoveredClient server 1 [audioMessage, focusRequest] := by
  obtain ⟨server, record, reached⟩ : ∃ server record,
      (AAServer.machine .small).run AAServer.initial discovery = some (server, record) :=
    ⟨_, _, rfl⟩
  have eligible : ∀ msg ∈ [audioMessage, focusRequest], Eligible discoveredClient server msg := by
    cases reached
    refine List.forall_mem_cons.mpr ⟨?_, List.forall_mem_singleton.mpr ?_⟩
    · exact ⟨⟨by decide, fun _ => ⟨_, rfl, rfl⟩, fun control => absurd control (by decide)⟩,
        fun _ => ⟨_, rfl, rfl⟩, by decide⟩
    · exact ⟨⟨by decide, fun ordinary => absurd rfl ordinary, fun _ =>
        ⟨MessageType.AudioFocusRequest.code, by decide, 0x00, 0x12, [0x08, 0x01], rfl, rfl⟩⟩,
        fun ordinary => absurd rfl ordinary, by decide⟩
  have ordinary : ∀ msg ∈ [audioMessage, focusRequest], msg.channel ≠ 0 →
      ¬ msg.hasType MessageType.ServiceDiscoveryRequest.code := by
    refine List.forall_mem_cons.mpr ⟨fun _ => ?_, List.forall_mem_singleton.mpr fun control =>
      absurd rfl control⟩
    rintro ⟨high, low, rest, content, type⟩
    cases content
    exact absurd type (by decide)
  obtain ⟨socket, present, ready, zero⟩ : ∃ socket, server.sockets 1 = some socket ∧
      socket.thread = .reading ∧ server.IsDefault 0 := by
    cases reached
    exact ⟨_, rfl, rfl, _, rfl, rfl⟩
  exact ⟨server, record, reached, (proxy_transparency_iff .small rfl reached present ready
    eligible).mpr ⟨ordinary, fun _ => zero⟩⟩

def disguisedMessage : Message := { channel := 7, flags := 0x0b, content := [0x00, 0x05] }

/-- A message on an audio channel that begins with 00 05 is answered by `AAClient`. -/
theorem disguised_message_is_answered :
    ∃ server record, (AAServer.machine .small).run AAServer.initial discovery =
        some (server, record) ∧
      (∀ msg ∈ [disguisedMessage], Eligible discoveredClient server msg) ∧
      ((AAClient.dispatch .small {} disguisedMessage).run discoveredClient).log =
        [.enqueue 0 0x0b audioAnnouncement.content] ∧
      ¬ Transparent .small {} discoveredClient server 1 [disguisedMessage] := by
  refine ⟨_, _, rfl, List.forall_mem_singleton.mpr ?_, rfl,
    not_transparent_of_discovery List.mem_cons_self ⟨0x00, 0x05, [], rfl, rfl⟩⟩
  exact ⟨⟨by decide, fun _ => ⟨_, rfl, rfl⟩, fun control => absurd control (by decide)⟩,
    fun _ => ⟨_, rfl, rfl⟩, by decide⟩

end AACS
