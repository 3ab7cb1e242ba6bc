import AACS.Server.Registry

/-!
Requests and replies on the socket.

A reply carries no mark, and a client is in the map from the moment it connects, so
the first packet it reads is the reply only if no message of the head unit gets to it
before.
-/

namespace AACS

/-- What `getServiceDescriptor` of `AAClient` writes. -/
def AAClient.serviceDescriptorRequest : Bytes := [0x02, 0x00, 0x00]

/-- What `openChannel` of `GetEvents` writes first. -/
def GetEvents.channelNumberRequest : Bytes := [0x00, 0x01, 0x00]

namespace AAServer

open Effects FanOut Transitions

/-- The delivery of the message gets as far as the connection: the message has a route to it,
no earlier `write` fails for good, and its own one succeeds. -/
def State.Reaches (state : State) (write : Nat → WriteResult) (message : Message)
    (connection : Nat) : Prop :=
  ∃ recipients bytes earlier scl later, state.route message = some (recipients, bytes) ∧
    recipients = earlier ++ scl :: later ∧
    (∀ other ∈ earlier, ∀ errno,
      state.destination write other = .error errno → errno = econnreset) ∧
    state.destination write scl = .ok connection

def Overtakes (connection : Nat) (state : State) : Event → Prop
  | .headunit message _ write => state.Reaches write message connection
  | _ => False

section Bystanders

variable {state next : State} {scl : Nat} {outputs : List Output} {event : Event}
  {protobuf : Protobuf}

theorem bystander_socket {client : SocketClient} (wired : state.Wired)
    (took : (machine protobuf).step state event = some (next, outputs))
    (others : event.actor ≠ some scl) (present : state.sockets scl = some client) :
    ∃ later, next.sockets scl = some later ∧ later.fd = client.fd ∧
      later.thread = client.thread := by
  have byActor {actor : Nat} (acts : event.actor = some actor) :
      ∃ later, next.sockets scl = some later ∧ later.fd = client.fd ∧
        later.thread = client.thread := by
    have different : scl ≠ actor := by
      rintro rfl
      exact others acts
    obtain ⟨actorClient, clientId, before, -, -, -, quiet, turn⟩ :=
      client_turn wired.known took acts
    rw [turn.sockets_other different]
    exact quiet.symm.alive present
  cases event with
  | connect other fd stack =>
      obtain ⟨fresh, -, rfl, -⟩ := connect_turn took
      have different : scl ≠ other := by
        rintro rfl
        rw [fresh] at present
        cases present
      exact ⟨client, by simp [State.accept, different, present], rfl, rfl⟩
  | read other reading write => exact byActor rfl
  | clientStep other => exact byActor rfl
  | headunit message accept write =>
      cases discovery : isServiceDiscoveryResponse message with
      | false => exact (headunit_quiet discovery took).symm.alive present
      | true =>
          obtain ⟨found, discovers, quiet⟩ := headunit_discovers discovery took
          exact quiet.symm.alive (discovers.sockets ▸ present)
  | sample | streamStep | threadTerminated =>
      exact (background_turn took trivial).1.symm.alive present

/-- Of the turns of others, those messages of the head unit put a packet into a client's socket
that reach it. -/
theorem bystander_packet_iff (wired : state.Wired)
    (took : (machine protobuf).step state event = some (next, outputs))
    (others : event.actor ≠ some scl) :
    (∃ bytes, .packet scl bytes ∈ outputs) ↔ Overtakes scl state event := by
  have silent (enqueues : ∀ output ∈ outputs, output.isEnqueue) :
      ¬ ∃ bytes, .packet scl bytes ∈ outputs := by
    rintro ⟨bytes, membership⟩
    exact enqueues _ membership
  have byActor {actor : Nat} (acts : event.actor = some actor) :
      ¬ ∃ bytes, .packet scl bytes ∈ outputs := by
    obtain ⟨client, clientId, before, present, runs, -, quiet, turn⟩ :=
      client_turn wired.known took acts
    cases turn with
    | goesOn alive enqueues => exact silent enqueues
    | registers | fails | leaves => exact silent (by simp)
    | thrownOut enqueues => exact silent enqueues
    | @answered found connection bytes foundPresent opened =>
        obtain ⟨old, oldPresent, fd, -⟩ := quiet.alive foundPresent
        rw [present] at oldPresent
        cases oldPresent
        have own := (wired.alive actor client present runs).2
        rw [← quiet.descriptors, fd, opened] at own
        rintro ⟨sent, membership⟩
        cases List.mem_singleton.mp membership
        exact others (acts.trans own.symm)
  cases event with
  | connect other fd stack =>
      obtain ⟨-, -, -, rfl⟩ := connect_turn took
      simp [Overtakes]
  | read other reading write => exact iff_of_false (byActor rfl) id
  | clientStep other => exact iff_of_false (byActor rfl) id
  | headunit message accept write =>
      simp only [headunit_packet_iff took, mem_fanOut_iff, Passes, isReset, decide_eq_true_eq,
        Overtakes, State.Reaches]
      constructor
      · rintro ⟨bytes, recipients, routed, earlier, other, later, split, passes, sent⟩
        exact ⟨recipients, bytes, earlier, other, later, routed, split, passes, sent⟩
      · rintro ⟨recipients, bytes, earlier, other, later, routed, split, passes, sent⟩
        exact ⟨bytes, recipients, routed, earlier, other, later, split, passes, sent⟩
  | sample | streamStep | threadTerminated =>
      exact iff_of_false (silent (background_turn took trivial).2) id

end Bystanders

/-- A client that waits while others take turns: its socket stays, and it gets nothing exactly
when no message reaches it. -/
theorem bystander_run {protobuf : Protobuf} {state final : State} {events : List Event}
    {trace : List (Event × List Output)} {scl : Nat} {client : SocketClient}
    (wired : state.Wired) (present : state.sockets scl = some client)
    (others : ∀ event ∈ events, event.actor ≠ some scl)
    (ran : (machine protobuf).run state events = some (final, trace)) :
    final.Wired ∧ (∃ later, final.sockets scl = some later ∧ later.thread = client.thread) ∧
      (deliveries scl trace = [] ↔
        (machine protobuf).Within (fun state event => ¬ Overtakes scl state event) state
          events) := by
  induction events generalizing state trace client with
  | nil =>
      obtain ⟨rfl, rfl⟩ : state = final ∧ [] = trace := by simpa using ran
      exact ⟨wired, ⟨client, present, rfl⟩, by simp [deliveries, Machine.Within]⟩
  | cons event events inductionHypothesis =>
      obtain ⟨next, outputs, rest, took, continued, rfl⟩ :=
        (machine protobuf).run_cons_eq_some.mp ran
      have notMine := others event (by simp)
      obtain ⟨later, found, -, thread⟩ := bystander_socket wired took notMine present
      obtain ⟨finalWired, ⟨last, finalPresent, finalThread⟩, restIff⟩ :=
        inductionHypothesis (step_wired wired took) found
          (fun other membership => others other (by simp [membership])) continued
      refine ⟨finalWired, ⟨last, finalPresent, finalThread.trans thread⟩, ?_⟩
      rw [deliveries_eq_nil, List.forall_mem_cons, ← deliveries_eq_nil, restIff,
        bystander_packet_iff wired took notMine, Machine.Within]
      refine and_congr_right fun _ => ⟨fun within other otherOutputs otherTook => ?_,
        fun within => within next outputs took⟩
      rw [took] at otherTook
      cases otherTook
      exact within

def State.replyTo (state : State) : Bytes → Option Bytes
  | [packetType, channelNumber, specific] =>
      state.reply { packetType, channelNumber, specific, data := [] }
  | _ => none

theorem step_request (protobuf : Protobuf) {state : State} {scl : Nat} {client : SocketClient}
    {request reply : Bytes} (write : Nat → WriteResult) (wired : state.Wired)
    (present : state.sockets scl = some client) (ready : client.thread = .reading)
    (answer : state.replyTo request = some reply) :
    ∃ final, (machine protobuf).step state (.read scl (.data request) write) =
      some (final, if write scl = .complete then [.packet scl reply] else []) := by
  obtain ⟨packetType, channelNumber, specific, rfl⟩ : ∃ packetType channelNumber specific,
      request = [packetType, channelNumber, specific] := by
    unfold State.replyTo at answer
    split at answer
    next packetType channelNumber specific => exact ⟨packetType, channelNumber, specific, rfl⟩
    next => cases answer
  have quiet := buffered_quiet state scl client (.data [packetType, channelNumber, specific])
  have outcome : (gotPacket write scl _).run
      (state.buffered scl client (.data [packetType, channelNumber, specific])) = _ :=
    gotPacket_request write scl answer
  rw [quiet.destination, wired.destination present (by simp [ready])] at outcome
  rw [step_read_packet protobuf write present ready (by simp),
    packet_data, List.take_nil]
  cases written : write scl with
  | complete =>
      rw [written] at outcome
      exact ⟨_, finishClient_ok outcome⟩
  | failed errno =>
      rw [written] at outcome
      obtain ⟨exception, fault⟩ := writeFault_thrown errno
      simp only [fault] at outcome
      exact ⟨_, finishClient_thrown outcome⟩

/-- The first packet a client gets is the reply to its request exactly when the reply is
written and no message of the head unit reaches the client before. -/
theorem request_reply_matching (protobuf : Protobuf) {past : List Event} {start joined : State}
    {record : List (Event × List Output)} {scl fd : Nat} {stack : Buffer} {events : List Event}
    {asked : State} {meanwhile : List (Event × List Output)} {request : Bytes}
    (write : Nat → WriteResult)
    (reached : (machine protobuf).run initial past = some (start, record))
    (connected : (machine protobuf).step start (.connect scl fd stack) = some (joined, []))
    (others : ∀ event ∈ events, event.actor ≠ some scl)
    (waited : (machine protobuf).run joined events = some (asked, meanwhile))
    (asks : request = AAClient.serviceDescriptorRequest ∨
      request = GetEvents.channelNumberRequest) :
    ∃ final outputs reply, asked.replyTo request = some reply ∧
      (machine protobuf).step asked (.read scl (.data request) write) = some (final, outputs) ∧
      ((deliveries scl (meanwhile ++ [(.read scl (.data request) write, outputs)])).head? =
          some (.read scl (.data request) write, reply) ↔
        write scl = .complete ∧
          (machine protobuf).Within (fun state event => ¬ Overtakes scl state event) joined
            events) := by
  have startWired := run_wired reached
  obtain ⟨fresh, free, rfl, -⟩ := connect_turn connected
  have present : (start.accept scl fd stack).sockets scl = some { fd, buffer := stack } := by
    simp [State.accept]
  obtain ⟨askedWired, ⟨client, askedPresent, ready⟩, quietIff⟩ :=
    bystander_run (startWired.accept stack fresh free) present others waited
  obtain ⟨reply, answer⟩ : ∃ reply, asked.replyTo request = some reply := by
    rcases asks with rfl | rfl
    · exact ⟨_, rfl⟩
    · exact ⟨_, rfl⟩
  obtain ⟨final, took⟩ := step_request protobuf write askedWired askedPresent ready answer
  refine ⟨final, _, reply, answer, took, ?_⟩
  rw [← quietIff, deliveries_append]
  have notMeanwhile (bytes : Bytes) :
      (.read scl (.data request) write, bytes) ∉ deliveries scl meanwhile := by
    intro membership
    obtain ⟨outputs, inside, -⟩ := mem_deliveries.mp membership
    have among := (machine protobuf).run_events waited ▸ List.mem_map_of_mem (f := Prod.fst) inside
    exact others _ among rfl
  cases earlier : deliveries scl meanwhile with
  | nil => by_cases written : write scl = .complete <;> simp [deliveries, packetsTo, written]
  | cons first rest =>
      refine iff_of_false (fun head => ?_) (by simp)
      obtain rfl : first = (.read scl (.data request) write, reply) := by simpa using head
      exact notMeanwhile reply (earlier ▸ List.mem_cons_self)

def pingRequest : Message := { channel := 0, flags := 0x0b, content := [0x00, 0x0b, 0x08, 0x05] }

/-- A client asks for the service descriptor while the head unit sends a ping. -/
theorem request_reply_matching_ping :
    ∃ asked meanwhile final outputs reply,
      (machine .small).run (initial.accept 1 10 fun _ => 0)
        [.headunit pingRequest .failed fun _ => .complete] = some (asked, meanwhile) ∧
      (machine .small).step asked
        (.read 1 (.data AAClient.serviceDescriptorRequest) fun _ => .complete) =
          some (final, outputs) ∧
      (deliveries 1 (meanwhile ++ [(.read 1 (.data AAClient.serviceDescriptorRequest) fun _ =>
        .complete, outputs)])).head? =
          some (.read 1 (.data AAClient.serviceDescriptorRequest) fun _ => .complete, reply) := by
  have reached : (machine .small).run initial [] = some (initial, []) := rfl
  have connected : (machine .small).step initial (.connect 1 10 fun _ => 0) =
      some (initial.accept 1 10 fun _ => 0, []) := rfl
  obtain ⟨asked, meanwhile, waited⟩ : ∃ asked meanwhile,
      (machine .small).run (initial.accept 1 10 fun _ => 0)
        [.headunit pingRequest .failed fun _ => .complete] = some (asked, meanwhile) := ⟨_, _, rfl⟩
  obtain ⟨final, outputs, reply, -, took, matching⟩ :=
    request_reply_matching .small (fun _ => .complete) reached connected
      (by simp [Event.actor]) waited (.inl rfl)
  refine ⟨asked, meanwhile, final, outputs, reply, waited, took, matching.mpr ⟨rfl, ?_⟩⟩
  refine ⟨?_, fun _ _ _ => trivial⟩
  rintro ⟨recipients, bytes, earlier, scl, later, routed, -⟩
  cases routed

/-- A focus response that is broadcast between the connect and the reply is taken for it. -/
theorem broadcast_overtakes_reply :
    ∃ final trace, (machine .small).run initial
      [.connect 1 10 fun _ => 0,
        .headunit { channel := 0, flags := 0x0b, content := [0x00, 0x13, 0x08, 0x01] } .failed
          fun _ => .complete,
        .read 1 (.data AAClient.serviceDescriptorRequest) fun _ => .complete] =
        some (final, trace) ∧
      (deliveries 1 trace).map Prod.snd = [[0x00, 0x00, 0x00, 0x13, 0x08, 0x01], []] ∧
      final.replyTo AAClient.serviceDescriptorRequest = some [] := by
  exact ⟨_, _, rfl, rfl, rfl⟩

end AAServer

end AACS
