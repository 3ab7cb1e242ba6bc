import AACS.Client.Presence
import AACS.Server.Discovery
import AACS.Server.Replies
import AACS.Server.Tables

/-!
The way of a service descriptor from the head unit to the phone.

`AAServer` stores the body of the message and writes it as one packet to a client that
asks; `AAClient` reads that packet into a buffer of its own and puts the type back in
front when the phone asks.
-/

namespace AACS

open Effects Transitions

namespace AAClient

/-- Whatever the client has done with this descriptor, it answers the phone with the
content. -/
def Answers (protobuf : Protobuf) (sd content : Bytes) : Prop :=
  ∀ history session trace request outside,
    (machine protobuf).run (Session.start sd) history = some (session, trace) →
    session.running → session.phase = .dispatching →
    hasType request.content MessageType.ServiceDiscoveryRequest.code →
    ∃ next flags, (machine protobuf).step session (.message request outside) =
      some (next, [.enqueue 0 flags content])

section Answering

variable {protobuf : Protobuf} {sd content : Bytes}

theorem step_request {session : Session} {request : Message} (outside : Outside)
    (running : session.running) (dispatching : session.phase = .dispatching)
    (asks : hasType request.content MessageType.ServiceDiscoveryRequest.code)
    (small : ∀ channel ∈ protobuf.serviceDiscoveryResponse_channels
      session.state.serviceDescription, channel.channel_id < 255) :
    ∃ next, (machine protobuf).step session (.message request outside) =
      some (next, [.enqueue 0 (encryptedBulk ||| MessageTypeFlags.Control.mask)
        (AAServer.serviceDiscoveryResponse session.state.serviceDescription)]) := by
  rcases bytes : request.content with _ | ⟨high, _ | ⟨low, rest⟩⟩
  · simp [hasType, bytes] at asks
  · simp [hasType, bytes] at asks
  have type : bigEndian16 high low = MessageType.ServiceDiscoveryRequest.code := by
    simpa [hasType, bytes] using asks
  have answered : ((Event.message request outside).body protobuf session.phase).run
      session.state = ⟨.ok session.phase,
        (protobuf.serviceDiscoveryResponse_channels session.state.serviceDescription).foldl
          State.install session.state,
        [.enqueue 0 (encryptedBulk ||| MessageTypeFlags.Control.mask)
          (AAServer.serviceDiscoveryResponse session.state.serviceDescription)]⟩ := by
    simp only [Event.body, Act.run_bind, dispatch_run outside bytes, if_pos type,
      handleServiceDiscoveryRequest_run small, Act.andThen_ok, Act.run_pure]
    rfl
  exact ⟨_, step_ok running (by simp [Event.phase, dispatching]) answered⟩

theorem answers_iff :
    Answers protobuf sd content ↔ content = AAServer.serviceDiscoveryResponse sd ∧
      ∀ channel ∈ protobuf.serviceDiscoveryResponse_channels sd, channel.channel_id < 255 := by
  constructor
  · intro answers
    obtain ⟨session, trace, ran, running, dispatching, description⟩ : ∃ session trace,
        (machine protobuf).run (Session.start sd)
          [.versionResponse ⟨0, 3, [0, 2, 0, 1, 0, 5, 0, 0], 0⟩ .complete] =
            some (session, trace) ∧
        session.running = true ∧ session.phase = .dispatching ∧
        session.state.serviceDescription = sd := ⟨_, _, rfl, rfl, rfl, rfl⟩
    obtain ⟨next, flags, took⟩ := answers _ session trace ⟨0, 0x0b, [0, 5], 0⟩ {} ran running
      dispatching rfl
    have small := (step_discovers rfl took).2
    obtain ⟨other, answered⟩ := @step_request protobuf session ⟨0, 0x0b, [0, 5], 0⟩ {} running
      dispatching rfl small
    rw [took] at answered
    simp only [Option.some.injEq, Prod.mk.injEq, List.cons.injEq, Output.enqueue.injEq,
      description] at answered
    exact ⟨answered.2.1.2.2, description ▸ small⟩
  · rintro ⟨rfl, small⟩ history session trace request outside ran running dispatching asks
    have description := (run_follows ran).description
    obtain ⟨next, took⟩ := step_request outside running dispatching asks (description ▸ small)
    rw [description] at took
    exact ⟨next, _, took⟩

end Answering

end AAClient

open AAServer in
/-- A client that asks the server next reads this answer and nothing else, and what it
makes of it answers the phone with the content. -/
def Relayed (protobuf : Protobuf) (server : State) (trace : List (Event × List Output)) (scl : Nat)
    (write : Nat → WriteResult) (content : Bytes) : Prop :=
  ∃ after outputs answer sd,
    (machine protobuf).step server (.read scl (.data AAClient.serviceDescriptorRequest) write) =
      some (after, outputs) ∧
    (deliveries scl (trace ++
      [(.read scl (.data AAClient.serviceDescriptorRequest) write, outputs)])).map Prod.snd =
        [answer] ∧
    AAClient.getServiceDescriptor true (.data answer) = .ok sd ∧
    AAClient.Answers protobuf sd content

section Relay

open AAServer

variable {protobuf : Protobuf}

/-- The stored descriptor is the body of the last message with one. -/
theorem stored_descriptor {history between : List Event} {message : Message} {accept : Accept}
    {write : Nat → WriteResult} {server : State} {trace : List (Event × List Output)}
    {body : Bytes}
    (ran : (machine protobuf).run initial
      (history ++ .headunit message accept write :: between) = some (server, trace))
    (later : ∀ event ∈ between, event.discovers = false) (control : message.channel = 0)
    (content : message.content = serviceDiscoveryResponse body) :
    server.serviceDescriptor = body := by
  obtain ⟨before, early, late, first, second, -⟩ := (machine protobuf).run_append_eq_some.mp ran
  obtain ⟨found, outputs, rest, took, continued, -⟩ := (machine protobuf).run_cons_eq_some.mp second
  have wired := step_wired (run_wired first) took
  obtain ⟨-, after, -⟩ := discovery_turn (isServiceDiscoveryResponse_of control content) took
  have body_eq : message.content.drop 2 = body := by
    rw [content]
    rfl
  have stored : found.serviceDescriptor = body := by
    rw [after, body_eq]
    exact discover_serviceDescriptor before protobuf accept body
  clear took second ran after
  induction between generalizing found rest with
  | nil =>
      obtain ⟨rfl, -⟩ : found = server ∧ [] = rest := by simpa using continued
      exact stored
  | cons event between inductionHypothesis =>
      obtain ⟨next, put, tail, step, further, -⟩ :=
        (machine protobuf).run_cons_eq_some.mp continued
      exact inductionHypothesis (fun other membership => later other (by simp [membership]))
        next tail further (step_wired wired step)
        ((step_sameDescription wired (later event (by simp)) step).serviceDescriptor.trans stored)

theorem getServiceDescriptor_data {body : Bytes} (data : body ≠ []) :
    AAClient.getServiceDescriptor true (.data body) =
      .ok (body.take AAClient.descriptorBufSize) := by
  rcases body with _ | ⟨first, rest⟩
  · exact absurd rfl data
  · rfl

/-- A client that asks a server for this descriptor. -/
theorem relayed_iff {server : State} {trace : List (Event × List Output)} {body : Bytes} {scl : Nat}
    {client : SocketClient} {answering : Nat → WriteResult} (wired : server.Wired)
    (stored : server.serviceDescriptor = body) (data : body ≠ [])
    (present : server.sockets scl = some client) (ready : client.thread = .reading)
    (alone : deliveries scl trace = []) (written : answering scl = .complete) :
    Relayed protobuf server trace scl answering (serviceDiscoveryResponse body) ↔
      body.length ≤ AAClient.descriptorBufSize ∧
        ∀ channel ∈ protobuf.serviceDiscoveryResponse_channels body, channel.channel_id < 255 := by
  have reply : server.replyTo AAClient.serviceDescriptorRequest = some body := by
    rw [← stored]
    rfl
  obtain ⟨after, took⟩ := step_request protobuf answering wired present ready reply
  rw [if_pos written] at took
  have delivered : (deliveries scl (trace ++
      [(.read scl (.data AAClient.serviceDescriptorRequest) answering,
        [.packet scl body])])).map Prod.snd = [body] := by
    rw [deliveries_append, alone]
    simp [deliveries, packetsTo]
  constructor
  · rintro ⟨next, outputs, answer, sd, asked, only, taken, answers⟩
    rw [took] at asked
    cases asked
    obtain rfl : body = answer := by simpa using delivered.symm.trans only
    rw [getServiceDescriptor_data data] at taken
    cases taken
    obtain ⟨same, small⟩ := AAClient.answers_iff.mp answers
    have whole : body = body.take AAClient.descriptorBufSize := List.append_cancel_left same
    exact ⟨List.take_eq_self_iff _ |>.mp whole.symm, whole ▸ small⟩
  · rintro ⟨fits, small⟩
    refine ⟨after, _, body, body, took, delivered, ?_, AAClient.answers_iff.mpr ⟨rfl, small⟩⟩
    rw [getServiceDescriptor_data data, List.take_of_length_le fits]

/-- A descriptor gets to the phone as it is exactly when it fits the buffer of the client
and each of its channels has an entry in the client's table. -/
theorem descriptor_relayed_iff {history between : List Event} {message : Message} {accept : Accept}
    {write : Nat → WriteResult} {server : State} {trace : List (Event × List Output)}
    {body : Bytes} {scl : Nat} {client : SocketClient} {answering : Nat → WriteResult}
    (ran : (machine protobuf).run initial
      (history ++ .headunit message accept write :: between) = some (server, trace))
    (later : ∀ event ∈ between, event.discovers = false) (control : message.channel = 0)
    (content : message.content = serviceDiscoveryResponse body) (data : body ≠ [])
    (present : server.sockets scl = some client) (ready : client.thread = .reading)
    (alone : deliveries scl trace = []) (written : answering scl = .complete) :
    Relayed protobuf server trace scl answering message.content ↔
      body.length ≤ AAClient.descriptorBufSize ∧
        ∀ channel ∈ protobuf.serviceDiscoveryResponse_channels body, channel.channel_id < 255 := by
  rw [content]
  exact relayed_iff (run_wired ran) (stored_descriptor ran later control content) data present
    ready alone written

def described (body : Bytes) : List Event :=
  [.connect 1 10 fun _ => 0,
    .headunit ⟨0, 0x0b, serviceDiscoveryResponse body, 0⟩ .failed fun _ => .complete]

theorem descriptor_relayed_input_channel :
    ∃ server trace,
      (machine .small).run initial (described [0x0a, 0x04, 0x08, 7, 0x22, 0x00]) =
        some (server, trace) ∧
      Relayed .small server trace 1 (fun _ => .complete)
        (serviceDiscoveryResponse [0x0a, 0x04, 0x08, 7, 0x22, 0x00]) := by
  obtain ⟨server, trace, client, ran, present, ready, alone⟩ : ∃ server trace client,
      (machine .small).run initial (described [0x0a, 0x04, 0x08, 7, 0x22, 0x00]) =
        some (server, trace) ∧
      server.sockets 1 = some client ∧ client.thread = .reading ∧ deliveries 1 trace = [] :=
    ⟨_, _, _, rfl, rfl, rfl, rfl⟩
  exact ⟨server, trace, ran, (@descriptor_relayed_iff .small [.connect 1 10 fun _ => 0] [] _ _ _ _ _
    _ 1 client (fun _ => .complete) ran (by simp) rfl rfl (by decide) present ready alone rfl).mpr
      (by decide)⟩

/-- One byte more than the buffer of the client has room for. -/
theorem long_descriptor_cut_off :
    ∃ server trace,
      (machine .small).run initial (described (List.replicate 10241 0)) = some (server, trace) ∧
      ¬ Relayed .small server trace 1 (fun _ => .complete)
        (serviceDiscoveryResponse (List.replicate 10241 0)) := by
  obtain ⟨server, trace, client, ran, present, ready, alone⟩ : ∃ server trace client,
      (machine .small).run initial (described (List.replicate 10241 0)) = some (server, trace) ∧
      server.sockets 1 = some client ∧ client.thread = .reading ∧ deliveries 1 trace = [] :=
    ⟨_, _, _, rfl, rfl, rfl, rfl⟩
  have stored := @stored_descriptor .small [.connect 1 10 fun _ => 0] [] _ _ _ _ _
    (List.replicate 10241 0) ran (by simp) rfl rfl
  refine ⟨server, trace, ran, fun relayed => ?_⟩
  have data : List.replicate 10241 (0 : UInt8) ≠ [] := fun empty => by
    have count := congrArg List.length empty
    rw [List.length_replicate] at count
    cases count
  have fits := ((relayed_iff (run_wired ran) stored data present ready alone rfl).mp relayed).1
  rw [List.length_replicate] at fits
  exact absurd fits (by decide)

end Relay

end AACS
