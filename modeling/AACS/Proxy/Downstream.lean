import AACS.Proxy.System
import AACS.Proxy.Transparency
import AACS.Server.Recipients
import AACS.Server.Unsolicited

/-!
From the head unit to the phone, through both programs.

What `AAClient` hears of the head unit's messages becomes a packet in the socket, and its
reading thread makes a message for the phone of the packet. However the threads of the two
programs take turns, the messages for the phone are those that `AAClient` hears, each once
and in order, but for those that still wait in the socket.
-/

namespace AACS

open Effects Transitions

def Message.relayed (specific : Bool) (message : Message) : Message where
  channel := message.channel
  flags := if specific then 0x0f else 0x0b
  content := message.content

def forPhone : Bytes → Option Message
  | channel :: specific :: content =>
      some { channel, flags := if specific != 0 then 0x0f else 0x0b, content }
  | _ => none

/-- A packet with a message of the head unit, whole in the buffer of the reading thread. -/
def IsBroadcast (packet : Bytes) : Prop :=
  packet.length ≤ AAClient.readerBufSize ∧
    ∃ channel specific content, packet = AAServer.packetFor channel specific content

def IsRawData (packet : Bytes) : Prop :=
  ∃ channel specific data, packet = AAServer.PacketType.RawData.code :: channel :: specific :: data

namespace AAClient

section Reading

variable {protobuf : Protobuf} {session next : Session} {channel : UInt8} {specific : Bool}
  {content : Bytes} {log : List Output}

theorem readerThread_run (state : State) (whole : content.length + 2 ≤ readerBufSize) :
    (readerThread (AAServer.packetFor channel specific content)).run state =
      match state.channelHandlers channel with
      | none => ⟨.error .undefinedBehaviour, state, []⟩
      | some _ =>
          ⟨.ok (), state, [.enqueue channel (if specific then 0x0f else 0x0b) content]⟩ := by
  have kept : (AAServer.packetFor channel specific content).take readerBufSize =
      AAServer.packetFor channel specific content :=
    List.take_of_length_le whole
  rw [readerThread, kept]
  simp only [AAServer.packetFor, sendMessagePublic, Act.run_bind, Act.run_get, Act.andThen_ok]
  cases state.channelHandlers channel with
  | none => rfl
  | some handler => cases specific <;> rfl

theorem step_packet (session : Session) (whole : content.length + 2 ≤ readerBufSize) :
    (machine protobuf).step session (.packet (AAServer.packetFor channel specific content)) =
      if session.running = true ∧ (session.state.channelHandlers channel).isSome then
        some (session, [.enqueue channel (if specific then 0x0f else 0x0b) content])
      else none := by
  obtain ⟨state, phase, running⟩ := session
  simp only [machine, step, Event.phase, Event.body, Option.all_none, and_true, Act.run_bind,
    readerThread_run state whole]
  cases running with
  | false => simp
  | true => cases state.channelHandlers channel <;> rfl

end Reading

end AAClient

namespace System

/-- The turns of the server clean up, and write what they write to `AAClient`. -/
def Steady (protobuf : Protobuf) (scl : Nat) (current : System) (event : Event) : Prop :=
  (∀ own ∈ current.serverTurn scl event, AAServer.Orderly protobuf current.server own) ∧
    ∀ message accept write, event = .server (.headunit message accept write) →
      AAServer.Writes write ∧ write scl = .complete ∧
        message.content.length + 2 ≤ AAClient.readerBufSize

def packetsHeard (scl : Nat) (current : System) : Event → List Bytes
  | .server (.headunit message _ _) =>
      if current.server.hears scl message then [current.server.heard message] else []
  | _ => []

/-- The message for the phone that a message of the head unit is to become, if `AAClient`
hears it. -/
def heardByClient (scl : Nat) (current : System) (event : Event) (_ : List Output) :
    List Message :=
  match event with
  | .server (.headunit message _ _) =>
      if current.server.hears scl message then [message.relayed (current.server.marks message)]
      else []
  | _ => []

def putForPhone (_ : System) (event : Event) (outputs : List Output) : List Message :=
  match event with
  | .clientReads => AAClient.queued (outputs.filterMap fun
      | .client output => some output
      | .server _ => none)
  | _ => []

def waitingForPhone (current : System) : List Message := current.toClient.filterMap forPhone

structure Flowing (current : System) : Prop where
  sound : current.server.Sound
  toServer : ∀ packet ∈ current.toServer, IsRawData packet
  toClient : ∀ packet ∈ current.toClient, IsBroadcast packet

section Turns

variable {protobuf : Protobuf} {scl : Nat} {current next : System} {event : Event}
  {outputs : List Output}

theorem forPhone_packetFor (channel : UInt8) (specific : Bool) (content : Bytes) :
    forPhone (AAServer.packetFor channel specific content) =
      some { channel, flags := if specific then 0x0f else 0x0b, content } := by
  cases specific <;> rfl

theorem packets_of_turn {own : AAServer.Event} {server : AAServer.State}
    {log : List AAServer.Output} (flowing : current.Flowing)
    (steady : current.Steady protobuf scl event)
    (turn : current.serverTurn scl event = some own)
    (ran : (AAServer.machine protobuf).step current.server own = some (server, log)) :
    AAServer.packetsTo scl log = current.packetsHeard scl event := by
  have heard := @AAServer.State.Sound.turn_packets protobuf current.server server own log scl
    flowing.sound
  cases event with
  | server inner =>
      simp only [serverTurn] at turn
      split at turn
      · cases turn
      next other =>
      cases turn
      have asksNothing : AAServer.AsksNothing scl own :=
        fun acts => .inl (readsFrom_actor (Bool.eq_false_iff.mpr other) acts)
      rw [heard (.inl asksNothing) (fun message accept write brings => by
        obtain ⟨writes, complete, -⟩ := steady.2 message accept write (congrArg Event.server brings)
        exact ⟨writes, complete⟩) ran]
      cases own <;> rfl
  | serverReads write =>
      obtain ⟨packet, first, rfl⟩ := Option.map_eq_some_iff.mp turn
      obtain ⟨channel, specific, data, rfl⟩ :=
        flowing.toServer packet (List.mem_of_mem_head? first)
      exact heard (.inl fun _ => .inr ⟨channel, specific, data, write, rfl⟩) nofun ran
  | hangUp write =>
      simp only [serverTurn] at turn
      split at turn
      · cases turn
        exact heard (.inr ⟨write, rfl⟩) nofun ran
      · cases turn
  | client | clientReads => cases turn

theorem isRawData_of_forwards {state : AAClient.State} {msg : Message} {packet : Bytes}
    (membership : packet ∈ state.forwards msg) : IsRawData packet := by
  rcases AAClient.mem_forwards membership with rfl | rfl <;> exact ⟨_, _, _, rfl⟩

/-- What `AAClient` writes to the server is raw data. -/
theorem isRawData_of_packets {session after : AAClient.Session} {own : AAClient.Event}
    {log : List AAClient.Output}
    (ran : (AAClient.machine protobuf).step session own = some (after, log)) :
    ∀ packet ∈ AAClient.packets log, IsRawData packet := by
  rw [AAClient.step_packets ran]
  intro packet membership
  cases own with
  | message msg outside =>
      simp only [AAClient.Event.forwards] at membership
      split at membership
      · exact isRawData_of_forwards membership
      · cases membership
  | packet | versionResponse | handshake => cases membership

theorem forPhone_heard (scl : Nat) (current : System) (event : Event) (outputs : List Output) :
    (current.packetsHeard scl event).filterMap forPhone =
      heardByClient scl current event outputs := by
  unfold packetsHeard heardByClient
  split
  · split
    · simp [AAServer.State.heard, forPhone_packetFor, Message.relayed]
    · rfl
  · rfl

theorem isBroadcast_heard (steady : current.Steady protobuf scl event) :
    ∀ packet ∈ current.packetsHeard scl event, IsBroadcast packet := by
  intro packet membership
  unfold packetsHeard at membership
  split at membership
  next message accept write =>
    obtain ⟨-, -, whole⟩ := steady.2 message accept write rfl
    split at membership
    · cases List.mem_singleton.mp membership
      exact ⟨whole, _, _, _, rfl⟩
    · cases membership
  next => cases membership

theorem mem_unreadByServer {packet : Bytes} (membership : packet ∈ current.unreadByServer event) :
    packet ∈ current.toServer := by
  cases event with
  | serverReads => exact List.mem_of_mem_tail membership
  | server | hangUp | client | clientReads => exact membership

theorem mem_unreadByClient {packet : Bytes} (membership : packet ∈ current.unreadByClient event) :
    packet ∈ current.toClient := by
  cases event with
  | clientReads => exact List.mem_of_mem_tail membership
  | server | serverReads | hangUp | client => exact membership

theorem read_by_client {own : AAClient.Event} {client : AAClient.Session}
    {log : List AAClient.Output} (flowing : current.Flowing)
    (turn : current.clientTurn event = some own)
    (ran : (AAClient.machine protobuf).step current.client own = some (client, log)) :
    current.toClient.filterMap forPhone =
      putForPhone current event (log.map .client) ++
        (current.unreadByClient event).filterMap forPhone := by
  cases event with
  | clientReads =>
      obtain ⟨packet, first, rfl⟩ := Option.map_eq_some_iff.mp turn
      obtain ⟨rest, waiting⟩ := List.head?_eq_some_iff.mp first
      obtain ⟨whole, channel, specific, content, rfl⟩ :=
        flowing.toClient packet (List.mem_of_mem_head? first)
      rw [AAClient.step_packet current.client whole] at ran
      split at ran
      · cases ran
        simp [waiting, forPhone_packetFor, putForPhone, unreadByClient, AAClient.queued]
      · cases ran
  | client => rfl
  | server | serverReads | hangUp => rfl

theorem step_flows (flowing : current.Flowing) (steady : current.Steady protobuf scl event)
    (took : (system protobuf scl).step current event = some (next, outputs)) :
    next.Flowing ∧
      current.waitingForPhone ++ heardByClient scl current event outputs =
        putForPhone current event outputs ++ next.waitingForPhone := by
  rcases step_turn took with ⟨own, server, log, turn, ran, same⟩ |
    ⟨own, client, log, none, turn, ran, same⟩
  · cases same
    have written := packets_of_turn flowing steady turn ran
    have silent : putForPhone current event (log.map .server) = [] := by
      cases event with
      | clientReads => cases turn
      | server | serverReads | hangUp | client => rfl
    refine ⟨⟨AAServer.orderly_sound flowing.sound (steady.1 own turn) ran,
      fun packet membership => flowing.toServer packet (mem_unreadByServer membership),
      fun packet membership => ?_⟩, ?_⟩
    · rw [written] at membership
      rcases List.mem_append.mp membership with old | new
      · exact flowing.toClient packet old
      · exact isBroadcast_heard steady packet new
    · rw [silent, List.nil_append, waitingForPhone, waitingForPhone, written,
        List.filterMap_append, forPhone_heard]
  · cases same
    have moved := read_by_client flowing turn ran
    have silent : heardByClient scl current event (log.map .client) = [] := by
      cases event with
      | server | serverReads | hangUp => cases turn
      | client | clientReads => rfl
    refine ⟨⟨flowing.sound, fun packet membership => ?_, fun packet membership =>
      flowing.toClient packet (mem_unreadByClient membership)⟩, ?_⟩
    · rcases List.mem_append.mp membership with old | new
      · exact flowing.toServer packet old
      · exact isRawData_of_packets ran packet new
    · rw [silent, List.append_nil]
      exact moved

theorem clientReads_enabled (flowing : current.Flowing) (running : current.client.running = true)
    (waiting : current.toClient ≠ [])
    (installed : ∀ packet ∈ current.toClient.head?, ∀ channel ∈ packet.head?,
      (current.client.state.channelHandlers channel).isSome) :
    ∃ after outputs, (system protobuf scl).step current .clientReads = some (after, outputs) := by
  obtain ⟨packet, rest, first⟩ := List.exists_cons_of_ne_nil waiting
  obtain ⟨whole, channel, specific, content, rfl⟩ :=
    flowing.toClient packet (by simp [first])
  have handled := installed _ (by rw [first]; rfl) channel rfl
  have short : content.length + 2 ≤ AAClient.readerBufSize := whole
  have taken := @AAClient.step_packet protobuf channel specific content current.client short
  rw [if_pos ⟨running, handled⟩] at taken
  simp only [system, step, serverTurn, clientTurn, first, List.head?_cons, Option.map_some, taken]
  exact ⟨_, _, rfl⟩

end Turns

end System

/-- In every steady run of the two programs the messages that the reading thread of `AAClient` hands
on to the phone, and those that still wait for it, are the messages of the head unit that
`AAClient` hears, in order; and the thread is never stuck. -/
theorem headunit_to_phone {protobuf : Protobuf} {scl : Nat} {past : List AAServer.Event}
    {record : List (AAServer.Event × List AAServer.Output)} {start final : System}
    {events : List System.Event} {trace : List (System.Event × List System.Output)}
    (cleaned : (AAServer.machine protobuf).Within (AAServer.Orderly protobuf) AAServer.initial past)
    (reached : (AAServer.machine protobuf).run AAServer.initial past = some (start.server, record))
    (unread : ∀ packet ∈ start.toServer, IsRawData packet)
    (pending : ∀ packet ∈ start.toClient, IsBroadcast packet)
    (steady : (system protobuf scl).Within (System.Steady protobuf scl) start events)
    (ran : (system protobuf scl).run start events = some (final, trace)) :
    start.waitingForPhone ++
        (system protobuf scl).observations (System.heardByClient scl) start events =
      (system protobuf scl).observations System.putForPhone start events ++
        final.waitingForPhone ∧
      (final.client.running = true → final.toClient ≠ [] →
        (∀ packet ∈ final.toClient.head?, ∀ channel ∈ packet.head?,
          (final.client.state.channelHandlers channel).isSome) →
        ∃ after outputs,
          (system protobuf scl).step final .clientReads = some (after, outputs)) := by
  have flowing : start.Flowing := ⟨AAServer.run_sound cleaned reached, unread, pending⟩
  refine ⟨(system protobuf scl).run_fifo System.step_flows flowing steady ran, ?_⟩
  intro running waiting installed
  have kept := (system protobuf scl).run_invariant
    (fun flowing steady took => (System.step_flows flowing steady took).1) flowing steady ran
  exact System.clientReads_enabled kept running waiting installed

/-- The two programs after the discovery of the services, with nothing in the socket. -/
def relaying (server : AAServer.State) : System where
  server
  client := { state := discoveredClient, phase := .dispatching }
  toClient := []
  toServer := []

def audioFromHeadunit : System.Event :=
  .server (.headunit audioMessage .failed fun _ => .complete)

theorem headunit_to_phone_audio :
    ∃ server record final trace,
      (AAServer.machine .small).run AAServer.initial discovery = some (server, record) ∧
      (system .small 1).run (relaying server) [audioFromHeadunit, .clientReads] =
        some (final, trace) ∧
      (relaying server).waitingForPhone ++ (system .small 1).observations
          (System.heardByClient 1) (relaying server) [audioFromHeadunit, .clientReads] =
        (system .small 1).observations System.putForPhone (relaying server)
          [audioFromHeadunit, .clientReads] ++ final.waitingForPhone := by
  obtain ⟨server, record, reached⟩ : ∃ server record,
      (AAServer.machine .small).run AAServer.initial discovery = some (server, record) :=
    ⟨_, _, rfl⟩
  have cleaned : (AAServer.machine .small).Within (AAServer.Orderly .small) AAServer.initial
      discovery := ⟨trivial, fun _ _ _ => ⟨trivial, fun _ _ _ => trivial⟩⟩
  have steady : (system .small 1).Within (System.Steady .small 1) (relaying server)
      [audioFromHeadunit, .clientReads] := by
    refine ⟨⟨?_, ?_⟩, fun next outputs took => ⟨⟨?_, ?_⟩, fun _ _ _ => trivial⟩⟩
    · rintro own ⟨⟩
      trivial
    · rintro message accept write ⟨⟩
      exact ⟨by simp [AAServer.Writes], rfl, by decide⟩
    · rintro own ⟨⟩
    · rintro message accept write ⟨⟩
  obtain ⟨final, trace, ran⟩ : ∃ final trace, (system .small 1).run (relaying server)
      [audioFromHeadunit, .clientReads] = some (final, trace) := by
    cases reached
    exact ⟨_, _, rfl⟩
  exact ⟨server, record, final, trace, reached, ran, (headunit_to_phone cleaned reached
    (by simp [relaying]) (by simp [relaying]) steady ran).1⟩

end AACS
