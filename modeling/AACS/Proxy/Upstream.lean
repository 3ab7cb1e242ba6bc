import AACS.Proxy.Downstream
import AACS.Server.ChannelTypes
import AACS.Server.Streaming

/-!
From the phone to the head unit, through both programs.

What `AAClient` makes of a message of the phone waits in the socket until the thread of the
server reads it. Of the packets for default channels that thread makes messages for the head
unit, each once and in order, whatever else the two programs do meanwhile. While the thread
opens an input channel it does not read, and everything behind waits.
-/

namespace AACS

open Effects Transitions

/-- The message for the head unit that a packet of `AAClient` becomes, if the handler of its
channel passes it on. -/
def forHeadunit (state : AAServer.State) : Bytes → Option Message
  | _ :: channel :: specific :: data =>
      if state.kindAt channel = some none then
        some { channel, flags := if specific != 0 then 0x0f else 0x0b, content := data }
      else none
  | _ => none

namespace AAServer

section Reading

variable {protobuf : Protobuf} {state next : State} {scl : Nat} {outputs : List Output}
  {channel specific : UInt8} {data : Bytes} {write : Nat → WriteResult}

theorem queued_rawData (wired : state.Wired) (tabled : state.Tabled)
    (short : data.length ≤ clientBufSize - 3)
    (took : (machine protobuf).step state
      (.read scl (.data (PacketType.RawData.code :: channel :: specific :: data)) write) =
        some (next, outputs)) :
    queued outputs =
      (forHeadunit state (PacketType.RawData.code :: channel :: specific :: data)).toList := by
  obtain ⟨client, present, ready⟩ := step_read_ready took
  obtain ⟨clientId, known⟩ := wired.known present (by simp [ready])
  rw [step_read_packet protobuf write present ready (by simp), packet_data,
    List.take_of_length_le short] at took
  have put := @queued_gotPacket
    (state.buffered scl client (.data (PacketType.RawData.code :: channel :: specific :: data)))
    scl ⟨PacketType.RawData.code, channel, specific, data⟩ clientId write tabled known rfl
  rw [finishClient_log took, put, forHeadunit]
  change (if state.kindAt channel = some none then _ else _) = _
  split <;> rfl

theorem rawData_enabled {client : SocketClient} (wired : state.Wired) (tabled : state.Tabled)
    (present : state.sockets scl = some client) (ready : client.thread = .reading)
    (short : data.length ≤ clientBufSize - 3) (write : Nat → WriteResult) :
    ∃ next outputs, (machine protobuf).step state
      (.read scl (.data (PacketType.RawData.code :: channel :: specific :: data)) write) =
        some (next, outputs) := by
  obtain ⟨clientId, known⟩ := wired.known present (by simp [ready])
  rw [step_read_packet protobuf write present ready (by simp), packet_data,
    List.take_of_length_le short]
  obtain ⟨next, outputs, took, -⟩ := @rawData_turn
    (state.buffered scl client (.data (PacketType.RawData.code :: channel :: specific :: data)))
    scl ⟨PacketType.RawData.code, channel, specific, data⟩ clientId write known tabled rfl
  exact ⟨next, outputs, took⟩

end Reading

end AAServer

namespace System

/-- No new service descriptor comes, and what the phone sends fits the server's buffer. -/
def Settled (scl : Nat) (current : System) (event : Event) : Prop :=
  (∀ own ∈ current.serverTurn scl event, own.discovers = false) ∧
    ∀ msg outside, event = .client (.message msg outside) →
      msg.content.length ≤ AAServer.clientBufSize - 3

def sentByPhone (start : AAServer.State) (current : System) (event : Event) (_ : List Output) :
    List Message :=
  match event with
  | .client own => (own.forwards current.client.state).filterMap (forHeadunit start)
  | _ => []

def putForHeadunit (_ : System) (event : Event) (outputs : List Output) : List Message :=
  match event with
  | .serverReads _ => AAServer.queued (outputs.filterMap fun
      | .server output => some output
      | .client _ => none)
  | _ => []

def waitingForHeadunit (start : AAServer.State) (current : System) : List Message :=
  current.toServer.filterMap (forHeadunit start)

structure Rising (start : AAServer.State) (current : System) : Prop where
  wired : current.server.Wired
  tabled : current.server.Tabled
  table : start.SameTable current.server
  toServer : ∀ packet ∈ current.toServer, IsRawData packet ∧ packet.length ≤ AAServer.clientBufSize

section Turns

variable {protobuf : Protobuf} {scl : Nat} {start : AAServer.State} {current next : System}
  {event : Event} {outputs : List Output}

theorem forHeadunit_sameTable {later : AAServer.State} (same : start.SameTable later)
    (tabled : start.Tabled) (packet : Bytes) :
    forHeadunit later packet = forHeadunit start packet := by
  unfold forHeadunit
  rw [same.kindAt tabled]

theorem length_of_forwards {state : AAClient.State} {msg : Message} {packet : Bytes}
    (membership : packet ∈ state.forwards msg) : packet.length ≤ msg.content.length + 3 := by
  rcases AAClient.mem_forwards membership with rfl | rfl
  · simp [Message.rawData]
  · simp

theorem read_by_server {own : AAServer.Event} {server : AAServer.State}
    {log : List AAServer.Output} (startTabled : start.Tabled) (rising : current.Rising start)
    (turn : current.serverTurn scl event = some own)
    (ran : (AAServer.machine protobuf).step current.server own = some (server, log)) :
    current.toServer.filterMap (forHeadunit start) =
      putForHeadunit current event (log.map .server) ++
        (current.unreadByServer event).filterMap (forHeadunit start) := by
  cases event with
  | serverReads write =>
      obtain ⟨packet, first, rfl⟩ := Option.map_eq_some_iff.mp turn
      obtain ⟨rest, waiting⟩ := List.head?_eq_some_iff.mp first
      obtain ⟨⟨channel, specific, data, rfl⟩, short⟩ :=
        rising.toServer packet (List.mem_of_mem_head? first)
      have room : data.length ≤ AAServer.clientBufSize - 3 := by
        simp only [List.length_cons] at short
        omega
      have put := AAServer.queued_rawData rising.wired rising.tabled room ran
      rw [forHeadunit_sameTable rising.table startTabled] at put
      have same : putForHeadunit current (.serverReads write) (log.map .server) =
          AAServer.queued log := by
        simp [putForHeadunit, List.filterMap_map]
      rw [same, put, waiting, unreadByServer, waiting, List.tail_cons, List.filterMap_cons]
      cases forHeadunit start (AAServer.PacketType.RawData.code :: channel :: specific :: data) <;>
        rfl
  | server | hangUp => rfl
  | client | clientReads => cases turn

/-- A turn of the client is one of `setup`, or reads a packet and writes none. -/
theorem clientTurn_cases {own : AAClient.Event} (turn : current.clientTurn event = some own) :
    event = .client own ∨ event = .clientReads ∧ ∀ state, own.forwards state = [] := by
  cases event with
  | client inner =>
      simp only [clientTurn] at turn
      split at turn
      · cases turn
      · cases turn
        exact .inl rfl
  | clientReads =>
      obtain ⟨packet, -, rfl⟩ := Option.map_eq_some_iff.mp turn
      exact .inr ⟨rfl, fun _ => rfl⟩
  | server | serverReads | hangUp => cases turn

theorem step_rises (startTabled : start.Tabled) (rising : current.Rising start)
    (settled : current.Settled scl event)
    (took : (system protobuf scl).step current event = some (next, outputs)) :
    next.Rising start ∧
      current.waitingForHeadunit start ++ sentByPhone start current event outputs =
        putForHeadunit current event outputs ++ next.waitingForHeadunit start := by
  rcases step_turn took with ⟨own, server, log, turn, ran, same⟩ |
    ⟨own, client, log, none, turn, ran, same⟩
  · cases same
    have moved := read_by_server startTabled rising turn ran
    have silent : sentByPhone start current event (log.map .server) = [] := by
      cases event with
      | client => cases turn
      | server | serverReads | hangUp | clientReads => rfl
    refine ⟨⟨AAServer.step_wired rising.wired ran,
      AAServer.step_tabled rising.wired rising.tabled ran,
      trans_of AAServer.State.SameTable rising.table
        (AAServer.step_sameTable rising.wired (settled.1 own turn) ran),
      fun packet membership => rising.toServer packet (mem_unreadByServer membership)⟩, ?_⟩
    rw [silent, List.append_nil]
    exact moved
  · cases same
    have written := AAClient.step_packets ran
    have silent : putForHeadunit current event (log.map .client) = [] := by
      cases event with
      | serverReads => cases turn
      | server | hangUp | client | clientReads => rfl
    have sent : sentByPhone start current event (log.map .client) =
        (AAClient.packets log).filterMap (forHeadunit start) := by
      rcases clientTurn_cases turn with rfl | ⟨rfl, nothing⟩
      · rw [written]
        rfl
      · rw [written, nothing]
        rfl
    have fits : ∀ packet ∈ AAClient.packets log, packet.length ≤ AAServer.clientBufSize := by
      intro packet membership
      rw [written] at membership
      rcases clientTurn_cases turn with rfl | ⟨rfl, nothing⟩
      · cases own with
        | message msg outside =>
            have room := settled.2 msg outside rfl
            simp only [AAClient.Event.forwards] at membership
            split at membership
            · have long := length_of_forwards membership
              have big : 3 ≤ AAServer.clientBufSize := by decide
              omega
            · cases membership
        | packet | versionResponse | handshake => cases membership
      · rw [nothing] at membership
        cases membership
    refine ⟨⟨rising.wired, rising.tabled, rising.table, fun packet membership => ?_⟩, ?_⟩
    · rcases List.mem_append.mp membership with old | new
      · exact rising.toServer packet old
      · exact ⟨isRawData_of_packets ran packet new, fits packet new⟩
    · rw [silent, List.nil_append, waitingForHeadunit, waitingForHeadunit, sent,
        List.filterMap_append]

theorem serverReads_enabled (rising : current.Rising start) {client : AAServer.SocketClient}
    (present : current.server.sockets scl = some client) (ready : client.thread = .reading)
    (waiting : current.toServer ≠ []) (write : Nat → AAServer.WriteResult) :
    ∃ after outputs,
      (system protobuf scl).step current (.serverReads write) = some (after, outputs) := by
  obtain ⟨packet, rest, first⟩ := List.exists_cons_of_ne_nil waiting
  obtain ⟨⟨channel, specific, data, rfl⟩, short⟩ := rising.toServer packet (by simp [first])
  have room : data.length ≤ AAServer.clientBufSize - 3 := by
    simp only [List.length_cons] at short
    omega
  obtain ⟨server, log, taken⟩ := @AAServer.rawData_enabled protobuf current.server scl channel
    specific data client rising.wired rising.tabled present ready room write
  simp only [system, step, serverTurn, first, List.head?_cons, Option.map_some, taken]
  exact ⟨_, _, rfl⟩

end Turns

end System

/-- What the client passes on and the server has a default handler for arrives as it was sent. -/
theorem carried_of_forwarded {client : AAClient.State} {server : AAServer.State} {msg : Message}
    (eligible : Eligible client server msg) (zero : msg.channel = 0 → server.IsDefault 0)
    (other : msg.channel ≠ 0 → ¬ msg.hasType MessageType.ServiceDiscoveryRequest.code) :
    (client.forwards msg).filterMap (forHeadunit server) =
      [msg.relayed (isSpecific msg.flags)] := by
  obtain ⟨⟨typed, ordinary, control⟩, default, -⟩ := eligible
  have isDefault : server.kindAt msg.channel = some none := by
    obtain ⟨handler, found, kind⟩ : server.IsDefault msg.channel := by
      by_cases same : msg.channel = 0
      · rw [same]
        exact zero same
      · exact default same
    simp [AAServer.State.kindAt, found, kind, AAServer.HandlerKind.channelType]
  have carried : [msg.rawData].filterMap (forHeadunit server) =
      [msg.relayed (isSpecific msg.flags)] := by
    cases specific : isSpecific msg.flags <;>
      simp [forHeadunit, Message.rawData, Message.relayed, isDefault, specific]
  rw [← carried]
  congr 1
  rcases content : msg.content with _ | ⟨high, _ | ⟨low, rest⟩⟩
  · simp [content] at typed
  · simp [content] at typed
  simp only [AAClient.State.forwards, content]
  by_cases same : msg.channel = 0
  · obtain ⟨type, member, first, second, tail, split, rfl⟩ := control same
    rw [content] at split
    cases split
    have notDiscovery : bigEndian16 high low ≠ MessageType.ServiceDiscoveryRequest.code := by
      intro equal
      rw [equal] at member
      revert member
      decide
    rw [if_neg notDiscovery, if_neg (by simpa using same), if_pos member]
  · obtain ⟨handler, installed, kind⟩ := ordinary same
    have notDiscovery : bigEndian16 high low ≠ MessageType.ServiceDiscoveryRequest.code :=
      fun equal => other same ⟨high, low, rest, content, equal⟩
    rw [if_neg notDiscovery, if_pos same, installed, Option.map_some, kind]

def audioFromPhone : System.Event := .client (.message audioMessage {})

end AACS
