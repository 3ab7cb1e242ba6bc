import AACS.Proxy.Upstream
import AACS.Server.Listening

/-!
How the phone comes to hear the input events.

When the phone opens an input channel `AAClient` answers at once and writes a packet, which
makes the server register it. From the moment the server's thread has read that packet
`AAClient` hears every input event of the channel, until its thread ends.
-/

namespace AACS

open Effects Transitions

namespace System

def isRead : Event → Bool
  | .serverReads _ => true
  | _ => false

/-- What `AAClient` writes when the phone opens an input channel. -/
def registration (channel : UInt8) : Bytes := [AAServer.PacketType.RawData.code, channel, 0]

/-- As long as the server's thread has not read so many packets, the one that registers the
client waits at its position; afterwards the client listens. -/
structure Reaches (scl : Nat) (channel : UInt8) (position reads : Nat) (current : System) :
    Prop where
  waits : reads ≤ position → current.toServer[position - reads]? = some (registration channel)
  listens : position < reads → current.server.Listening scl channel

section Turns

variable {protobuf : Protobuf} {scl position reads : Nat} {channel : UInt8}
  {start : AAServer.State} {current next : System} {event : Event} {outputs : List Output}

theorem step_reaches (startTabled : start.Tabled) (rising : current.Rising start)
    (input : start.kindAt channel = some (some .Input))
    (settled : current.Settled scl event) (reaches : current.Reaches scl channel position reads)
    (took : (system protobuf scl).step current event = some (next, outputs)) :
    next.Reaches scl channel position (reads + [event].countP isRead) := by
  rcases step_turn took with ⟨own, server, log, turn, ran, same⟩ |
    ⟨own, client, log, none, turn, ran, same⟩
  · cases same
    have listens (before : current.server.Listening scl channel) :
        server.Listening scl channel :=
      AAServer.step_listening rising.wired (settled.1 own turn) before ran
    cases event with
    | serverReads write =>
        obtain ⟨packet, first, rfl⟩ := Option.map_eq_some_iff.mp turn
        rw [show [Event.serverReads write].countP isRead = 1 from rfl]
        refine ⟨fun more => ?_, fun ended => ?_⟩
        · have shift : position - reads = position - (reads + 1) + 1 := by omega
          have waits := reaches.waits (by omega)
          rw [shift] at waits
          simpa [afterServer, unreadByServer] using waits
        · by_cases waits : reads ≤ position
          · -- This is the packet.
            have here : position - reads = 0 := by omega
            have registers := reaches.waits waits
            rw [here, ← List.head?_eq_getElem?, first] at registers
            cases registers
            exact AAServer.read_registers rising.wired rising.tabled
              (by rw [rising.table.kindAt startTabled, input]) ran
          · exact listens (reaches.listens (by omega))
    | server | hangUp =>
        exact ⟨fun more => reaches.waits more, fun ended => listens (reaches.listens ended)⟩
    | client | clientReads => cases turn
  · cases same
    have notRead : [event].countP isRead = 0 := by
      cases event with
      | serverReads => cases turn
      | server | hangUp | client | clientReads => rfl
    rw [notRead, Nat.add_zero]
    refine ⟨fun more => ?_, fun ended => reaches.listens ended⟩
    have waits := reaches.waits more
    obtain ⟨inside, -⟩ := List.getElem?_eq_some_iff.mp waits
    exact (List.getElem?_append_left inside).trans waits

theorem forwards_registration {state : AAClient.State} {msg : Message}
    (opens : AAServer.typeOf msg.content = some MessageType.ChannelOpenRequest.code)
    (ordinary : msg.channel ≠ 0)
    (answers : (state.channelHandlers msg.channel).map AAClient.ChannelHandler.kind =
      some .input) : state.forwards msg = [registration msg.channel] := by
  rcases content : msg.content with _ | ⟨high, _ | ⟨low, rest⟩⟩
  · simp [content, AAServer.typeOf] at opens
  · simp [content, AAServer.typeOf] at opens
  have type : bigEndian16 high low = MessageType.ChannelOpenRequest.code := by
    rw [content] at opens
    exact Option.some.inj opens
  have notDiscovery : bigEndian16 high low ≠ MessageType.ServiceDiscoveryRequest.code := by
    rw [type]
    decide
  simp only [AAClient.State.forwards, content]
  rw [if_neg notDiscovery, if_pos ordinary, answers]
  simp only [type, if_true]
  rfl

end Turns

end System

/-- A service description with an input channel, number 5. -/
def keysDescription : Bytes := [0x0a, 0x04, 0x08, 0x05, 0x22, 0x00]

def keysDiscovery : List AAServer.Event :=
  [.headunit { channel := 0, flags := 0x0b, content := 0x00 :: 0x06 :: keysDescription } .failed
    fun _ => .complete, .connect 1 10 fun _ => 0]

/-- The phone has asked for the services, and nothing is in the socket. -/
def keysSystem (server : AAServer.State) : System where
  server
  client :=
    { state := ((AAClient.handleServiceDiscoveryRequest .small).run
        (AAClient.initial keysDescription)).state
      phase := .dispatching }
  toClient := []
  toServer := []

def openKeys : Message := { channel := 5, flags := 0x0f, content := [0x00, 0x07, 0x08, 0x05] }

end AACS
