import AACS.Server.Turns

/-!
The packets that the thread of a client takes from its buffer.

`clientThreadMethod` looks at the result of `read` only for the end of the file. Whatever else
it is, a packet is given to `gotPacket`, with a header from the first three bytes of the buffer
even where `read` has put fewer there.
-/

namespace AACS

namespace AAServer

open Effects

variable {τ : Type}

abbrev PacketSlot (τ : Type) := τ → Packet → τ × Except Thrown Unit

/-- The results of `read` that a client's thread gets, and the packets that it hands on. -/
structure ClientLog (τ : Type) where
  readings : List Reading
  packets : List Packet
  state : τ

def SocketClient.keep (client : SocketClient) (reading : Reading) : SocketClient :=
  { client with buffer := client.buffer.overwrite (reading.bytes.take clientBufSize) }

/-- The loop ends at the end of the file, or with an exception. -/
def clientThreadMethod (gotPacket : PacketSlot τ) (client : SocketClient) (state : τ) :
    List Reading → ClientLog τ
  | [] => ⟨[], [], state⟩
  | .data [] :: _ => ⟨[.data []], [], state⟩
  | reading :: readings =>
      let p := client.packet reading
      match gotPacket state p with
      | (state, .error _) => ⟨[reading], [p], state⟩
      | (state, .ok _) =>
          let rest := clientThreadMethod gotPacket (client.keep reading) state readings
          ⟨reading :: rest.readings, p :: rest.packets, rest.state⟩

def writtenPacket : Reading → Option Packet
  | .data (packetType :: channelNumber :: specific :: data) =>
      some { packetType, channelNumber, specific, data }
  | _ => none

def IsPacketOrEnd (reading : Reading) : Prop :=
  reading = .data [] ∨ 3 ≤ reading.bytes.length

section Turns

variable {state : State} {scl : Nat} {client : SocketClient}

theorem buffered_socket (present : state.sockets scl = some client) (reading : Reading) :
    (state.buffered scl client reading).sockets scl = some (client.keep reading) := by
  simp [State.buffered, State.updateSocket, SocketClient.keep, present]

end Turns

section Loop

variable {gotPacket : PacketSlot τ} {reading : Reading}

theorem packet_eq_none_iff : writtenPacket reading = none ↔ reading.bytes.length < 3 := by
  unfold writtenPacket
  split
  next => simp [Reading.bytes]
  next other =>
    rcases reading with (_ | ⟨packetType, _ | ⟨channelNumber, _ | ⟨specific, data⟩⟩⟩) | errno
    · simp [Reading.bytes]
    · simp [Reading.bytes]
    · simp [Reading.bytes]
    · exact absurd rfl (other packetType channelNumber specific data)
    · simp [Reading.bytes]

theorem packet_of_parsed {p : Packet} (client : SocketClient)
    (fits : reading.bytes.length ≤ clientBufSize) (parsed : writtenPacket reading = some p) :
    client.packet reading = p := by
  unfold writtenPacket at parsed
  split at parsed
  next packetType channelNumber specific data =>
    obtain rfl := Option.some.inj parsed
    simp only [Reading.bytes, List.length_cons] at fits
    rw [packet_data, List.take_of_length_le (by omega)]
  next => cases parsed

/-- There are never fewer packets handed on than written. -/
theorem written_le_packets (client : SocketClient) (state : τ) (readings : List Reading) :
    ((clientThreadMethod gotPacket client state readings).readings.filterMap
        writtenPacket).length ≤
      (clientThreadMethod gotPacket client state readings).packets.length := by
  fun_induction clientThreadMethod gotPacket client state readings with
  | case1 client state => simp
  | case2 client state readings => simp [writtenPacket]
  | case3 client state reading readings notEnd p after thrown slot =>
      exact List.length_filterMap_le writtenPacket [reading]
  | case4 client state reading readings notEnd p after done slot rest inductionHypothesis =>
      simp only [List.filterMap_cons, List.length_cons]
      split
      next => exact Nat.le_succ_of_le inductionHypothesis
      next => exact Nat.succ_le_succ inductionHypothesis

theorem packets_cons_iff {client : SocketClient} {readings : List Reading} {packets : List Packet}
    (fits : reading.bytes.length ≤ clientBufSize) (notEnd : reading ≠ .data [])
    (fewer : (readings.filterMap writtenPacket).length ≤ packets.length) :
    client.packet reading :: packets = (reading :: readings).filterMap writtenPacket ↔
      IsPacketOrEnd reading ∧ packets = readings.filterMap writtenPacket := by
  rw [IsPacketOrEnd, or_iff_right notEnd, List.filterMap_cons]
  cases parsed : writtenPacket reading with
  | none =>
      have short := packet_eq_none_iff.mp parsed
      refine iff_of_false (fun same => ?_) (fun both => absurd both.1 (by omega))
      have length := congrArg List.length same
      simp only [List.length_cons] at length
      omega
  | some p =>
      have long : ¬ reading.bytes.length < 3 := fun short => by
        rw [packet_eq_none_iff.mpr short] at parsed
        cases parsed
      rw [packet_of_parsed client fits parsed, List.cons.injEq, eq_self, true_and,
        and_iff_right (by omega)]

theorem packets_iff {client : SocketClient} {state : τ} {readings : List Reading}
    (fits : ∀ reading ∈ readings, reading.bytes.length ≤ clientBufSize) :
    (clientThreadMethod gotPacket client state readings).packets =
        (clientThreadMethod gotPacket client state readings).readings.filterMap writtenPacket ↔
      ∀ reading ∈ (clientThreadMethod gotPacket client state readings).readings,
        IsPacketOrEnd reading := by
  fun_induction clientThreadMethod gotPacket client state readings with
  | case1 client state => simp
  | case2 client state readings => simp [writtenPacket, IsPacketOrEnd]
  | case3 client state reading readings notEnd p after thrown slot =>
      rw [packets_cons_iff (fits _ List.mem_cons_self) notEnd (Nat.zero_le _)]
      simp
  | case4 client state reading readings notEnd p after done slot rest inductionHypothesis =>
      rw [packets_cons_iff (fits _ List.mem_cons_self) notEnd (written_le_packets _ _ _),
        List.forall_mem_cons,
        inductionHypothesis fun later membership => fits later (List.mem_cons_of_mem _ membership)]

end Loop

/-- The packets handed on are those that the client has written exactly when every read before
the end of the file succeeds and returns a packet with a whole header. -/
theorem client_packets_iff (gotPacket : PacketSlot τ) (client : SocketClient) (state : τ)
    (readings : List Reading)
    (fits : ∀ reading ∈ readings, reading.bytes.length ≤ clientBufSize) :
    let log := clientThreadMethod gotPacket client state readings
    log.packets = log.readings.filterMap writtenPacket ↔
      ∀ reading ∈ log.readings, IsPacketOrEnd reading :=
  packets_iff fits

def ignorePacket : PacketSlot Unit := fun state _ => (state, .ok ())

def freshClient : SocketClient := { fd := 0, buffer := fun _ => 0 }

theorem client_packets_descriptor_request :
    (clientThreadMethod ignorePacket freshClient () [.data [2, 0, 0], .data []]).packets =
      [⟨2, 0, 0, []⟩] :=
  (client_packets_iff ignorePacket freshClient () [.data [2, 0, 0], .data []]
    (by decide)).mpr (by simp [clientThreadMethod, ignorePacket, IsPacketOrEnd, Reading.bytes])

/-- A packet of one byte is completed from the packet before it, and so is a failed read. -/
theorem short_packet_takes_old_bytes :
    (clientThreadMethod ignorePacket freshClient ()
        [.data [1, 5, 0xff, 7], .data [0], .failed econnreset]).packets =
      [⟨1, 5, 0xff, [7]⟩, ⟨0, 5, 0xff, []⟩, ⟨0, 5, 0xff, []⟩] ∧
    [Reading.data [1, 5, 0xff, 7], .data [0], .failed econnreset].filterMap writtenPacket =
      [⟨1, 5, 0xff, [7]⟩] := by
  decide

end AAServer

end AACS
