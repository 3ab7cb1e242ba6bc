import AACS.Server.Encrypted
import AACS.Server.Replies
import AACS.Server.Tables

/-!
What a client gets that it has not asked for.

A client that has registered sends nothing that is answered any more. Every packet that it gets
from then on is a message of the head unit, behind the number of its channel and a mark.
-/

namespace AACS

namespace AAServer

open Effects FanOut Transitions

/-- If it is the client's turn, it sends raw data or opens a channel. -/
def AsksNothing (scl : Nat) (event : Event) : Prop :=
  event.actor = some scl → event = .clientStep scl ∨ ∃ channel specific data write,
    event = .read scl (.data (PacketType.RawData.code :: channel :: specific :: data)) write

def Brings (event : Event) (packet : Bytes) : Prop :=
  ∃ message accept write specific, event = .headunit message accept write ∧
    packet = packetFor message.channel specific message.content ∧ 2 ≤ message.content.length

section Turns

variable {protobuf : Protobuf} {state next : State} {event : Event} {outputs : List Output}
  {scl : Nat} {packet : Bytes}

theorem rawData_enqueues {channel specific : UInt8} {data : Bytes} {write : Nat → WriteResult}
    (wired : state.Wired)
    (took : (machine protobuf).step state
      (.read scl (.data (PacketType.RawData.code :: channel :: specific :: data)) write) =
        some (next, outputs)) : ∀ output ∈ outputs, output.isEnqueue := by
  obtain ⟨client, present, ready⟩ := step_read_ready took
  obtain ⟨clientId, known⟩ := wired.known present (by simp [ready])
  rw [step_read_packet protobuf write present ready (by simp), packet_data] at took
  have knownToo : (state.buffered scl client
      (.data (PacketType.RawData.code :: channel :: specific :: data))).clients.lookup scl =
        some clientId := known
  rw [finishClient_log took, gotPacket_rawData write knownToo rfl]
  split
  · simp
  · split <;> simp [Output.isEnqueue]

theorem clientStep_enqueues (wired : state.Wired)
    (took : (machine protobuf).step state (.clientStep scl) = some (next, outputs)) :
    ∀ output ∈ outputs, output.isEnqueue := by
  obtain ⟨client, pointer, step, handler, present, opening, -, -, ran⟩ := clientStep_body took
  obtain ⟨clientId, known⟩ := wired.known present (by simp [opening])
  rw [clientOpen_log known ran]
  exact openStep_enqueues protobuf pointer step state

theorem route_packet {message : Message} {recipients : List Nat} (tabled : state.Tabled)
    (routed : state.route message = some (recipients, packet)) :
    (∃ specific, packet = packetFor message.channel specific message.content) ∧
      2 ≤ message.content.length := by
  refine ⟨tabled.packet_eq routed, ?_⟩
  unfold State.route at routed
  split at routed
  next high low rest content =>
    rw [content]
    exact Nat.le_add_left 2 rest.length
  next => cases routed

theorem asksNothing_brings (wired : state.Wired) (tabled : state.Tabled)
    (asksNothing : AsksNothing scl event)
    (took : (machine protobuf).step state event = some (next, outputs))
    (delivered : .packet scl packet ∈ outputs) : Brings event packet := by
  by_cases acts : event.actor = some scl
  · have enqueues : ∀ output ∈ outputs, output.isEnqueue := by
      rcases asksNothing acts with rfl | ⟨channel, specific, data, write, rfl⟩
      · exact clientStep_enqueues wired took
      · exact rawData_enqueues wired took
    exact (enqueues _ delivered).elim
  · have overtakes := (bystander_packet_iff wired took acts).mp ⟨packet, delivered⟩
    cases event with
    | headunit message accept write =>
        obtain ⟨recipients, routed, -⟩ := (headunit_packet_iff took scl packet).mp delivered
        obtain ⟨⟨specific, rfl⟩, long⟩ := route_packet tabled routed
        exact ⟨message, accept, write, specific, rfl, rfl, long⟩
    | connect | read | clientStep | sample | streamStep | threadTerminated =>
        exact overtakes.elim

end Turns

/-- All that a client gets in a run in which it asks for nothing. -/
theorem run_brings {protobuf : Protobuf} {scl : Nat} {past events : List Event}
    {start final : State} {record trace : List (Event × List Output)}
    (reached : (machine protobuf).run initial past = some (start, record))
    (asksNothing : ∀ event ∈ events, AsksNothing scl event)
    (ran : (machine protobuf).run start events = some (final, trace)) :
    ∀ delivery ∈ deliveries scl trace, Brings delivery.1 delivery.2 := by
  have kept : ∀ {state event next outputs}, state.Wired ∧ state.Tabled → AsksNothing scl event →
      (machine protobuf).step state event = some (next, outputs) →
      (next.Wired ∧ next.Tabled) ∧
        ∀ packet, .packet scl packet ∈ outputs → Brings event packet := by
    intro state event next outputs both asks took
    exact ⟨⟨step_wired both.1 took, step_tabled both.1 both.2 took⟩,
      fun packet delivered => asksNothing_brings both.1 both.2 asks took delivered⟩
  have turns := @Machine.run_turns _ _ _ (machine protobuf)
    (fun state _ => state.Wired ∧ state.Tabled) (fun _ event => AsksNothing scl event)
    (fun event outputs => ∀ packet, .packet scl packet ∈ outputs → Brings event packet)
    (fun both asks took => kept both asks took) start final [] events trace
    ⟨run_wired reached, run_tabled reached⟩
    ((machine protobuf).within_of_forall asksNothing start) ran
  rintro ⟨event, packet⟩ delivered
  obtain ⟨outputs, inside, sent⟩ := mem_deliveries.mp delivered
  exact turns (event, outputs) inside packet sent

end AAServer

end AACS
