import AACS.Client.Presence
import AACS.Proxy.Path

/-!
What `AAClient` writes to the server.

Each turn of the client writes at most one packet. Which one depends on the message of the
phone and on the handler of its channel: a default handler passes the message on, an input
handler tells the server that its channel is being opened, a video handler writes nothing.
-/

namespace AACS

namespace AAClient

open Effects Transitions

def packets (outputs : List Output) : List Bytes :=
  outputs.filterMap fun
    | .packet bytes => some bytes
    | .enqueue _ _ _ | .pushed _ _ => none

def queued (outputs : List Output) : List Message :=
  outputs.filterMap fun
    | .enqueue channel flags content => some { channel, flags, content }
    | .packet _ | .pushed _ _ => none

def State.forwards (state : State) (msg : Message) : List Bytes :=
  match msg.content with
  | high :: low :: _ =>
      if bigEndian16 high low = MessageType.ServiceDiscoveryRequest.code then []
      else if msg.channel ≠ 0 then
        match (state.channelHandlers msg.channel).map ChannelHandler.kind with
        | some .default => [msg.rawData]
        | some .input =>
            if bigEndian16 high low = MessageType.ChannelOpenRequest.code then
              [[0x01, msg.channel, 0x00]]
            else []
        | some (.video _) | none => []
      else if bigEndian16 high low ∈ forwardedMessageTypes then [msg.rawData]
      else []
  | _ => []

/-- A message becomes its raw data, or tells the server that its channel is being opened. -/
theorem mem_forwards {state : State} {msg : Message} {packet : Bytes}
    (membership : packet ∈ state.forwards msg) :
    packet = msg.rawData ∨ packet = [0x01, msg.channel, 0x00] := by
  unfold State.forwards at membership
  split at membership
  swap
  · cases membership
  split at membership
  · cases membership
  split at membership
  · split at membership
    · exact .inl (List.mem_singleton.mp membership)
    · split at membership
      · exact .inr (List.mem_singleton.mp membership)
      · cases membership
    · cases membership
    · cases membership
  · split at membership
    · exact .inl (List.mem_singleton.mp membership)
    · cases membership

def Event.forwards (state : State) : Event → List Bytes
  | .message msg outside => if outside.write = .ok () then state.forwards msg else []
  | _ => []

def Output.IsLocal : Output → Prop
  | .packet _ => False
  | _ => True

section Local

variable {α : Type} {protobuf : Protobuf} {outside : Outside}

theorem packets_append (first second : List Output) :
    packets (first ++ second) = packets first ++ packets second := List.filterMap_append

theorem packets_of_local {body : ClientAct α} (stays : body.Emits Output.IsLocal) (state : State) :
    packets (body.run state).log = [] := by
  refine List.filterMap_eq_nil_iff.mpr fun output membership => ?_
  have here := stays state output membership
  cases output with
  | packet bytes => exact here.elim
  | enqueue | pushed => rfl

theorem call_local (answer : Except Thrown Unit) : (Outside.call answer).Emits Output.IsLocal := by
  unfold Outside.call
  split <;> exact .silent fun _ => rfl

theorem messageType_local (content : Bytes) : (messageType content).Emits Output.IsLocal := by
  unfold messageType
  split <;> exact .silent fun _ => rfl

theorem sendToMobile_local (channel flags : UInt8) (data : Bytes) :
    (sendToMobile channel flags data).Emits Output.IsLocal := .emit trivial

theorem pushDataToPipeline_local (handler : VideoChannelHandler) (ts : UInt64) (data : Bytes) :
    (VideoChannelHandler.pushDataToPipeline outside handler ts data).Emits Output.IsLocal := by
  unfold VideoChannelHandler.pushDataToPipeline
  split
  · exact .bind (.emit trivial) fun _ => call_local _
  · exact .silent fun _ => rfl

theorem videoHandler_local (channel channelId : UInt8) (handler : VideoChannelHandler)
    (data : Bytes) :
    (VideoChannelHandler.handleMessageFromMobile protobuf outside channel channelId handler
      data).Emits Output.IsLocal := by
  refine .bind (messageType_local _) fun type => ?_
  split
  · exact sendToMobile_local _ _ _
  split
  · exact .bind (sendToMobile_local _ _ _) fun _ => sendToMobile_local _ _ _
  split
  · exact .silent fun _ => rfl
  split
  · exact .bind (.silent fun _ => rfl) fun _ => .bind (call_local _) fun _ =>
      .bind (pushDataToPipeline_local _ _ _) fun _ => sendToMobile_local _ _ _
  split
  · refine .bind ?_ fun ts => .bind (.silent fun _ => rfl) fun _ =>
      .bind (pushDataToPipeline_local _ _ _) fun _ => sendToMobile_local _ _ _
    unfold VideoChannelHandler.timestampOf
    split <;> exact .silent fun _ => rfl
  · exact .silent fun _ => rfl

theorem handleServiceDiscoveryRequest_local (protobuf : Protobuf) :
    (handleServiceDiscoveryRequest protobuf).Emits Output.IsLocal := by
  refine .bind (.silent fun _ => rfl) fun state => .bind ?_ fun _ => sendToMobile_local _ _ _
  refine .forM _ fun channel _ => ?_
  unfold installHandler
  split <;> exact .silent fun _ => rfl

theorem handshakeTurn_local (connect : Connect) (msgContent : Bytes) :
    (handshakeTurn connect msgContent).Emits Output.IsLocal := by
  refine .bind ?_ fun through => ?_
  · unfold doSslHandshake
    split
    · exact .silent fun _ => rfl
    · cases connect with
      | answer bytes => exact .bind (sendToMobile_local _ _ _) fun _ => .silent fun _ => rfl
      | complete | failed | unknown => exact .silent fun _ => rfl
  · split
    · exact .bind (sendToMobile_local _ _ _) fun _ => .silent fun _ => rfl
    · exact .silent fun _ => rfl

theorem readerThread_local (packet : Bytes) : (readerThread packet).Emits Output.IsLocal := by
  unfold readerThread
  split
  · exact .silent fun _ => rfl
  · exact .silent fun _ => rfl
  · refine .bind (.silent fun _ => rfl) fun state => ?_
    split
    · exact .silent fun _ => rfl
    · exact sendToMobile_local _ _ _

end Local

section Forwarding

variable {protobuf : Protobuf} {state : State} {msg : Message} {outside : Outside}
  {session next : Session} {event : Event} {outputs : List Output}

theorem channelMessage_packets (outside : Outside) (state : State) (channel : UInt8)
    (specific : Bool) (data : Bytes) :
    packets ((channelMessage outside channel specific data).run state).log =
      if outside.write = .ok () then
        [0x01 :: channel :: (if specific then 0xff else 0x00) :: data]
      else [] := by
  cases written : outside.write with
  | ok done =>
      simp [channelMessage, written, Outside.call, packets]
  | error thrown => simp [channelMessage, written, Outside.call, packets]

theorem inputHandler_packets (handler : ChannelHandler) {high low : UInt8} {rest : Bytes}
    (content : msg.content = high :: low :: rest) :
    packets ((InputChannelHandler.handleMessageFromMobile outside handler msg.channel
      msg.content).run state).log =
      if outside.write = .ok () ∧
          bigEndian16 high low = MessageType.ChannelOpenRequest.code then
        [[0x01, msg.channel, 0x00]]
      else [] := by
  simp only [InputChannelHandler.handleMessageFromMobile, content, messageType, Act.run_bind,
    Act.run_pure, Act.andThen_ok, List.nil_append]
  by_cases opens : bigEndian16 high low = MessageType.ChannelOpenRequest.code
  · have sent := channelMessage_packets outside state msg.channel false []
    simp only [opens, if_true, and_true, sendChannelOpenResponse, sendToMobile, Act.run_bind,
      Act.run_emit, Act.andThen_ok, packets_append]
    rw [sent]
    rfl
  · simp only [opens, if_false, and_false]
    apply packets_of_local
    split
    · exact sendToMobile_local _ _ _
    · exact .silent fun _ => rfl

theorem handleChannelMessage_packets {high low : UInt8} {rest : Bytes} (protobuf : Protobuf)
    (content : msg.content = high :: low :: rest) :
    packets ((handleChannelMessage protobuf outside msg).run state).log =
      if outside.write = .ok () then
        match (state.channelHandlers msg.channel).map ChannelHandler.kind with
        | some .default => [msg.rawData]
        | some .input =>
            if bigEndian16 high low = MessageType.ChannelOpenRequest.code then
              [[0x01, msg.channel, 0x00]]
            else []
        | some (.video _) | none => []
      else [] := by
  simp only [handleChannelMessage, Act.run_bind, Act.run_get, Act.andThen_ok, List.nil_append]
  cases installed : state.channelHandlers msg.channel with
  | none => simp [undefinedBehaviour, packets]
  | some handler =>
      obtain ⟨channelId, kind⟩ := handler
      cases kind with
      | default => exact channelMessage_packets outside state msg.channel _ msg.content
      | input =>
          simp only [inputHandler_packets _ content, ite_and, Option.map_some]
      | video video =>
          simp only [Option.map_some, ite_self]
          exact packets_of_local (videoHandler_local _ _ _ _) state

theorem dispatch_packets (protobuf : Protobuf) (outside : Outside) (state : State) (msg : Message) :
    packets ((dispatch protobuf outside msg).run state).log =
      if outside.write = .ok () then state.forwards msg else [] := by
  rcases content : msg.content with _ | ⟨high, _ | ⟨low, rest⟩⟩
  · simp [State.forwards, content, dispatch, messageType, undefinedBehaviour, packets]
  · simp [State.forwards, content, dispatch, messageType, undefinedBehaviour, packets]
  rw [dispatch_run outside content]
  simp only [State.forwards, content]
  by_cases discovery : bigEndian16 high low = MessageType.ServiceDiscoveryRequest.code
  · simp only [discovery, if_true, ite_self]
    exact packets_of_local (handleServiceDiscoveryRequest_local protobuf) state
  simp only [discovery, if_false]
  by_cases ordinary : msg.channel ≠ 0
  · simp only [if_pos ordinary]
    exact handleChannelMessage_packets protobuf content
  simp only [if_neg ordinary]
  by_cases forwarded : bigEndian16 high low ∈ forwardedMessageTypes
  · simp only [forwarded, if_true]
    exact channelMessage_packets outside state msg.channel _ msg.content
  · simp only [forwarded, if_false, ite_self]
    exact packets_of_local (.silent fun _ => rfl) state

theorem step_log (took : (machine protobuf).step session event = some (next, outputs)) :
    packets outputs = packets ((event.body protobuf session.phase).run session.state).log := by
  rw [(step_body took).2.2]

/-- What a turn of the client writes. -/
theorem step_packets (took : (machine protobuf).step session event = some (next, outputs)) :
    packets outputs = event.forwards session.state := by
  rw [step_log took]
  cases event with
  | packet bytes =>
      exact packets_of_local (.bind (readerThread_local bytes) fun _ => .silent fun _ => rfl) _
  | versionResponse msg connect =>
      refine packets_of_local (.bind ?_ fun _ => handshakeTurn_local connect []) _
      unfold expectVersionResponse
      split <;> exact .silent fun _ => rfl
  | handshake msg connect => exact packets_of_local (handshakeTurn_local connect msg.content) _
  | message msg outside =>
      have sent := dispatch_packets protobuf outside session.state msg
      simp only [Event.body, Event.forwards, Act.run_bind]
      rcases ran : (dispatch protobuf outside msg).run session.state with
        ⟨thrown | done, after, log⟩
      · simpa [ran] using sent
      · simpa [ran] using sent

end Forwarding

end AAClient

end AACS
