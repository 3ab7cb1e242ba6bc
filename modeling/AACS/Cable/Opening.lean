import AACS.Cable.Setup
import AACS.Client.Pipeline
import AACS.Server.Waiting

/-!
No thread of the phone waits for ever while it opens a channel.

`AAClient` answers each request that opens a channel on its handler. So whoever waits for an
answer does not wait in vain: the answer is under way, or its request is, or another thread is
about to send it.
-/

namespace AACS

open Effects Transitions

namespace AAClient

open AAServer (ChannelType Request typeOf)

section Answers

variable {protobuf : Protobuf} {outside : Outside} {session next : Session} {msg : Message}
  {outputs : List Output} {type : ChannelType} {request : Request}

theorem codeFor_ne_discovery :
    request.codeFor type ≠ MessageType.ServiceDiscoveryRequest.code := by
  cases type <;> cases request <;> decide

theorem mem_queued {channel flags : UInt8} {content : Bytes} {rest : List Output} :
    { channel, flags, content } ∈ queued (.enqueue channel flags content :: rest) :=
  List.mem_filterMap.mpr ⟨_, List.mem_cons_self, rfl⟩

section Handlers

variable {state : State} {content : Bytes}

theorem input_answers {handler : ChannelHandler} {channel : UInt8}
    (typed : (messageType content).run state = ⟨.ok (request.codeFor .Input), state, []⟩) :
    ∃ flags answer rest, ((InputChannelHandler.handleMessageFromMobile outside handler channel
        content).run state).log = .enqueue handler.channelId flags answer :: rest ∧
      Request.answeredBy answer = some request := by
  unfold InputChannelHandler.handleMessageFromMobile
  rw [Act.run_bind, typed, Act.andThen_ok]
  cases request with
  | channelOpen =>
      rw [if_pos (by decide)]
      exact ⟨_, _, _, rfl, rfl⟩
  | handshake =>
      rw [if_neg (by decide), if_pos (by decide)]
      exact ⟨_, _, _, rfl, rfl⟩

theorem video_answers {channel channelId : UInt8} {handler : VideoChannelHandler}
    (typed : (messageType content).run state = ⟨.ok (request.codeFor .Video), state, []⟩) :
    ∃ flags answer rest, ((VideoChannelHandler.handleMessageFromMobile protobuf outside channel
        channelId handler content).run state).log = .enqueue channelId flags answer :: rest ∧
      Request.answeredBy answer = some request := by
  unfold VideoChannelHandler.handleMessageFromMobile
  rw [Act.run_bind, typed, Act.andThen_ok]
  cases request with
  | channelOpen =>
      rw [if_pos (by decide)]
      exact ⟨_, _, _, rfl, rfl⟩
  | handshake =>
      rw [if_neg (by decide), if_pos (by decide)]
      exact ⟨_, _, _, rfl, rfl⟩

end Handlers

theorem message_answers
    (shape : session.state.shapeAt msg.channel = some (msg.channel, some type))
    (ordinary : msg.channel ≠ 0) (asks : typeOf msg.content = some (request.codeFor type))
    (took : (machine protobuf).step session (.message msg outside) = some (next, outputs)) :
    ∃ answer ∈ queued outputs, answer.channel = msg.channel ∧
      Request.answeredBy answer.content = some request := by
  obtain ⟨-, -, log⟩ := step_body took
  obtain ⟨⟨channelId, kind⟩, installed, same⟩ := Option.map_eq_some_iff.mp shape
  simp only [ChannelHandler.shape, Prod.mk.injEq] at same
  obtain ⟨rfl, isType⟩ := same
  rcases content : msg.content with _ | ⟨high, _ | ⟨low, rest⟩⟩
  · rw [content] at asks
    cases asks
  · rw [content] at asks
    cases asks
  have code : bigEndian16 high low = request.codeFor type := by
    rw [content] at asks
    exact Option.some.inj asks
  have typed : (messageType msg.content).run session.state =
      ⟨.ok (request.codeFor type), session.state, []⟩ := by
    rw [content, ← code]
    rfl
  have notDiscovery : bigEndian16 high low ≠ MessageType.ServiceDiscoveryRequest.code := by
    rw [code]
    exact codeFor_ne_discovery
  rw [Event.body, Act.log_bind_pure, dispatch_run outside content, if_neg notDiscovery,
    if_pos ordinary] at log
  simp only [handleChannelMessage, Act.run_bind, Act.run_get, Act.andThen_ok, installed,
    List.nil_append] at log
  cases kind with
  | default => cases isType
  | input =>
      cases isType
      obtain ⟨flags, answer, rest, first, answers⟩ :=
        @input_answers outside request session.state msg.content
          { channelId := msg.channel, kind := .input } msg.channel typed
      rw [log]
      dsimp only
      rw [first]
      exact ⟨_, mem_queued, rfl, answers⟩
  | video handler =>
      cases isType
      obtain ⟨flags, answer, rest, first, answers⟩ :=
        @video_answers protobuf outside request session.state msg.content msg.channel msg.channel
          handler typed
      rw [log]
      dsimp only
      rw [first]
      exact ⟨_, mem_queued, rfl, answers⟩

end Answers

end AAClient

namespace Cable

open AAServer (ChannelType Request typeOf)

variable {γ δ : Type}

structure Paired (pointer : Nat) (channel : UInt8) (type : ChannelType) (cable : Cable γ δ) :
    Prop where
  kind : cable.phone.kindAt channel = some (some type)
  installed : cable.phone.channelHandlers channel = some pointer
  dispatching : cable.headunit.phase = .dispatching
  shape : cable.headunit.state.shapeAt channel = some (channel, some type)

/-- The answer to the request is under way, or the request is, or a thread is about to send it. -/
def Coming (pointer : Nat) (channel : UInt8) (type : ChannelType) (request : Request)
    (cable : Cable γ δ) : Prop :=
  cable.phone.HasThreadAt pointer request.sendStep ∨
    (∃ msg ∈ cable.toHeadunit, msg.channel = channel ∧
      typeOf msg.content = some (request.codeFor type)) ∨
    ∃ msg ∈ cable.toPhone, msg.channel = channel ∧
      Request.answeredBy msg.content = some request

structure Attentive (pointer : Nat) (channel : UInt8) (type : ChannelType) (cable : Cable γ δ) :
    Prop where
  wired : cable.phone.Wired
  tabled : cable.phone.Tabled
  inside : cable.phone.Inside
  paired : cable.Paired pointer channel type
  coming : ∀ request : Request, cable.phone.HasThreadAt pointer request.waitStep →
    cable.phone.Unset pointer request → cable.Coming pointer channel type request

section Turns

variable {tls : Handshake γ δ} {protobuf : Protobuf} {pointer : Nat} {channel : UInt8}
  {type : ChannelType} {current next : Cable γ δ} {event : Event} {outputs : List Output}

theorem Paired.handler (paired : current.Paired pointer channel type)
    (tabled : current.phone.Tabled) :
    ∃ handler, current.phone.handlers[pointer]? = some handler ∧ handler.channelId = channel ∧
      handler.kind.channelType = some type := by
  obtain ⟨handler, found, isType⟩ := Option.map_eq_some_iff.mp paired.kind
  have channelId := tabled.channelId_eq found
  rw [AAServer.State.handlerAt, paired.installed, Option.bind_some] at found
  exact ⟨handler, found, channelId, isType⟩

theorem PhoneTurn.attentive {own : AAServer.Event} {log : List AAServer.Output}
    (serializes : ∀ buttons, protobuf.inputChannelHandshakeRequest buttons ≠ none)
    (turn : PhoneTurn protobuf current next event own log) (plain : own.discovers = false)
    (ordinary : channel ≠ 0) (attentive : current.Attentive pointer channel type) :
    next.Attentive pointer channel type := by
  obtain ⟨wired, tabled, inside, paired, coming⟩ := attentive
  have same := AAServer.step_sameTable wired plain turn.ran
  refine ⟨AAServer.step_wired wired turn.ran, AAServer.step_tabled wired tabled turn.ran,
    AAServer.step_inside serializes wired inside turn.ran, ⟨?_, ?_, ?_, ?_⟩, ?_⟩
  · rw [same.kindAt tabled, paired.kind]
  · rw [same.channelHandlers, paired.installed]
  · rw [turn.headunit, paired.dispatching]
  · rw [turn.headunit, paired.shape]
  intro request waits unset
  obtain ⟨handler, present, rfl, isType⟩ := paired.handler tabled
  rcases AAServer.step_waits serializes wired inside present isType turn.ran waits unset with
    sending | ⟨msg, sent, asks⟩ | ⟨waited, before, further, unanswered⟩
  · exact .inl sending
  · exact .inr (.inl ⟨msg, by rw [turn.toHeadunit]; exact List.mem_append_right _ sent, asks⟩)
  rcases coming request waited before with sending | ⟨msg, sent, asks⟩ | ⟨msg, sent, answers⟩
  · exact .inl (further sending)
  · exact .inr (.inl ⟨msg, by rw [turn.toHeadunit]; exact List.mem_append_left _ sent, asks⟩)
  · refine .inr (.inr ⟨msg, ?_, answers⟩)
    rw [turn.toPhone]
    rcases turn.taken with ⟨rfl, -⟩ | ⟨head, accept, write, rfl, first, rfl⟩
    · exact sent
    · obtain ⟨rest, waiting⟩ := List.head?_eq_some_iff.mp first
      rw [waiting] at sent
      rw [unreadByPhone, waiting, List.tail_cons]
      rcases List.mem_cons.mp sent with rfl | later
      · exact absurd ⟨⟨answers.1 ▸ ordinary, answers.1 ▸ paired.installed⟩, answers.2⟩
          (unanswered msg accept write rfl)
      · exact later

theorem HeadunitTurn.attentive {own : AAClient.Event} {log : List AAClient.Output}
    (turn : HeadunitTurn protobuf current next event own log)
    (undiscovered : current.Undiscovered event) (ordinary : channel ≠ 0)
    (attentive : current.Attentive pointer channel type) :
    next.Attentive pointer channel type := by
  obtain ⟨wired, tabled, inside, paired, coming⟩ := attentive
  obtain ⟨plain, arrives⟩ := turn.dispatches paired.dispatching undiscovered
  have shape := (congrFun (AAClient.step_shapes plain turn.ran) channel).trans paired.shape
  refine ⟨by rw [turn.phone]; exact wired, by rw [turn.phone]; exact tabled,
    by rw [turn.phone]; exact inside, ⟨by rw [turn.phone]; exact paired.kind,
      by rw [turn.phone]; exact paired.installed,
      AAClient.step_dispatching paired.dispatching turn.ran, shape⟩, ?_⟩
  intro request waits unset
  rw [turn.phone] at waits unset
  rcases coming request waits unset with sending | ⟨msg, sent, asks⟩ | ⟨msg, sent, answers⟩
  · exact .inl (by rw [turn.phone]; exact sending)
  · rcases arrives with ⟨packet, rfl, rfl⟩ | ⟨head, outside, rest, rfl, first, rfl⟩
    · exact .inr (.inl ⟨msg, by rw [turn.toHeadunit]; exact sent, asks⟩)
    · rw [first] at sent
      rcases List.mem_cons.mp sent with rfl | later
      · obtain ⟨same, typed⟩ := asks
        subst same
        obtain ⟨answer, put, answers⟩ :=
          AAClient.message_answers paired.shape ordinary typed turn.ran
        exact .inr (.inr ⟨answer, by rw [turn.toPhone]; exact List.mem_append_right _ put,
          answers⟩)
      · refine .inr (.inl ⟨msg, ?_, asks⟩)
        rw [turn.toHeadunit, unreadByHeadunit, first, List.tail_cons]
        exact later
  · exact .inr (.inr ⟨msg, by rw [turn.toPhone]; exact List.mem_append_left _ sent, answers⟩)

theorem step_attentive
    (serializes : ∀ buttons, protobuf.inputChannelHandshakeRequest buttons ≠ none)
    (ordinary : channel ≠ 0) (attentive : current.Attentive pointer channel type)
    (undiscovered : current.Undiscovered event)
    (took : (cable tls protobuf).step current event = some (next, outputs)) :
    next.Attentive pointer channel type := by
  rcases step_cases took with ⟨own, log, turn, -⟩ | ⟨own, log, turn, -⟩
  · exact turn.attentive serializes (turn.plain undiscovered) ordinary attentive
  · exact turn.attentive undiscovered ordinary attentive

theorem Attentive.goes_on
    (serializes : ∀ buttons, protobuf.inputChannelHandshakeRequest buttons ≠ none)
    (attentive : current.Attentive pointer channel type) (silent : current.toHeadunit = [])
    (idle : current.toPhone = []) {step : AAServer.OpenStep}
    (here : current.phone.HasThreadAt pointer step) :
    ∃ own, (∃ step, current.phone.openingAt own = some (pointer, step)) ∧
      ∃ state log, (AAServer.machine protobuf).step current.phone own = some (state, log) := by
  obtain ⟨handler, present, -, -⟩ := attentive.paired.handler attentive.tabled
  obtain ⟨opener, opening⟩ := here
  cases enabled : step.enabled handler with
  | true =>
      exact ⟨opener, ⟨step, opening⟩,
        AAServer.opening_enabled serializes opening present enabled⟩
  | false =>
      obtain ⟨request, rfl, unset⟩ : ∃ request : Request, step = request.waitStep ∧
          request.flag handler = false := by
        cases step with
        | awaitChannelOpen => exact ⟨.channelOpen, rfl, enabled⟩
        | awaitAnswer => exact ⟨.handshake, rfl, enabled⟩
        | resetChannelOpen | sendChannelOpen | resetAnswer | sendRequest => cases enabled
      have missing : current.phone.Unset pointer request := by
        intro same there
        rw [present] at there
        cases there
        exact unset
      rcases attentive.coming request ⟨opener, opening⟩ missing with
        ⟨sender, sending⟩ | ⟨msg, sent, -⟩ | ⟨msg, sent, -⟩
      · have may : request.sendStep.enabled handler = true := by cases request <;> rfl
        exact ⟨sender, ⟨_, sending⟩, AAServer.opening_enabled serializes sending present may⟩
      · rw [silent] at sent
        cases sent
      · rw [idle] at sent
        cases sent

end Turns

end Cable

/-- A client connects and registers, and its thread gets the first answer. -/
def firstAnswer : List Cable.Event :=
  [.phone (.connect 1 10 fun _ => 0), .phone (.read 1 (.data [1, 5, 0]) fun _ => .complete),
    .phone (.clientStep 1), .phone (.clientStep 1), .headunitReceives {},
    .phoneReceives fun _ => .complete, .phone (.clientStep 1)]

end AACS
