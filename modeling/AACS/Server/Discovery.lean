import AACS.Server.Tables
import Mathlib.Data.List.TakeWhile

/-!
What a service descriptor does to `AAServer`.

It is stored, and its channels get handlers one after the other, unless one of them has
no entry in the table, or is a video channel whose pipeline cannot be linked: its number is in
the table of the types then, but neither it nor what comes after it gets a handler, and the pump
ends. Nothing else changes the stored descriptor.
-/

namespace AACS

namespace AAServer

open Effects

/-- The turn of the loop for a channel at a position gets past the making of the handler. -/
def Accept.passes (accept : Accept) (entry : Channel × Nat) : Bool :=
  ¬ ((Channel.newHandler entry.1).channelType = some .Video ∧ accept.links entry.2 = false)

/-- The channels of a descriptor that get handlers. -/
def Accept.installed (accept : Accept) (channels : List Channel) : List Channel :=
  (channels.zipIdx.takeWhile accept.passes).map Prod.fst

/-- The channel after them, if there is one: its pipeline cannot be linked. -/
def Accept.refused (accept : Accept) (channels : List Channel) : Option Channel :=
  (channels.zipIdx.find? fun entry => !accept.passes entry).map Prod.fst

theorem Accept.mem_of_installed {accept : Accept} {channels : List Channel} {channel : Channel}
    (installed : channel ∈ accept.installed channels) : channel ∈ channels := by
  obtain ⟨entry, inside, rfl⟩ := List.mem_map.mp installed
  exact List.fst_mem_of_mem_zipIdx ((List.takeWhile_sublist _).subset inside)

section Linked

variable {accept : Accept} {channels : List Channel}

theorem Accept.refused_eq_none_iff :
    accept.refused channels = none ↔ ∀ entry ∈ channels.zipIdx, accept.passes entry := by
  simp [Accept.refused]

theorem Accept.installed_eq_self (linked : accept.refused channels = none) :
    accept.installed channels = channels := by
  rw [Accept.installed, List.takeWhile_eq_self_iff.mpr (Accept.refused_eq_none_iff.mp linked),
    List.zipIdx_map_fst]

end Linked

def State.retype (state : State) (channel : Channel) : State :=
  { state with
    channelTypeToChannelNumber := fun channelType =>
      if (Channel.newHandler channel).channelType = some channelType then channel.number
      else state.channelTypeToChannelNumber channelType }

def State.install (state : State) (channel : Channel) : State :=
  { state.retype channel with
    handlers := state.handlers ++
      [{ channelId := channel.number, kind := Channel.newHandler channel }]
    channelHandlers :=
      Function.update state.channelHandlers channel.number (some state.handlers.length) }

theorem installHandler_run (linked : Bool) (channel : Channel) (state : State) :
    (installHandler linked channel).run state =
      if (Channel.newHandler channel).channelType = some .Video ∧ linked = false then
        ⟨.error (.thrown (.runtimeError "GStreamer function call failed at line 109")),
          state.retype channel, []⟩
      else if channel.channel_id < 256 then ⟨.ok (), state.install channel, []⟩
      else ⟨.error .undefinedBehaviour, state.retype channel, []⟩ := by
  simp only [installHandler, Act.run_bind, Act.run_modify, Act.andThen_ok, List.nil_append]
  split
  · rfl
  split <;> rfl

def State.discover (state : State) (protobuf : Protobuf) (accept : Accept) (body : Bytes) : State :=
  (accept.refused (protobuf.serviceDiscoveryResponse_channels body)).toList.foldl State.retype
    ((accept.installed (protobuf.serviceDiscoveryResponse_channels body)).foldl State.install
      { state with serviceDescriptor := body })

theorem handleServiceDiscoveryResponse_run {protobuf : Protobuf} {accept : Accept} {body : Bytes}
    (small : ∀ channel ∈ accept.installed (protobuf.serviceDiscoveryResponse_channels body),
      channel.channel_id < 256) (state : State) :
    (handleServiceDiscoveryResponse protobuf accept body).run state =
      ⟨if (accept.refused (protobuf.serviceDiscoveryResponse_channels body)).isSome then
          .error (.thrown (.runtimeError "GStreamer function call failed at line 109"))
        else .ok (),
        state.discover protobuf accept body, []⟩ := by
  simp only [handleServiceDiscoveryResponse, Act.run_bind, Act.run_modify, Act.andThen_ok,
    List.nil_append, State.discover]
  unfold Accept.installed Accept.refused at *
  generalize protobuf.serviceDiscoveryResponse_channels body = channels at *
  rw [Act.run_forM_upTo (fun entry inside state => ?each) fun entry refused state => ?refused,
    List.foldl_map]
  case each =>
    have passed : accept.passes entry := List.mem_takeWhile_imp inside
    rw [installHandler_run, if_neg (of_decide_eq_true passed),
      if_pos (small _ (List.mem_map_of_mem inside))]
  case refused =>
    rw [installHandler_run, if_pos (not_not.mp (of_decide_eq_false refused))]
  cases channels.zipIdx.find? fun entry => !accept.passes entry <;> rfl

theorem handleServiceDiscoveryResponse_outside {protobuf : Protobuf} {accept : Accept}
    {body : Bytes}
    (outside : ∃ channel ∈ accept.installed (protobuf.serviceDiscoveryResponse_channels body),
      ¬ channel.channel_id < 256) (state : State) :
    ((handleServiceDiscoveryResponse protobuf accept body).run state).result =
      .error .undefinedBehaviour := by
  obtain ⟨channel, installed, large⟩ := outside
  obtain ⟨entry, inside, rfl⟩ := List.mem_map.mp installed
  simp only [handleServiceDiscoveryResponse, Act.run_bind, Act.run_modify, Act.andThen_ok]
  rw [← @List.takeWhile_append_dropWhile _ accept.passes (List.zipIdx _)]
  apply Act.result_forM_append
  refine @Act.run_forM_fails _ _ _ _ _ _ (fun entry => entry.1.channel_id < 256) _ _
    (fun entry inside small state => ?_) (fun entry inside large state => ?_)
    ⟨entry, inside, large⟩
  · have passed : accept.passes entry := List.mem_takeWhile_imp inside
    rw [installHandler_run, if_neg (of_decide_eq_true passed), if_pos small]
  · have passed : accept.passes entry := List.mem_takeWhile_imp inside
    rw [installHandler_run, if_neg (of_decide_eq_true passed), if_neg large]

section Fields

variable (state : State) (protobuf : Protobuf) (accept : Accept) (body : Bytes)

/-- What neither a new handler nor the number of a channel touches. -/
theorem discover_keeps {α : Type} (field : State → α)
    (installs : ∀ state channel, field (State.install state channel) = field state)
    (retypes : ∀ state channel, field (State.retype state channel) = field state) :
    field (state.discover protobuf accept body) =
      field { state with serviceDescriptor := body } := by
  rw [State.discover, Act.foldl_keeps _ field retypes, Act.foldl_keeps _ field installs]

theorem discover_serviceDescriptor :
    (state.discover protobuf accept body).serviceDescriptor = body :=
  discover_keeps state protobuf accept body State.serviceDescriptor (fun _ _ => rfl) fun _ _ => rfl

theorem discover_threadFinished :
    (state.discover protobuf accept body).threadFinished = state.threadFinished :=
  discover_keeps state protobuf accept body State.threadFinished (fun _ _ => rfl) fun _ _ => rfl

end Fields

section Turns

variable {protobuf : Protobuf} {state next : State} {outputs : List Output} {message : Message}
  {body : Bytes}

def serviceDiscoveryResponse (body : Bytes) : Bytes :=
  pushBackInt16 [] MessageType.ServiceDiscoveryResponse.code ++ body

theorem isServiceDiscoveryResponse_of (control : message.channel = 0)
    (content : message.content = serviceDiscoveryResponse body) :
    isServiceDiscoveryResponse message = true := by
  have bytes : message.content = 0 :: 6 :: body := content
  rw [isServiceDiscoveryResponse, bytes, control]
  rfl

theorem handleMessageContent_discovery (protobuf : Protobuf) (accept : Accept)
    (write : Nat → WriteResult) (state : State)
    (discovery : isServiceDiscoveryResponse message = true) :
    (handleMessageContent protobuf accept write message).run state =
      (handleServiceDiscoveryResponse protobuf accept (message.content.drop 2)).run state := by
  obtain ⟨high, low, rest, content, control, type⟩ := content_of_discovery discovery
  rw [handleMessageContent_control protobuf accept write state content control, type, content]
  rfl

/-- What a turn of the pump with a descriptor does, unless it is undefined. -/
theorem discovery_turn {accept : Accept} {write : Nat → WriteResult}
    (discovery : isServiceDiscoveryResponse message = true)
    (took : (machine protobuf).step state (.headunit message accept write) =
      some (next, outputs)) :
    (∀ channel ∈ accept.installed
        (protobuf.serviceDiscoveryResponse_channels (message.content.drop 2)),
      channel.channel_id < 256) ∧
    next = { state.discover protobuf accept (message.content.drop 2) with
      threadFinished := (accept.refused
        (protobuf.serviceDiscoveryResponse_channels (message.content.drop 2))).isSome } ∧
    outputs = [] := by
  have ran := handleMessageContent_discovery protobuf accept write state discovery
  generalize message.content.drop 2 = body at *
  simp only [machine, step] at took
  split at took
  next => cases took
  next running =>
    unfold finishPump at took
    rw [ran] at took
    by_cases small : ∀ channel ∈ accept.installed
        (protobuf.serviceDiscoveryResponse_channels body), channel.channel_id < 256
    · rw [handleServiceDiscoveryResponse_run small] at took
      refine ⟨small, ?_⟩
      cases refused : accept.refused (protobuf.serviceDiscoveryResponse_channels body) with
      | none =>
          rw [refused] at took
          cases took
          have same := discover_threadFinished state protobuf accept body
          rw [Bool.not_eq_true _ |>.mp running] at same
          rw [Option.isSome_none, ← same]
          exact ⟨rfl, rfl⟩
      | some channel =>
          rw [refused] at took
          cases took
          exact ⟨rfl, rfl⟩
    · push Not at small
      have failed := handleServiceDiscoveryResponse_outside
        (small.imp fun channel both => ⟨both.1, Nat.not_lt.mpr both.2⟩) state
      simp only [failed] at took
      cases took

def Event.installed (protobuf : Protobuf) : Event → List Channel
  | .headunit message accept _ =>
      if isServiceDiscoveryResponse message then
        accept.installed (protobuf.serviceDiscoveryResponse_channels (message.content.drop 2))
      else []
  | _ => []

def Event.retyped (protobuf : Protobuf) : Event → List Channel
  | .headunit message accept _ =>
      if isServiceDiscoveryResponse message then
        accept.installed (protobuf.serviceDiscoveryResponse_channels (message.content.drop 2)) ++
          (accept.refused
            (protobuf.serviceDiscoveryResponse_channels (message.content.drop 2))).toList
      else []
  | _ => []

section Linked

variable {accept : Accept} {write : Nat → WriteResult}
  (discovery : isServiceDiscoveryResponse message = true)
  (linked : accept.refused
    (protobuf.serviceDiscoveryResponse_channels (message.content.drop 2)) = none)

include discovery linked

theorem Event.installed_of_linked : (Event.headunit message accept write).installed protobuf =
    protobuf.serviceDiscoveryResponse_channels (message.content.drop 2) := by
  simp [Event.installed, discovery, Accept.installed_eq_self linked]

theorem Event.retyped_of_linked : (Event.headunit message accept write).retyped protobuf =
    protobuf.serviceDiscoveryResponse_channels (message.content.drop 2) := by
  simp [Event.retyped, discovery, linked, Accept.installed_eq_self linked]

end Linked

theorem Event.installed_of_not_discovers {event : Event} (plain : event.discovers = false) :
    event.installed protobuf = [] := by
  cases event with
  | headunit message accept write =>
      have other : isServiceDiscoveryResponse message = false := plain
      simp [Event.installed, other]
  | connect | read | clientStep | sample | streamStep | threadTerminated => rfl

theorem Event.retyped_of_not_discovers {event : Event} (plain : event.discovers = false) :
    event.retyped protobuf = [] := by
  cases event with
  | headunit message accept write =>
      have other : isServiceDiscoveryResponse message = false := plain
      simp [Event.retyped, other]
  | connect | read | clientStep | sample | streamStep | threadTerminated => rfl

def Channel.handler (channel : Channel) : ChannelHandler where
  channelId := channel.number
  kind := Channel.newHandler channel

theorem foldl_install_handlers (channels : List Channel) (state : State) :
    (channels.foldl State.install state).handlers =
      state.handlers ++ channels.map Channel.handler := by
  induction channels generalizing state with
  | nil => simp
  | cons first rest inductionHypothesis =>
      rw [List.foldl_cons, inductionHypothesis, List.map_cons, List.append_cons]
      rfl

theorem discover_handlers (state : State) (protobuf : Protobuf) (accept : Accept) (body : Bytes) :
    (state.discover protobuf accept body).handlers = state.handlers ++
      (accept.installed (protobuf.serviceDiscoveryResponse_channels body)).map
        Channel.handler := by
  unfold State.discover
  cases accept.refused (protobuf.serviceDiscoveryResponse_channels body) <;>
    exact foldl_install_handlers _ { state with serviceDescriptor := body }

theorem foldl_install_channelHandlers (channels : List Channel) (state : State)
    (number : UInt8) :
    ((channels.foldl State.install state).channelHandlers number).isSome ↔
      (state.channelHandlers number).isSome ∨
        ∃ channel ∈ channels, channel.number = number := by
  induction channels generalizing state with
  | nil => simp
  | cons first rest inductionHypothesis =>
      rw [List.foldl_cons, inductionHypothesis, List.exists_mem_cons_iff, ← or_assoc]
      apply or_congr_left
      by_cases same : number = first.number
      · simp [State.install, same]
      · simp [State.install, same, Ne.symm same]

theorem discover_channelHandlers (state : State) (protobuf : Protobuf) (accept : Accept)
    (body : Bytes) (number : UInt8) :
    ((state.discover protobuf accept body).channelHandlers number).isSome ↔
      (state.channelHandlers number).isSome ∨
        ∃ channel ∈ accept.installed (protobuf.serviceDiscoveryResponse_channels body),
          channel.number = number := by
  rw [← foldl_install_channelHandlers _ { state with serviceDescriptor := body }]
  unfold State.discover
  cases accept.refused (protobuf.serviceDiscoveryResponse_channels body) <;> rfl

end Turns

end AAServer

end AACS
