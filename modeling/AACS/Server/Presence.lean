import AACS.Server.Accesses

/-!
Which entries of its table `AAServer` uses.

A packet of a client for an entry that is not there is rejected. A message of the head
unit is not: the entry is called, and a channel of a service descriptor is written, with
nobody looking. An entry is there when it is the first one, or when the head unit has
announced the channel before.
-/

namespace AACS

namespace AAServer

open Effects Transitions

/-- The head unit has announced the channel, and a handler was made for it. -/
def Announced (protobuf : Protobuf) (history : List Event) (number : UInt8) : Prop :=
  ∃ event ∈ history, ∃ channel ∈ event.installed protobuf, channel.channel_id = number.toNat

/-- The handling of the message calls handlers that are there, and writes to entries that
the table has. -/
def HandlersPresent (protobuf : Protobuf) (accept : Accept) (state : State) (message : Message) :
    Prop :=
  ∀ access ∈ accesses protobuf accept state message, access.InTable state

/-- A packet is passed to a handler that is there and takes it, or rejected with an
exception. -/
def PassedOrRejected (state : State) (clientId : Int) (channel : UInt8) (specific : Bool)
    (data : Bytes) : Prop :=
  (∃ pointer handler thread, state.channelHandlers channel = some pointer ∧
    state.handlers[pointer]? = some handler ∧
    (sendToChannel clientId channel specific data).run state =
      (handleMessageFromClient pointer clientId channel specific data).run state ∧
    ((sendToChannel clientId channel specific data).run state).result = .ok thread) ∨
  ∃ exception, (sendToChannel clientId channel specific data).run state =
    ⟨.error (.thrown exception), state, []⟩

section Entries

variable {protobuf : Protobuf} {state next : State} {past : List Event} {event : Event}
  {outputs : List Output}

def State.TableFollows (protobuf : Protobuf) (state : State) (past : List Event) : Prop :=
  ∀ number, (state.channelHandlers number).isSome ↔ number = 0 ∨ Announced protobuf past number

theorem initial_tableFollows : initial.TableFollows protobuf [] := by
  intro number
  by_cases control : number = 0
  · subst control
    simp [initial]
  · simp [initial, control, Announced]

theorem announced_concat {number : UInt8} :
    Announced protobuf (past ++ [event]) number ↔ Announced protobuf past number ∨
      ∃ channel ∈ event.installed protobuf, channel.channel_id = number.toNat := by
  simp only [Announced, List.mem_append, List.mem_singleton, or_and_right, exists_or,
    exists_eq_left]

theorem step_tableFollows (wired : state.Wired) (follows : state.TableFollows protobuf past)
    (took : (machine protobuf).step state event = some (next, outputs)) :
    next.TableFollows protobuf (past ++ [event]) := by
  intro number
  rw [announced_concat, ← or_assoc, ← follows number]
  cases plain : event.discovers with
  | false =>
      rw [(step_sameTable wired plain took).channelHandlers, event.installed_of_not_discovers plain]
      simp
  | true =>
      cases event with
      | headunit message accept write =>
          have discovery : isServiceDiscoveryResponse message = true := plain
          obtain ⟨small, rfl, -⟩ := discovery_turn discovery took
          have brought : (Event.headunit message accept write).installed protobuf =
              accept.installed
                (protobuf.serviceDiscoveryResponse_channels (message.content.drop 2)) := by
            simp [Event.installed, discovery]
          rw [discover_channelHandlers, brought]
          apply or_congr_right
          refine exists_congr fun channel => and_congr_right fun membership => ?_
          exact channel.number_eq_iff (small channel membership)
      | connect | read | clientStep | sample | streamStep | threadTerminated => cases plain

theorem run_tableFollows {history : List Event} {trace : List (Event × List Output)}
    (ran : (machine protobuf).run initial history = some (state, trace)) :
    state.TableFollows protobuf history := by
  have kept : ∀ {state past event next outputs},
      state.Wired ∧ state.TableFollows protobuf past →
      (machine protobuf).step state event = some (next, outputs) →
      next.Wired ∧ next.TableFollows protobuf (past ++ [event]) :=
    fun both took => ⟨step_wired both.1 took, step_tableFollows both.1 both.2 took⟩
  exact (@Machine.run_past _ _ _ (machine protobuf)
    (fun state past => state.Wired ∧ state.TableFollows protobuf past) kept _ _ _ _
    ⟨wired_initial, initial_tableFollows⟩ ran).2

end Entries

section Paths

variable {protobuf : Protobuf} {state : State}

theorem handleMessageFromClient_taken {pointer : Nat} {handler : ChannelHandler}
    (present : state.handlers[pointer]? = some handler) (clientId : Int) (channel : UInt8)
    (specific : Bool) (data : Bytes) :
    ∃ thread, ((handleMessageFromClient pointer clientId channel specific data).run state).result =
      .ok thread := by
  rw [handleMessageFromClient, Act.run_bind, readHandler_run present, Act.andThen_ok]
  cases handler.kind with
  | default => exact ⟨.reading, rfl⟩
  | video video => exact ⟨.reading, rfl⟩
  | input input => exact ⟨.opening pointer .resetChannelOpen, rfl⟩

theorem sendToChannel_passed_or_rejected (tabled : state.Tabled) (clientId : Int) (channel : UInt8)
    (specific : Bool) (data : Bytes) : PassedOrRejected state clientId channel specific data := by
  cases installed : state.channelHandlers channel with
  | none =>
      refine .inr ⟨.runtimeError ("No handler for channel " ++ toString channel.toNat), ?_⟩
      simp only [sendToChannel, Act.run_bind, Act.run_get, Act.andThen_ok, installed]
      rfl
  | some pointer =>
      obtain ⟨handler, present, -⟩ := tabled channel pointer installed
      obtain ⟨thread, taken⟩ :=
        handleMessageFromClient_taken present clientId channel specific data
      have passed : (sendToChannel clientId channel specific data).run state =
          (handleMessageFromClient pointer clientId channel specific data).run state := by
        simp only [sendToChannel, Act.run_bind, Act.run_get, Act.andThen_ok, installed,
          List.nil_append]
      exact .inl ⟨pointer, handler, thread, installed, present, passed, passed ▸ taken⟩

theorem State.Tabled.handlerAt_ne_none (tabled : state.Tabled) {channel : UInt8} :
    state.handlerAt channel ≠ none ↔ (state.channelHandlers channel).isSome := by
  unfold State.handlerAt
  cases installed : state.channelHandlers channel with
  | none => simp
  | some pointer =>
      obtain ⟨handler, present, -⟩ := tabled channel pointer installed
      simp [present]

theorem handlersPresent_iff {history : List Event} {trace : List (Event × List Output)}
    (ran : (machine protobuf).run initial history = some (state, trace)) (accept : Accept)
    (message : Message) :
    HandlersPresent protobuf accept state message ↔
      (message.channel = 0 ∨ Announced protobuf history message.channel) ∧
      (isServiceDiscoveryResponse message → ∀ channel ∈ accept.installed
        (protobuf.serviceDiscoveryResponse_channels (message.content.drop 2)),
          channel.channel_id < 256) := by
  have follows := run_tableFollows ran message.channel
  rw [HandlersPresent, accesses_inTable_iff, (run_tabled ran).handlerAt_ne_none, follows]
  apply and_congr_left
  intro _
  tauto

/-- Wherever a run has come to, every packet of a client is passed to a handler or rejected,
and a message of the head unit uses the table well exactly when its channel is 0, or one that
has been announced, and, if it is a service descriptor, it announces nothing from 256 on. -/
theorem handler_presence_iff {history : List Event} {trace : List (Event × List Output)}
    (ran : (machine protobuf).run initial history = some (state, trace)) :
    (∀ clientId channel specific data,
      PassedOrRejected state clientId channel specific data) ∧
    ∀ accept message, HandlersPresent protobuf accept state message ↔
      (message.channel = 0 ∨ Announced protobuf history message.channel) ∧
      (isServiceDiscoveryResponse message → ∀ channel ∈ accept.installed
        (protobuf.serviceDiscoveryResponse_channels (message.content.drop 2)),
          channel.channel_id < 256) :=
  ⟨sendToChannel_passed_or_rejected (run_tabled ran), handlersPresent_iff ran⟩

/-- The head unit's first message: an input channel, number 7. -/
def firstAnnouncement : Message :=
  ⟨0, 0x0b, serviceDiscoveryResponse [0x0a, 0x04, 0x08, 7, 0x22, 0x00], 0⟩

/-- Channel 7 is announced, and then a message comes on it. -/
theorem handler_presence_after_discovery :
    ∃ state trace,
      (machine .small).run initial [.headunit firstAnnouncement .failed fun _ => .complete] =
        some (state, trace) ∧
      HandlersPresent .small .failed state ⟨7, 0x0b, [0x80, 0x01], 0⟩ := by
  obtain ⟨state, trace, ran⟩ : ∃ state trace,
      (machine .small).run initial [.headunit firstAnnouncement .failed fun _ => .complete] =
        some (state, trace) := ⟨_, _, rfl⟩
  refine ⟨state, trace, ran, ((handler_presence_iff ran).2 _ _).mpr ⟨.inr ?_, by decide⟩⟩
  exact ⟨_, List.mem_singleton_self _, ⟨7, none, some []⟩, List.mem_singleton_self _, rfl⟩

/-- A message on channel 7 before anything is announced. -/
theorem message_before_discovery :
    ¬ ∀ (protobuf : Protobuf) (history : List Event) (state : State)
      (trace : List (Event × List Output)) (accept : Accept) (message : Message),
      (machine protobuf).run initial history = some (state, trace) →
      HandlersPresent protobuf accept state message := by
  intro always
  obtain ⟨handler, installed⟩ := always .small [] initial [] .failed ⟨7, 0x0b, [0x80, 0x01], 0⟩ rfl
    (.call 7) (by decide)
  cases installed

end Paths

end AAServer

end AACS
