import AACS.Server.Registry

/-!
The table of the channel handlers.

Only a service descriptor writes to the table, and no handler ever changes its kind
or its channel. In every reachable state the handler in an entry is one for that
channel.
-/

namespace AACS

namespace AAServer

open Effects

def ChannelHandler.shape (handler : ChannelHandler) : UInt8 × Option ChannelType :=
  (handler.channelId, handler.kind.channelType)

structure State.SameTable (before after : State) : Prop where
  channelHandlers : after.channelHandlers = before.channelHandlers
  shapes : after.handlers.map ChannelHandler.shape = before.handlers.map ChannelHandler.shape

instance : Std.Refl State.SameTable := ⟨fun _ => ⟨rfl, rfl⟩⟩

instance : IsTrans State State.SameTable where
  trans _ _ _ first second :=
    ⟨second.channelHandlers.trans first.channelHandlers, second.shapes.trans first.shapes⟩

theorem State.SameTable.symm {before after : State} (same : before.SameTable after) :
    after.SameTable before := ⟨same.channelHandlers.symm, same.shapes.symm⟩

theorem shape_identity (handler : ChannelHandler) : handler.identity.shape = handler.shape := by
  obtain ⟨channelId, flag, kind⟩ := handler
  cases kind <;> rfl

theorem shape_updateInput (update : InputChannelHandler → InputChannelHandler)
    (handler : ChannelHandler) : (handler.updateInput update).shape = handler.shape := by
  obtain ⟨channelId, flag, kind⟩ := handler
  cases kind <;> rfl

section Table

variable {state next : State} {scl : Nat} {outputs : List Output} {protobuf : Protobuf}
  {event : Event}

theorem State.Quiet.sameTable (quiet : state.Quiet next) : state.SameTable next where
  channelHandlers := quiet.channelHandlers
  shapes := by
    have same := congrArg (List.map ChannelHandler.shape) quiet.handlers
    simpa only [List.map_map, Function.comp_def, shape_identity] using same

theorem register_sameTable (state : State) (pointer : Nat) (clientId : Int) :
    state.SameTable (state.register pointer clientId) where
  channelHandlers := rfl
  shapes := by
    apply List.ext_getElem?
    intro index
    simp only [State.register, State.updateHandler, List.getElem?_map, List.getElem?_modify]
    split
    · simp [shape_updateInput, Function.comp_def]
    · simp

theorem forget_sameTable (state : State) (scl : Nat) (clientId : Int) :
    state.SameTable (state.forget scl clientId) where
  channelHandlers := rfl
  shapes := by
    apply List.ext_getElem?
    intro index
    simp only [State.forget, List.getElem?_map, List.getElem?_mapIdx, Option.map_map]
    congr 1
    funext handler
    simp only [Function.comp_apply]
    split
    · exact shape_updateInput _ _
    · rfl

theorem close_sameTable (state : State) (scl : Nat) : state.SameTable (state.close scl) := by
  unfold State.close
  split <;> exact ⟨rfl, rfl⟩

theorem ClientTurn.sameTable {clientId : Int}
    (turn : ClientTurn state scl clientId next outputs) : state.SameTable next := by
  cases turn with
  | goesOn => exact ⟨rfl, rfl⟩
  | registers pointer => exact ⟨rfl, (register_sameTable state pointer clientId).shapes⟩
  | answered => exact ⟨rfl, rfl⟩
  | fails => exact close_sameTable state scl
  | thrownOut =>
      exact trans_of State.SameTable (forget_sameTable state scl clientId) (close_sameTable _ scl)
  | leaves => exact ⟨rfl, (forget_sameTable state scl clientId).shapes⟩

/-- Whether the event brings a service descriptor. -/
def Event.discovers : Event → Bool
  | .headunit message _ _ => isServiceDiscoveryResponse message
  | _ => false

theorem step_without_discovery (related : State → State → Prop)
    (trans : ∀ {first second third}, related first second → related second third →
      related first third)
    (accepts : ∀ scl fd stack, related state (state.accept scl fd stack))
    (quiets : ∀ {after}, state.Quiet after → related state after)
    (turns : ∀ {before scl clientId}, ClientTurn before scl clientId next outputs →
      related before next)
    (wired : state.Wired) (plain : event.discovers = false)
    (took : (machine protobuf).step state event = some (next, outputs)) : related state next := by
  have byActor {actor : Nat} (acts : event.actor = some actor) : related state next := by
    obtain ⟨client, clientId, before, -, -, -, quiet, turn⟩ := client_turn wired.known took acts
    exact trans (quiets quiet) (turns turn)
  cases event with
  | connect scl fd stack =>
      obtain ⟨-, -, rfl, -⟩ := connect_turn took
      exact accepts scl fd stack
  | read scl reading write => exact byActor rfl
  | clientStep scl => exact byActor rfl
  | headunit message accept write => exact quiets (headunit_quiet plain took)
  | sample | streamStep | threadTerminated => exact quiets (background_turn took trivial).1

theorem step_sameTable (wired : state.Wired) (plain : event.discovers = false)
    (took : (machine protobuf).step state event = some (next, outputs)) :
    state.SameTable next := by
  apply step_without_discovery State.SameTable (trans_of State.SameTable) ?_
    State.Quiet.sameTable ClientTurn.sameTable wired plain took
  intro scl fd stack
  exact ⟨rfl, rfl⟩

structure State.SameDescription (before after : State) : Prop where
  serviceDescriptor : after.serviceDescriptor = before.serviceDescriptor
  channelTypes : after.channelTypeToChannelNumber = before.channelTypeToChannelNumber

theorem close_sameDescription (state : State) (scl : Nat) :
    state.SameDescription (state.close scl) := by
  unfold State.close
  split <;> exact ⟨rfl, rfl⟩

theorem ClientTurn.sameDescription {clientId : Int}
    (turn : ClientTurn state scl clientId next outputs) : state.SameDescription next := by
  cases turn with
  | goesOn | registers | answered | leaves => exact ⟨rfl, rfl⟩
  | fails => exact close_sameDescription state scl
  | thrownOut =>
      have closed := close_sameDescription (state.forget scl clientId) scl
      exact ⟨closed.serviceDescriptor, closed.channelTypes⟩

theorem step_sameDescription (wired : state.Wired) (plain : event.discovers = false)
    (took : (machine protobuf).step state event = some (next, outputs)) :
    state.SameDescription next := by
  apply step_without_discovery State.SameDescription ?_ ?_ ?_ ClientTurn.sameDescription wired
    plain took
  · intro first second third before after
    exact ⟨after.serviceDescriptor.trans before.serviceDescriptor,
      after.channelTypes.trans before.channelTypes⟩
  · intro scl fd stack
    exact ⟨rfl, rfl⟩
  · intro after quiet
    exact ⟨quiet.serviceDescriptor, quiet.channelTypes⟩

/-- The handler in an entry of the table is one for that channel. -/
def State.Tabled (state : State) : Prop :=
  ∀ channel pointer, state.channelHandlers channel = some pointer →
    ∃ handler, state.handlers[pointer]? = some handler ∧ handler.channelId = channel

theorem State.Tabled.channelId_eq {state : State} (tabled : state.Tabled) {channel : UInt8}
    {handler : ChannelHandler} (found : state.handlerAt channel = some handler) :
    handler.channelId = channel := by
  obtain ⟨pointer, installed, pointed⟩ := Option.bind_eq_some_iff.mp found
  obtain ⟨same, present, channelId⟩ := tabled channel pointer installed
  rw [pointed] at present
  cases present
  exact channelId

theorem State.Tabled.packet_eq {state : State} (tabled : state.Tabled) {message : Message}
    {recipients : List Nat} {packet : Bytes}
    (routed : state.route message = some (recipients, packet)) :
    ∃ specific, packet = packetFor message.channel specific message.content := by
  rcases route_cases routed with ⟨-, rfl⟩ | ⟨handler, input, found, -, -, rfl⟩
  · exact ⟨_, rfl⟩
  · exact ⟨false, by rw [tabled.channelId_eq found]⟩

theorem tabled_initial : initial.Tabled := by
  intro channel pointer installed
  simp only [initial, Function.update_apply] at installed ⊢
  split at installed
  next same =>
    cases installed
    exact ⟨_, rfl, same.symm⟩
  next => cases installed

theorem State.SameTable.handler (same : state.SameTable next) {pointer : Nat}
    {handler : ChannelHandler} (present : state.handlers[pointer]? = some handler) :
    ∃ later, next.handlers[pointer]? = some later ∧ later.shape = handler.shape := by
  have shapes := congrArg (fun list => list[pointer]?) same.shapes
  simp only [List.getElem?_map, present, Option.map_some] at shapes
  exact Option.map_eq_some_iff.mp shapes

theorem State.Tabled.sameTable (tabled : state.Tabled) (same : state.SameTable next) :
    next.Tabled := by
  intro channel pointer installed
  rw [same.channelHandlers] at installed
  obtain ⟨handler, present, channelId⟩ := tabled channel pointer installed
  obtain ⟨later, found, shape⟩ := same.handler present
  exact ⟨later, found, (congrArg Prod.fst shape).trans channelId⟩

instance : Std.Refl fun before after : State => before.Tabled → after.Tabled := ⟨fun _ => id⟩

instance : IsTrans State fun before after : State => before.Tabled → after.Tabled :=
  ⟨fun _ _ _ first second => second ∘ first⟩

theorem State.Tabled.append {state : State} (tabled : state.Tabled) (handler : ChannelHandler) :
    State.Tabled { state with
      handlers := state.handlers ++ [handler]
      channelHandlers :=
        Function.update state.channelHandlers handler.channelId (some state.handlers.length) } := by
  intro number pointer installed
  simp only [Function.update_apply] at installed ⊢
  split at installed
  next same =>
    cases installed
    exact ⟨_, List.getElem?_concat_length, same.symm⟩
  next different =>
    obtain ⟨handler, present, channelId⟩ := tabled number pointer installed
    exact ⟨handler, by rw [List.getElem?_append_left (List.getElem?_eq_some_iff.mp present).1,
      present], channelId⟩

theorem handleServiceDiscoveryResponse_tabled (accept : Accept) (buf : Bytes) :
    (handleServiceDiscoveryResponse protobuf accept buf).Preserves
      fun before after => before.Tabled → after.Tabled :=
  .bind (.modify fun _ => id) fun _ => .forM _ fun _ _ =>
    installHandler_preserves _ _ (fun _ _ => id) fun _ tabled => tabled.append _

theorem step_tabled (wired : state.Wired) (tabled : state.Tabled)
    (took : (machine protobuf).step state event = some (next, outputs)) : next.Tabled := by
  cases plain : event.discovers with
  | false => exact tabled.sameTable (step_sameTable wired plain took)
  | true =>
      cases event with
      | headunit message accept write =>
          obtain ⟨found, kept, quiet⟩ :=
            headunit_discovery handleServiceDiscoveryResponse_tabled plain took
          exact (kept tabled).sameTable quiet.sameTable
      | connect | read | clientStep | sample | streamStep | threadTerminated => cases plain

theorem run_tabled {events : List Event} {final : State} {trace : List (Event × List Output)}
    (ran : (machine protobuf).run initial events = some (final, trace)) : final.Tabled := by
  have kept : ∀ {state event next outputs}, state.Wired ∧ state.Tabled →
      (machine protobuf).step state event = some (next, outputs) → next.Wired ∧ next.Tabled :=
    fun both took => ⟨step_wired both.1 took, step_tabled both.1 both.2 took⟩
  exact ((machine protobuf).run_keeps kept ⟨wired_initial, tabled_initial⟩ ran).2

end Table

end AAServer

end AACS
