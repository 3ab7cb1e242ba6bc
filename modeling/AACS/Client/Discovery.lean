import AACS.Client.Dispatch

/-!
What a ServiceDiscoveryRequest does to the table of `AAClient`.
-/

namespace AACS

namespace AAClient

open Effects

def State.install (state : State) (channel : Channel) : State :=
  { state with
    channelHandlers := Function.update state.channelHandlers channel.number
      (some { channelId := channel.number, kind := newHandler channel }) }

theorem installHandler_run {channel : Channel} (small : channel.channel_id < 255)
    (state : State) :
    (installHandler channel).run state = ⟨.ok (), state.install channel, []⟩ := by
  unfold installHandler
  rw [if_pos small]
  rfl

theorem handleServiceDiscoveryRequest_run {protobuf : Protobuf} {state : State}
    (small : ∀ channel ∈ protobuf.serviceDiscoveryResponse_channels state.serviceDescription,
      channel.channel_id < 255) :
    (handleServiceDiscoveryRequest protobuf).run state =
      ⟨.ok (),
        (protobuf.serviceDiscoveryResponse_channels state.serviceDescription).foldl State.install
          state,
        [.enqueue 0 (encryptedBulk ||| MessageTypeFlags.Control.mask)
          (pushBackInt16 [] MessageType.ServiceDiscoveryResponse.code ++
            state.serviceDescription)]⟩ := by
  simp only [handleServiceDiscoveryRequest, Act.run_bind, Act.run_get, Act.andThen_ok,
    List.nil_append]
  rw [Act.run_forM_updates fun channel membership state =>
    installHandler_run (small channel membership) state]
  rfl

theorem installs_silent (channels : List Channel) (state : State) :
    ((channels.forM installHandler).run state).log = [] := by
  apply List.eq_nil_iff_forall_not_mem.mpr
  intro output membership
  have silent : (channels.forM installHandler).Emits fun _ => False := by
    refine .forM channels fun channel _ => .silent fun state => ?_
    unfold installHandler
    split <;> rfl
  exact silent state output membership

theorem handleServiceDiscoveryRequest_outside {protobuf : Protobuf} {state : State}
    (outside : ∃ channel ∈ protobuf.serviceDiscoveryResponse_channels state.serviceDescription,
      ¬ channel.channel_id < 255) :
    ((handleServiceDiscoveryRequest protobuf).run state).result = .error .undefinedBehaviour ∧
      ((handleServiceDiscoveryRequest protobuf).run state).log = [] := by
  have installs (channel : Channel) (small : channel.channel_id < 255) (state : State) :
      ((installHandler channel).run state).result = .ok () := by rw [installHandler_run small]
  have fails (channel : Channel) (large : ¬ channel.channel_id < 255) (state : State) :
      ((installHandler channel).run state).result = .error .undefinedBehaviour := by
    rw [installHandler, if_neg large]
    rfl
  have failed : (((protobuf.serviceDiscoveryResponse_channels
      state.serviceDescription).forM installHandler).run state).result =
        .error .undefinedBehaviour := Act.run_forM_fails
          (fun channel _ => installs channel) (fun channel _ => fails channel) outside
  simp only [handleServiceDiscoveryRequest, Act.run_bind, Act.run_get, Act.andThen_ok,
    List.nil_append]
  have silent := installs_silent
    (protobuf.serviceDiscoveryResponse_channels state.serviceDescription) state
  rcases ran : ((protobuf.serviceDiscoveryResponse_channels
    state.serviceDescription).forM installHandler).run state with ⟨thrown | value, after, log⟩
  · rw [ran] at failed silent
    cases failed
    exact ⟨rfl, silent⟩
  · rw [ran] at failed
    cases failed

end AAClient

end AACS
