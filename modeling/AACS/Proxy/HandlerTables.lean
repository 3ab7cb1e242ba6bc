import AACS.Client.Discovery
import AACS.Server.Announced

/-!
The handler tables of both programs after the same service descriptors.

Both programs install a handler of the kind of a channel at its number, so that each table
holds what the last channel announced with a number is for. The server makes the pipeline of a
video handler at once, the client with the first sample: when it cannot be linked, only the
client has the handler.
-/

namespace AACS

open Effects LastWrite

open AAServer (ChannelType)

namespace AAClient

def HandlerKind.channelType : HandlerKind → Option ChannelType
  | .default => none
  | .video _ => some .Video
  | .input => some .Input

theorem newHandler_kind (channel : Channel) : (newHandler channel).channelType = channel.kind := by
  unfold newHandler Channel.kind
  split
  · rfl
  · split <;> rfl

def State.kindAt (state : State) (number : UInt8) : Option (Option ChannelType) :=
  (state.channelHandlers number).map fun handler => handler.kind.channelType

theorem initial_kindAt (sd : Bytes) : (initial sd).kindAt = startTable := by
  funext number
  by_cases control : number = 0
  · subst control
    rfl
  · simp [State.kindAt, initial, startTable, control]

theorem kindAt_install (state : State) (channel : Channel) :
    (state.install channel).kindAt =
      write (fun channel => some channel.number) (fun channel => some channel.kind) state.kindAt
        channel := by
  funext number
  by_cases same : channel.number = number
  · subst same
    simp [State.kindAt, State.install, write, newHandler_kind]
  · simp [State.kindAt, State.install, write, same, Ne.symm same]

theorem kindAt_foldl_install (channels : List Channel) (state : State) :
    (channels.foldl State.install state).kindAt = kindTable state.kindAt channels := by
  induction channels generalizing state with
  | nil => rfl
  | cons channel rest inductionHypothesis =>
      rw [List.foldl_cons, inductionHypothesis, kindAt_install]
      rfl

/-- Answer a ServiceDiscoveryRequest with this service descriptor. -/
def describe (protobuf : Protobuf) (body : Bytes) : ClientAct Unit := do
  Act.modify fun state => { state with serviceDescription := body }
  handleServiceDiscoveryRequest protobuf

theorem describe_run {protobuf : Protobuf} {body : Bytes}
    (small : ∀ channel ∈ protobuf.serviceDiscoveryResponse_channels body,
      channel.channel_id < 255) (state : State) :
    ∃ next log, (describe protobuf body).run state = ⟨.ok (), next, log⟩ ∧
      next.kindAt = kindTable state.kindAt (protobuf.serviceDiscoveryResponse_channels body) := by
  have answered := @handleServiceDiscoveryRequest_run protobuf
    { state with serviceDescription := body } small
  exact ⟨_, _, by rw [describe, Act.run_bind, Act.run_modify, Act.andThen_ok, answered],
    kindAt_foldl_install _ { state with serviceDescription := body }⟩

end AAClient

section Agreement

variable {protobuf : Protobuf}

def announcedBy (protobuf : Protobuf) (bodies : List Bytes) : List Channel :=
  bodies.flatMap protobuf.serviceDiscoveryResponse_channels

/-- Take down a service descriptor, with what GStreamer makes of its pipelines. -/
def AAServer.serve (protobuf : Protobuf) (descriptor : Bytes × AAServer.Accept) :
    AAServer.ServerAct Unit :=
  AAServer.handleServiceDiscoveryResponse protobuf descriptor.2 descriptor.1

theorem server_discovers {descriptors : List (Bytes × AAServer.Accept)}
    (small : ∀ channel ∈ announcedBy protobuf (descriptors.map Prod.fst), channel.channel_id < 256)
    (linked : ∀ descriptor ∈ descriptors,
      descriptor.2.refused (protobuf.serviceDiscoveryResponse_channels descriptor.1) = none) :
    ∃ server, (descriptors.forM (AAServer.serve protobuf)).run AAServer.initial =
        ⟨.ok (), server, []⟩ ∧
      server.Shows (announcedBy protobuf (descriptors.map Prod.fst))
        (announcedBy protobuf (descriptors.map Prod.fst)) := by
  have each : ∀ descriptor ∈ descriptors, ∀ state, (AAServer.serve protobuf descriptor).run state =
      ⟨.ok (), state.discover protobuf descriptor.2 descriptor.1, []⟩ := by
    intro descriptor membership state
    have everything := AAServer.Accept.installed_eq_self (linked descriptor membership)
    rw [AAServer.serve, AAServer.handleServiceDiscoveryResponse_run, linked descriptor membership]
    · rfl
    · intro channel inside
      rw [everything] at inside
      exact small channel (List.mem_flatMap.mpr
        ⟨descriptor.1, List.mem_map_of_mem membership, inside⟩)
  refine ⟨_, Act.run_forM_updates each, ?_⟩
  clear each small
  induction descriptors using List.reverseRecOn with
  | nil => exact AAServer.initial_shows
  | append_singleton descriptors descriptor inductionHypothesis =>
      obtain ⟨earlier, here⟩ := List.forall_mem_append.mp linked
      have refused := here descriptor (List.mem_singleton_self _)
      have shows := (inductionHypothesis earlier).discover protobuf descriptor.2 descriptor.1
      rw [refused, AAServer.Accept.installed_eq_self refused, Option.toList_none,
        List.append_nil] at shows
      simpa [announcedBy, List.foldl_append] using shows

theorem client_discovers {bodies : List Bytes} (sd : Bytes)
    (small : ∀ channel ∈ announcedBy protobuf bodies, channel.channel_id < 255) :
    ∃ client log, (bodies.forM (AAClient.describe protobuf)).run (AAClient.initial sd) =
        ⟨.ok (), client, log⟩ ∧
      client.kindAt = kindTable startTable (announcedBy protobuf bodies) := by
  rw [← AAClient.initial_kindAt sd]
  generalize AAClient.initial sd = client
  induction bodies generalizing client with
  | nil => exact ⟨client, [], rfl, rfl⟩
  | cons body rest inductionHypothesis =>
      have here : ∀ channel ∈ protobuf.serviceDiscoveryResponse_channels body,
          channel.channel_id < 255 := fun channel membership =>
        small channel (List.mem_append_left _ membership)
      obtain ⟨next, first, answered, kinds⟩ := AAClient.describe_run here client
      obtain ⟨final, log, ran, further⟩ := inductionHypothesis
        (fun channel membership => small channel (List.mem_append_right _ membership)) next
      refine ⟨final, first ++ log, ?_, ?_⟩
      · rw [Act.run_forM_cons, answered, Act.andThen_ok, ran]
      · rw [further, kinds]
        exact List.foldl_append.symm

/-- Both tables hold what has been announced, and nothing else. -/
structure TablesAgree (announced : List Channel) (server : AAServer.State)
    (client : AAClient.State) : Prop where
  named : ∀ number channel, lastWithId number.toNat announced = some channel →
    server.kindAt number = some channel.kind ∧ client.kindAt number = some channel.kind
  control : lastWithId 0 announced = none →
    server.kindAt 0 = some none ∧ client.kindAt 0 = some none
  others : ∀ number, number ≠ 0 → lastWithId number.toNat announced = none →
    server.channelHandlers number = none ∧ client.channelHandlers number = none
  types : ∀ channelType, server.channelTypeToChannelNumber channelType =
    ((lastOfType channelType announced).map Channel.number).getD 255

/-- The same service descriptors leave the same kinds of handlers in both programs, when the
pipelines of all video handlers of the server can be linked. -/
theorem handler_tables_agree (protobuf : Protobuf) (sd : Bytes)
    (descriptors : List (Bytes × AAServer.Accept))
    (small : ∀ channel ∈ announcedBy protobuf (descriptors.map Prod.fst), channel.channel_id < 255)
    (linked : ∀ descriptor ∈ descriptors,
      descriptor.2.refused (protobuf.serviceDiscoveryResponse_channels descriptor.1) = none) :
    ∃ server client log,
      (descriptors.forM (AAServer.serve protobuf)).run AAServer.initial = ⟨.ok (), server, []⟩ ∧
      ((descriptors.map Prod.fst).forM (AAClient.describe protobuf)).run (AAClient.initial sd) =
        ⟨.ok (), client, log⟩ ∧
      TablesAgree (announcedBy protobuf (descriptors.map Prod.fst)) server client := by
  have small' : ∀ channel ∈ announcedBy protobuf (descriptors.map Prod.fst),
      channel.channel_id < 256 :=
    fun channel membership => Nat.lt_succ_of_lt (small channel membership)
  obtain ⟨server, served, agreed⟩ := server_discovers small' linked
  obtain ⟨client, log, answered, kinds⟩ := client_discovers sd small
  refine ⟨server, client, log, served, answered, ?_, ?_, ?_, ?_⟩
  · intro number channel last
    rw [agreed.kinds, kinds, kindTable_apply small', last]
    exact ⟨rfl, rfl⟩
  · intro unannounced
    have last : lastWithId (0 : UInt8).toNat
        (announcedBy protobuf (descriptors.map Prod.fst)) = none := unannounced
    rw [agreed.kinds, kinds, kindTable_apply small', last]
    exact ⟨rfl, rfl⟩
  · intro number other unannounced
    have empty : kindTable startTable (announcedBy protobuf (descriptors.map Prod.fst)) number =
        none := by
      rw [kindTable_apply small', unannounced]
      simp [startTable, other]
    refine ⟨agreed.tabled.channelHandlers_eq_none.mp (agreed.kinds ▸ empty), ?_⟩
    rw [← kinds, AAClient.State.kindAt, Option.map_eq_none_iff] at empty
    exact empty
  · intro channelType
    rw [agreed.types, typeTable, foldl_write, lastOfType]

/-- Channel 7 is announced with an input part, and then with a video part. -/
theorem handler_tables_agree_twice :
    ∃ server client log,
      ([([0x0a, 0x04, 0x08, 7, 0x22, 0x00], .failed),
        ([0x0a, 0x06, 0x08, 7, 0x1a, 0x02, 0x08, 0x03], .failed)].forM
          (AAServer.serve Protobuf.small)).run AAServer.initial = ⟨.ok (), server, []⟩ ∧
      ([[0x0a, 0x04, 0x08, 7, 0x22, 0x00], [0x0a, 0x06, 0x08, 7, 0x1a, 0x02, 0x08, 0x03]].forM
        (AAClient.describe Protobuf.small)).run (AAClient.initial []) = ⟨.ok (), client, log⟩ ∧
      TablesAgree [{ channel_id := 7, input_channel := some [] },
        { channel_id := 7, media_channel := some .Video }] server client :=
  handler_tables_agree Protobuf.small [] [([0x0a, 0x04, 0x08, 7, 0x22, 0x00], .failed),
    ([0x0a, 0x06, 0x08, 7, 0x1a, 0x02, 0x08, 0x03], .failed)] (by decide) (by decide)

/-- The pipeline of video channel 3 cannot be linked: the server stops in the middle of the
descriptor, with the number of the channel and without its handler, and the client goes on. -/
theorem handler_tables_differ_unlinked :
    ∃ exception server client log,
      ([([0x0a, 0x06, 0x08, 3, 0x1a, 0x02, 0x08, 0x03], .unlinked 0)].forM
        (AAServer.serve Protobuf.small)).run AAServer.initial =
          ⟨.error (.thrown exception), server, []⟩ ∧
      ([[0x0a, 0x06, 0x08, 3, 0x1a, 0x02, 0x08, 0x03]].forM
        (AAClient.describe Protobuf.small)).run (AAClient.initial []) = ⟨.ok (), client, log⟩ ∧
      server.channelTypeToChannelNumber .Video = 3 ∧ server.kindAt 3 = none ∧
      client.kindAt 3 = some (some .Video) ∧
      ¬ TablesAgree [{ channel_id := 3, media_channel := some .Video }] server client := by
  refine ⟨_, _, _, _, rfl, rfl, rfl, rfl, rfl, fun agree => ?_⟩
  have named := (agree.named 3 { channel_id := 3, media_channel := some .Video } rfl).1
  cases named

end Agreement

end AACS
