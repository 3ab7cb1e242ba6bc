import AACS.Library.LastWrite
import AACS.Server.Discovery

/-!
The tables of `AAServer` after the channels that have been announced to it.

`Channel.kind` says what a channel of a descriptor is for. A handler of that kind is installed
at the channel's number, so that the table of the handlers holds what the last channel
announced with a number is for; the table of the types holds the number of the last channel
of each type.
-/

namespace AACS

open Effects LastWrite

open AAServer (ChannelType)

/-- A video part counts before an input part; a channel with neither is an ordinary one. -/
def Channel.kind (channel : Channel) : Option ChannelType :=
  if channel.media_channel = some .Video then some .Video
  else if channel.input_channel.isSome then some .Input
  else none

def kindTable (start : UInt8 → Option (Option ChannelType)) (announced : List Channel) :
    UInt8 → Option (Option ChannelType) :=
  announced.foldl (write (fun channel => some channel.number) fun channel => some channel.kind)
    start

/-- Both programs begin with an ordinary handler for channel 0. -/
def startTable : UInt8 → Option (Option ChannelType) :=
  Function.update (fun _ => none) 0 (some none)

def typeTable (announced : List Channel) : ChannelType → UInt8 :=
  announced.foldl (write Channel.kind Channel.number) fun _ => 255

def lastWithId (id : Nat) (announced : List Channel) : Option Channel :=
  lastFor (fun channel => some channel.channel_id) id announced

def lastOfType (channelType : ChannelType) (announced : List Channel) : Option Channel :=
  lastFor Channel.kind channelType announced

theorem kindTable_apply {announced : List Channel}
    (small : ∀ channel ∈ announced, channel.channel_id < 256) (number : UInt8) :
    kindTable startTable announced number =
      ((lastWithId number.toNat announced).map fun channel => some channel.kind).getD
        (startTable number) := by
  have keys : ∀ channel ∈ announced, decide (some channel.number = some number) =
      decide (some channel.channel_id = some number.toNat) := by
    intro channel membership
    have room := small channel membership
    rw [decide_eq_decide, Option.some.injEq, Option.some.injEq, Channel.number,
      ← UInt8.toNat_inj, UInt8.toNat_ofNat', Nat.mod_eq_of_lt room]
  rw [kindTable, foldl_write, lastWithId, lastFor, lastFor, List.filter_congr keys]

namespace AAServer

theorem newHandler_kind (channel : Channel) :
    (Channel.newHandler channel).channelType = channel.kind := by
  unfold Channel.newHandler Channel.kind
  split
  · rfl
  · cases channel.input_channel <;> rfl

def State.kindAt (state : State) (number : UInt8) : Option (Option ChannelType) :=
  (state.handlerAt number).map fun handler => handler.kind.channelType

/-- The tables hold the channels that got handlers, and those whose numbers were taken down. -/
structure State.Shows (state : State) (installed retyped : List Channel) : Prop where
  tabled : state.Tabled
  kinds : state.kindAt = kindTable startTable installed
  types : state.channelTypeToChannelNumber = typeTable retyped

theorem initial_shows : initial.Shows [] [] where
  tabled := tabled_initial
  kinds := by
    funext number
    by_cases control : number = 0
    · subst control
      rfl
    · simp [State.kindAt, State.handlerAt, initial, kindTable, startTable, control]
  types := rfl

theorem State.Tabled.handlerAt_install {state : State} (tabled : state.Tabled) (channel : Channel)
    (number : UInt8) :
    (state.install channel).handlerAt number =
      if channel.number = number then
        some { channelId := channel.number, kind := Channel.newHandler channel }
      else state.handlerAt number := by
  unfold State.handlerAt State.install
  by_cases same : number = channel.number
  · simp [same]
  · simp only [Function.update_of_ne same, if_neg (Ne.symm same)]
    cases installed : state.channelHandlers number with
    | none => rfl
    | some pointer =>
        obtain ⟨handler, present, -⟩ := tabled number pointer installed
        have inside := (List.getElem?_eq_some_iff.mp present).1
        simp [List.getElem?_append_left inside]

section Shows

variable {state : State} {installed retyped : List Channel}

theorem State.Shows.retype (agreed : state.Shows installed retyped) (channel : Channel) :
    (state.retype channel).Shows installed (retyped ++ [channel]) where
  tabled := agreed.tabled
  kinds := agreed.kinds
  types := by
    rw [typeTable, List.foldl_append, List.foldl_cons, List.foldl_nil, ← typeTable, ← agreed.types]
    funext channelType
    simp only [State.retype, newHandler_kind]
    rfl

theorem State.Shows.install (agreed : state.Shows installed retyped) (channel : Channel) :
    (state.install channel).Shows (installed ++ [channel]) (retyped ++ [channel]) where
  tabled := (agreed.retype channel).tabled.append (Channel.handler channel)
  kinds := by
    funext number
    rw [kindTable, List.foldl_append, List.foldl_cons, List.foldl_nil, ← kindTable, ← agreed.kinds,
      State.kindAt, agreed.tabled.handlerAt_install, write]
    by_cases same : channel.number = number
    · simp [same, newHandler_kind]
    · simp [same, State.kindAt]
  types := (agreed.retype channel).types

theorem State.Shows.foldl_install (agreed : state.Shows installed retyped)
    (channels : List Channel) :
    (channels.foldl State.install state).Shows (installed ++ channels) (retyped ++ channels) := by
  induction channels generalizing state installed retyped with
  | nil => simpa using agreed
  | cons channel rest inductionHypothesis =>
      have further := inductionHypothesis (agreed.install channel)
      rwa [List.append_assoc, List.append_assoc] at further

theorem State.Shows.discover (agreed : state.Shows installed retyped) (protobuf : Protobuf)
    (accept : Accept) (body : Bytes) :
    (state.discover protobuf accept body).Shows
      (installed ++ accept.installed (protobuf.serviceDiscoveryResponse_channels body))
      (retyped ++ (accept.installed (protobuf.serviceDiscoveryResponse_channels body) ++
        (accept.refused (protobuf.serviceDiscoveryResponse_channels body)).toList)) := by
  have stored : { state with serviceDescriptor := body }.Shows installed retyped :=
    ⟨agreed.tabled, agreed.kinds, agreed.types⟩
  have served := stored.foldl_install
    (accept.installed (protobuf.serviceDiscoveryResponse_channels body))
  rw [← List.append_assoc]
  unfold State.discover
  cases accept.refused (protobuf.serviceDiscoveryResponse_channels body) with
  | none => simpa using served
  | some channel => exact served.retype channel

end Shows

theorem State.Tabled.channelHandlers_eq_none {server : State} (tabled : server.Tabled)
    {number : UInt8} :
    server.kindAt number = none ↔ server.channelHandlers number = none := by
  unfold State.kindAt State.handlerAt
  cases installed : server.channelHandlers number with
  | none => simp
  | some pointer =>
      obtain ⟨handler, present, -⟩ := tabled number pointer installed
      simp [present]

end AAServer

end AACS
