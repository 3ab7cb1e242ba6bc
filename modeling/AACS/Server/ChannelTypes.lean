import AACS.Server.Announced

/-!
The lookup of a channel by its type.

`getChannelNumberByChannelType` looks for -1 in a table of `uint8_t`, so it never throws: for
an absent type it returns 255, and a type that is none is looked up outside the table. The
number of a type is not taken out of the table when another channel gets the same number, nor
when the handler for it cannot be made.
-/

namespace AACS

namespace AAServer

open Effects Transitions LastWrite

def ChannelType.code : ChannelType → UInt8
  | .Video => 0
  | .Input => 1

/-- The lookup throws, or returns the number of a channel with a handler of the type, and stays
inside the table. -/
def LookupSound (state : State) (ct : UInt8) : Prop :=
  match ((getChannelNumberByChannelType ct).run state).result with
  | .ok number => ∃ type : ChannelType, ct = type.code ∧ state.kindAt number = some (some type)
  | .error (.thrown _) => True
  | .error .undefinedBehaviour => False

/-- The channels that have got handlers in a run. -/
def installedIn (protobuf : Protobuf) (events : List Event) : List Channel :=
  events.flatMap (Event.installed protobuf)

def retypedIn (protobuf : Protobuf) (events : List Event) : List Channel :=
  events.flatMap (Event.retyped protobuf)

/-- The last channel of the type has its number in the table of the types, and the last handler
made for that number, its own or another channel's, is one of the type. -/
def Available (installed retyped : List Channel) (type : ChannelType) : Prop :=
  ∃ channel, lastOfType type retyped = some channel ∧
    (lastWithId channel.number.toNat installed).bind Channel.kind = some type

section Steps

variable {protobuf : Protobuf} {state next : State} {event : Event} {outputs : List Output}
  {installed retyped : List Channel}

theorem State.SameTable.kindAt (same : state.SameTable next) (tabled : state.Tabled) :
    next.kindAt = state.kindAt := by
  funext number
  unfold State.kindAt State.handlerAt
  rw [same.channelHandlers]
  cases installed : state.channelHandlers number with
  | none => rfl
  | some pointer =>
      obtain ⟨handler, present, -⟩ := tabled number pointer installed
      obtain ⟨later, found, shape⟩ := same.handler present
      have same : later.kind.channelType = handler.kind.channelType := congrArg Prod.snd shape
      simp [present, found, same]

structure State.FollowsAnnounced (state : State) (installed retyped : List Channel) : Prop where
  wired : state.Wired
  shows : state.Shows installed retyped
  small : ∀ channel ∈ installed, channel.channel_id < 256
  among : installed ⊆ retyped

theorem step_followsAnnounced (follows : state.FollowsAnnounced installed retyped)
    (took : (machine protobuf).step state event = some (next, outputs)) :
    next.FollowsAnnounced (installed ++ event.installed protobuf)
      (retyped ++ event.retyped protobuf) := by
  have wired := step_wired follows.wired took
  cases plain : event.discovers with
  | false =>
      have same := step_sameTable follows.wired plain took
      rw [event.installed_of_not_discovers plain, event.retyped_of_not_discovers plain,
        List.append_nil, List.append_nil]
      refine ⟨wired, ⟨follows.shows.tabled.sameTable same, ?_, ?_⟩, follows.small, follows.among⟩
      · rw [same.kindAt follows.shows.tabled, follows.shows.kinds]
      · rw [(step_sameDescription follows.wired plain took).channelTypes, follows.shows.types]
  | true =>
      cases event with
      | headunit message accept write =>
          obtain ⟨small, rfl, -⟩ := discovery_turn plain took
          have discovery : isServiceDiscoveryResponse message = true := plain
          have shows := follows.shows.discover protobuf accept (message.content.drop 2)
          simp only [Event.installed, Event.retyped, discovery, if_true]
          refine ⟨wired, ⟨shows.tabled, shows.kinds, shows.types⟩, ?_, ?_⟩
          · exact List.forall_mem_append.mpr ⟨follows.small, small⟩
          · exact List.append_subset.mpr ⟨List.subset_append_of_subset_left _ follows.among,
              List.subset_append_of_subset_right _ (List.subset_append_left _ _)⟩
      | connect | read | clientStep | sample | streamStep | threadTerminated => cases plain

theorem run_followsAnnounced {events : List Event} {final : State}
    {trace : List (Event × List Output)}
    (ran : (machine protobuf).run initial events = some (final, trace)) :
    final.FollowsAnnounced (installedIn protobuf events) (retypedIn protobuf events) := by
  refine @Machine.run_past _ _ _ (machine protobuf)
    (fun state past =>
      state.FollowsAnnounced (installedIn protobuf past) (retypedIn protobuf past)) ?_ _ _ _ _
    ⟨wired_initial, initial_shows, by simp [installedIn], by simp [installedIn]⟩ ran
  intro state past event next outputs follows took
  have extended := step_followsAnnounced follows took
  rwa [installedIn, retypedIn, List.flatMap_append, List.flatMap_append, List.flatMap_singleton,
    List.flatMap_singleton, ← installedIn, ← retypedIn]

end Steps

section Lookup

variable {state : State} {installed retyped : List Channel}

theorem typed_iff_available (small : ∀ channel ∈ installed, channel.channel_id < 256)
    (among : installed ⊆ retyped) (type : ChannelType) :
    kindTable startTable installed (typeTable retyped type) = some (some type) ↔
      Available installed retyped type := by
  have start (number : UInt8) : startTable number ≠ some (some type) := by
    rw [startTable, Function.update_apply]
    split <;> simp
  rw [kindTable_apply small, typeTable, foldl_write, ← lastOfType, Available]
  cases last : lastOfType type retyped with
  | none =>
      refine iff_of_false (fun typed => ?_) (by simp)
      cases other : lastWithId (UInt8.toNat 255) installed with
      | none =>
          simp only [Option.map_none, Option.getD_none, other] at typed
          exact start _ typed
      | some channel =>
          simp only [Option.map_none, Option.getD_none, other, Option.map_some, Option.getD_some,
            Option.some.injEq] at typed
          exact lastFor_eq_none_iff.mp last channel (among (lastFor_eq_some other).1) typed
  | some channel =>
      simp only [Option.map_some, Option.getD_some, Option.some.injEq, exists_eq_left']
      cases lastWithId channel.number.toNat installed with
      | none => exact iff_of_false (start _) (by simp)
      | some other => simp

theorem code_injective {type other : ChannelType} (same : type.code = other.code) :
    type = other := by
  revert same
  cases type <;> cases other <;> simp [ChannelType.code]

theorem lookup_code (state : State) (type : ChannelType) :
    ((getChannelNumberByChannelType type.code).run state).result =
      .ok (state.channelTypeToChannelNumber type) := by
  cases type <;> rfl

theorem lookup_outside (state : State) {ct : UInt8}
    (unknown : ∀ type : ChannelType, ct ≠ type.code) :
    ((getChannelNumberByChannelType ct).run state).result = .error .undefinedBehaviour := by
  have notVideo : ct ≠ 0 := unknown .Video
  have notInput : ct ≠ 1 := unknown .Input
  simp only [getChannelNumberByChannelType, Act.run_bind, Act.run_get, Act.andThen_ok,
    if_neg notVideo, if_neg notInput]
  rfl

theorem lookupSound_iff (follows : state.FollowsAnnounced installed retyped) (ct : UInt8) :
    LookupSound state ct ↔
      ∃ type : ChannelType, ct = type.code ∧ Available installed retyped type := by
  by_cases known : ∃ type : ChannelType, ct = type.code
  · obtain ⟨type, rfl⟩ := known
    have available := typed_iff_available follows.small follows.among type
    rw [← follows.shows.kinds, ← follows.shows.types] at available
    rw [LookupSound, lookup_code]
    constructor
    · rintro ⟨other, same, typed⟩
      obtain rfl := code_injective same
      exact ⟨type, rfl, available.mp typed⟩
    · rintro ⟨other, same, sound⟩
      obtain rfl := code_injective same
      exact ⟨type, rfl, available.mpr sound⟩
  · rw [LookupSound, lookup_outside state fun type same => known ⟨type, same⟩]
    exact iff_of_false id fun found => known (found.imp fun type both => both.1)

end Lookup

/-- In every reachable state, the lookup of a byte is sound exactly when the byte is a type for
which a channel has been announced, and the last handler made for the number of the last such
channel is of the type. -/
theorem lookup_sound_iff (protobuf : Protobuf) (events : List Event) (final : State)
    (trace : List (Event × List Output))
    (ran : (machine protobuf).run initial events = some (final, trace)) (ct : UInt8) :
    LookupSound final ct ↔ ∃ type : ChannelType, ct = type.code ∧
      Available (installedIn protobuf events) (retypedIn protobuf events) type :=
  lookupSound_iff (run_followsAnnounced ran) ct

/-- A descriptor that announces a video channel with number 3. -/
def videoDescriptor : Event :=
  .headunit ⟨0, 11, [0, 6, 0x0a, 0x06, 0x08, 3, 0x1a, 0x02, 0x08, 0x03], 0⟩ .failed
    fun _ => .complete

theorem lookup_sound_video :
    ∃ final trace, (machine Protobuf.small).run initial [videoDescriptor] = some (final, trace) ∧
      (LookupSound final 0 ↔ ∃ type : ChannelType, 0 = type.code ∧
        Available (installedIn Protobuf.small [videoDescriptor])
          (retypedIn Protobuf.small [videoDescriptor]) type) :=
  ⟨_, _, rfl, lookup_sound_iff Protobuf.small [videoDescriptor] _ _ rfl 0⟩

/-- Before discovery the lookup of the video channel returns 255, which has no handler. -/
theorem lookup_before_discovery :
    ((getChannelNumberByChannelType ChannelType.Video.code).run initial).result = .ok 255 ∧
      initial.channelHandlers 255 = none ∧ ¬ LookupSound initial ChannelType.Video.code := by
  refine ⟨rfl, by decide, ?_⟩
  rintro ⟨type, -, typed⟩
  exact absurd typed (by simp [State.kindAt, State.handlerAt, initial])

end AAServer

end AACS
