import AACS.Server.Accesses
import AACS.Server.Audience
import AACS.Server.Unsolicited

/-!
Who hears a message of the head unit, as the tables have it.

`State.hears` asks the tables about one client at a time. As long as no client is thrown out
badly, a message that a client hears is written to its socket once, and nothing else is;
the writes to the others may find them gone.
-/

namespace AACS

namespace AAServer

open Effects FanOut

/-- The client is in the map, and the message is for everybody or for those who are
registered, the client among them. -/
def State.hears (state : State) (scl : Nat) (message : Message) : Bool :=
  match typeOf message.content, state.clients.lookup scl with
  | some type, some clientId =>
      if message.channel = 0 then isFocusResponse type
      else
        match (state.handlerAt message.channel).map ChannelHandler.kind with
        | none => false
        | some .default => true
        | some (.video video) => !video.channelOpened
        | some (.input input) =>
            type = InputChannelMessageType.Event.code ∧ clientId ∈ input.registered_clients
  | _, _ => false

def State.marks (state : State) (message : Message) : Bool :=
  if message.channel = 0 then isSpecific message.flags
  else
    match (state.handlerAt message.channel).map ChannelHandler.kind with
    | some (.input _) => false
    | _ => isSpecific message.flags

def State.heard (state : State) (message : Message) : Bytes :=
  packetFor message.channel (state.marks message) message.content

def State.Distinct (state : State) : Prop :=
  ∀ handler ∈ state.handlers, handler.registered.Nodup

/-- All that is known of a state in which every client that ended has been cleaned up. -/
structure State.Sound (state : State) : Prop where
  wired : state.Wired
  tidy : state.Tidy
  tabled : state.Tabled
  distinct : state.Distinct

/-- Every client is written to, or is gone. -/
def Writes (write : Nat → WriteResult) : Prop :=
  ∀ scl errno, write scl = .failed errno → errno = econnreset

section Soundness

variable {protobuf : Protobuf} {state next : State} {event : Event} {outputs : List Output}
  {scl : Nat} {clientId : Int}

theorem State.Quiet.distinct (quiet : state.Quiet next) (distinct : state.Distinct) :
    next.Distinct := by
  intro handler membership
  obtain ⟨old, inside, same⟩ := quiet.registered membership
  rw [← same]
  exact distinct old inside

theorem State.Distinct.register (distinct : state.Distinct) (pointer : Nat) (clientId : Int) :
    (state.register pointer clientId).Distinct := by
  intro handler membership
  rcases mem_updateHandler membership with old | ⟨⟨channelId, flag, kind⟩, inside, rfl⟩
  · exact distinct handler old
  · have before := distinct _ inside
    cases kind with
    | default => exact before
    | video video => exact before
    | input input => exact insert_nodup before

theorem State.Distinct.forget (distinct : state.Distinct) (scl : Nat) (clientId : Int) :
    (state.forget scl clientId).Distinct := by
  intro handler membership
  obtain ⟨pointer, old, present, rfl⟩ : ∃ pointer old, state.handlers[pointer]? = some old ∧
      handler = if state.isInstalled pointer then old.disconnected clientId else old := by
    obtain ⟨pointer, found⟩ := List.mem_iff_getElem?.mp membership
    rw [State.forget, List.getElem?_mapIdx] at found
    obtain ⟨old, present, same⟩ := Option.map_eq_some_iff.mp found
    exact ⟨pointer, old, present, same.symm⟩
  have before := distinct old (List.mem_of_getElem? present)
  split
  · obtain ⟨channelId, flag, kind⟩ := old
    cases kind with
    | default => exact before
    | video video => exact before
    | input input => exact before.filter _
  · exact before

theorem State.Distinct.close (distinct : state.Distinct) (scl : Nat) :
    (state.close scl).Distinct := by
  unfold State.close
  split <;> exact distinct

theorem ClientTurn.distinct (turn : ClientTurn state scl clientId next outputs)
    (distinct : state.Distinct) : next.Distinct := by
  cases turn with
  | goesOn => exact distinct
  | registers pointer => exact distinct.register pointer clientId
  | answered => exact distinct
  | fails => exact distinct.close scl
  | thrownOut => exact (distinct.forget scl clientId).close scl
  | leaves => exact distinct.forget scl clientId

theorem State.Discovers.distinct (found : state.Discovers next) (distinct : state.Distinct) :
    next.Distinct := by
  obtain ⟨added, same, unheard⟩ := found.handlers
  intro handler membership
  rw [same] at membership
  rcases List.mem_append.mp membership with old | new
  · exact distinct handler old
  · unfold ChannelHandler.registered
    split
    next input kind => simp [unheard handler new input kind]
    next => exact List.nodup_nil

theorem step_distinct (wired : state.Wired) (distinct : state.Distinct)
    (took : (machine protobuf).step state event = some (next, outputs)) : next.Distinct := by
  cases plain : event.discovers with
  | false =>
      exact step_without_discovery (fun before after => before.Distinct → after.Distinct)
        (fun first second => second ∘ first) (fun _ _ _ => id) State.Quiet.distinct
        ClientTurn.distinct wired plain took distinct
  | true =>
      cases event with
      | headunit message accept write =>
          obtain ⟨between, found, quiet⟩ := headunit_discovers plain took
          exact quiet.distinct (found.distinct distinct)
      | connect | read | clientStep | sample | streamStep | threadTerminated => cases plain

theorem orderly_sound (sound : state.Sound) (orderly : Orderly protobuf state event)
    (took : (machine protobuf).step state event = some (next, outputs)) : next.Sound where
  wired := step_wired sound.wired took
  tidy := step_tidy sound.wired sound.tidy orderly took
  tabled := step_tabled sound.wired sound.tabled took
  distinct := step_distinct sound.wired sound.distinct took

theorem sound_initial : initial.Sound where
  wired := wired_initial
  tidy := tidy_initial
  tabled := tabled_initial
  distinct := by simp [State.Distinct, initial, ChannelHandler.registered]

theorem run_sound {past : List Event} {trace : List (Event × List Output)}
    (orderly : (machine protobuf).Within (Orderly protobuf) initial past)
    (ran : (machine protobuf).run initial past = some (state, trace)) : state.Sound :=
  (machine protobuf).run_invariant orderly_sound sound_initial orderly ran

end Soundness

section Hearing

variable {state : State} {scl : Nat} {message : Message} {recipients : List Nat} {bytes : Bytes}

theorem mem_addressees_iff (wired : state.Wired) {clientId : Int} :
    scl ∈ state.addressees clientId ↔
      ∃ own, state.clients.lookup scl = some own ∧ (own = clientId ∨ clientId = -1) := by
  simp only [State.addressees, List.mem_map, List.mem_filter, decide_eq_true_eq]
  constructor
  · rintro ⟨⟨other, own⟩, ⟨inside, selected⟩, rfl⟩
    exact ⟨own, lookup_of_mem wired.keys inside, selected⟩
  · rintro ⟨own, known, selected⟩
    exact ⟨(scl, own), ⟨mem_of_lookup known, selected⟩, rfl⟩

theorem State.Sound.registered_number (sound : state.Sound) {handler : ChannelHandler}
    (inside : handler ∈ state.handlers) {clientId : Int}
    (registered : clientId ∈ handler.registered) : clientId ≠ -1 := by
  obtain ⟨cl, membership, rfl⟩ :=
    List.mem_map.mp (sound.tidy.registered handler inside clientId registered)
  have counted := (sound.wired.counted cl membership).1
  omega

theorem State.Sound.mem_listeners (sound : state.Sound) {handler : ChannelHandler}
    (inside : handler ∈ state.handlers) :
    scl ∈ handler.registered.flatMap state.addressees ↔
      ∃ own, state.clients.lookup scl = some own ∧ own ∈ handler.registered := by
  simp only [List.mem_flatMap, mem_addressees_iff sound.wired]
  constructor
  · rintro ⟨clientId, registered, own, known, rfl | everybody⟩
    · exact ⟨own, known, registered⟩
    · exact absurd everybody (sound.registered_number inside registered)
  · rintro ⟨own, known, registered⟩
    exact ⟨own, registered, own, known, .inl rfl⟩

theorem State.Tabled.route_heard (tabled : state.Tabled)
    (routed : state.route message = some (recipients, bytes)) : bytes = state.heard message := by
  unfold State.heard State.marks
  unfold State.route at routed
  split at routed
  next high low rest content =>
    by_cases control : message.channel = 0
    · simp only [control, if_true] at routed ⊢
      split at routed
      · cases routed
        rfl
      · cases routed
    · simp only [control, if_false] at routed ⊢
      cases found : state.handlerAt message.channel with
      | none => simp [found] at routed
      | some handler =>
          have channelId := tabled.channelId_eq found
          simp only [found, Option.map_some] at routed ⊢
          cases kind : handler.kind with
          | default =>
              simp only [kind] at routed
              cases routed
              rfl
          | video video =>
              simp only [kind] at routed
              split at routed
              · cases routed
              · cases routed
                rfl
          | input input =>
              simp only [kind] at routed
              split at routed
              · cases routed
                rw [channelId]
              · cases routed
  next => cases routed

theorem State.Sound.hears_iff (sound : state.Sound) :
    state.hears scl message = true ↔
      ∃ recipients bytes, state.route message = some (recipients, bytes) ∧ scl ∈ recipients := by
  have everybody : scl ∈ state.addressees (-1) ↔ ∃ own, state.clients.lookup scl = some own := by
    simp [mem_addressees_iff sound.wired]
  have named (low high : UInt8) (rest : Bytes) :
      typeOf (high :: low :: rest) = some (bigEndian16 high low) := rfl
  rcases content : message.content with _ | ⟨high, _ | ⟨low, rest⟩⟩
  · simp [State.hears, State.route, content, typeOf]
  · simp [State.hears, State.route, content, typeOf]
  simp only [State.hears, State.route, content, named]
  by_cases control : message.channel = 0
  · simp only [control, if_true]
    cases known : state.clients.lookup scl with
    | none =>
        rw [known] at everybody
        simp only [Bool.false_eq_true, false_iff, not_exists, not_and]
        intro recipients bytes routed
        split at routed
        · cases routed
          simpa using everybody
        · cases routed
    | some own =>
        rw [known] at everybody
        simp only
        split
        next focus => simp [focus, everybody]
        next other => simp [other]
  · simp only [control, if_false]
    cases found : state.handlerAt message.channel with
    | none => cases state.clients.lookup scl <;> simp
    | some handler =>
        obtain ⟨pointer, -, pointed⟩ := Option.bind_eq_some_iff.mp found
        have listeners := @State.Sound.mem_listeners state scl sound handler
          (List.mem_of_getElem? pointed)
        have channelId := sound.tabled.channelId_eq found
        obtain ⟨number, flag, kind⟩ := handler
        simp only at channelId
        subst channelId
        cases kind with
        | default =>
            cases known : state.clients.lookup scl <;> simp [known] at everybody ⊢ <;>
              exact everybody
        | video video =>
            cases known : state.clients.lookup scl <;> simp [known] at everybody ⊢ <;>
              cases video.channelOpened <;> simp [everybody]
        | input input =>
            simp only [ChannelHandler.registered] at listeners
            by_cases event : bigEndian16 high low = InputChannelMessageType.Event.code
            · cases known : state.clients.lookup scl with
              | none => simpa [known, event] using listeners
              | some own =>
                  simp only [known, Option.some.injEq, exists_eq_left'] at listeners
                  simp [event, listeners]
            · cases known : state.clients.lookup scl <;> simp [event]

theorem packetsTo_broadcast {write : Nat → WriteResult} (distinct : recipients.Nodup)
    (own : scl ∈ recipients → state.destination write scl = .ok scl)
    (others : ∀ other ∈ recipients, state.destination write other = .ok other ∨
      state.destination write other = .error econnreset) :
    packetsTo scl (state.broadcast write bytes recipients).log =
      if scl ∈ recipients then [bytes] else [] := by
  simp only [State.broadcast]
  induction recipients with
  | nil => rfl
  | cons first rest inductionHypothesis =>
      obtain ⟨fresh, distinct⟩ := List.nodup_cons.mp distinct
      obtain ⟨here, later⟩ := List.forall_mem_cons.mp others
      have continued := inductionHypothesis distinct
        (fun inside => own (List.mem_cons_of_mem _ inside)) later
      by_cases same : scl = first
      · subst same
        rw [if_neg fresh] at continued
        simp only [fanOut, own List.mem_cons_self, List.map_cons, List.mem_cons_self, if_true]
        simpa [packetsTo] using continued
      · simp only [List.mem_cons, same, false_or, ← continued]
        rcases here with sent | gone
        · simp [fanOut, sent, packetsTo, Ne.symm same]
        · simp [fanOut, gone, isReset]

theorem State.Sound.recipients_nodup (sound : state.Sound)
    (routed : state.route message = some (recipients, bytes)) : recipients.Nodup := by
  have nodup (clientId : Int) : (state.addressees clientId).Nodup :=
    sound.wired.keys.sublist (List.filter_sublist.map _)
  rcases route_cases routed with ⟨rfl, -⟩ | ⟨handler, input, found, kind, rfl, -⟩
  · exact nodup (-1)
  · obtain ⟨pointer, -, pointed⟩ := Option.bind_eq_some_iff.mp found
    have inside := List.mem_of_getElem? pointed
    have registered : handler.registered = input.registered_clients := by
      simp [ChannelHandler.registered, kind]
    rw [← registered]
    refine List.nodup_flatMap.mpr ⟨fun clientId _ => nodup clientId, ?_⟩
    apply (sound.distinct handler inside).pairwise_of_forall_ne
    intro first inFirst second inSecond different scl one two
    -- One client would have both numbers.
    obtain ⟨own, known, sameFirst⟩ := (mem_addressees_iff sound.wired).mp one
    obtain ⟨ownToo, knownToo, sameSecond⟩ := (mem_addressees_iff sound.wired).mp two
    rw [known] at knownToo
    cases knownToo
    have numberFirst := sound.registered_number inside inFirst
    have numberSecond := sound.registered_number inside inSecond
    rcases sameFirst with rfl | everybody
    · rcases sameSecond with rfl | everybody
      · exact different rfl
      · exact numberSecond everybody
    · exact numberFirst everybody

theorem State.Sound.recipient (sound : state.Sound)
    (routed : state.route message = some (recipients, bytes)) (inside : scl ∈ recipients)
    (write : Nat → WriteResult) :
    state.destination write scl =
      match write scl with
      | .complete => .ok scl
      | .failed errno => .error errno := by
  obtain ⟨own, known⟩ : ∃ own, state.clients.lookup scl = some own := by
    rcases route_cases routed with ⟨rfl, -⟩ | ⟨handler, input, -, -, rfl, -⟩
    · obtain ⟨own, known, -⟩ := (mem_addressees_iff sound.wired).mp inside
      exact ⟨own, known⟩
    · obtain ⟨clientId, -, addressed⟩ := List.mem_flatMap.mp inside
      obtain ⟨own, known, -⟩ := (mem_addressees_iff sound.wired).mp addressed
      exact ⟨own, known⟩
  obtain ⟨client, present, runs, -⟩ := sound.tidy.clients (scl, own) (mem_of_lookup known)
  exact sound.wired.destination present runs write

end Hearing

section Turns

variable {protobuf : Protobuf} {state next : State} {event : Event} {outputs : List Output}
  {scl : Nat} {message : Message}

/-- A message of the head unit is written once to the socket of a client that hears it, and
not at all to the socket of one that does not. -/
theorem State.Sound.headunit_packets (sound : state.Sound) {accept : Accept}
    {write : Nat → WriteResult} (writes : Writes write) (own : write scl = .complete)
    (took : (machine protobuf).step state (.headunit message accept write) =
      some (next, outputs)) :
    packetsTo scl outputs = if state.hears scl message then [state.heard message] else [] := by
  cases routed : state.route message with
  | none =>
      have deaf : state.hears scl message = false := by
        rw [Bool.eq_false_iff]
        intro hears
        obtain ⟨recipients, bytes, target, -⟩ := sound.hears_iff.mp hears
        rw [routed] at target
        cases target
      rw [deaf]
      refine List.eq_nil_iff_forall_not_mem.mpr fun bytes membership => ?_
      obtain ⟨recipients, target, -⟩ :=
        (headunit_packet_iff took scl bytes).mp (mem_packetsTo.mp membership)
      rw [routed] at target
      cases target
  | some target =>
      obtain ⟨recipients, bytes⟩ := target
      obtain ⟨rfl, -⟩ := headunit_turn took
      have others : ∀ other ∈ recipients, state.destination write other = .ok other ∨
          state.destination write other = .error econnreset := by
        intro other membership
        rw [sound.recipient routed membership write]
        cases result : write other with
        | complete => exact .inl rfl
        | failed errno => exact .inr (congrArg Except.error (writes other errno result))
      have target : scl ∈ recipients → state.destination write scl = .ok scl := by
        intro inside
        rw [sound.recipient routed inside write, own]
      have hears : state.hears scl message = true ↔ scl ∈ recipients := by
        rw [sound.hears_iff, routed]
        simp
      rw [handleMessageContent_routed protobuf accept write routed,
        packetsTo_broadcast (sound.recipients_nodup routed) target others,
        sound.tabled.route_heard routed]
      simp only [hears]

def State.packetsHeard (state : State) (scl : Nat) : Event → List Bytes
  | .headunit message _ _ => if state.hears scl message then [state.heard message] else []
  | _ => []

/-- As long as all writes succeed, such a client gets the messages that it hears and nothing
else. -/
theorem State.Sound.turn_packets (sound : state.Sound)
    (asksNothing : AsksNothing scl event ∨ ∃ write, event = .read scl (.data []) write)
    (writes : ∀ message accept write, event = .headunit message accept write →
      Writes write ∧ write scl = .complete)
    (took : (machine protobuf).step state event = some (next, outputs)) :
    packetsTo scl outputs = state.packetsHeard scl event := by
  have nothing (asksNothing : AsksNothing scl event)
      (silent : ∀ message accept write, event ≠ .headunit message accept write) :
      packetsTo scl outputs = [] := by
    refine List.eq_nil_iff_forall_not_mem.mpr fun packet membership => ?_
    obtain ⟨message, accept, write, specific, brings, -⟩ :=
      asksNothing_brings sound.wired sound.tabled asksNothing took (mem_packetsTo.mp membership)
    exact silent message accept write brings
  rcases asksNothing with asksNothing | ⟨write, rfl⟩
  · cases event with
    | headunit message accept write =>
        obtain ⟨written, own⟩ := writes message accept write rfl
        exact sound.headunit_packets written own took
    | connect | read | clientStep | sample | streamStep | threadTerminated =>
        exact nothing asksNothing nofun
  · obtain ⟨client, present, ready⟩ := step_read_ready took
    obtain ⟨clientId, known⟩ := sound.wired.known present (by simp [ready])
    rw [step_read_eof protobuf write present ready known] at took
    cases took
    rfl

end Turns

end AAServer

end AACS
