import AACS.Server.ChannelTypes
import AACS.Server.Recipients

/-!
Clients that are registered with an input channel.

The packet of a client registers it, and it stays registered while its thread runs, unless the
head unit announces its channels anew. Until then it hears every input event of the channel.
-/

namespace AACS

open Effects Transitions

namespace AAServer

/-- The client's thread has ended, or the client is registered at the channel. -/
def State.Listening (state : State) (scl : Nat) (channel : UInt8) : Prop :=
  ∃ client, state.sockets scl = some client ∧ (client.thread ≠ .ended →
    ∃ own, state.clients.lookup scl = some own ∧ own ∈ state.registeredAt channel)

section Listening

variable {protobuf : Protobuf} {state next : State} {event : Event} {outputs : List Output}
  {scl actor : Nat} {channel : UInt8} {clientId : Int}

theorem State.Quiet.listening (quiet : state.Quiet next) (listening : state.Listening scl channel) :
    next.Listening scl channel := by
  obtain ⟨old, found, registered⟩ := listening
  obtain ⟨later, present, -, thread⟩ := quiet.symm.alive found
  refine ⟨later, present, fun runs => ?_⟩
  obtain ⟨own, known, inside⟩ := registered (thread ▸ runs)
  exact ⟨own, quiet.clients ▸ known, quiet.registeredAt channel ▸ inside⟩

theorem mem_registeredAt_register {own : Int} (pointer : Nat)
    (inside : own ∈ state.registeredAt channel) :
    own ∈ (state.register pointer clientId).registeredAt channel := by
  obtain ⟨⟨channelId, flag, kind⟩, found, registered⟩ :
      ∃ handler, state.handlerAt channel = some handler ∧ own ∈ handler.registered := by
    unfold State.registeredAt at inside
    cases found : state.handlerAt channel with
    | none => simp [found] at inside
    | some handler => exact ⟨handler, rfl, by simpa [found] using inside⟩
  obtain ⟨index, installed, pointed⟩ := Option.bind_eq_some_iff.mp found
  have later : (state.register pointer clientId).handlerAt channel =
      some ((if pointer = index then ChannelHandler.updateInput (.registerClient clientId) else id)
        ⟨channelId, flag, kind⟩) := by
    simp only [State.handlerAt, State.register, State.updateHandler, installed, Option.bind_some,
      List.getElem?_modify, pointed]
    split <;> rfl
  unfold State.registeredAt
  rw [later]
  split
  · cases kind with
    | default => exact registered
    | video video => exact registered
    | input input => exact mem_insert_iff.mpr (.inr registered)
  · exact registered

theorem listening_forget (wired : state.Wired) (known : state.clients.lookup actor = some clientId)
    (different : scl ≠ actor) {own : Int} (mine : state.clients.lookup scl = some own)
    (inside : own ∈ state.registeredAt channel) :
    (state.forget actor clientId).clients.lookup scl = some own ∧
      own ∈ (state.forget actor clientId).registeredAt channel := by
  have kept : (scl, own) ∈ (state.forget actor clientId).clients :=
    mem_eraseClient.mpr ⟨mem_of_lookup mine, different⟩
  have keys : ((state.forget actor clientId).clients.map Prod.fst).Nodup :=
    wired.keys.sublist ((eraseClient_sublist actor state.clients).map _)
  have number : own ≠ clientId := fun same =>
    different ((wired.same_iff (mem_of_lookup known) (mem_of_lookup mine)).mp same)
  refine ⟨lookup_of_mem keys kept, ?_⟩
  rw [registeredAt_forget, List.mem_filter]
  exact ⟨inside, by simpa using number⟩

theorem ClientTurn.listening_other (turn : ClientTurn state actor clientId next outputs)
    (wired : state.Wired) (known : state.clients.lookup actor = some clientId)
    (different : scl ≠ actor) (listening : state.Listening scl channel) :
    next.Listening scl channel := by
  obtain ⟨client, present, registered⟩ := listening
  refine ⟨client, (turn.sockets_other different).trans present, fun runs => ?_⟩
  obtain ⟨own, mine, inside⟩ := registered runs
  have forgotten := listening_forget wired known different mine inside
  cases turn with
  | goesOn => exact ⟨own, mine, inside⟩
  | registers pointer => exact ⟨own, mine, mem_registeredAt_register pointer inside⟩
  | answered => exact ⟨own, mine, inside⟩
  | fails =>
      unfold State.close
      split <;> exact ⟨own, mine, inside⟩
  | thrownOut =>
      unfold State.close
      split <;> exact ⟨own, forgotten⟩
  | leaves => exact ⟨own, forgotten⟩

theorem ClientTurn.listening_own (turn : ClientTurn state scl clientId next outputs)
    {client : SocketClient} (present : state.sockets scl = some client)
    (runs : client.thread ≠ .ended) (listening : state.Listening scl channel) :
    next.Listening scl channel := by
  obtain ⟨same, found, registered⟩ := listening
  rw [present] at found
  cases found
  obtain ⟨own, mine, inside⟩ := registered runs
  have closed (before : State) (there : before.sockets scl = some client) :
      (before.close scl).Listening scl channel := by
    refine ⟨{ client with thread := .ended }, ?_, fun runs => absurd rfl runs⟩
    simp [State.close, there]
  cases turn with
  | @goesOn thread => exact ⟨_, sockets_withThread present thread, fun _ => ⟨own, mine, inside⟩⟩
  | answered => exact ⟨_, sockets_withThread present .reading, fun _ => ⟨own, mine, inside⟩⟩
  | registers pointer =>
      exact ⟨_, sockets_withThread present _, fun _ =>
        ⟨own, mine, mem_registeredAt_register pointer inside⟩⟩
  | fails => exact closed state present
  | thrownOut => exact closed _ present
  | leaves =>
      exact ⟨{ client with thread := .ended }, by
        simp [State.withThread, State.updateSocket, State.forget, present], fun runs =>
          absurd rfl runs⟩

/-- A client that is registered stays registered while its thread runs. -/
theorem step_listening (wired : state.Wired) (plain : event.discovers = false)
    (listening : state.Listening scl channel)
    (took : (machine protobuf).step state event = some (next, outputs)) :
    next.Listening scl channel := by
  have byActor {actor : Nat} (acts : event.actor = some actor) : next.Listening scl channel := by
    obtain ⟨client, clientId, before, present, runs, known, quiet, turn⟩ :=
      client_turn wired.known took acts
    have between := quiet.listening listening
    obtain ⟨old, found, -, thread⟩ := quiet.symm.alive present
    by_cases same : scl = actor
    · subst same
      exact turn.listening_own found (thread ▸ runs) between
    · exact turn.listening_other (wired.quiet quiet) (quiet.clients ▸ known) same between
  cases event with
  | connect other fd stack =>
      obtain ⟨fresh, free, rfl, -⟩ := connect_turn took
      obtain ⟨client, present, registered⟩ := listening
      have different : scl ≠ other := by
        rintro rfl
        rw [fresh] at present
        cases present
      refine ⟨client, by simp [State.accept, different, present], fun runs => ?_⟩
      obtain ⟨own, mine, inside⟩ := registered runs
      exact ⟨own, lookup_of_mem (wired.accept stack fresh free).keys
        (mem_insertClient.mpr (.inr (mem_of_lookup mine))), inside⟩
  | read other reading write => exact byActor rfl
  | clientStep other => exact byActor rfl
  | headunit message accept write => exact (headunit_quiet plain took).listening listening
  | sample | streamStep | threadTerminated =>
      exact (background_turn took trivial).1.listening listening

theorem read_registers (wired : state.Wired) (tabled : state.Tabled)
    (input : state.kindAt channel = some (some .Input)) {write : Nat → WriteResult}
    (took : (machine protobuf).step state
      (.read scl (.data [PacketType.RawData.code, channel, 0]) write) = some (next, outputs)) :
    next.Listening scl channel := by
  obtain ⟨client, present, ready⟩ := step_read_ready took
  obtain ⟨own, known⟩ := wired.known present (by simp [ready])
  obtain ⟨⟨channelId, flag, kind⟩, found, isInput⟩ := Option.map_eq_some_iff.mp input
  obtain ⟨pointer, installed, pointed⟩ := Option.bind_eq_some_iff.mp found
  cases kind with
  | default => cases isInput
  | video video => cases isInput
  | input handler =>
      rw [step_read_packet protobuf write present ready (by simp), packet_data] at took
      let between := state.buffered scl client (.data [PacketType.RawData.code, channel, 0])
      have turn : (gotPacket write scl
          ⟨PacketType.RawData.code, channel, 0, List.take (clientBufSize - 3) []⟩).run between =
          ⟨.ok (.opening pointer .resetChannelOpen), between.register pointer own, []⟩ :=
        gotPacket_registers write known rfl installed pointed rfl
      rw [finishClient_ok turn] at took
      cases took
      obtain ⟨later, there, -⟩ :=
        (buffered_quiet state scl client
          (.data [PacketType.RawData.code, channel, 0])).symm.alive present
      have inside : own ∈ (between.register pointer own).registeredAt channel := by
        have registered : (between.register pointer own).registeredAt channel = _ :=
          registeredAt_register tabled installed pointed rfl own channel
        rw [registered, if_pos rfl]
        exact mem_insert_iff.mpr (.inl rfl)
      exact ⟨_, sockets_withThread there _, fun _ => ⟨own, known, inside⟩⟩

/-- Who listens hears the events. -/
theorem State.Listening.hears (listening : state.Listening scl channel)
    (input : state.kindAt channel = some (some .Input)) (ordinary : channel ≠ 0)
    {client : SocketClient} (present : state.sockets scl = some client)
    (runs : client.thread ≠ .ended) {message : Message} (same : message.channel = channel)
    (event : typeOf message.content = some InputChannelMessageType.Event.code) :
    state.hears scl message = true := by
  obtain ⟨found, there, registered⟩ := listening
  rw [present] at there
  cases there
  obtain ⟨own, known, inside⟩ := registered runs
  obtain ⟨⟨channelId, flag, kind⟩, handler, isInput⟩ := Option.map_eq_some_iff.mp input
  subst same
  cases kind with
  | default => cases isInput
  | video video => cases isInput
  | input input =>
      have heard : own ∈ input.registered_clients := by
        simpa [State.registeredAt, handler, ChannelHandler.registered] using inside
      simp [State.hears, event, known, ordinary, handler, heard]

end Listening

end AAServer

end AACS
