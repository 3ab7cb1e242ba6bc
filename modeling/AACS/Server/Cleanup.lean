import AACS.Server.Registry

/-!
What is left of a client that ends.

A client can end in four places. The end of file and raw data that nobody handles
clean up behind it. A reply that is not written and a packet of unknown type close
its descriptor and leave it in the map; and a client that ends after a new service
descriptor stays registered with the handlers that are not in the table any more.
-/

namespace AACS

namespace AAServer

open Effects

/-- The map holds clients that are alive, and the input handlers numbers of the map. -/
structure State.Tidy (state : State) : Prop where
  clients : ∀ cl ∈ state.clients, ∃ client, state.sockets cl.1 = some client ∧
    client.thread ≠ .ended ∧ state.descriptors client.fd = some cl.1
  registered : ∀ handler ∈ state.handlers, ∀ clientId ∈ handler.registered,
    clientId ∈ state.clients.map Prod.snd

def State.OnlyInstalled (state : State) (clientId : Int) : Prop :=
  ∀ pointer handler, state.handlers[pointer]? = some handler → clientId ∈ handler.registered →
    state.isInstalled pointer = true

/-- Requests are known and answered, and who is removed is registered with handlers of the
table only. -/
def Orderly (protobuf : Protobuf) (state : State) : Event → Prop
  | .read scl reading write =>
      ∀ client clientId, state.sockets scl = some client →
        state.clients.lookup scl = some clientId →
        if reading = .data [] then state.OnlyInstalled clientId
        else if (client.packet reading).packetType = PacketType.RawData.code then
          state.channelHandlers (client.packet reading).channelNumber = none →
            state.OnlyInstalled clientId
        else ∃ bytes connection, state.reply (client.packet reading) = some bytes ∧
          state.destination write scl = .ok connection
  | .clientStep scl =>
      ∀ client clientId pointer handler input, state.sockets scl = some client →
        state.clients.lookup scl = some clientId →
        client.thread = .opening pointer .sendRequest →
        state.handlers[pointer]? = some handler → handler.kind = .input input →
        protobuf.inputChannelHandshakeRequest input.available_buttons = none →
        state.OnlyInstalled clientId
  | _ => True

section Handlers

theorem registered_identity (handler : ChannelHandler) :
    handler.identity.registered = handler.registered := by
  obtain ⟨channelId, flag, kind⟩ := handler
  cases kind <;> rfl

theorem mem_registered_registerClient {handler : ChannelHandler} {clientId other : Int}
    (membership : other ∈ (handler.updateInput (.registerClient clientId)).registered) :
    other = clientId ∨ other ∈ handler.registered := by
  obtain ⟨channelId, flag, kind⟩ := handler
  cases kind with
  | default => exact .inr membership
  | video video => exact .inr membership
  | input input =>
      change other ∈ InputChannelHandler.insert clientId input.registered_clients at membership
      unfold InputChannelHandler.insert at membership
      split at membership
      · exact .inr membership
      · exact (List.mem_orderedInsert _).mp membership

theorem mem_registered_disconnected {handler : ChannelHandler} {clientId other : Int} :
    other ∈ (handler.disconnected clientId).registered ↔
      other ∈ handler.registered ∧ other ≠ clientId := by
  obtain ⟨channelId, flag, kind⟩ := handler
  cases kind <;>
    simp [ChannelHandler.disconnected, ChannelHandler.updateInput, ChannelHandler.registered,
      InputChannelHandler.disconnected]

theorem State.Quiet.registered {before after : State} (quiet : before.Quiet after)
    {handler : ChannelHandler} (membership : handler ∈ after.handlers) :
    ∃ old ∈ before.handlers, old.registered = handler.registered := by
  have inside := List.mem_map_of_mem (f := ChannelHandler.identity) membership
  rw [quiet.handlers] at inside
  obtain ⟨old, oldMembership, same⟩ := List.mem_map.mp inside
  exact ⟨old, oldMembership, by rw [← registered_identity, same, registered_identity]⟩

theorem mem_updateHandler {state : State} {pointer : Nat}
    {update : ChannelHandler → ChannelHandler} {handler : ChannelHandler}
    (membership : handler ∈ (state.updateHandler pointer update).handlers) :
    handler ∈ state.handlers ∨ ∃ old ∈ state.handlers, handler = update old := by
  obtain ⟨index, found⟩ := List.mem_iff_getElem?.mp membership
  simp only [State.updateHandler, List.getElem?_modify] at found
  obtain ⟨old, present, same⟩ := Option.map_eq_some_iff.mp found
  have inside := List.mem_of_getElem? present
  split at same
  · exact .inr ⟨old, inside, same.symm⟩
  · exact .inl (same ▸ inside)

end Handlers

section Tidiness

variable {state next : State} {scl : Nat} {client : SocketClient} {clientId : Int}

theorem tidy_initial : initial.Tidy where
  clients := by simp [initial]
  registered := by simp [initial, ChannelHandler.registered]

theorem State.Tidy.quiet (tidy : state.Tidy) (quiet : state.Quiet next) : next.Tidy where
  clients := by
    intro cl membership
    rw [quiet.clients] at membership
    obtain ⟨client, present, runs, opened⟩ := tidy.clients cl membership
    obtain ⟨later, found, fd, thread⟩ := quiet.symm.alive present
    exact ⟨later, found, thread ▸ runs, by rw [quiet.descriptors, fd]; exact opened⟩
  registered := by
    intro handler membership clientId inside
    obtain ⟨old, oldMembership, same⟩ := quiet.registered membership
    rw [quiet.clients]
    exact tidy.registered old oldMembership clientId (same ▸ inside)

theorem State.Tidy.discovers (tidy : state.Tidy) (found : state.Discovers next) : next.Tidy where
  clients := by
    rw [found.clients, found.sockets, found.descriptors]
    exact tidy.clients
  registered := by
    intro handler membership clientId inside
    obtain ⟨added, same, unheard⟩ := found.handlers
    rw [same] at membership
    rw [found.clients]
    rcases List.mem_append.mp membership with old | new
    · exact tidy.registered handler old clientId inside
    · unfold ChannelHandler.registered at inside
      split at inside
      next input kind => simp [unheard handler new input kind] at inside
      next => cases inside

theorem State.Tidy.accept (tidy : state.Tidy) {fd : Nat} (stack : Buffer)
    (fresh : state.sockets scl = none) (free : state.descriptors fd = none) :
    (state.accept scl fd stack).Tidy where
  clients := by
    intro cl membership
    simp only [State.accept, Function.update_apply]
    rcases mem_insertClient.mp membership with rfl | old
    · exact ⟨_, if_pos rfl, by simp, by simp⟩
    · obtain ⟨client, present, runs, opened⟩ := tidy.clients cl old
      have different : cl.1 ≠ scl := by
        rintro rfl
        rw [fresh] at present
        cases present
      have otherFd : client.fd ≠ fd := by
        rintro rfl
        rw [free] at opened
        cases opened
      exact ⟨client, by rw [if_neg different]; exact present, runs,
        by rw [if_neg otherFd]; exact opened⟩
  registered := by
    intro handler membership clientId inside
    exact (map_insertClient _ _ _).symm.subset
      (List.mem_cons_of_mem _ (tidy.registered handler membership clientId inside))

theorem State.Tidy.goesOn (tidy : state.Tidy)
    (known : state.clients.lookup scl = some clientId)
    (opened : state.descriptors client.fd = some scl) {thread : ClientThread}
    (alive : thread ≠ .ended) (clients : next.clients = state.clients)
    (sockets : next.sockets = Function.update state.sockets scl (some { client with thread }))
    (descriptors : next.descriptors = state.descriptors)
    (handlers : ∀ handler ∈ next.handlers, ∃ old ∈ state.handlers,
      ∀ other ∈ handler.registered, other = clientId ∨ other ∈ old.registered) : next.Tidy where
  clients := by
    intro cl membership
    rw [clients] at membership
    rw [sockets, descriptors]
    by_cases same : cl.1 = scl
    · exact ⟨{ client with thread }, by simp [same], alive, by rw [same]; exact opened⟩
    · obtain ⟨other, found, runs, otherOpened⟩ := tidy.clients cl membership
      exact ⟨other, by simp [same, found], runs, otherOpened⟩
  registered := by
    intro handler membership other inside
    obtain ⟨old, oldMembership, from_⟩ := handlers handler membership
    rw [clients]
    rcases from_ other inside with rfl | before
    · exact List.mem_map_of_mem (mem_of_lookup known)
    · exact tidy.registered old oldMembership other before

theorem State.Tidy.removed (tidy : state.Tidy) (wired : state.Wired)
    (known : state.clients.lookup scl = some clientId)
    (opened : state.descriptors client.fd = some scl)
    (installed : state.OnlyInstalled clientId)
    (clients : next.clients = eraseClient scl state.clients)
    (handlers : next.handlers = (state.forget scl clientId).handlers)
    (sockets : next.sockets =
      Function.update state.sockets scl (some { client with thread := .ended }))
    (descriptors : next.descriptors = state.descriptors ∨
      next.descriptors = Function.update state.descriptors client.fd none) : next.Tidy where
  clients := by
    intro cl membership
    rw [clients] at membership
    obtain ⟨inside, different⟩ := mem_eraseClient.mp membership
    obtain ⟨other, found, runs, otherOpened⟩ := tidy.clients cl inside
    refine ⟨other, by rw [sockets]; simp [different, found], runs, ?_⟩
    rcases descriptors with same | closed
    · rw [same]
      exact otherOpened
    · have otherFd : other.fd ≠ client.fd := by
        intro same
        rw [same, opened] at otherOpened
        exact different (Option.some.inj otherOpened).symm
      rw [closed, Function.update_of_ne otherFd]
      exact otherOpened
  registered := by
    intro handler membership other inside
    rw [handlers] at membership
    obtain ⟨pointer, found⟩ := List.mem_iff_getElem?.mp membership
    simp only [State.forget, List.getElem?_mapIdx] at found
    obtain ⟨old, oldFound, same⟩ := Option.map_eq_some_iff.mp found
    have oldMembership := List.mem_of_getElem? oldFound
    have left : other ∈ old.registered ∧ other ≠ clientId := by
      split at same
      next isInstalled =>
        rw [← same] at inside
        exact mem_registered_disconnected.mp inside
      next notInstalled =>
        rw [← same] at inside
        refine ⟨inside, ?_⟩
        rintro rfl
        exact notInstalled (installed pointer old oldFound inside)
    obtain ⟨cl, clMembership, rfl⟩ :=
      List.mem_map.mp (tidy.registered old oldMembership other left.1)
    rw [clients]
    refine List.mem_map_of_mem (mem_eraseClient.mpr ⟨clMembership, ?_⟩)
    rintro rfl
    have again := lookup_of_mem wired.keys clMembership
    rw [known] at again
    exact left.2 (Option.some.inj again).symm

theorem State.Tidy.reads (tidy : state.Tidy)
    (known : state.clients.lookup scl = some clientId)
    (present : state.sockets scl = some client)
    (opened : state.descriptors client.fd = some scl) {thread : ClientThread}
    (alive : thread ≠ .ended) : (state.withThread scl thread).Tidy :=
  tidy.goesOn known opened alive rfl (withThread_sockets present thread) rfl
    fun handler membership => ⟨handler, membership, fun _ inside => .inr inside⟩

theorem gotPacket_tidy {p : Packet} {write : Nat → WriteResult} {outputs : List Output}
    (wired : state.Wired) (tidy : state.Tidy) (present : state.sockets scl = some client)
    (runs : client.thread ≠ .ended) (known : state.clients.lookup scl = some clientId)
    (orderly : if p.packetType = PacketType.RawData.code then
        state.channelHandlers p.channelNumber = none → state.OnlyInstalled clientId
      else ∃ bytes connection, state.reply p = some bytes ∧
        state.destination write scl = .ok connection)
    (took : finishClient scl (gotPacket write scl p) state = some (next, outputs)) :
    next.Tidy := by
  have opened := (wired.alive scl client present runs).2
  by_cases raw : p.packetType = PacketType.RawData.code
  · rw [if_pos raw] at orderly
    have outcome := gotPacket_rawData write known raw
    split at outcome
    next unhandled =>
      obtain ⟨rfl, rfl⟩ := finishClient_error outcome took
      have kept : (state.forget scl clientId).sockets scl = some client := present
      rw [close_eq kept]
      exact tidy.removed wired known opened (orderly unhandled) rfl rfl rfl (.inr rfl)
    next pointer installed =>
      split at outcome
      · unfold finishClient at took
        rw [outcome] at took
        cases took
      · rw [finishClient_ok outcome] at took
        cases took
        exact tidy.reads known present opened (by simp)
      · rw [finishClient_ok outcome] at took
        cases took
        exact tidy.reads known present opened (by simp)
      · rw [finishClient_ok outcome] at took
        cases took
        have kept : (state.register pointer clientId).sockets scl = some client := present
        refine tidy.goesOn known opened (by simp) rfl (withThread_sockets kept _) rfl ?_
        intro handler membership
        rcases mem_updateHandler membership with old | ⟨old, oldMembership, rfl⟩
        · exact ⟨handler, old, fun _ inside => .inr inside⟩
        · exact ⟨old, oldMembership, fun other inside =>
            mem_registered_registerClient inside⟩
  · rw [if_neg raw] at orderly
    obtain ⟨bytes, connection, answer, sent⟩ := orderly
    have outcome := gotPacket_request write scl answer
    rw [sent] at outcome
    rw [finishClient_ok outcome] at took
    cases took
    exact tidy.reads known present opened (by simp)

theorem clientOpen_tidy {protobuf : Protobuf} {pointer : Nat} {openStep : OpenStep}
    {outputs : List Output} (wired : state.Wired) (tidy : state.Tidy)
    (present : state.sockets scl = some client) (runs : client.thread ≠ .ended)
    (known : state.clients.lookup scl = some clientId)
    (orderly : ∀ handler input, openStep = .sendRequest →
      state.handlers[pointer]? = some handler → handler.kind = .input input →
      protobuf.inputChannelHandshakeRequest input.available_buttons = none →
      state.OnlyInstalled clientId)
    (took : finishClient scl (clientOpen protobuf scl pointer openStep) state =
      some (next, outputs)) : next.Tidy := by
  have opened := (wired.alive scl client present runs).2
  have quiet := openStep_quiet protobuf pointer openStep state
  rcases ran : (openStep.run protobuf pointer).run state with ⟨fault | further, before, log⟩
  · rw [ran] at quiet
    obtain ⟨⟨exception, rfl⟩, rfl, rfl⟩ := clientOpen_error ran (quiet.clients ▸ known) took
    obtain ⟨rfl, atRequest, handler, input, installed, kind, refused⟩ := openStep_throws ran
    have kept : (before.forget scl clientId).sockets scl = some client := present
    rw [close_eq kept]
    exact tidy.removed wired known opened
      (orderly handler input atRequest installed kind refused) rfl rfl rfl (.inr rfl)
  · rw [ran] at quiet
    obtain ⟨thread, alive, outcome⟩ := clientOpen_ok ran
    rw [finishClient_ok outcome] at took
    cases took
    obtain ⟨later, found, fd, -⟩ := quiet.symm.alive present
    exact (tidy.quiet quiet).reads (quiet.clients ▸ known) found
      (by rw [quiet.descriptors, fd]; exact opened) alive

theorem step_tidy {protobuf : Protobuf} {event : Event} {outputs : List Output}
    (wired : state.Wired) (tidy : state.Tidy) (orderly : Orderly protobuf state event)
    (took : (machine protobuf).step state event = some (next, outputs)) : next.Tidy := by
  cases event with
  | connect scl fd stack =>
      obtain ⟨fresh, free, rfl, -⟩ := connect_turn took
      exact tidy.accept stack fresh free
  | read scl reading write =>
      obtain ⟨client, present, ready⟩ := step_read_ready took
      have runs : client.thread ≠ .ended := by simp [ready]
      obtain ⟨clientId, known⟩ := wired.known present runs
      have condition := orderly client clientId present known
      by_cases eof : reading = .data []
      · subst eof
        rw [if_pos rfl] at condition
        rw [step_read_eof protobuf write present ready known] at took
        cases took
        have opened := (wired.alive scl client present runs).2
        have kept : (({ state with
          socketClients := state.socketClients.erase scl } : State).forget scl clientId).sockets
            scl = some client := present
        exact tidy.removed wired known opened condition rfl rfl (withThread_sockets kept _)
          (.inl rfl)
      · rw [if_neg eof] at condition
        rw [step_read_packet protobuf write present ready eof] at took
        have quiet := buffered_quiet state scl client reading
        obtain ⟨later, found, -, thread⟩ := quiet.symm.alive present
        rw [← quiet.destination write scl] at condition
        exact gotPacket_tidy (wired.quiet quiet) (tidy.quiet quiet) found (thread ▸ runs) known
          condition took
  | clientStep scl =>
      simp only [machine, step] at took
      split at took
      next => cases took
      next client present =>
        split at took
        next pointer openStep opening =>
          have runs : client.thread ≠ .ended := by simp [opening]
          obtain ⟨clientId, known⟩ := wired.known present runs
          split at took
          next => cases took
          next handler installed =>
            split at took
            next enabled =>
              refine clientOpen_tidy wired tidy present runs known ?_ took
              rintro handler input rfl
              exact orderly client clientId pointer handler input present known opening
            next => cases took
        next => cases took
  | headunit message accept write =>
      cases discovery : isServiceDiscoveryResponse message with
      | false => exact tidy.quiet (headunit_quiet discovery took)
      | true =>
          obtain ⟨found, discovers, quiet⟩ := headunit_discovers discovery took
          exact (tidy.discovers discovers).quiet quiet
  | sample | streamStep | threadTerminated => exact tidy.quiet (background_turn took trivial).1

end Tidiness

/-- The registry stays consistent in every run in which requests are known and answered and
nobody is removed who is registered with a handler that has been replaced. -/
theorem client_registry_invariant (protobuf : Protobuf) {events : List Event} {final : State}
    {trace : List (Event × List Output)}
    (orderly : (machine protobuf).Within (Orderly protobuf) initial events)
    (ran : (machine protobuf).run initial events = some (final, trace)) : final.Tidy := by
  have kept : ∀ {state event next outputs}, state.Wired ∧ state.Tidy →
      Orderly protobuf state event → (machine protobuf).step state event = some (next, outputs) →
      next.Wired ∧ next.Tidy := fun both condition took =>
    ⟨step_wired both.1 took, step_tidy both.1 both.2 condition took⟩
  exact ((machine protobuf).run_invariant kept ⟨wired_initial, tidy_initial⟩ orderly ran).2

/-- A service descriptor with an input channel, number 7. -/
def inputAnnouncement : Message where
  channel := 0
  flags := 0x0b
  content := [0x00, 0x06, 0x0a, 0x04, 0x08, 0x07, 0x22, 0x00]

/-- One client looks the input channel up and registers, the other one leaves. -/
def registerAndLeave : List Event :=
  [.connect 1 10 fun _ => 0, .connect 2 11 fun _ => 0,
    .headunit inputAnnouncement .failed fun _ => .complete,
    .read 1 (.data [0x00, 0x01, 0x00]) fun _ => .complete,
    .read 1 (.data [0x01, 0x07, 0x00]) fun _ => .complete,
    .read 2 (.data []) fun _ => .complete]

theorem client_registry_invariant_register_and_leave :
    ∃ final trace, (machine .small).run initial registerAndLeave = some (final, trace) ∧
      final.Tidy := by
  obtain ⟨final, trace, ran⟩ : ∃ final trace,
      (machine .small).run initial registerAndLeave = some (final, trace) := ⟨_, _, rfl⟩
  refine ⟨final, trace, ran, client_registry_invariant .small ?_ ran⟩
  refine ⟨trivial, fun _ _ took => ?_⟩
  cases took
  refine ⟨trivial, fun _ _ took => ?_⟩
  cases took
  refine ⟨trivial, fun _ _ took => ?_⟩
  cases took
  refine ⟨fun client clientId present known => ?_, fun _ _ took => ?_⟩
  · cases present
    exact ⟨[7], 1, rfl, rfl⟩
  cases took
  refine ⟨fun client clientId present known => ?_, fun _ _ took => ?_⟩
  · cases present
    exact fun unhandled => by cases unhandled
  cases took
  refine ⟨fun client clientId present known => ?_, fun _ _ took => trivial⟩
  cases known
  intro pointer handler found inside
  match pointer with
  | 0 =>
      cases found
      cases inside
  | 1 => rfl
  | _ + 2 => cases found

/-- A packet of unknown type ends its client, which stays in the map. -/
theorem unknown_packet_leaves_dead_client :
    ∃ final trace, (machine .small).run initial
      [.connect 1 10 fun _ => 0, .read 1 (.data [0x07, 0x00, 0x00]) fun _ => .complete] =
        some (final, trace) ∧ ¬ final.Tidy := by
  refine ⟨_, _, rfl, fun tidy => ?_⟩
  obtain ⟨client, present, runs, -⟩ := tidy.clients (1, 0) List.mem_cons_self
  cases present
  exact runs rfl

end AAServer

end AACS
