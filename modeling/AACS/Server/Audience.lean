import AACS.Library.History
import AACS.Server.Cleanup
import AACS.Server.Tables

/-!
Who is to get a message of the head unit.

What has happened says it: who has connected and not left, and who has sent raw data
to an input channel since. The map of the clients and the sets of the input handlers
hold the same in every reachable state (`State.Follows`), so the recipients of a
message are its audience.
-/

namespace AACS

namespace AAServer

open Effects History

def Event.connects (scl : Nat) : Event → Prop
  | .connect other _ _ => other = scl
  | _ => False

def Event.leaves (scl : Nat) : Event → Prop
  | .read other (.data []) _ => other = scl
  | _ => False

def Event.sendsTo (scl : Nat) (channel : UInt8) : Event → Prop
  | .read other (.data (packetType :: channelNumber :: _)) _ =>
      other = scl ∧ packetType = PacketType.RawData.code ∧ channelNumber = channel
  | _ => False

/-- The client has connected and not left. -/
def Connected (history : List Event) (scl : Nat) : Prop :=
  Since (Event.connects scl) (Event.leaves scl) history

/-- The client has sent raw data to the channel and not left. -/
def Listens (history : List Event) (scl : Nat) (channel : UInt8) : Prop :=
  Since (Event.sendsTo scl channel) (Event.leaves scl) history

/-- The clients that a message is for, and the packet they get. -/
def State.audience (state : State) (history : List Event) (message : Message) :
    Option (Set Nat × Bytes) :=
  let everyone := some ({scl | Connected history scl},
    packetFor message.channel (isSpecific message.flags) message.content)
  match message.content with
  | high :: low :: _ =>
      if message.channel = 0 then
        if isFocusResponse (bigEndian16 high low) then everyone else none
      else
        match (state.handlerAt message.channel).map ChannelHandler.kind with
        | none => none
        | some .default => everyone
        | some (.video video) => if video.channelOpened then none else everyone
        | some (.input _) =>
            if bigEndian16 high low = InputChannelMessageType.Event.code then
              some ({scl | Listens history scl message.channel},
                packetFor message.channel false message.content)
            else none
  | _ => none

/-- Clients connect, send raw data to input channels and leave, the head unit sends what
it likes but no further service descriptor, and every `write` succeeds. -/
def Working (state : State) : Event → Prop
  | .read _ reading _ => reading = .data [] ∨
      ∃ channel specific data handler input,
        reading = .data (PacketType.RawData.code :: channel :: specific :: data) ∧
        state.handlerAt channel = some handler ∧ handler.kind = .input input
  | .headunit message _ write =>
      isServiceDiscoveryResponse message = false ∧ ∀ scl, write scl = .complete
  | _ => True

def State.registeredAt (state : State) (channel : UInt8) : List Int :=
  ((state.handlerAt channel).map ChannelHandler.registered).getD []

section Registered

variable {state next : State} {scl : Nat} {clientId : Int} {channel : UInt8} {pointer : Nat}

theorem State.Quiet.registeredAt (quiet : state.Quiet next) (channel : UInt8) :
    next.registeredAt channel = state.registeredAt channel := by
  unfold State.registeredAt State.handlerAt
  rw [quiet.channelHandlers]
  cases state.channelHandlers channel with
  | none => rfl
  | some pointer =>
      have same := congrArg (Option.map ChannelHandler.registered) (quiet.handler pointer)
      simp only [Option.map_map, Function.comp_def, registered_identity] at same
      simp only [Option.bind_some, same]

theorem isInstalled_of_entry (installed : state.channelHandlers channel = some pointer) :
    state.isInstalled pointer = true := by
  refine List.any_eq_true.mpr ⟨channel.toNat, List.mem_range.mpr channel.toNat_lt, ?_⟩
  simp [installed]

theorem registeredAt_forget (state : State) (scl : Nat) (clientId : Int) (channel : UInt8) :
    (state.forget scl clientId).registeredAt channel =
      (state.registeredAt channel).filter (· ≠ clientId) := by
  unfold State.registeredAt State.handlerAt
  cases installed : state.channelHandlers channel with
  | none => simp [State.forget, installed]
  | some pointer =>
      cases present : state.handlers[pointer]? with
      | none => simp [State.forget, installed, present]
      | some handler =>
          obtain ⟨channelId, flag, kind⟩ := handler
          cases kind <;>
            simp [State.forget, installed, present, isInstalled_of_entry installed,
              ChannelHandler.disconnected, ChannelHandler.updateInput, ChannelHandler.registered,
              InputChannelHandler.disconnected]

theorem registeredAt_register (tabled : state.Tabled) {handler : ChannelHandler}
    {input : InputChannelHandler} (installed : state.channelHandlers channel = some pointer)
    (present : state.handlers[pointer]? = some handler) (kind : handler.kind = .input input)
    (clientId : Int) (other : UInt8) :
    (state.register pointer clientId).registeredAt other =
      if other = channel then InputChannelHandler.insert clientId (state.registeredAt channel)
      else state.registeredAt other := by
  unfold State.registeredAt State.handlerAt
  by_cases same : other = channel
  · subst same
    obtain ⟨channelId, flag, kind⟩ := handler
    subst kind
    simp [State.register, State.updateHandler, installed, present, ChannelHandler.updateInput,
      ChannelHandler.registered, InputChannelHandler.registerClient]
  · rw [if_neg same]
    cases entry : state.channelHandlers other with
    | none => simp [State.register, State.updateHandler, entry]
    | some second =>
        have different : pointer ≠ second := by
          rintro rfl
          obtain ⟨one, found, channelId⟩ := tabled other pointer entry
          obtain ⟨two, foundToo, channelIdToo⟩ := tabled channel pointer installed
          rw [found] at foundToo
          cases foundToo
          exact same (channelId.symm.trans channelIdToo)
        simp [State.register, State.updateHandler, entry, different]

theorem handler_of_registeredAt (registered : clientId ∈ state.registeredAt channel) :
    ∃ handler ∈ state.handlers, clientId ∈ handler.registered := by
  unfold State.registeredAt State.handlerAt at registered
  cases installed : state.channelHandlers channel with
  | none => simp [installed] at registered
  | some pointer =>
      cases present : state.handlers[pointer]? with
      | none => simp [installed, present] at registered
      | some handler =>
          exact ⟨handler, List.mem_of_getElem? present,
            by simpa [installed, present] using registered⟩

theorem registered_disconnected (handler : ChannelHandler) (clientId : Int) :
    (handler.disconnected clientId).registered = handler.registered.filter (· ≠ clientId) := by
  obtain ⟨channelId, flag, kind⟩ := handler
  cases kind <;> rfl

theorem mem_insert_iff {other : Int} {registered : List Int} :
    other ∈ InputChannelHandler.insert clientId registered ↔
      other = clientId ∨ other ∈ registered := by
  unfold InputChannelHandler.insert
  split
  next already =>
    constructor
    · exact .inr
    · rintro (rfl | before)
      · exact already
      · exact before
  next => exact List.mem_orderedInsert _

theorem insert_nodup {registered : List Int} (distinct : registered.Nodup) :
    (InputChannelHandler.insert clientId registered).Nodup := by
  unfold InputChannelHandler.insert
  split
  next => exact distinct
  next fresh =>
    exact (List.perm_orderedInsert _ _ _).nodup_iff.mpr (List.nodup_cons.mpr ⟨fresh, distinct⟩)

end Registered

/-- The two registries hold what the history says, each once, and only handlers of the
table are listened to. -/
structure State.Follows (state : State) (history : List Event) : Prop where
  connected : ∀ scl, scl ∈ state.clients.map Prod.fst ↔ Connected history scl
  listening : ∀ scl clientId channel, (scl, clientId) ∈ state.clients →
    (clientId ∈ state.registeredAt channel ↔ Listens history scl channel)
  listeners : ∀ scl channel, Listens history scl channel → Connected history scl
  distinct : ∀ handler ∈ state.handlers, handler.registered.Nodup
  installed : ∀ pointer handler, state.handlers[pointer]? = some handler →
    handler.registered ≠ [] → state.isInstalled pointer = true

section Following

variable {state next : State} {history : List Event} {event : Event} {scl : Nat} {clientId : Int}
  {client : SocketClient} {protobuf : Protobuf} {outputs : List Output}

theorem follows_initial : initial.Follows [] where
  connected := by simp [initial, Connected]
  listening := by simp [initial]
  listeners := by simp [Listens]
  distinct := by simp [initial, ChannelHandler.registered]
  installed := by
    intro pointer handler present some
    cases pointer with
    | zero =>
        cases present
        exact absurd rfl some
    | succ _ => cases present

theorem State.Wired.same_iff (wired : state.Wired) {other : Nat} {otherId : Int}
    (first : (scl, clientId) ∈ state.clients) (second : (other, otherId) ∈ state.clients) :
    otherId = clientId ↔ other = scl := by
  constructor
  · intro same
    exact congrArg Prod.fst (List.inj_on_of_nodup_map wired.numbers second first same)
  · intro same
    exact congrArg Prod.snd (List.inj_on_of_nodup_map wired.keys second first same)

def Event.isIndifferent (event : Event) : Prop :=
  ∀ scl, ¬ event.connects scl ∧ ¬ event.leaves scl ∧ ∀ channel, ¬ event.sendsTo scl channel

theorem State.Follows.kept (follows : state.Follows history) (indifferent : event.isIndifferent)
    (quiet : state.Quiet next) : next.Follows (history ++ [event]) where
  connected := by
    intro scl
    obtain ⟨connects, leaves, -⟩ := indifferent scl
    rw [quiet.clients, Connected, since_concat_other connects leaves]
    exact follows.connected scl
  listening := by
    intro scl clientId channel membership
    obtain ⟨-, leaves, sends⟩ := indifferent scl
    rw [quiet.clients] at membership
    rw [quiet.registeredAt, Listens, since_concat_other (sends channel) leaves]
    exact follows.listening scl clientId channel membership
  listeners := by
    intro scl channel
    obtain ⟨connects, leaves, sends⟩ := indifferent scl
    rw [Listens, since_concat_other (sends channel) leaves, Connected,
      since_concat_other connects leaves]
    exact follows.listeners scl channel
  distinct := by
    intro handler membership
    obtain ⟨old, oldMembership, same⟩ := quiet.registered membership
    rw [← same]
    exact follows.distinct old oldMembership
  installed := by
    intro pointer handler present some
    have same := quiet.handler pointer
    rw [present, Option.map_some] at same
    obtain ⟨old, found, identity⟩ := Option.map_eq_some_iff.mp same.symm
    rw [← registered_identity, ← identity, registered_identity] at some
    have before := follows.installed pointer old found some
    rwa [State.isInstalled, quiet.channelHandlers]

theorem State.Follows.accept (follows : state.Follows history) (wired : state.Wired)
    (tidy : state.Tidy) {fd : Nat} (stack : Buffer) (fresh : state.sockets scl = none) :
    (state.accept scl fd stack).Follows (history ++ [.connect scl fd stack]) where
  connected := by
    intro other
    change other ∈ (insertClient (scl, state.clientCount) state.clients).map Prod.fst ↔ _
    rw [(map_insertClient _ _ _).mem_iff, List.mem_cons, follows.connected, Connected, Connected,
      since_concat]
    simp [Event.connects, Event.leaves, eq_comm]
  listening := by
    intro other otherId channel membership
    have same : Listens (history ++ [.connect scl fd stack]) other channel ↔
        Listens history other channel := since_concat_other id id
    change otherId ∈ state.registeredAt channel ↔ _
    rw [same]
    rcases mem_insertClient.mp membership with new | old
    · cases new
      refine iff_of_false (fun registered => ?_) fun listens => ?_
      · obtain ⟨handler, inside, number⟩ := handler_of_registeredAt registered
        obtain ⟨cl, known, counted⟩ :=
          List.mem_map.mp (tidy.registered handler inside _ number)
        have below := (wired.counted cl known).2
        omega
      · obtain ⟨cl, known, rfl⟩ :=
          List.mem_map.mp ((follows.connected _).mpr (follows.listeners _ _ listens))
        have present := wired.present cl known
        rw [fresh] at present
        cases present
    · exact follows.listening other otherId channel old
  listeners := by
    intro other channel listens
    have before : Listens history other channel := (since_concat_other id id).mp listens
    exact since_concat.mpr (.inr ⟨follows.listeners other channel before, id⟩)
  distinct := follows.distinct
  installed := follows.installed

theorem State.Follows.forget (follows : state.Follows history) (wired : state.Wired)
    (known : state.clients.lookup scl = some clientId) (write : Nat → WriteResult) :
    (state.forget scl clientId).Follows (history ++ [.read scl (.data []) write]) where
  connected := by
    intro other
    have kept : other ∈ (eraseClient scl state.clients).map Prod.fst ↔
        other ∈ state.clients.map Prod.fst ∧ other ≠ scl := by
      constructor
      · intro membership
        obtain ⟨cl, inside, rfl⟩ := List.mem_map.mp membership
        obtain ⟨old, different⟩ := mem_eraseClient.mp inside
        exact ⟨List.mem_map_of_mem old, different⟩
      · rintro ⟨membership, different⟩
        obtain ⟨cl, inside, rfl⟩ := List.mem_map.mp membership
        exact List.mem_map_of_mem (mem_eraseClient.mpr ⟨inside, different⟩)
    change other ∈ (eraseClient scl state.clients).map Prod.fst ↔ _
    rw [kept, follows.connected, Connected, Connected, since_concat]
    simp [Event.connects, Event.leaves, eq_comm]
  listening := by
    intro other otherId channel membership
    obtain ⟨inside, different⟩ := mem_eraseClient.mp membership
    have otherNumber : otherId ≠ clientId := fun same =>
      different ((wired.same_iff (mem_of_lookup known) inside).mp same)
    have stays : ¬ Event.leaves other (.read scl (.data []) write) := fun same =>
      different same.symm
    have silent : ¬ Event.sendsTo other channel (.read scl (.data []) write) := id
    rw [registeredAt_forget, List.mem_filter, Listens, since_concat_other silent stays]
    simpa [otherNumber, Listens] using follows.listening other otherId channel inside
  listeners := by
    intro other channel listens
    obtain sends | ⟨before, stays⟩ := since_concat.mp listens
    · exact sends.elim
    · exact since_concat.mpr (.inr ⟨follows.listeners other channel before, stays⟩)
  distinct := by
    intro handler membership
    obtain ⟨pointer, found⟩ := List.mem_iff_getElem?.mp membership
    simp only [State.forget, List.getElem?_mapIdx] at found
    obtain ⟨old, present, same⟩ := Option.map_eq_some_iff.mp found
    have distinct := follows.distinct old (List.mem_of_getElem? present)
    split at same
    · rw [← same, registered_disconnected]
      exact distinct.filter _
    · exact same ▸ distinct
  installed := by
    intro pointer handler found some
    simp only [State.forget, List.getElem?_mapIdx] at found
    obtain ⟨old, present, same⟩ := Option.map_eq_some_iff.mp found
    refine follows.installed pointer old present fun none => some ?_
    split at same
    · rw [← same, registered_disconnected, none, List.filter_nil]
    · rw [← same, none]

theorem State.Follows.register (follows : state.Follows history) (wired : state.Wired)
    (tabled : state.Tabled) {channel specific : UInt8} {data : Bytes} {pointer : Nat}
    {handler : ChannelHandler} {input : InputChannelHandler}
    (known : state.clients.lookup scl = some clientId)
    (installed : state.channelHandlers channel = some pointer)
    (present : state.handlers[pointer]? = some handler) (kind : handler.kind = .input input)
    (write : Nat → WriteResult) :
    (state.register pointer clientId).Follows (history ++
      [.read scl (.data (PacketType.RawData.code :: channel :: specific :: data)) write]) where
  connected := by
    intro other
    rw [Connected, since_concat_other id id]
    exact follows.connected other
  listening := by
    intro other otherId number membership
    have own : otherId = clientId ↔ scl = other :=
      (wired.same_iff (mem_of_lookup known) membership).trans eq_comm
    rw [registeredAt_register tabled installed present kind, Listens, since_concat]
    by_cases same : number = channel
    · subst same
      rw [if_pos rfl, mem_insert_iff, own, follows.listening other otherId number membership]
      simp [Event.sendsTo, Event.leaves, Listens]
    · rw [if_neg same, follows.listening other otherId number membership]
      simp [Event.sendsTo, Event.leaves, Listens, Ne.symm same]
  listeners := by
    intro other number listens
    rw [Connected, since_concat_other id id]
    obtain ⟨rfl, -⟩ | ⟨before, -⟩ := since_concat.mp listens
    · exact (follows.connected scl).mp (List.mem_map_of_mem (mem_of_lookup known))
    · exact follows.listeners other number before
  distinct := by
    intro handler membership
    rcases mem_updateHandler membership with old | ⟨old, inside, rfl⟩
    · exact follows.distinct handler old
    · have distinct := follows.distinct old inside
      obtain ⟨channelId, flag, kind⟩ := old
      cases kind with
      | default => exact distinct
      | video video => exact distinct
      | input input => exact insert_nodup distinct
  installed := by
    intro index other found some
    change state.isInstalled index = true
    by_cases same : pointer = index
    · exact same ▸ isInstalled_of_entry installed
    · rw [State.register, State.updateHandler] at found
      simp only [List.getElem?_modify, if_neg same] at found
      exact follows.installed index other (by simpa using found) some

theorem State.Follows.discovers (follows : state.Follows history) (found : state.Discovers next)
    (unheard : ∀ handler ∈ state.handlers, handler.registered = []) : next.Follows history := by
  have silent : ∀ handler ∈ next.handlers, handler.registered = [] := by
    obtain ⟨added, same, fresh⟩ := found.handlers
    intro handler membership
    rw [same] at membership
    rcases List.mem_append.mp membership with old | new
    · exact unheard handler old
    · unfold ChannelHandler.registered
      split
      next input kind => exact fresh handler new input kind
      next => rfl
  have nobody {present : State} (quiet : ∀ handler ∈ present.handlers, handler.registered = [])
      (clientId : Int) (channel : UInt8) : clientId ∉ present.registeredAt channel := by
    intro registered
    obtain ⟨handler, inside, number⟩ := handler_of_registeredAt registered
    rw [quiet handler inside] at number
    cases number
  exact {
    connected := found.clients ▸ follows.connected
    listening := by
      intro scl clientId channel membership
      rw [found.clients] at membership
      rw [← follows.listening scl clientId channel membership]
      exact iff_of_false (nobody silent clientId channel) (nobody unheard clientId channel)
    listeners := follows.listeners
    distinct := fun handler membership => by simp [silent handler membership]
    installed := fun pointer handler present some =>
      absurd (silent handler (List.mem_of_getElem? present)) some }

theorem unheard_of_sameTable (same : initial.SameTable state) :
    ∀ handler ∈ state.handlers, handler.registered = [] := by
  intro handler membership
  have shape := List.mem_map_of_mem (f := ChannelHandler.shape) membership
  rw [same.shapes] at shape
  obtain ⟨channelId, flag, kind⟩ := handler
  cases kind with
  | default => rfl
  | video video => rfl
  | input input => simp [initial, ChannelHandler.shape, HandlerKind.channelType] at shape

/-- Nothing throws a client out while everything works. -/
theorem orderly_of_working
    (serializes : ∀ buttons, protobuf.inputChannelHandshakeRequest buttons ≠ none)
    (follows : state.Follows history) (working : Working state event) :
    Orderly protobuf state event := by
  have onlyInstalled (clientId : Int) : state.OnlyInstalled clientId := fun pointer handler present
    registered => follows.installed pointer handler present (List.ne_nil_of_mem registered)
  cases event with
  | read scl reading write =>
      intro client clientId present known
      rcases working with rfl | ⟨channel, specific, data, handler, input, rfl, found, kind⟩
      · exact onlyInstalled clientId
      · rw [if_neg (by simp), packet_data, if_pos rfl]
        intro unhandled
        simp [State.handlerAt, unhandled] at found
  | clientStep scl =>
      intro client clientId pointer handler input _ _ _ _ _ refused
      exact absurd refused (serializes _)
  | connect | headunit | sample | streamStep | threadTerminated => trivial

theorem State.Follows.same (follows : state.Follows history)
    (handlers : next.handlers = state.handlers)
    (channelHandlers : next.channelHandlers = state.channelHandlers)
    (clients : next.clients = state.clients) : next.Follows history := by
  have registered (channel : UInt8) : next.registeredAt channel = state.registeredAt channel := by
    unfold State.registeredAt State.handlerAt
    rw [handlers, channelHandlers]
  have isInstalled (pointer : Nat) : next.isInstalled pointer = state.isInstalled pointer := by
    unfold State.isInstalled
    rw [channelHandlers]
  exact {
    connected := clients ▸ follows.connected
    listening := by
      simp only [registered, clients]
      exact follows.listening
    listeners := follows.listeners
    distinct := handlers ▸ follows.distinct
    installed := by
      simp only [isInstalled, handlers]
      exact follows.installed }

theorem gotPacket_registers {p : Packet} {pointer : Nat} {handler : ChannelHandler}
    {input : InputChannelHandler} (write : Nat → WriteResult)
    (known : state.clients.lookup scl = some clientId)
    (raw : p.packetType = PacketType.RawData.code)
    (installed : state.channelHandlers p.channelNumber = some pointer)
    (present : state.handlers[pointer]? = some handler) (kind : handler.kind = .input input) :
    (gotPacket write scl p).run state =
      ⟨.ok (.opening pointer .resetChannelOpen), state.register pointer clientId, []⟩ := by
  rw [gotPacket_rawData write known raw, installed]
  simp only [present, Option.map_some, kind]

theorem read_follows {reading : Reading} {write : Nat → WriteResult} (wired : state.Wired)
    (tabled : state.Tabled) (follows : state.Follows history)
    (working : Working state (.read scl reading write))
    (took : (machine protobuf).step state (.read scl reading write) = some (next, outputs)) :
    next.Follows (history ++ [.read scl reading write]) ∧ outputs = [] := by
  obtain ⟨client, present, ready⟩ := step_read_ready took
  obtain ⟨clientId, known⟩ := wired.known present (by simp [ready])
  rcases working with rfl | ⟨channel, specific, data, handler, input, rfl, found, kind⟩
  · rw [step_read_eof protobuf write present ready known] at took
    cases took
    exact ⟨(follows.forget wired known write).same rfl rfl rfl, rfl⟩
  · obtain ⟨pointer, installed, pointed⟩ := Option.bind_eq_some_iff.mp found
    rw [step_read_packet protobuf write present ready (by simp), packet_data] at took
    have outcome : (gotPacket write scl
        ⟨PacketType.RawData.code, channel, specific, data.take (clientBufSize - 3)⟩).run
        (state.buffered scl client
          (.data (PacketType.RawData.code :: channel :: specific :: data))) = _ :=
      gotPacket_registers write known rfl installed pointed kind
    rw [finishClient_ok outcome] at took
    cases took
    exact ⟨(follows.register wired tabled known installed pointed kind write).same rfl rfl rfl, rfl⟩

theorem clientStep_follows (wired : state.Wired)
    (serializes : ∀ buttons, protobuf.inputChannelHandshakeRequest buttons ≠ none)
    (follows : state.Follows history)
    (took : (machine protobuf).step state (.clientStep scl) = some (next, outputs)) :
    next.Follows (history ++ [.clientStep scl]) ∧ ∀ output ∈ outputs, output.isEnqueue := by
  simp only [machine, step] at took
  split at took
  next => cases took
  next client present =>
    split at took
    next pointer openStep opening =>
      split at took
      next => cases took
      next handler installed =>
        split at took
        next enabled =>
          obtain ⟨clientId, known⟩ := wired.known present (by simp [opening])
          have quiet := openStep_quiet protobuf pointer openStep state
          have silent := openStep_enqueues protobuf pointer openStep state
          rcases ran : (openStep.run protobuf pointer).run state with ⟨fault | further, before, log⟩
          · rw [ran] at quiet
            obtain ⟨⟨exception, rfl⟩, -⟩ := clientOpen_error ran (quiet.clients ▸ known) took
            obtain ⟨-, -, other, input, -, -, refused⟩ := openStep_throws ran
            exact absurd refused (serializes _)
          · rw [ran] at quiet silent
            obtain ⟨thread, -, outcome⟩ := clientOpen_ok ran
            rw [finishClient_ok outcome] at took
            cases took
            exact ⟨(follows.kept (fun scl => ⟨id, id, fun channel => id⟩) quiet).same rfl rfl rfl,
              silent⟩
        next => cases took
    next => cases took

theorem step_follows (serializes : ∀ buttons, protobuf.inputChannelHandshakeRequest buttons ≠ none)
    (wired : state.Wired) (tidy : state.Tidy) (tabled : state.Tabled)
    (follows : state.Follows history) (working : Working state event)
    (took : (machine protobuf).step state event = some (next, outputs)) :
    next.Follows (history ++ [event]) := by
  cases event with
  | connect scl fd stack =>
      obtain ⟨fresh, -, rfl, -⟩ := connect_turn took
      exact follows.accept wired tidy stack fresh
  | read scl reading write => exact (read_follows wired tabled follows working took).1
  | clientStep scl => exact (clientStep_follows wired serializes follows took).1
  | headunit message accept write =>
      exact follows.kept (fun scl => ⟨id, id, fun channel => id⟩) (headunit_quiet working.1 took)
  | sample | streamStep | threadTerminated =>
      exact follows.kept (fun scl => ⟨id, id, fun channel => id⟩) (background_turn took trivial).1

structure State.Consistent (state : State) (history : List Event) : Prop where
  wired : state.Wired
  tidy : state.Tidy
  tabled : state.Tabled
  follows : state.Follows history

theorem step_consistent
    (serializes : ∀ buttons, protobuf.inputChannelHandshakeRequest buttons ≠ none)
    (consistent : state.Consistent history) (working : Working state event)
    (took : (machine protobuf).step state event = some (next, outputs)) :
    next.Consistent (history ++ [event]) :=
  have ⟨wired, tidy, tabled, follows⟩ := consistent
  ⟨step_wired wired took,
    step_tidy wired tidy (orderly_of_working serializes follows working) took,
    step_tabled wired tabled took,
    step_follows serializes wired tidy tabled follows working took⟩

end Following

end AAServer

end AACS
