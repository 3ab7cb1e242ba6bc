import AACS.Client.Dispatch
import AACS.Server.Audience

/-!
Exact delivery of the messages of the head unit.

While everything works, a message that is for clients gets to its audience, one packet
each, and to nobody else; a client that hands it on to its phone hands on the same
message.
-/

namespace AACS

namespace AAServer

open Effects FanOut Transitions

/-- Everybody in the audience gets the packet once, and nobody else gets anything. -/
def DeliversExactly (audience : Set Nat) (packet : Bytes) (outputs : List Output) : Prop :=
  (∀ scl ∈ audience, packetsTo scl outputs = [packet]) ∧
    ∀ scl ∉ audience, packetsTo scl outputs = []

section Recipients

variable {state next : State} {history : List Event} {message : Message} {scl : Nat}
  {recipients : List Nat} {bytes : Bytes}

theorem addressees_everyone (state : State) :
    state.addressees (-1) = state.clients.map Prod.fst := by
  simp [State.addressees]

theorem mem_addressees {clientId : Int} (number : clientId ≠ -1) :
    scl ∈ state.addressees clientId ↔ (scl, clientId) ∈ state.clients := by
  simp [State.addressees, number]

theorem State.Consistent.number_ne (consistent : state.Consistent history) {clientId : Int}
    {handler : ChannelHandler} (inside : handler ∈ state.handlers)
    (registered : clientId ∈ handler.registered) : clientId ≠ -1 := by
  obtain ⟨cl, membership, rfl⟩ :=
    List.mem_map.mp (consistent.tidy.registered handler inside _ registered)
  have counted := (consistent.wired.counted cl membership).1
  omega

theorem State.Consistent.registered_ne (consistent : state.Consistent history) {clientId : Int}
    {channel : UInt8} (registered : clientId ∈ state.registeredAt channel) : clientId ≠ -1 := by
  obtain ⟨handler, inside, number⟩ := handler_of_registeredAt registered
  exact consistent.number_ne inside number

theorem State.Consistent.mem_everyone (consistent : state.Consistent history) :
    scl ∈ state.addressees (-1) ↔ Connected history scl := by
  rw [addressees_everyone]
  exact consistent.follows.connected scl

theorem State.Consistent.mem_listeners (consistent : state.Consistent history) (channel : UInt8) :
    scl ∈ (state.registeredAt channel).flatMap state.addressees ↔ Listens history scl channel := by
  rw [List.mem_flatMap]
  constructor
  · rintro ⟨clientId, registered, addressed⟩
    have known := (mem_addressees (consistent.registered_ne registered)).mp addressed
    exact (consistent.follows.listening scl clientId channel known).mp registered
  · intro listens
    have connected := consistent.follows.listeners scl channel listens
    obtain ⟨⟨other, clientId⟩, known, rfl⟩ :=
      List.mem_map.mp ((consistent.follows.connected scl).mpr connected)
    have registered := (consistent.follows.listening _ clientId channel known).mpr listens
    exact ⟨clientId, registered,
      (mem_addressees (consistent.registered_ne registered)).mpr known⟩

theorem State.Consistent.audience_eq (consistent : state.Consistent history) (message : Message) :
    state.audience history message =
      (state.route message).map fun target => ({scl | scl ∈ target.1}, target.2) := by
  have everyone : {scl | Connected history scl} = {scl | scl ∈ state.addressees (-1)} :=
    Set.ext fun scl => consistent.mem_everyone.symm
  rcases content : message.content with _ | ⟨high, _ | ⟨low, rest⟩⟩
  · simp only [State.audience, State.route, content, Option.map_none]
  · simp only [State.audience, State.route, content, Option.map_none]
  · simp only [State.audience, State.route, content, everyone]
    by_cases control : message.channel = 0
    · simp only [control, if_true]
      split <;> rfl
    · simp only [control, if_false]
      cases found : state.handlerAt message.channel with
      | none => rfl
      | some handler =>
          simp only [Option.map_some]
          cases kind : handler.kind with
          | default => rfl
          | video video =>
              simp only
              split <;> rfl
          | input input =>
              simp only
              have registered : state.registeredAt message.channel = input.registered_clients := by
                simp [State.registeredAt, found, ChannelHandler.registered, kind]
              have listeners : {scl | Listens history scl message.channel} =
                  {scl | scl ∈ input.registered_clients.flatMap state.addressees} :=
                Set.ext fun scl => by
                  rw [← registered]
                  exact (consistent.mem_listeners message.channel).symm
              split
              · rw [Option.map_some, listeners, consistent.tabled.channelId_eq found]
              · rfl

theorem State.Consistent.recipients_distinct (consistent : state.Consistent history)
    (routed : state.route message = some (recipients, bytes)) :
    recipients.Nodup ∧ ∀ scl ∈ recipients, scl ∈ state.clients.map Prod.fst := by
  have sublist (clientId : Int) :
      (state.addressees clientId).Sublist (state.clients.map Prod.fst) :=
    List.filter_sublist.map _
  have everyone : (state.addressees (-1)).Nodup ∧
      ∀ scl ∈ state.addressees (-1), scl ∈ state.clients.map Prod.fst :=
    ⟨consistent.wired.keys.sublist (sublist (-1)), fun scl inside => (sublist (-1)).subset inside⟩
  rcases route_cases routed with ⟨rfl, -⟩ | ⟨handler, input, found, kind, rfl, -⟩
  · exact everyone
  · obtain ⟨pointer, -, pointed⟩ := Option.bind_eq_some_iff.mp found
    have inside := List.mem_of_getElem? pointed
    have registered : handler.registered = input.registered_clients := by
      simp [ChannelHandler.registered, kind]
    have distinct := consistent.follows.distinct handler inside
    have number := fun clientId =>
      @State.Consistent.number_ne _ _ consistent clientId handler inside
    rw [registered] at distinct number
    refine ⟨List.nodup_flatMap.mpr ⟨fun clientId _ => ?_, ?_⟩, fun scl membership => ?_⟩
    · exact consistent.wired.keys.sublist (sublist clientId)
    · apply distinct.pairwise_of_forall_ne
      intro first inFirst second inSecond different scl one two
      have known := (mem_addressees (number first inFirst)).mp one
      have knownToo := (mem_addressees (number second inSecond)).mp two
      exact different ((consistent.wired.same_iff knownToo known).mpr rfl)
    · obtain ⟨clientId, -, addressed⟩ := List.mem_flatMap.mp membership
      exact (sublist clientId).subset addressed

theorem State.Consistent.packet_eq (consistent : state.Consistent history) {audience : Set Nat}
    {packet : Bytes} (addressed : state.audience history message = some (audience, packet)) :
    ∃ specific, packet = packetFor message.channel specific message.content := by
  rw [consistent.audience_eq] at addressed
  obtain ⟨⟨recipients, bytes⟩, routed, same⟩ := Option.map_eq_some_iff.mp addressed
  cases same
  exact consistent.tabled.packet_eq routed

theorem State.Consistent.broadcast_eq (consistent : state.Consistent history)
    {write : Nat → WriteResult} (written : ∀ scl, write scl = .complete)
    (clients : ∀ scl ∈ recipients, scl ∈ state.clients.map Prod.fst) :
    state.broadcast write bytes recipients =
      ⟨.ok (), state, recipients.map fun scl => .packet scl bytes⟩ := by
  have sent : ∀ scl ∈ recipients, state.destination write scl = .ok (id scl) := by
    intro scl membership
    obtain ⟨cl, known, rfl⟩ := List.mem_map.mp (clients scl membership)
    obtain ⟨client, present, runs, -⟩ := consistent.tidy.clients cl known
    rw [consistent.wired.destination present runs, written]
    rfl
  rw [State.broadcast, fanOut_all_ok sent]
  simp [Except.mapError]

theorem delivers_map (distinct : recipients.Nodup) (bytes : Bytes) :
    DeliversExactly {scl | scl ∈ recipients} bytes
      (recipients.map fun scl => .packet scl bytes) := by
  induction recipients with
  | nil => exact ⟨by simp, fun _ _ => rfl⟩
  | cons first rest inductionHypothesis =>
      obtain ⟨fresh, distinct⟩ := List.nodup_cons.mp distinct
      obtain ⟨inside, outside⟩ := inductionHypothesis distinct
      constructor
      · intro scl membership
        rcases List.mem_cons.mp membership with rfl | later
        · have none := outside scl fresh
          simpa [packetsTo] using none
        · have different : first ≠ scl := by
            rintro rfl
            exact fresh later
          have once := inside scl later
          simpa [packetsTo, different] using once
      · intro scl absent
        obtain ⟨different, further⟩ : scl ≠ first ∧ scl ∉ rest := by simpa using absent
        have none := outside scl further
        simpa [packetsTo, Ne.symm different] using none

end Recipients

section Delivery

variable {state next : State} {history : List Event} {event : Event} {outputs : List Output}
  {protobuf : Protobuf}

/-- A message with an audience is delivered to it, and nothing else happens. -/
theorem State.Consistent.headunit_delivers (consistent : state.Consistent history)
    {message : Message} {accept : Accept} {write : Nat → WriteResult} {audience : Set Nat}
    {packet : Bytes} (addressed : state.audience history message = some (audience, packet))
    (pumping : state.threadFinished = false) (written : ∀ scl, write scl = .complete) :
    ∃ outputs, (machine protobuf).step state (.headunit message accept write) =
      some (state, outputs) ∧ DeliversExactly audience packet outputs := by
  rw [consistent.audience_eq] at addressed
  obtain ⟨⟨recipients, bytes⟩, routed, same⟩ := Option.map_eq_some_iff.mp addressed
  cases same
  obtain ⟨distinct, clients⟩ := consistent.recipients_distinct routed
  refine ⟨recipients.map fun scl => .packet scl bytes, ?_, delivers_map distinct bytes⟩
  simp only [machine, step, pumping, Bool.false_eq_true, if_false, finishPump,
    handleMessageContent_routed protobuf accept write routed,
    consistent.broadcast_eq written clients]

/-- Every other turn sends nothing to the clients. -/
theorem State.Consistent.other_silent
    (serializes : ∀ buttons, protobuf.inputChannelHandshakeRequest buttons ≠ none)
    (consistent : state.Consistent history) (working : Working state event)
    (unaddressed : ∀ message accept write, event = .headunit message accept write →
      state.audience history message = none)
    (took : (machine protobuf).step state event = some (next, outputs)) (scl : Nat) :
    packetsTo scl outputs = [] := by
  have silent (enqueues : ∀ output ∈ outputs, output.isEnqueue) : packetsTo scl outputs = [] :=
    List.eq_nil_iff_forall_not_mem.mpr fun bytes membership =>
      enqueues _ (mem_packetsTo.mp membership)
  cases event with
  | connect other fd stack =>
      obtain ⟨-, -, -, rfl⟩ := connect_turn took
      rfl
  | read other reading write =>
      rw [(read_follows consistent.wired consistent.tabled consistent.follows working took).2]
      rfl
  | clientStep other =>
      exact silent (clientStep_follows consistent.wired serializes consistent.follows took).2
  | headunit message accept write =>
      apply List.eq_nil_iff_forall_not_mem.mpr
      intro bytes membership
      obtain ⟨recipients, routed, -⟩ :=
        (headunit_packet_iff took scl bytes).mp (mem_packetsTo.mp membership)
      have addressed := consistent.audience_eq message
      rw [unaddressed message accept write rfl, routed] at addressed
      cases addressed
  | sample | streamStep | threadTerminated => exact silent (background_turn took trivial).2

theorem State.Consistent.at_most_one
    (serializes : ∀ buttons, protobuf.inputChannelHandshakeRequest buttons ≠ none)
    (consistent : state.Consistent history) (working : Working state event)
    (took : (machine protobuf).step state event = some (next, outputs)) (scl : Nat) :
    (packetsTo scl outputs).length ≤ 1 := by
  by_cases unaddressed : ∀ message accept write, event = .headunit message accept write →
      state.audience history message = none
  · rw [consistent.other_silent serializes working unaddressed took scl]
    exact Nat.zero_le 1
  · push Not at unaddressed
    obtain ⟨message, accept, write, rfl, addressed⟩ := unaddressed
    obtain ⟨⟨audience, packet⟩, target⟩ := Option.ne_none_iff_exists'.mp addressed
    have pumping : state.threadFinished = false := by
      cases finished : state.threadFinished with
      | false => rfl
      | true => simp [machine, step, finished] at took
    obtain ⟨delivered, same, exactly⟩ : ∃ delivered,
        (machine protobuf).step state (.headunit message accept write) = some (state, delivered) ∧
          DeliversExactly audience packet delivered :=
      consistent.headunit_delivers target pumping working.2
    rw [took] at same
    cases same
    by_cases inside : scl ∈ audience
    · rw [exactly.1 scl inside]
      exact le_refl 1
    · rw [exactly.2 scl inside]
      exact Nat.zero_le 1

theorem discovers_of_working (working : Working state event) : event.discovers = false := by
  cases event with
  | headunit message accept write => exact working.1
  | connect | read | clientStep | sample | streamStep | threadTerminated => rfl

theorem consistent_of_announcement {before : List Event} {start opened : State}
    {record : List (Event × List Output)} {announcement : Message} {accept : Accept}
    {write : Nat → WriteResult} {answers : List Output}
    (serializes : ∀ buttons, protobuf.inputChannelHandshakeRequest buttons ≠ none)
    (early : (machine protobuf).Within Working initial before)
    (began : (machine protobuf).run initial before = some (start, record))
    (discovery : isServiceDiscoveryResponse announcement = true)
    (announced : (machine protobuf).step start (.headunit announcement accept write) =
      some (opened, answers)) :
    opened.Consistent (before ++ [.headunit announcement accept write]) := by
  have ⟨wired, tidy, tabled, follows⟩ : start.Consistent before :=
    @Machine.run_history _ _ _ (machine protobuf) State.Consistent Working
      (step_consistent serializes) initial start [] before record
      ⟨wired_initial, tidy_initial, tabled_initial, follows_initial⟩ early began
  have kept : ∀ {state event next outputs}, state.Wired ∧ initial.SameTable state →
      Working state event → (machine protobuf).step state event = some (next, outputs) →
      next.Wired ∧ initial.SameTable next := fun both working took =>
    ⟨step_wired both.1 took, trans_of State.SameTable both.2
      (step_sameTable both.1 (discovers_of_working working) took)⟩
  have plain := ((machine protobuf).run_invariant kept ⟨wired_initial, refl initial⟩ early began).2
  obtain ⟨found, discovers, quiet⟩ := headunit_discovers discovery announced
  have orderly : Orderly protobuf start (.headunit announcement accept write) := trivial
  exact ⟨step_wired wired announced, step_tidy wired tidy orderly announced,
    step_tabled wired tabled announced,
    (follows.discovers discovers (unheard_of_sameTable plain)).kept
      (fun scl => ⟨id, id, fun channel => id⟩) quiet⟩

theorem readerThread_forwards {client : AAClient.State} {channel specific : UInt8} {content : Bytes}
    (handled : (client.channelHandlers channel).isSome)
    (fits : content.length + 2 ≤ AAClient.readerBufSize) :
    (AAClient.readerThread (channel :: specific :: content)).run client =
      ⟨.ok (), client, [.enqueue channel
        (if specific ≠ 0 then AAClient.encryptedBulk ||| MessageTypeFlags.Specific.mask
          else AAClient.encryptedBulk) content]⟩ := by
  obtain ⟨handler, present⟩ := Option.isSome_iff_exists.mp handled
  have whole : (channel :: specific :: content).take AAClient.readerBufSize =
      channel :: specific :: content := by
    apply List.take_of_length_le
    rw [List.length_cons, List.length_cons]
    exact fits
  simp only [AAClient.readerThread, whole, AAClient.sendMessagePublic, Act.run_bind, Act.run_get,
    Act.andThen_ok, present, AAClient.ChannelHandler.handleMessageFromServer, AAClient.sendToMobile,
    Act.run_emit, List.nil_append, bne_iff_ne, ne_eq, ite_not]

/-- What a client gets comes from events of the run, at most once from each, in their order. -/
theorem deliveries_sublist {scl : Nat} {trace : List (Event × List Output)}
    (single : ∀ turn ∈ trace, (packetsTo scl turn.2).length ≤ 1) :
    ((deliveries scl trace).map Prod.fst).Sublist (trace.map Prod.fst) := by
  induction trace with
  | nil => exact List.Sublist.slnil
  | cons turn rest inductionHypothesis =>
      obtain ⟨here, later⟩ := List.forall_mem_cons.mp single
      have further := inductionHypothesis later
      simp only [deliveries, List.flatMap_cons, List.map_append, List.map_map, List.map_cons]
        at further ⊢
      rcases sent : packetsTo scl turn.2 with _ | ⟨bytes, _ | ⟨second, more⟩⟩
      · exact further.cons _
      · exact further.cons_cons _
      · simp [sent] at here

end Delivery

/-- After the first service descriptor, and for as long as everything works: a message with
an audience reaches exactly its audience, each client once, and a client of `AAClient` that
handles the channel passes the same message on; no other turn sends anything to a client;
and every client gets its packets in the order of the messages. -/
theorem exact_delivery (protobuf : Protobuf)
    (serializes : ∀ buttons, protobuf.inputChannelHandshakeRequest buttons ≠ none)
    {before events : List Event} {start opened state : State}
    {record trace : List (Event × List Output)} {announcement : Message} {accepted : Accept}
    {written : Nat → WriteResult} {answers : List Output}
    (early : (machine protobuf).Within Working initial before)
    (began : (machine protobuf).run initial before = some (start, record))
    (discovery : isServiceDiscoveryResponse announcement = true)
    (announced : (machine protobuf).step start (.headunit announcement accepted written) =
      some (opened, answers))
    (working : (machine protobuf).Within Working opened events)
    (ran : (machine protobuf).run opened events = some (state, trace)) :
    (∀ message accept write audience packet,
      state.audience (before ++ .headunit announcement accepted written :: events) message =
        some (audience, packet) →
      state.threadFinished = false → (∀ scl, write scl = .complete) →
      (∃ outputs, (machine protobuf).step state (.headunit message accept write) =
        some (state, outputs) ∧ DeliversExactly audience packet outputs) ∧
      ∀ client : AAClient.State, (client.channelHandlers message.channel).isSome →
        message.content.length < 2 ^ 16 →
        (AAClient.readerThread packet).run client = ⟨.ok (), client, [.enqueue message.channel
          (if packet.getD 1 0 ≠ 0 then AAClient.encryptedBulk ||| MessageTypeFlags.Specific.mask
            else AAClient.encryptedBulk) message.content]⟩) ∧
    (∀ event next outputs, Working state event →
      (∀ message accept write, event = .headunit message accept write →
        state.audience (before ++ .headunit announcement accepted written :: events) message =
          none) →
      (machine protobuf).step state event = some (next, outputs) →
      ∀ scl, packetsTo scl outputs = []) ∧
    ∀ scl, ((deliveries scl trace).map Prod.fst).Sublist events := by
  have begun := consistent_of_announcement serializes early began discovery announced
  have consistent := (machine protobuf).run_history (step_consistent serializes) begun working ran
  rw [List.append_assoc, List.singleton_append] at consistent
  refine ⟨?_, ?_, fun scl => ?_⟩
  · intro message accept write audience packet addressed pumping complete
    refine ⟨consistent.headunit_delivers addressed pumping complete, ?_⟩
    intro client handled short
    obtain ⟨specific, rfl⟩ := consistent.packet_eq addressed
    have fits : message.content.length + 2 ≤ AAClient.readerBufSize := by
      unfold AAClient.readerBufSize
      omega
    exact readerThread_forwards handled fits
  · intro event next outputs works unaddressed took
    exact consistent.other_silent serializes works unaddressed took
  · rw [← (machine protobuf).run_events ran]
    have single : ∀ {state past event next outputs}, State.Consistent state past →
        Working state event → (machine protobuf).step state event = some (next, outputs) →
        next.Consistent (past ++ [event]) ∧ (packetsTo scl outputs).length ≤ 1 :=
      fun consistent works took => ⟨step_consistent serializes consistent works took,
        consistent.at_most_one serializes works took scl⟩
    exact deliveries_sublist (@Machine.run_turns _ _ _ (machine protobuf) _ _
      (fun _ outputs => (packetsTo scl outputs).length ≤ 1) single opened state _ events trace
      begun working ran)

def buttonEvent : Message := { channel := 7, flags := 0x0f, content := [0x80, 0x01, 0x55] }

def firstClient : List Event := [.connect 1 10 fun _ => 0]

/-- Another client connects, and the first one registers with channel 7. -/
def registration : List Event :=
  [.connect 2 11 fun _ => 0, .read 1 (.data [0x01, 0x07, 0x00]) fun _ => .complete]

/-- Of two clients the one that listens to the input channel gets the event. -/
theorem exact_delivery_button_event :
    ∃ start opened state record answers trace outputs,
      (machine .small).run initial firstClient = some (start, record) ∧
      (machine .small).step start (.headunit inputAnnouncement .failed fun _ => .complete) =
        some (opened, answers) ∧
      (machine .small).run opened registration = some (state, trace) ∧
      (machine .small).step state (.headunit buttonEvent .failed fun _ => .complete) =
        some (state, outputs) ∧
      DeliversExactly {scl | Listens (firstClient ++
        .headunit inputAnnouncement .failed (fun _ => .complete) :: registration) scl 7}
        [0x07, 0x00, 0x80, 0x01, 0x55] outputs := by
  obtain ⟨start, record, began⟩ : ∃ start record,
      (machine .small).run initial firstClient = some (start, record) := ⟨_, _, rfl⟩
  obtain ⟨opened, answers, announced⟩ : ∃ opened answers, (machine .small).step start
      (.headunit inputAnnouncement .failed fun _ => .complete) = some (opened, answers) := by
    cases began
    exact ⟨_, _, rfl⟩
  obtain ⟨state, trace, ran⟩ : ∃ state trace,
      (machine .small).run opened registration = some (state, trace) := by
    cases began
    cases announced
    exact ⟨_, _, rfl⟩
  have early : (machine .small).Within Working initial firstClient :=
    ⟨trivial, fun _ _ _ => trivial⟩
  have working : (machine .small).Within Working opened registration := by
    cases began
    cases announced
    refine ⟨trivial, fun _ _ took => ?_⟩
    cases took
    exact ⟨.inr ⟨7, 0, [], _, _, rfl, rfl, rfl⟩, fun _ _ _ => trivial⟩
  obtain ⟨⟨outputs, took, exactly⟩, -⟩ := (exact_delivery .small (fun _ => nofun) early began rfl
    announced working ran).1 buttonEvent .failed (fun _ => .complete) _ _ (by
      cases began
      cases announced
      cases ran
      rfl) (by
      cases began
      cases announced
      cases ran
      rfl) fun _ => rfl
  exact ⟨start, opened, state, record, answers, trace, outputs, began, announced, ran, took,
    exactly⟩

def defaultAnnouncement : Message where
  channel := 0
  flags := 0x0b
  content := [0x00, 0x06, 0x0a, 0x04, 0x08, 0x07, 0x12, 0x00]

def defaultMessage : Message := { channel := 7, flags := 0x0b, content := [0x00, 0x01, 0x55] }

/-- A message that nobody handles, which ends the pump. -/
def unhandledMessage : Event :=
  .headunit { channel := 0, flags := 0x0b, content := [0x00, 0x63] } .failed fun _ => .complete

def endedPump : List Event :=
  firstClient ++ .headunit defaultAnnouncement .failed (fun _ => .complete) :: [unhandledMessage]

/-- The client is connected and the message is for it, but there is no pump to hand it on. -/
theorem delivery_ends_with_pump :
    ∃ start opened state record answers trace,
      (machine .small).run initial firstClient = some (start, record) ∧
      (machine .small).step start (.headunit defaultAnnouncement .failed fun _ => .complete) =
        some (opened, answers) ∧
      (machine .small).Within Working opened [unhandledMessage] ∧
      (machine .small).run opened [unhandledMessage] = some (state, trace) ∧
      Connected endedPump 1 ∧
      state.audience endedPump defaultMessage =
        some ({scl | Connected endedPump scl}, [0x07, 0x00, 0x00, 0x01, 0x55]) ∧
      ∀ accept write,
        (machine .small).step state (.headunit defaultMessage accept write) = none := by
  refine ⟨_, _, _, _, _, _, rfl, rfl, ⟨⟨rfl, fun _ => rfl⟩, fun _ _ _ => trivial⟩, rfl,
    ⟨[], _, _, rfl, rfl, ?_⟩, rfl, fun _ _ => rfl⟩
  intro event later
  rcases List.mem_cons.mp later with rfl | last
  · exact id
  · obtain rfl := List.mem_singleton.mp last
    exact id

end AAServer

end AACS
