import AACS.Client.Answers
import AACS.Proxy.Upstream

/-!
A channel that both programs pass on.

Both programs have a default handler for the channel, and `AAClient` is the only client that uses
it. Then the head unit is told on the channel what the phone says on it, and the phone what the
head unit says: nothing is lost, said twice, overtaken or put in between, whatever else the
programs do on the other channels.
-/

namespace AACS

open Effects Transitions

theorem AAClient.default_of_kindAt {state : AAClient.State} {channel : UInt8}
    (isDefault : state.kindAt channel = some none) :
    ∃ handler, state.channelHandlers channel = some handler ∧ handler.kind = .default := by
  obtain ⟨handler, installed, untyped⟩ := Option.map_eq_some_iff.mp isDefault
  refine ⟨handler, installed, ?_⟩
  cases kind : handler.kind with
  | default => rfl
  | input => simp [kind, AAClient.HandlerKind.channelType] at untyped
  | video => simp [kind, AAClient.HandlerKind.channelType] at untyped

theorem AAServer.default_of_kindAt {state : AAServer.State} {channel : UInt8}
    (isDefault : state.kindAt channel = some none) :
    ∃ handler, state.handlerAt channel = some handler ∧ handler.kind = .default := by
  obtain ⟨handler, installed, untyped⟩ := Option.map_eq_some_iff.mp isDefault
  refine ⟨handler, installed, ?_⟩
  cases kind : handler.kind with
  | default => rfl
  | input => simp [kind, AAServer.HandlerKind.channelType] at untyped
  | video => simp [kind, AAServer.HandlerKind.channelType] at untyped

namespace System

def serverOutputs (outputs : List Output) : List AAServer.Output :=
  outputs.filterMap fun
    | .server output => some output
    | .client _ => none

def clientOutputs (outputs : List Output) : List AAClient.Output :=
  outputs.filterMap fun
    | .client output => some output
    | .server _ => none

/-- What the phone says on the channel, as the two programs hand it on. -/
def saidByPhone (channel : UInt8) (_ : System) (event : Event) (_ : List Output) : List Message :=
  match event with
  | .client (.message msg _) => onChannel channel [msg.relayed (isSpecific msg.flags)]
  | _ => []

/-- What the server puts into the queue for the head unit on the channel, in whatever turn. -/
def toldHeadunit (channel : UInt8) (_ : System) (_ : Event) (outputs : List Output) :
    List Message :=
  onChannel channel (AAServer.queued (serverOutputs outputs))

def saidByHeadunit (channel : UInt8) (_ : System) (event : Event) (_ : List Output) :
    List Message :=
  match event with
  | .server (.headunit msg _ _) => onChannel channel [msg.relayed (isSpecific msg.flags)]
  | _ => []

def toldPhone (channel : UInt8) (_ : System) (_ : Event) (outputs : List Output) : List Message :=
  onChannel channel (AAClient.queued (clientOutputs outputs))

/-- No other client sends on the channel, the phone does not ask for the services again, and what
it says on the channel has a type and is written to the socket. -/
structure Leaves (channel : UInt8) (scl : Nat) (current : System) (event : Event) : Prop where
  settled : current.Settled scl event
  others : ∀ own, event = .server own → ¬ current.server.SendsOn channel own
  asked : ∀ own, event = .client own → own.discovers = false
  passed : ∀ msg outside, event = .client (.message msg outside) → msg.channel = channel →
    2 ≤ msg.content.length ∧ outside.write = .ok ()

/-- The services are not told nor asked for again, and `AAClient` is a client when the head unit
says something on the channel. -/
structure Listens (protobuf : Protobuf) (channel : UInt8) (scl : Nat) (current : System)
    (event : Event) : Prop where
  steady : current.Steady protobuf scl event
  told : ∀ own ∈ current.serverTurn scl event, own.discovers = false
  asked : ∀ own, event = .client own → own.discovers = false
  heard : ∀ msg accept write, event = .server (.headunit msg accept write) →
    msg.channel = channel →
    2 ≤ msg.content.length ∧ (current.server.clients.lookup scl).isSome = true

structure RisingOn (channel : UInt8) (start : AAServer.State) (current : System) : Prop
    extends current.Rising start where
  opens : current.server.OpensInputs
  isDefault : current.client.state.kindAt channel = some none

structure FlowingOn (channel : UInt8) (current : System) : Prop extends current.Flowing where
  numbered : current.client.state.Numbered
  byServer : current.server.kindAt channel = some none
  byClient : current.client.state.kindAt channel = some none

section Turns

variable {protobuf : Protobuf} {scl : Nat} {start : AAServer.State} {current next : System}
  {event : Event} {outputs : List Output} {channel : UInt8}

theorem serverOutputs_server (log : List AAServer.Output) :
    serverOutputs (log.map .server) = log := by
  simp [serverOutputs, List.filterMap_map]

theorem serverOutputs_client (log : List AAClient.Output) :
    serverOutputs (log.map .client) = [] := by
  simp [serverOutputs, List.filterMap_map]

theorem clientOutputs_client (log : List AAClient.Output) :
    clientOutputs (log.map .client) = log := by
  simp [clientOutputs, List.filterMap_map]

theorem clientOutputs_server (log : List AAServer.Output) :
    clientOutputs (log.map .server) = [] := by
  simp [clientOutputs, List.filterMap_map]

theorem client_kindAt {session after : AAClient.Session} {own : AAClient.Event}
    {log : List AAClient.Output} (asked : own.discovers = false)
    (ran : (AAClient.machine protobuf).step session own = some (after, log)) :
    after.state.kindAt = session.state.kindAt := by
  funext number
  rw [AAClient.kindAt_eq, AAClient.kindAt_eq, AAClient.step_shapes asked ran]

theorem turn_asks {own : AAClient.Event} (turn : current.clientTurn event = some own)
    (asked : ∀ own, event = .client own → own.discovers = false) : own.discovers = false := by
  cases event with
  | client inner =>
      simp only [clientTurn] at turn
      split at turn
      · cases turn
      · cases turn
        exact asked _ rfl
  | clientReads =>
      obtain ⟨packet, -, rfl⟩ := Option.map_eq_some_iff.mp turn
      rfl
  | server | serverReads | hangUp => cases turn

section Up

theorem channel_of_forHeadunit {state : AAClient.State} {msg carried : Message}
    (membership : carried ∈ (state.forwards msg).filterMap (forHeadunit start)) :
    carried.channel = msg.channel := by
  obtain ⟨packet, among, made⟩ := List.mem_filterMap.mp membership
  have onChannel {specific : UInt8} {data : Bytes}
      (made : forHeadunit start (0x01 :: msg.channel :: specific :: data) = some carried) :
      carried.channel = msg.channel := by
    simp only [forHeadunit] at made
    split at made
    · cases made
      rfl
    · cases made
  rcases AAClient.mem_forwards among with rfl | rfl <;> exact onChannel made

theorem forwards_default {state : AAClient.State} {msg : Message} (typed : 2 ≤ msg.content.length)
    (uncontrolled : msg.channel ≠ 0) (byClient : state.kindAt msg.channel = some none)
    (byServer : start.kindAt msg.channel = some none)
    (asked : AAClient.hasType msg.content MessageType.ServiceDiscoveryRequest.code = false) :
    (state.forwards msg).filterMap (forHeadunit start) = [msg.relayed (isSpecific msg.flags)] := by
  rcases content : msg.content with _ | ⟨high, _ | ⟨low, rest⟩⟩
  · simp [content] at typed
  · simp [content] at typed
  obtain ⟨handler, installed, isDefault⟩ := AAClient.default_of_kindAt byClient
  have other : bigEndian16 high low ≠ MessageType.ServiceDiscoveryRequest.code := by
    simpa [AAClient.hasType, content] using asked
  simp only [AAClient.State.forwards, content, if_neg other, if_pos uncontrolled, installed,
    Option.map_some, isDefault]
  cases specific : isSpecific msg.flags <;>
    simp [forHeadunit, Message.rawData, Message.relayed, byServer, specific]

/-- What the client makes of the phone's messages on the channel is what the phone says on it. -/
theorem sentByPhone_onChannel (ordinary : start.Ordinary channel)
    (rising : current.RisingOn channel start) (leaves : current.Leaves channel scl event) :
    onChannel channel (sentByPhone start current event outputs) =
      saidByPhone channel current event outputs := by
  cases event with
  | server | serverReads | hangUp | clientReads => rfl
  | client own =>
      cases own with
      | packet | versionResponse | handshake => rfl
      | message msg outside =>
          by_cases same : msg.channel = channel
          · obtain ⟨typed, written⟩ := leaves.passed msg outside rfl same
            subst same
            simp only [sentByPhone, AAClient.Event.forwards, if_pos written, saidByPhone]
            rw [forwards_default typed ordinary.uncontrolled rising.isDefault ordinary.isDefault
              (leaves.asked (.message msg outside) rfl)]
          · have elsewhere : onChannel channel
                (sentByPhone start current (.client (.message msg outside)) outputs) = [] := by
              refine List.filter_eq_nil_iff.mpr fun carried inside => ?_
              simp only [sentByPhone, AAClient.Event.forwards] at inside
              split at inside
              · simpa [channel_of_forHeadunit inside] using same
              · cases inside
            rw [elsewhere]
            simp [saidByPhone, onChannel, Message.relayed, same]

theorem hangUp_queued {state server : AAServer.State} {log : List AAServer.Output}
    {write : Nat → AAServer.WriteResult} (wired : state.Wired)
    (ran : (AAServer.machine protobuf).step state (.read scl (.data []) write) =
      some (server, log)) : AAServer.queued log = [] := by
  obtain ⟨client, present, ready⟩ := AAServer.step_read_ready ran
  obtain ⟨clientId, known⟩ := wired.known present (by simp [ready])
  rw [AAServer.step_read_eof protobuf write present ready known] at ran
  cases ran
  rfl

theorem toldHeadunit_eq (ordinary : start.Ordinary channel) (startTabled : start.Tabled)
    (rising : current.RisingOn channel start) (leaves : current.Leaves channel scl event)
    (took : (system protobuf scl).step current event = some (next, outputs)) :
    toldHeadunit channel current event outputs =
      onChannel channel (putForHeadunit current event outputs) := by
  rcases step_turn took with ⟨own, server, log, turn, ran, same⟩ |
    ⟨own, client, log, none, turn, ran, same⟩
  · cases same
    cases event with
    | serverReads => rfl
    | server inner =>
        simp only [serverTurn] at turn
        split at turn
        · cases turn
        · cases turn
          have here := ordinary.sameTable startTabled rising.table
          rw [toldHeadunit, serverOutputs_server, here.quiet rising.wired rising.tabled
            rising.opens (leaves.others _ rfl) ran]
          rfl
    | hangUp write =>
        simp only [serverTurn] at turn
        split at turn
        · cases turn
          rw [toldHeadunit, serverOutputs_server, hangUp_queued rising.wired ran]
          rfl
        · cases turn
    | client | clientReads => cases turn
  · cases same
    rw [toldHeadunit, serverOutputs_client]
    cases event with
    | serverReads => cases turn
    | server | hangUp | client | clientReads => rfl

theorem step_risesOn (ordinary : start.Ordinary channel) (startTabled : start.Tabled)
    (rising : current.RisingOn channel start) (leaves : current.Leaves channel scl event)
    (took : (system protobuf scl).step current event = some (next, outputs)) :
    next.RisingOn channel start ∧
      onChannel channel (current.waitingForHeadunit start) ++
          saidByPhone channel current event outputs =
        toldHeadunit channel current event outputs ++
          onChannel channel (next.waitingForHeadunit start) := by
  obtain ⟨goesOn, moved⟩ := step_rises startTabled rising.toRising leaves.settled took
  have onIt := congrArg (onChannel channel) moved
  rw [onChannel_append, onChannel_append, sentByPhone_onChannel ordinary rising leaves,
    ← toldHeadunit_eq ordinary startTabled rising leaves took] at onIt
  refine ⟨⟨goesOn, ?_, ?_⟩, onIt⟩
  · rcases step_turn took with ⟨own, server, log, turn, ran, same⟩ |
      ⟨own, client, log, none, turn, ran, same⟩
    · cases same
      exact AAServer.step_opensInputs rising.wired rising.opens ran
    · cases same
      exact rising.opens
  · rcases step_turn took with ⟨own, server, log, turn, ran, same⟩ |
      ⟨own, client, log, none, turn, ran, same⟩
    · cases same
      exact rising.isDefault
    · cases same
      exact (congrFun (client_kindAt (turn_asks turn leaves.asked) ran) channel).trans
        rising.isDefault

end Up

section Down

theorem hears_default {state : AAServer.State} {msg : Message} (typed : 2 ≤ msg.content.length)
    (uncontrolled : msg.channel ≠ 0) (byServer : state.kindAt msg.channel = some none)
    (known : (state.clients.lookup scl).isSome = true) :
    state.hears scl msg = true ∧ state.marks msg = isSpecific msg.flags := by
  rcases content : msg.content with _ | ⟨high, _ | ⟨low, rest⟩⟩
  · simp [content] at typed
  · simp [content] at typed
  obtain ⟨clientId, present⟩ := Option.isSome_iff_exists.mp known
  obtain ⟨handler, installed, isDefault⟩ := AAServer.default_of_kindAt byServer
  constructor
  · simp [AAServer.State.hears, content, AAServer.typeOf, present, uncontrolled, installed,
      isDefault]
  · simp [AAServer.State.marks, uncontrolled, installed, isDefault]

theorem heardByClient_onChannel (uncontrolled : channel ≠ 0)
    (flowing : current.FlowingOn channel) (listens : current.Listens protobuf channel scl event) :
    onChannel channel (heardByClient scl current event outputs) =
      saidByHeadunit channel current event outputs := by
  cases event with
  | serverReads | hangUp | client | clientReads => rfl
  | server own =>
      cases own with
      | connect | read | clientStep | sample | streamStep | threadTerminated => rfl
      | headunit msg accept write =>
          by_cases same : msg.channel = channel
          · obtain ⟨typed, known⟩ := listens.heard msg accept write rfl same
            subst same
            obtain ⟨hears, marks⟩ := hears_default typed uncontrolled flowing.byServer known
            simp only [heardByClient, hears, marks, if_true, saidByHeadunit]
          · simp only [heardByClient, saidByHeadunit]
            split <;> simp [onChannel, Message.relayed, same]

theorem toldPhone_eq (uncontrolled : channel ≠ 0) (flowing : current.FlowingOn channel)
    (took : (system protobuf scl).step current event = some (next, outputs)) :
    toldPhone channel current event outputs =
      onChannel channel (putForPhone current event outputs) := by
  rcases step_turn took with ⟨own, server, log, turn, ran, same⟩ |
    ⟨own, client, log, none, turn, ran, same⟩
  · cases same
    rw [toldPhone, clientOutputs_server]
    cases event with
    | clientReads => cases turn
    | server | serverReads | hangUp | client => rfl
  · cases same
    cases event with
    | clientReads => rfl
    | client inner =>
        simp only [clientTurn] at turn
        split at turn
        · cases turn
        next prompted =>
          cases turn
          have unprompted : ∀ bytes, own ≠ .packet bytes := by
            rintro bytes rfl
            exact prompted rfl
          rw [toldPhone, clientOutputs_client, AAClient.step_quiet flowing.numbered uncontrolled
            flowing.byClient unprompted ran]
          rfl
    | server | serverReads | hangUp => cases turn

theorem step_flowsOn (uncontrolled : channel ≠ 0) (flowing : current.FlowingOn channel)
    (listens : current.Listens protobuf channel scl event)
    (took : (system protobuf scl).step current event = some (next, outputs)) :
    next.FlowingOn channel ∧
      onChannel channel current.waitingForPhone ++
          saidByHeadunit channel current event outputs =
        toldPhone channel current event outputs ++ onChannel channel next.waitingForPhone := by
  obtain ⟨goesOn, moved⟩ := step_flows flowing.toFlowing listens.steady took
  have onIt := congrArg (onChannel channel) moved
  rw [onChannel_append, onChannel_append, heardByClient_onChannel uncontrolled flowing listens,
    ← toldPhone_eq uncontrolled flowing took] at onIt
  refine ⟨?_, onIt⟩
  rcases step_turn took with ⟨own, server, log, turn, ran, same⟩ |
    ⟨own, client, log, none, turn, ran, same⟩
  · cases same
    have table := AAServer.step_sameTable flowing.sound.wired (listens.told own turn) ran
    exact ⟨goesOn, flowing.numbered,
      (congrFun (table.kindAt flowing.sound.tabled) channel).trans flowing.byServer,
      flowing.byClient⟩
  · cases same
    exact ⟨goesOn, AAClient.step_numbered flowing.numbered ran, flowing.byServer,
      (congrFun (client_kindAt (turn_asks turn listens.asked) ran) channel).trans
        flowing.byClient⟩

end Down

end Turns

end System

/-- In every run that leaves the channel to the two programs the head unit is told on it what the
phone says on it, each message once and in order, but for those that still wait in the socket; and
it is told nothing else. -/
theorem channel_to_headunit {protobuf : Protobuf} {scl : Nat} {channel : UInt8}
    {past : List AAServer.Event} {record : List (AAServer.Event × List AAServer.Output)}
    {start final : System} {events : List System.Event}
    {trace : List (System.Event × List System.Output)}
    (reached : (AAServer.machine protobuf).run AAServer.initial past = some (start.server, record))
    (ordinary : start.server.Ordinary channel)
    (isDefault : start.client.state.kindAt channel = some none)
    (unread : ∀ packet ∈ start.toServer,
      IsRawData packet ∧ packet.length ≤ AAServer.clientBufSize)
    (leaves : (system protobuf scl).Within (System.Leaves channel scl) start events)
    (ran : (system protobuf scl).run start events = some (final, trace)) :
    onChannel channel (start.waitingForHeadunit start.server) ++
        (system protobuf scl).observations (System.saidByPhone channel) start events =
      (system protobuf scl).observations (System.toldHeadunit channel) start events ++
        onChannel channel (final.waitingForHeadunit start.server) := by
  have tabled := AAServer.run_tabled reached
  have rising : start.RisingOn channel start.server :=
    ⟨⟨AAServer.run_wired reached, tabled, refl start.server, unread⟩,
      AAServer.run_opensInputs reached, isDefault⟩
  exact @Machine.run_fifo _ _ _ _ (system protobuf scl)
    (fun current => current.RisingOn channel start.server) (System.Leaves channel scl)
    (fun current => onChannel channel (current.waitingForHeadunit start.server))
    (System.saidByPhone channel) (System.toldHeadunit channel)
    (System.step_risesOn ordinary tabled) start final events trace rising leaves ran

theorem ordinary_discovered {server : AAServer.State}
    {record : List (AAServer.Event × List AAServer.Output)}
    (reached : (AAServer.machine .small).run AAServer.initial discovery = some (server, record)) :
    server.Ordinary audioMessage.channel := by
  have plain : ∀ handler ∈ server.handlers, handler.kind.channelType = none := by
    cases reached
    decide
  refine ⟨by decide, by cases reached; rfl, ?_⟩
  rintro ⟨handler, inside, -, typed⟩
  rw [plain handler inside] at typed
  cases typed

theorem channel_to_headunit_audio :
    ∃ server record final trace,
      (AAServer.machine .small).run AAServer.initial discovery = some (server, record) ∧
      (system .small 1).run (relaying server) [audioFromPhone, .serverReads fun _ => .complete] =
        some (final, trace) ∧
      onChannel 7 ((relaying server).waitingForHeadunit server) ++ (system .small 1).observations
          (System.saidByPhone 7) (relaying server)
          [audioFromPhone, .serverReads fun _ => .complete] =
        (system .small 1).observations (System.toldHeadunit 7) (relaying server)
          [audioFromPhone, .serverReads fun _ => .complete] ++
          onChannel 7 (final.waitingForHeadunit server) := by
  obtain ⟨server, record, reached⟩ : ∃ server record,
      (AAServer.machine .small).run AAServer.initial discovery = some (server, record) :=
    ⟨_, _, rfl⟩
  have leaves : (system .small 1).Within (System.Leaves 7 1) (relaying server)
      [audioFromPhone, .serverReads fun _ => .complete] := by
    refine ⟨⟨⟨?_, ?_⟩, ?_, ?_, ?_⟩, fun next outputs took =>
      ⟨⟨⟨?_, ?_⟩, ?_, ?_, ?_⟩, fun _ _ _ => trivial⟩⟩
    · rintro own ⟨⟩
    · rintro msg outside ⟨⟩
      decide
    · rintro own ⟨⟩
    · rintro own ⟨⟩
      rfl
    · rintro msg outside ⟨⟩ same
      exact ⟨by decide, rfl⟩
    · intro own turn
      obtain ⟨packet, -, rfl⟩ := Option.map_eq_some_iff.mp turn
      rfl
    · rintro msg outside ⟨⟩
    · rintro own ⟨⟩
    · rintro own ⟨⟩
    · rintro msg outside ⟨⟩
  obtain ⟨final, trace, ran⟩ : ∃ final trace, (system .small 1).run (relaying server)
      [audioFromPhone, .serverReads fun _ => .complete] = some (final, trace) := by
    cases reached
    exact ⟨_, _, rfl⟩
  exact ⟨server, record, final, trace, reached, ran,
    channel_to_headunit reached (ordinary_discovered reached) rfl (by simp [relaying]) leaves ran⟩

/-- In every run in which `AAClient` listens the phone is told on the channel what the head unit
says on it, each message once and in order, but for those that still wait in the socket; and it is
told nothing else. -/
theorem channel_to_phone {protobuf : Protobuf} {scl : Nat} {channel : UInt8}
    {past : List AAServer.Event} {record : List (AAServer.Event × List AAServer.Output)}
    {sd : Bytes} {earlier : List AAClient.Event}
    {memory : List (AAClient.Event × List AAClient.Output)} {start final : System}
    {events : List System.Event} {trace : List (System.Event × List System.Output)}
    (cleaned : (AAServer.machine protobuf).Within (AAServer.Orderly protobuf) AAServer.initial past)
    (reached : (AAServer.machine protobuf).run AAServer.initial past = some (start.server, record))
    (begun : (AAClient.machine protobuf).run (AAClient.Session.start sd) earlier =
      some (start.client, memory))
    (uncontrolled : channel ≠ 0) (byServer : start.server.kindAt channel = some none)
    (byClient : start.client.state.kindAt channel = some none)
    (unread : ∀ packet ∈ start.toServer, IsRawData packet)
    (pending : ∀ packet ∈ start.toClient, IsBroadcast packet)
    (listens : (system protobuf scl).Within (System.Listens protobuf channel scl) start events)
    (ran : (system protobuf scl).run start events = some (final, trace)) :
    onChannel channel start.waitingForPhone ++
        (system protobuf scl).observations (System.saidByHeadunit channel) start events =
      (system protobuf scl).observations (System.toldPhone channel) start events ++
        onChannel channel final.waitingForPhone := by
  have flowing : start.FlowingOn channel :=
    ⟨⟨AAServer.run_sound cleaned reached, unread, pending⟩, AAClient.run_numbered begun, byServer,
      byClient⟩
  exact @Machine.run_fifo _ _ _ _ (system protobuf scl)
    (fun current => current.FlowingOn channel) (System.Listens protobuf channel scl)
    (fun current => onChannel channel current.waitingForPhone)
    (System.saidByHeadunit channel) (System.toldPhone channel)
    (System.step_flowsOn uncontrolled) start final events trace flowing listens ran

/-- The version is the right one, and the phone asks for the services. -/
def greeting : List AAClient.Event :=
  [.versionResponse ⟨0, 3, [0, 2, 0, 1, 0, 5, 0, 0], 0⟩ .complete, .message ⟨0, 0x0b, [0, 5], 0⟩ {}]

theorem channel_to_phone_audio :
    ∃ server record memory final trace,
      (AAServer.machine .small).run AAServer.initial discovery = some (server, record) ∧
      (AAClient.machine .small).run (AAClient.Session.start audioDescription) greeting =
        some ((relaying server).client, memory) ∧
      (system .small 1).run (relaying server) [audioFromHeadunit, .clientReads] =
        some (final, trace) ∧
      onChannel 7 (relaying server).waitingForPhone ++ (system .small 1).observations
          (System.saidByHeadunit 7) (relaying server) [audioFromHeadunit, .clientReads] =
        (system .small 1).observations (System.toldPhone 7) (relaying server)
          [audioFromHeadunit, .clientReads] ++ onChannel 7 final.waitingForPhone := by
  obtain ⟨server, record, reached⟩ : ∃ server record,
      (AAServer.machine .small).run AAServer.initial discovery = some (server, record) :=
    ⟨_, _, rfl⟩
  obtain ⟨memory, begun⟩ : ∃ memory,
      (AAClient.machine .small).run (AAClient.Session.start audioDescription) greeting =
        some ((relaying server).client, memory) := ⟨_, rfl⟩
  have cleaned : (AAServer.machine .small).Within (AAServer.Orderly .small) AAServer.initial
      discovery := ⟨trivial, fun _ _ _ => ⟨trivial, fun _ _ _ => trivial⟩⟩
  have known : (server.clients.lookup 1).isSome = true := by
    cases reached
    rfl
  have listens : (system .small 1).Within (System.Listens .small 7 1) (relaying server)
      [audioFromHeadunit, .clientReads] := by
    refine ⟨⟨⟨?_, ?_⟩, ?_, ?_, ?_⟩, fun next outputs took =>
      ⟨⟨⟨?_, ?_⟩, ?_, ?_, ?_⟩, fun _ _ _ => trivial⟩⟩
    · rintro own ⟨⟩
      trivial
    · rintro message accept write ⟨⟩
      exact ⟨by simp [AAServer.Writes], rfl, by decide⟩
    · rintro own ⟨⟩
      rfl
    · rintro own ⟨⟩
    · rintro message accept write ⟨⟩ same
      exact ⟨by decide, known⟩
    · rintro own ⟨⟩
    · rintro message accept write ⟨⟩
    · rintro own ⟨⟩
    · rintro own ⟨⟩
    · rintro message accept write ⟨⟩
  obtain ⟨final, trace, ran⟩ : ∃ final trace, (system .small 1).run (relaying server)
      [audioFromHeadunit, .clientReads] = some (final, trace) := by
    cases reached
    exact ⟨_, _, rfl⟩
  have byServer : server.kindAt 7 = some none := (ordinary_discovered reached).isDefault
  exact ⟨server, record, memory, final, trace, reached, begun, ran,
    channel_to_phone cleaned reached begun (by decide) byServer rfl (by simp [relaying])
      (by simp [relaying]) listens ran⟩

end AACS
