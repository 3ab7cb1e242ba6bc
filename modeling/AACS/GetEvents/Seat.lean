import AACS.GetEvents.Session
import AACS.Proxy.System
import AACS.Server.Listening

/-!
From the touchscreen of the head unit to the pointer.

`GetEvents` is a client of `AAServer` that asks for the number of the input channel and
registers with it. If it has its answer before it hears anything, what it injects are the touch
events of the messages that it hears, each once and in order.
-/

namespace AACS

open Effects Transitions

structure Seat where
  server : AAServer.State
  viewer : GetEvents.Phase
  toViewer : List Bytes
  toServer : List Bytes

namespace Seat

open GetEvents (InputEvent)

inductive Event where
  /-- A turn of the server, but for the thread that reads from `GetEvents`. -/
  | server (event : AAServer.Event)
  /-- That thread reads a packet. -/
  | serverReads (write : Nat → AAServer.WriteResult)
  /-- It reads the end of the file, when `GetEvents` has ended. -/
  | hangUp (write : Nat → AAServer.WriteResult)
  /-- `GetEvents` writes a packet. -/
  | writes (result : AAServer.WriteResult)
  /-- It reads one. -/
  | reads

inductive Output where
  | server (output : AAServer.Output)
  | viewer (action : GetEvents.Action)
  deriving DecidableEq, Repr

def serverTurn (scl : Nat) (seat : Seat) : Event → Option AAServer.Event
  | .server event => if System.readsFrom scl event then none else some event
  | .serverReads write => seat.toServer.head?.map fun packet => .read scl (.data packet) write
  | .hangUp write =>
      if seat.viewer = .ended ∧ seat.toServer = [] then some (.read scl (.data []) write) else none
  | .writes _ | .reads => none

def viewerCall (seat : Seat) : Event → Option GetEvents.Call
  | .writes result => some (.writes result)
  | .reads => seat.toViewer.head?.map fun packet => .reads (.data packet)
  | .server _ | .serverReads _ | .hangUp _ => none

def unreadByServer (seat : Seat) : Event → List Bytes
  | .serverReads _ => seat.toServer.tail
  | _ => seat.toServer

def unreadByViewer (seat : Seat) : Event → List Bytes
  | .reads => seat.toViewer.tail
  | _ => seat.toViewer

def sentPackets (log : List GetEvents.Action) : List Bytes :=
  log.filterMap fun
    | .sent packet => some packet
    | _ => none

def afterServer (scl : Nat) (seat : Seat) (event : Event)
    (turn : AAServer.State × List AAServer.Output) : Seat × List Output :=
  ({ seat with
      server := turn.1
      toServer := seat.unreadByServer event
      toViewer := seat.toViewer ++ AAServer.packetsTo scl turn.2 },
    turn.2.map .server)

def afterViewer (seat : Seat) (event : Event) (turn : GetEvents.Phase × List GetEvents.Action) :
    Seat × List Output :=
  ({ seat with
      viewer := turn.1
      toViewer := seat.unreadByViewer event
      toServer := seat.toServer ++ sentPackets turn.2 },
    turn.2.map .viewer)

section Machine

variable (protobuf : Protobuf) (parse : Bytes → InputEvent)
  (translate_coordinates : Int32 → Int32 → Int32 × Int32) (scl : Nat)

def step (seat : Seat) (event : Event) : Option (Seat × List Output) :=
  match seat.serverTurn scl event, seat.viewerCall event with
  | some own, _ =>
      ((AAServer.machine protobuf).step seat.server own).map (seat.afterServer scl event)
  | none, some call =>
      ((GetEvents.session parse translate_coordinates).step seat.viewer call).map
        (seat.afterViewer event)
  | none, none => none

/-- `GetEvents` is the client `scl`. -/
def machine : Machine Seat Event Output := ⟨step protobuf parse translate_coordinates scl⟩

end Machine

section Touches

variable (parse : Bytes → InputEvent) (translate_coordinates : Int32 → Int32 → Int32 × Int32)

/-- What is injected for a message: its content behind the type is parsed, as far as the buffer
takes it. -/
def injections (message : Message) : List GetEvents.Action :=
  (parse ((message.content.take (GetEvents.maxBufSize - 2)).drop 2)).injections
    translate_coordinates

/-- What is injected for a packet; the answer is too short to be parsed. -/
def touches (packet : Bytes) : Option (List GetEvents.Action) :=
  if 4 ≤ packet.length then
    some ((parse ((packet.take GetEvents.maxBufSize).drop 4)).injections translate_coordinates)
  else none

def waitingTouches (current : Seat) : List (List GetEvents.Action) :=
  current.toViewer.filterMap (touches parse translate_coordinates)

def heardTouches (scl : Nat) (current : Seat) (event : Event) (_ : List Output) :
    List (List GetEvents.Action) :=
  match event with
  | .server (.headunit message _ _) =>
      if current.server.hears scl message then [injections parse translate_coordinates message]
      else []
  | _ => []

end Touches

def fakeEvents (outputs : List Output) : List GetEvents.Action :=
  outputs.filterMap fun
    | .viewer (.motion x y) => some (.motion x y)
    | .viewer (.button isPress) => some (.button isPress)
    | _ => none

def injected (current : Seat) (event : Event) (outputs : List Output) :
    List (List GetEvents.Action) :=
  match event, current.viewer with
  | .reads, .reading => [fakeEvents outputs]
  | _, _ => []

def Unanswered (current : Seat) : Prop :=
  current.viewer = .asking ∨ current.viewer = .awaiting ∧ current.toServer ≠ []

/-- The turns of the server clean up, and write what they write to `GetEvents`. No new service
descriptor comes, and nothing is for `GetEvents` before it has its answer. -/
def Calm (protobuf : Protobuf) (scl : Nat) (current : Seat) (event : Event) : Prop :=
  (∀ own ∈ current.serverTurn scl event,
    own.discovers = false ∧ AAServer.Orderly protobuf current.server own) ∧
  ∀ message accept write, event = .server (.headunit message accept write) →
    AAServer.Writes write ∧ write scl = .complete ∧
      (current.Unanswered → current.server.hears scl message = false)

def IsHeard (packet : Bytes) : Prop :=
  ∃ channel specific content, packet = AAServer.packetFor channel specific content ∧
    2 ≤ content.length

inductive Dialogue (scl : Nat) (number : UInt8) (current : Seat) : Prop where
  | asking {client : AAServer.SocketClient} (viewer : current.viewer = .asking)
      (present : current.server.sockets scl = some client) (ready : client.thread = .reading)
      (toServer : current.toServer = []) (toViewer : current.toViewer = [])
  | requested {client : AAServer.SocketClient} (viewer : current.viewer = .awaiting)
      (present : current.server.sockets scl = some client) (ready : client.thread = .reading)
      (toServer : current.toServer = [GetEvents.channelNumberRequest])
      (toViewer : current.toViewer = [])
  | answered {packets : List Bytes} (viewer : current.viewer = .awaiting)
      (toServer : current.toServer = []) (toViewer : current.toViewer = [number] :: packets)
      (heard : ∀ packet ∈ packets, IsHeard packet)
  | opening (viewer : current.viewer = .opening number) (toServer : current.toServer = [])
      (heard : ∀ packet ∈ current.toViewer, IsHeard packet)
  | registering (viewer : current.viewer = .reading)
      (toServer : current.toServer = [GetEvents.registration number])
      (heard : ∀ packet ∈ current.toViewer, IsHeard packet)
  | registered (viewer : current.viewer = .reading) (toServer : current.toServer = [])
      (listening : current.server.kindAt number = some (some .Input) →
        current.server.Listening scl number)
      (heard : ∀ packet ∈ current.toViewer, IsHeard packet)
  | ended (viewer : current.viewer = .ended) (toServer : current.toServer = [])
      (heard : ∀ packet ∈ current.toViewer, IsHeard packet)

structure Attended (scl : Nat) (number : UInt8) (current : Seat) : Prop where
  sound : current.server.Sound
  input : current.server.channelTypeToChannelNumber .Input = number
  dialogue : current.Dialogue scl number

section Packets

variable {parse : Bytes → InputEvent} {translate_coordinates : Int32 → Int32 → Int32 × Int32}
  {packet : Bytes}

theorem touches_packetFor {channel : UInt8} {specific : Bool} {message : Message}
    (long : 2 ≤ message.content.length) :
    touches parse translate_coordinates (AAServer.packetFor channel specific message.content) =
      some (injections parse translate_coordinates message) := by
  have whole : 4 ≤ (AAServer.packetFor channel specific message.content).length :=
    Nat.add_le_add_right long 2
  rw [touches, if_pos whole]
  rfl

theorem injects_split {event : InputEvent} :
    sentPackets (event.injections translate_coordinates) = [] ∧
      fakeEvents ((event.injections translate_coordinates).map .viewer) =
        event.injections translate_coordinates := by
  constructor
  · refine List.filterMap_eq_nil_iff.mpr fun action inside => ?_
    have injects := GetEvents.injections_inject inside
    cases action with
    | sent => exact injects.elim
    | received | parsed | motion | button => rfl
  · rw [fakeEvents, List.filterMap_map]
    refine (List.filterMap_congr fun action inside => ?_).trans List.filterMap_some
    have injects := GetEvents.injections_inject inside
    cases action with
    | motion | button => rfl
    | sent | received | parsed => exact injects.elim

theorem session_reads (heard : IsHeard packet) :
    ∃ log, (GetEvents.session parse translate_coordinates).step .reading (.reads (.data packet)) =
        some (.reading, log) ∧ sentPackets log = [] ∧
      touches parse translate_coordinates packet = some (fakeEvents (log.map .viewer)) := by
  obtain ⟨channel, specific, content, rfl, long⟩ := heard
  have whole : 4 ≤ (AAServer.packetFor channel specific content).length :=
    Nat.add_le_add_right long 2
  refine ⟨_, GetEvents.session_turn whole, injects_split.1, ?_⟩
  rw [touches, if_pos whole]
  exact congrArg some injects_split.2.symm

end Packets

section Turns

variable {protobuf : Protobuf} {parse : Bytes → InputEvent}
  {translate_coordinates : Int32 → Int32 → Int32 × Int32} {scl : Nat} {number : UInt8}
  {current next : Seat} {event : Event} {outputs : List Output}

theorem step_turn
    (took : (machine protobuf parse translate_coordinates scl).step current event =
      some (next, outputs)) :
    (∃ own server log, current.serverTurn scl event = some own ∧
      (AAServer.machine protobuf).step current.server own = some (server, log) ∧
      (next, outputs) = current.afterServer scl event (server, log)) ∨
    ∃ call viewer log, current.serverTurn scl event = none ∧
      current.viewerCall event = some call ∧
      (GetEvents.session parse translate_coordinates).step current.viewer call =
        some (viewer, log) ∧
      (next, outputs) = current.afterViewer event (viewer, log) := by
  simp only [machine, step] at took
  split at took
  next own turn =>
    obtain ⟨⟨server, log⟩, ran, same⟩ := Option.map_eq_some_iff.mp took
    exact .inl ⟨own, server, log, turn, ran, same.symm⟩
  next call none turn =>
    obtain ⟨⟨viewer, log⟩, ran, same⟩ := Option.map_eq_some_iff.mp took
    exact .inr ⟨call, viewer, log, none, turn, ran, same.symm⟩
  next => cases took

def Accounts (parse : Bytes → InputEvent)
    (translate_coordinates : Int32 → Int32 → Int32 × Int32) (scl : Nat) (current : Seat)
    (event : Event) (outputs : List Output) (next : Seat) : Prop :=
  current.waitingTouches parse translate_coordinates ++
      heardTouches parse translate_coordinates scl current event outputs =
    injected current event outputs ++ next.waitingTouches parse translate_coordinates

section Calls

variable {call : GetEvents.Call} {viewer : GetEvents.Phase} {log : List GetEvents.Action}

theorem writes_attends {result : AAServer.WriteResult} (attended : current.Attended scl number)
    (ran : (GetEvents.session parse translate_coordinates).step current.viewer (.writes result) =
      some (viewer, log)) :
    (current.afterViewer (.writes result) (viewer, log)).1.Attended scl number := by
  obtain ⟨sound, input, dialogue⟩ := attended
  refine ⟨sound, input, ?_⟩
  cases dialogue with
  | asking looks present ready toServer toViewer =>
      rw [looks] at ran
      cases result with
      | complete =>
          cases ran
          exact .requested rfl present ready (congrArg (· ++ _) toServer) toViewer
      | failed errno =>
          cases ran
          exact .ended rfl (congrArg (· ++ _) toServer) (by simp [afterViewer, unreadByViewer,
            toViewer])
  | opening looks toServer heard =>
      rw [looks] at ran
      cases result with
      | complete =>
          cases ran
          exact .registering rfl (congrArg (· ++ _) toServer) heard
      | failed errno =>
          cases ran
          exact .ended rfl (congrArg (· ++ _) toServer) heard
  | requested looks | answered looks | registering looks | registered looks | ended looks =>
      rw [looks] at ran
      cases ran

theorem reads_attends {packet : Bytes} {rest : List Bytes}
    (attended : current.Attended scl number) (waiting : current.toViewer = packet :: rest)
    (ran : (GetEvents.session parse translate_coordinates).step current.viewer
      (.reads (.data packet)) = some (viewer, log)) :
    (current.afterViewer .reads (viewer, log)).1.Attended scl number ∧
      (touches parse translate_coordinates packet).toList =
        injected current .reads (log.map .viewer) := by
  obtain ⟨sound, input, dialogue⟩ := attended
  have left : (current.afterViewer .reads (viewer, log)).1.toViewer = rest := by
    simp [afterViewer, unreadByViewer, waiting]
  cases dialogue with
  | asking looks present ready toServer empty | requested looks present ready toServer empty =>
      rw [empty] at waiting
      cases waiting
  | answered looks toServer answer heard =>
      rw [answer] at waiting
      cases waiting
      rw [looks] at ran
      cases ran
      refine ⟨⟨sound, input, .opening rfl (congrArg (· ++ _) toServer) ?_⟩, ?_⟩
      · rw [left]
        exact heard
      · simp [touches, injected, looks]
  | opening looks | ended looks =>
      rw [looks] at ran
      cases ran
  | registering looks toServer heard =>
      rw [waiting] at heard
      obtain ⟨here, later⟩ := List.forall_mem_cons.mp heard
      obtain ⟨actions, took, silent, moves⟩ := session_reads here
      rw [looks, took] at ran
      cases ran
      refine ⟨⟨sound, input, .registering rfl ?_ (left.symm ▸ later)⟩, ?_⟩
      · simp [afterViewer, silent, toServer]
      · rw [moves]
        simp [injected, looks]
  | registered looks toServer listening heard =>
      rw [waiting] at heard
      obtain ⟨here, later⟩ := List.forall_mem_cons.mp heard
      obtain ⟨actions, took, silent, moves⟩ := session_reads here
      rw [looks, took] at ran
      cases ran
      refine ⟨⟨sound, input, .registered rfl ?_ listening (left.symm ▸ later)⟩, ?_⟩
      · simp [afterViewer, silent, toServer]
      · rw [moves]
        simp [injected, looks]

theorem viewer_attends {call : GetEvents.Call} (attended : current.Attended scl number)
    (turn : current.viewerCall event = some call)
    (ran : (GetEvents.session parse translate_coordinates).step current.viewer call =
      some (viewer, log)) :
    (current.afterViewer event (viewer, log)).1.Attended scl number ∧
      Accounts parse translate_coordinates scl current event (log.map .viewer)
        (current.afterViewer event (viewer, log)).1 := by
  cases event with
  | server | serverReads | hangUp => cases turn
  | writes result =>
      cases turn
      exact ⟨writes_attends attended ran, List.append_nil _⟩
  | reads =>
      obtain ⟨packet, first, rfl⟩ := Option.map_eq_some_iff.mp turn
      obtain ⟨rest, waiting⟩ := List.head?_eq_some_iff.mp first
      obtain ⟨attends, moved⟩ := reads_attends attended waiting ran
      refine ⟨attends, ?_⟩
      rw [Accounts, ← moved]
      simp only [waitingTouches, heardTouches, afterViewer, unreadByViewer, waiting, List.tail_cons,
        List.append_nil, List.filterMap_cons]
      cases touches parse translate_coordinates packet <;> rfl

end Calls

section Serving

variable {own : AAServer.Event} {server : AAServer.State} {log : List AAServer.Output}

theorem others_ready {client : AAServer.SocketClient} (wired : current.server.Wired)
    (present : current.server.sockets scl = some client) (ready : client.thread = .reading)
    (other : System.readsFrom scl own = false)
    (ran : (AAServer.machine protobuf).step current.server own = some (server, log)) :
    ∃ later, server.sockets scl = some later ∧ later.thread = .reading := by
  have others : own.actor ≠ some scl := by
    intro acts
    cases System.readsFrom_actor other acts
    obtain ⟨same, pointer, step, handler, there, opening, -⟩ := AAServer.clientStep_body ran
    rw [present] at there
    cases there
    rw [ready] at opening
    cases opening
  obtain ⟨later, found, -, thread⟩ := AAServer.bystander_socket wired ran others present
  exact ⟨later, found, thread.trans ready⟩

theorem long_of_hears {message : Message} (hears : current.server.hears scl message = true) :
    2 ≤ message.content.length := by
  rcases content : message.content with _ | ⟨high, _ | ⟨low, rest⟩⟩
  · simp [AAServer.State.hears, content, AAServer.typeOf] at hears
  · simp [AAServer.State.hears, content, AAServer.typeOf] at hears
  · exact Nat.le_add_left 2 rest.length

theorem isHeard_packetsHeard {packet : Bytes}
    (inside : packet ∈ current.server.packetsHeard scl own) : IsHeard packet := by
  cases own with
  | headunit message accept write =>
      rw [AAServer.State.packetsHeard] at inside
      split at inside
      next hears =>
        cases List.mem_singleton.mp inside
        exact ⟨_, _, _, rfl, long_of_hears hears⟩
      next => cases inside
  | connect | read | clientStep | sample | streamStep | threadTerminated => cases inside

theorem touches_packetsHeard {outputs : List Output} :
    (current.server.packetsHeard scl own).filterMap (touches parse translate_coordinates) =
      heardTouches parse translate_coordinates scl current (.server own) outputs := by
  cases own with
  | headunit message accept write =>
      rw [AAServer.State.packetsHeard, heardTouches]
      split
      next hears =>
        simp [AAServer.State.heard, touches_packetFor (long_of_hears hears)]
      next => rfl
  | connect | read | clientStep | sample | streamStep | threadTerminated => rfl

/-- The number of the input channel changes with the service descriptor only. -/
theorem step_channelTypes {state next : AAServer.State} {outputs : List AAServer.Output}
    (wired : state.Wired) (plain : own.discovers = false)
    (took : (AAServer.machine protobuf).step state own = some (next, outputs)) :
    next.channelTypeToChannelNumber = state.channelTypeToChannelNumber := by
  refine AAServer.step_without_discovery
    (fun before after => after.channelTypeToChannelNumber = before.channelTypeToChannelNumber)
    (fun first second => second.trans first) (fun _ _ _ => rfl) (fun quiet => quiet.channelTypes)
    ?_ wired plain took
  intro before actor clientId turn
  cases turn with
  | goesOn | registers | answered | leaves => rfl
  | fails | thrownOut =>
      unfold AAServer.State.close
      split <;> rfl

structure Serves (protobuf : Protobuf) (scl : Nat) (number : UInt8) (current : Seat)
    (own : AAServer.Event) (server : AAServer.State) (log : List AAServer.Output) : Prop where
  wired : current.server.Wired
  tabled : current.server.Tabled
  sound : server.Sound
  input : server.channelTypeToChannelNumber .Input = number
  table : current.server.SameTable server
  plain : own.discovers = false
  ran : (AAServer.machine protobuf).step current.server own = some (server, log)

theorem Attended.serves (attended : current.Attended scl number)
    (calm : current.Calm protobuf scl event) (turn : current.serverTurn scl event = some own)
    (ran : (AAServer.machine protobuf).step current.server own = some (server, log)) :
    Serves protobuf scl number current own server log := by
  obtain ⟨sound, input, -⟩ := attended
  obtain ⟨plain, orderly⟩ := calm.1 own turn
  exact ⟨sound.wired, sound.tabled, AAServer.orderly_sound sound orderly ran,
    by rw [step_channelTypes sound.wired plain ran, input],
    AAServer.step_sameTable sound.wired plain ran, plain, ran⟩

theorem Serves.listening (serves : Serves protobuf scl number current own server log)
    (listening : current.server.kindAt number = some (some .Input) →
      current.server.Listening scl number)
    (input : server.kindAt number = some (some .Input)) : server.Listening scl number := by
  rw [serves.table.kindAt serves.tabled] at input
  exact AAServer.step_listening serves.wired serves.plain (listening input) serves.ran

theorem others_attend (serves : Serves protobuf scl number current own server log)
    (dialogue : current.Dialogue scl number) (other : System.readsFrom scl own = false)
    (packets : AAServer.packetsTo scl log = current.server.packetsHeard scl own)
    (unheard : current.Unanswered → current.server.packetsHeard scl own = []) :
    (current.afterServer scl (.server own) (server, log)).1.Dialogue scl number := by
  have brings : ∀ packet ∈ AAServer.packetsTo scl log, IsHeard packet := by
    rw [packets]
    exact fun packet inside => isHeard_packetsHeard inside
  have both {earlier : List Bytes} (heard : ∀ packet ∈ earlier, IsHeard packet) :
      ∀ packet ∈ earlier ++ AAServer.packetsTo scl log, IsHeard packet := by
    intro packet inside
    rcases List.mem_append.mp inside with old | new
    · exact heard packet old
    · exact brings packet new
  cases dialogue with
  | asking looks present ready toServer toViewer =>
      obtain ⟨later, found, still⟩ := others_ready serves.wired present ready other serves.ran
      refine .asking looks found still toServer ?_
      rw [afterServer, toViewer, packets, unheard (.inl looks)]
      rfl
  | requested looks present ready toServer toViewer =>
      obtain ⟨later, found, still⟩ := others_ready serves.wired present ready other serves.ran
      refine .requested looks found still toServer ?_
      rw [afterServer, toViewer, packets, unheard (.inr ⟨looks, by simp [toServer]⟩)]
      rfl
  | answered looks toServer answer heard =>
      exact .answered looks toServer (congrArg (· ++ _) answer) (both heard)
  | opening looks toServer heard => exact .opening looks toServer (both heard)
  | registering looks toServer heard => exact .registering looks toServer (both heard)
  | registered looks toServer listening heard =>
      exact .registered looks toServer (serves.listening listening) (both heard)
  | ended looks toServer heard => exact .ended looks toServer (both heard)

theorem number_reply {state next : AAServer.State} {outputs : List AAServer.Output}
    {client : AAServer.SocketClient} {write : Nat → AAServer.WriteResult} (wired : state.Wired)
    (present : state.sockets scl = some client) (ready : client.thread = .reading)
    (orderly : AAServer.Orderly protobuf state
      (.read scl (.data GetEvents.channelNumberRequest) write))
    (took : (AAServer.machine protobuf).step state
      (.read scl (.data GetEvents.channelNumberRequest) write) = some (next, outputs)) :
    AAServer.packetsTo scl outputs = [[state.channelTypeToChannelNumber .Input]] := by
  obtain ⟨clientId, known⟩ := wired.known present (by simp [ready])
  obtain ⟨bytes, connection, -, written⟩ := orderly client clientId present known
  rw [wired.destination present (by simp [ready])] at written
  obtain ⟨final, replied⟩ := AAServer.step_request protobuf write wired present ready
    (show state.replyTo GetEvents.channelNumberRequest = some _ from rfl)
  rw [took] at replied
  cases result : write scl with
  | failed errno =>
      rw [result] at written
      cases written
  | complete =>
      rw [result, if_pos rfl] at replied
      cases replied
      simp [AAServer.packetsTo]

theorem read_attends {packet : Bytes} {rest : List Bytes} {write : Nat → AAServer.WriteResult}
    (attended : current.Attended scl number)
    (serves : Serves protobuf scl number current (.read scl (.data packet) write) server log)
    (orderly : AAServer.Orderly protobuf current.server (.read scl (.data packet) write))
    (first : current.toServer = packet :: rest) :
    (current.afterServer scl (.serverReads write) (server, log)).1.Dialogue scl number ∧
      (AAServer.packetsTo scl log).filterMap (touches parse translate_coordinates) = [] := by
  obtain ⟨sound, input, dialogue⟩ := attended
  have left : (current.afterServer scl (.serverReads write) (server, log)).1.toServer = rest := by
    simp [afterServer, unreadByServer, first]
  cases dialogue with
  | requested looks present ready toServer toViewer =>
      rw [toServer] at first
      cases first
      have reply := number_reply sound.wired present ready orderly serves.ran
      rw [input] at reply
      have answer : (current.afterServer scl (.serverReads write) (server, log)).1.toViewer =
          [number] :: [] := by
        rw [afterServer, toViewer, reply]
        rfl
      refine ⟨.answered looks left answer nofun, ?_⟩
      rw [reply]
      rfl
  | registering looks toServer heard =>
      rw [toServer] at first
      cases first
      have nothing : AAServer.packetsTo scl log = [] :=
        sound.turn_packets (.inl fun _ => .inr ⟨number, 0, [], write, rfl⟩) nofun serves.ran
      refine ⟨.registered looks left (fun isInput => ?_) ?_, by rw [nothing]; rfl⟩
      · have before : current.server.kindAt number = some (some .Input) := by
          rw [← serves.table.kindAt serves.tabled]
          exact isInput
        exact AAServer.read_registers serves.wired serves.tabled before serves.ran
      · rw [afterServer, nothing, List.append_nil]
        exact heard
  | asking looks present ready toServer | answered looks toServer | opening looks toServer
  | registered looks toServer | ended looks toServer =>
      rw [toServer] at first
      cases first

theorem server_attends (attended : current.Attended scl number)
    (calm : current.Calm protobuf scl event) (turn : current.serverTurn scl event = some own)
    (ran : (AAServer.machine protobuf).step current.server own = some (server, log)) :
    (current.afterServer scl event (server, log)).1.Attended scl number ∧
      Accounts parse translate_coordinates scl current event (log.map .server)
        (current.afterServer scl event (server, log)).1 := by
  have serves := attended.serves calm turn ran
  cases event with
  | writes | reads => cases turn
  | server inner =>
      simp only [serverTurn] at turn
      split at turn
      · cases turn
      next other =>
      cases turn
      have notRead := Bool.eq_false_iff.mpr other
      have packets : AAServer.packetsTo scl log = current.server.packetsHeard scl own :=
        attended.sound.turn_packets (.inl fun acts => .inl (System.readsFrom_actor notRead acts))
          (fun message accept write brings => by
            obtain ⟨writes, complete, -⟩ :=
              calm.2 message accept write (congrArg Event.server brings)
            exact ⟨writes, complete⟩) ran
      have unheard : current.Unanswered → current.server.packetsHeard scl own = [] := by
        intro unanswered
        cases own with
        | headunit message accept write =>
            rw [AAServer.State.packetsHeard, (calm.2 message accept write rfl).2.2 unanswered]
            rfl
        | connect | read | clientStep | sample | streamStep | threadTerminated => rfl
      refine ⟨⟨serves.sound, serves.input,
        others_attend serves attended.dialogue notRead packets unheard⟩, ?_⟩
      simp [Accounts, waitingTouches, injected, afterServer, packets,
        ← @touches_packetsHeard parse translate_coordinates scl current own (log.map .server)]
  | serverReads write =>
      obtain ⟨packet, first, rfl⟩ := Option.map_eq_some_iff.mp turn
      obtain ⟨rest, waiting⟩ := List.head?_eq_some_iff.mp first
      obtain ⟨goesOn, silent⟩ :=
        @read_attends protobuf parse translate_coordinates scl number current server log packet rest
          write attended serves (calm.1 _ turn).2 waiting
      refine ⟨⟨serves.sound, serves.input, goesOn⟩, ?_⟩
      simp [Accounts, waitingTouches, heardTouches, injected, afterServer, silent]
  | hangUp write =>
      simp only [serverTurn] at turn
      split at turn
      next ended =>
        cases turn
        have nothing : AAServer.packetsTo scl log = [] :=
          attended.sound.turn_packets (.inr ⟨write, rfl⟩) nofun ran
        refine ⟨⟨serves.sound, serves.input, ?_⟩, ?_⟩
        · cases attended.dialogue with
          | ended looks toServer heard =>
              refine .ended looks toServer ?_
              rw [afterServer, nothing, List.append_nil]
              exact heard
          | asking looks | requested looks | answered looks | opening looks | registering looks
          | registered looks =>
              rw [looks] at ended
              cases ended.1
        · simp [Accounts, waitingTouches, heardTouches, injected, afterServer, nothing]
      next => cases turn

end Serving

theorem step_attends (attended : current.Attended scl number)
    (calm : current.Calm protobuf scl event)
    (took : (machine protobuf parse translate_coordinates scl).step current event =
      some (next, outputs)) :
    next.Attended scl number ∧
      Accounts parse translate_coordinates scl current event outputs next := by
  rcases step_turn took with ⟨own, server, log, turn, ran, same⟩ |
    ⟨call, viewer, log, -, turn, ran, same⟩
  · cases same
    exact server_attends attended calm turn ran
  · cases same
    exact viewer_attends attended turn ran

/-- The loop of `GetEvents` is never stuck at a packet. -/
theorem Attended.reads_enabled (attended : current.Attended scl number)
    (loops : current.viewer = .reading) (waiting : current.toViewer ≠ []) :
    ∃ after outputs, (machine protobuf parse translate_coordinates scl).step current .reads =
      some (after, outputs) := by
  obtain ⟨packet, rest, first⟩ := List.exists_cons_of_ne_nil waiting
  have heard : ∀ packet ∈ current.toViewer, IsHeard packet := by
    cases attended.dialogue with
    | registering looks toServer heard => exact heard
    | registered looks toServer listening heard => exact heard
    | asking looks | requested looks | answered looks | opening looks | ended looks =>
        rw [looks] at loops
        cases loops
  obtain ⟨log, took, -, -⟩ := @session_reads parse translate_coordinates packet
    (heard packet (by simp [first]))
  simp only [machine, step, serverTurn, viewerCall, first, List.head?_cons, Option.map_some, loops,
    took]
  exact ⟨_, _, rfl⟩

theorem Attended.listens (attended : current.Attended scl number)
    (loops : current.viewer = .reading) (taken : current.toServer = [])
    (input : current.server.kindAt number = some (some .Input)) :
    current.server.Listening scl number := by
  cases attended.dialogue with
  | registered looks toServer listening heard => exact listening input
  | registering looks toServer heard =>
      rw [toServer] at taken
      cases taken
  | asking looks | requested looks | answered looks | opening looks | ended looks =>
      rw [looks] at loops
      cases loops

end Turns

end Seat

/-- In every calm run of the server and `GetEvents` from the moment on when it has connected, the
X events are those for the messages that `GetEvents` hears, each once and in order, but for the
messages that wait in the socket. `GetEvents` is never stuck at a packet, and from the moment on
when the server has read its registration it hears every event of the input channel until its
thread ends. -/
theorem touches_move_pointer {protobuf : Protobuf} {parse : Bytes → GetEvents.InputEvent}
    {translate_coordinates : Int32 → Int32 → Int32 × Int32} {scl : Nat}
    {past : List AAServer.Event} {record : List (AAServer.Event × List AAServer.Output)}
    {server : AAServer.State} {client : AAServer.SocketClient} {final : Seat}
    {events : List Seat.Event} {trace : List (Seat.Event × List Seat.Output)}
    (cleaned : (AAServer.machine protobuf).Within (AAServer.Orderly protobuf) AAServer.initial past)
    (reached : (AAServer.machine protobuf).run AAServer.initial past = some (server, record))
    (present : server.sockets scl = some client) (ready : client.thread = .reading)
    (calm : (Seat.machine protobuf parse translate_coordinates scl).Within
      (Seat.Calm protobuf scl) ⟨server, .asking, [], []⟩ events)
    (ran : (Seat.machine protobuf parse translate_coordinates scl).run ⟨server, .asking, [], []⟩
      events = some (final, trace)) :
    (Seat.machine protobuf parse translate_coordinates scl).observations
        (Seat.heardTouches parse translate_coordinates scl) ⟨server, .asking, [], []⟩ events =
      (Seat.machine protobuf parse translate_coordinates scl).observations Seat.injected
          ⟨server, .asking, [], []⟩ events ++
        final.waitingTouches parse translate_coordinates ∧
    (final.viewer = .reading → final.toViewer ≠ [] → ∃ after outputs,
      (Seat.machine protobuf parse translate_coordinates scl).step final .reads =
        some (after, outputs)) ∧
    (final.viewer = .reading → final.toServer = [] →
      ∀ number, server.channelTypeToChannelNumber .Input = number → number ≠ 0 →
        final.server.kindAt number = some (some .Input) →
        ∃ client, final.server.sockets scl = some client ∧ (client.thread ≠ .ended →
          ∀ event : Message, event.channel = number →
            AAServer.typeOf event.content = some InputChannelMessageType.Event.code →
            final.server.hears scl event = true)) := by
  have attended : Seat.Attended scl (server.channelTypeToChannelNumber .Input)
      ⟨server, .asking, [], []⟩ :=
    ⟨AAServer.run_sound cleaned reached, rfl, .asking rfl present ready rfl rfl⟩
  have moved := (Seat.machine protobuf parse translate_coordinates scl).run_fifo
    Seat.step_attends attended calm ran
  have last := (Seat.machine protobuf parse translate_coordinates scl).run_invariant
    (fun attended calm took => (Seat.step_attends attended calm took).1) attended calm ran
  refine ⟨moved, last.reads_enabled, ?_⟩
  rintro loops taken number rfl ordinary input
  have listening := last.listens loops taken input
  obtain ⟨client, present⟩ : ∃ client, final.server.sockets scl = some client :=
    listening.imp fun _ there => there.1
  exact ⟨client, present, fun runs event same type =>
    listening.hears input ordinary present runs same type⟩

/-- `GetEvents` registers, and the button is pressed. -/
def pressedOnSeat : List Seat.Event :=
  [.writes .complete, .serverReads fun _ => .complete, .reads, .writes .complete,
    .serverReads fun _ => .complete,
    .server (.headunit ⟨7, 0x0b, [0x80, 0x01] ++ GetEvents.press, 0⟩ .failed fun _ => .complete),
    .reads]

theorem touches_move_pointer_press :
    ∃ server record final trace,
      (AAServer.machine .small).run AAServer.initial GetEvents.before = some (server, record) ∧
      (Seat.machine .small GetEvents.smallInputEvent Prod.mk 1).run ⟨server, .asking, [], []⟩
        pressedOnSeat = some (final, trace) ∧
      (Seat.machine .small GetEvents.smallInputEvent Prod.mk 1).observations
          (Seat.heardTouches GetEvents.smallInputEvent Prod.mk 1) ⟨server, .asking, [], []⟩
          pressedOnSeat =
        (Seat.machine .small GetEvents.smallInputEvent Prod.mk 1).observations Seat.injected
            ⟨server, .asking, [], []⟩ pressedOnSeat ++
          final.waitingTouches GetEvents.smallInputEvent Prod.mk := by
  obtain ⟨server, record, reached⟩ : ∃ server record,
      (AAServer.machine .small).run AAServer.initial GetEvents.before = some (server, record) :=
    ⟨_, _, rfl⟩
  have cleaned : (AAServer.machine .small).Within (AAServer.Orderly .small) AAServer.initial
      GetEvents.before := ⟨trivial, fun _ _ _ => ⟨trivial, fun _ _ _ => trivial⟩⟩
  have calm : (Seat.machine .small GetEvents.smallInputEvent Prod.mk 1).Within
      (Seat.Calm .small 1) ⟨server, .asking, [], []⟩ pressedOnSeat := by
    cases reached
    refine ⟨⟨nofun, nofun⟩, fun next outputs took => ?_⟩
    cases took
    refine ⟨⟨?_, nofun⟩, fun next outputs took => ?_⟩
    · rintro own ⟨⟩
      refine ⟨rfl, ?_⟩
      rintro client clientId ⟨⟩ ⟨⟩
      exact ⟨_, _, rfl, rfl⟩
    cases took
    refine ⟨⟨nofun, nofun⟩, fun next outputs took => ?_⟩
    cases took
    refine ⟨⟨nofun, nofun⟩, fun next outputs took => ?_⟩
    cases took
    refine ⟨⟨?_, nofun⟩, fun next outputs took => ?_⟩
    · rintro own ⟨⟩
      refine ⟨rfl, ?_⟩
      rintro client clientId ⟨⟩ ⟨⟩
      exact nofun
    cases took
    refine ⟨⟨?_, ?_⟩, fun next outputs took => ⟨⟨nofun, nofun⟩, fun _ _ _ => trivial⟩⟩
    · rintro own ⟨⟩
      exact ⟨rfl, trivial⟩
    · rintro message accept write ⟨⟩
      exact ⟨nofun, rfl, nofun⟩
  obtain ⟨final, trace, ran⟩ : ∃ final trace,
      (Seat.machine .small GetEvents.smallInputEvent Prod.mk 1).run ⟨server, .asking, [], []⟩
        pressedOnSeat = some (final, trace) := by
    cases reached
    exact ⟨_, _, rfl⟩
  obtain ⟨client, present, ready⟩ : ∃ client, server.sockets 1 = some client ∧
      client.thread = .reading := by
    cases reached
    exact ⟨_, rfl, rfl⟩
  exact ⟨server, record, final, trace, reached, ran,
    (touches_move_pointer cleaned reached present ready calm ran).1⟩

end AACS
