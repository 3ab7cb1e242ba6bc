import AACS.GetEvents.Main
import AACS.Library.History
import AACS.Server.Unsolicited

/-!
What moves the pointer.

Every packet that `GetEvents` gets is parsed, wherever it comes from, and what the parser finds in
it is injected.
-/

namespace AACS

namespace GetEvents

open Effects History Transitions

/-- The packet is an event of the input channel. -/
def IsEventOf (channelNumber : UInt8) : Bytes → Prop
  | channel :: _ :: high :: low :: _ =>
      channel = channelNumber ∧ bigEndian16 high low = InputChannelMessageType.Event.code
  | _ => False

def InputEvent.Moves (event : InputEvent) : Prop :=
  ∃ touch_event, event.touch_event = some touch_event ∧
    (touch_event.touch_location ≠ [] ∨ touch_event.touch_action ≠ .Drag)

namespace Action

def Receives : Action → Prop
  | .received _ => True
  | _ => False

def ReceivesEventOf (channelNumber : UInt8) : Action → Prop
  | .received packet => IsEventOf channelNumber packet
  | _ => False

def Injects : Action → Prop
  | .motion _ _ | .button _ => True
  | _ => False

def Parses : Action → Prop
  | .parsed _ => True
  | _ => False

end Action

/-- Such things are done only for events of the channel: the packet received last is one. -/
def OnlyForEventsOf (channelNumber : UInt8) (acts : Action → Prop) : List Action → Prop :=
  Attributed Action.Receives (Action.ReceivesEventOf channelNumber) acts

def TouchEvent.injections (translate_coordinates : Int32 → Int32 → Int32 × Int32)
    (touch_event : TouchEvent) : List Action :=
  (touch_event.touch_location.map fun tl =>
    let coords := translate_coordinates tl.x.toInt32 tl.y.toInt32
    .motion coords.1 coords.2) ++
  match touch_event.touch_action with
  | .Press | .Down => [.button true]
  | .Release | .Up => [.button false]
  | .Drag => []

def InputEvent.injections (translate_coordinates : Int32 → Int32 → Int32 × Int32)
    (event : InputEvent) : List Action :=
  match event.touch_event with
  | none => []
  | some touch_event => touch_event.injections translate_coordinates

/-- What a turn does when it has received the packet. -/
def actions (parse : Bytes → InputEvent)
    (translate_coordinates : Int32 → Int32 → Int32 × Int32) (packet : Bytes) : List Action :=
  let bytes := (packet.take maxBufSize).drop 4
  .parsed bytes :: (parse bytes).injections translate_coordinates

section Turns

variable {parse : Bytes → InputEvent} {translate_coordinates : Int32 → Int32 → Int32 × Int32}
  {number : UInt8} {packets : List Bytes}

theorem fakeEvents_run (touch_event : TouchEvent) :
    (fakeEvents translate_coordinates touch_event).run () =
      ⟨.ok (), (), touch_event.injections translate_coordinates⟩ := by
  obtain ⟨touch_location, touch_action⟩ := touch_event
  simp only [fakeEvents, Act.run_bind]
  rw [Act.run_forM_emits fun tl _ => rfl]
  cases touch_action <;> simp [TouchEvent.injections]

theorem turn_run {reading : Reading} (long : 4 ≤ reading.bytes.length) :
    (turn parse translate_coordinates reading).run () =
      ⟨.ok (), (), .received (reading.bytes.take maxBufSize) ::
        actions parse translate_coordinates reading.bytes⟩ := by
  have whole : 4 ≤ (reading.bytes.take maxBufSize).length := by
    rw [List.length_take, maxBufSize]
    omega
  have some : ¬ (reading.bytes.take maxBufSize).length = 0 := by omega
  have enough : ¬ (reading.bytes.take maxBufSize).length < 4 := by omega
  simp only [turn, some, enough, if_false, actions, InputEvent.injections, Act.run_bind,
    Act.run_emit, Act.andThen_ok, List.nil_append, List.cons_append]
  cases (parse ((reading.bytes.take maxBufSize).drop 4)).touch_event with
  | none => rfl
  | some touch_event => simp only [fakeEvents_run]

/-- What the program does when its two requests are written, and all packets but the reply have
four bytes. -/
theorem main_run (long : ∀ packet ∈ packets, 4 ≤ packet.length) :
    (main parse translate_coordinates .complete (.data [number]) .complete
        (packets.map .data)).run () =
      ⟨.ok (), (), [.sent channelNumberRequest, .sent (registration number)] ++
        packets.flatMap fun packet => .received (packet.take maxBufSize) ::
          actions parse translate_coordinates packet⟩ := by
  have loop := @Act.run_forM_logs Unit Action Fault _ (packets.map .data)
    (turn parse translate_coordinates)
    (fun reading => .received (reading.bytes.take maxBufSize) ::
      actions parse translate_coordinates reading.bytes) () fun reading inside => by
    obtain ⟨packet, membership, rfl⟩ := List.mem_map.mp inside
    exact turn_run (long packet membership)
  rw [List.flatMap_map] at loop
  simp only [main, openChannel, Reading.bytes, writePacket, Act.run_bind, Act.run_emit,
    Act.andThen_ok, Act.run_pure, loop]
  rfl

theorem injections_inject {event : InputEvent} {action : Action}
    (inside : action ∈ event.injections translate_coordinates) : action.Injects := by
  obtain ⟨touch_event⟩ := event
  cases touch_event with
  | none => cases inside
  | some touch_event =>
      rcases List.mem_append.mp inside with moved | pressed
      · obtain ⟨tl, -, rfl⟩ := List.mem_map.mp moved
        trivial
      · obtain ⟨touch_location, touch_action⟩ := touch_event
        cases touch_action with
        | Drag => cases pressed
        | Press | Down | Release | Up =>
            cases List.mem_singleton.mp pressed
            trivial

theorem injections_eq_nil {event : InputEvent} :
    event.injections translate_coordinates = [] ↔ ¬ event.Moves := by
  obtain ⟨touch_event⟩ := event
  cases touch_event with
  | none => simp [InputEvent.injections, InputEvent.Moves]
  | some touch_event =>
      obtain ⟨touch_location, touch_action⟩ := touch_event
      cases touch_action <;>
        simp [InputEvent.injections, InputEvent.Moves, TouchEvent.injections]

theorem actions_parse_or_inject (packet : Bytes) :
    (∃ action ∈ actions parse translate_coordinates packet, action.Parses ∨ action.Injects) :=
  ⟨_, List.mem_cons_self, .inl trivial⟩

theorem actions_inject_iff (packet : Bytes) :
    (∃ action ∈ actions parse translate_coordinates packet, action.Injects) ↔
      (parse ((packet.take maxBufSize).drop 4)).Moves := by
  rw [← not_iff_not, ← @injections_eq_nil translate_coordinates, List.eq_nil_iff_forall_not_mem]
  constructor
  · intro none action inside
    exact none ⟨action, List.mem_cons_of_mem _ inside, injections_inject inside⟩
  · rintro none ⟨action, inside, injects⟩
    rcases List.mem_cons.mp inside with rfl | among
    · exact injects
    · exact none action among

theorem isEventOf_take (packet : Bytes) :
    IsEventOf number (packet.take maxBufSize) ↔ IsEventOf number packet := by
  rcases packet with _ | ⟨channel, _ | ⟨mark, _ | ⟨high, _ | ⟨low, rest⟩⟩⟩⟩ <;> exact Iff.rfl

theorem receives_of_event (action : Action) (event : action.ReceivesEventOf number) :
    action.Receives := by
  cases action with
  | received => trivial
  | sent | parsed | motion | button => exact event

/-- Such things are done only for events of the channel when every packet for which they are
done is one. -/
theorem onlyForEventsOf_iff {acts : Action → Prop}
    (passive : ∀ packet, ¬ acts (.sent packet) ∧ ¬ acts (.received packet)) :
    OnlyForEventsOf number acts ([.sent channelNumberRequest, .sent (registration number)] ++
        packets.flatMap fun packet => .received (packet.take maxBufSize) ::
          actions parse translate_coordinates packet) ↔
      ∀ packet ∈ packets, (∃ action ∈ actions parse translate_coordinates packet, acts action) →
        IsEventOf number packet := by
  have quiet : ∀ packet, ∀ action ∈ actions parse translate_coordinates packet,
      ¬ action.Receives := by
    intro packet action inside receives
    rcases List.mem_cons.mp inside with rfl | among
    · exact receives
    · have injects := injections_inject among
      cases action with
      | received => exact injects
      | sent | parsed | motion | button => exact receives
  have inactive : ∀ action : Action, action.Receives → ¬ acts action := by
    intro action receives
    cases action with
    | received packet => exact (passive packet).2
    | sent | parsed | motion | button => exact receives.elim
  have marks : ∀ packet : Bytes, (Action.received (packet.take maxBufSize)).Receives :=
    fun _ => trivial
  have opening : Attributed Action.Receives (Action.ReceivesEventOf number) acts
      [.sent channelNumberRequest, .sent (registration number)] :=
    attributed_of_passive (by simp [passive])
  rw [OnlyForEventsOf, attributed_rounds_iff receives_of_event marks inactive quiet,
    and_iff_right opening]
  simp only [Action.ReceivesEventOf, isEventOf_take]

end Turns

open AAServer (Event State Output machine initial deliveries)

/-- A client that was connected and had got nothing so far asks for the channel number, gets it
and registers, and reads all packets that the server sends it from then on. Parsing and injecting
are for events of the channel only when all these packets are such events; injecting alone when
in all others the parser finds nothing that moves the pointer. -/
theorem moves_only_for_events_iff (protobuf : Protobuf) (parse : Bytes → InputEvent)
    (translate_coordinates : Int32 → Int32 → Int32 × Int32) {past events : List Event}
    {start answered final : State} {record trace : List (Event × List Output)} {scl : Nat}
    {number : UInt8} {write : Nat → AAServer.WriteResult} {reply : Bytes} {packets : List Bytes}
    (reached : (machine protobuf).run initial past = some (start, record))
    (unheard : deliveries scl record = [])
    (asked : (machine protobuf).step start (.read scl (.data channelNumberRequest) write) =
      some (answered, [.packet scl [number]]))
    (registers : ∀ event ∈ events, event.actor = some scl → event = .clientStep scl ∨
      ∃ write, event = .read scl (.data (registration number)) write)
    (ran : (machine protobuf).run answered events = some (final, trace))
    (delivered : (deliveries scl (record ++
      (.read scl (.data channelNumberRequest) write, [.packet scl [number]]) :: trace)).map
        Prod.snd = reply :: packets) :
    ∃ log, (main parse translate_coordinates .complete (.data reply) .complete
        (packets.map .data)).run () = ⟨.ok (), (), log⟩ ∧
      (OnlyForEventsOf number (fun action => action.Parses ∨ action.Injects) log ↔
        ∀ packet ∈ packets, IsEventOf number packet) ∧
      (OnlyForEventsOf number Action.Injects log ↔
        ∀ packet ∈ packets, ¬ IsEventOf number packet →
          ¬ (parse ((packet.take maxBufSize).drop 4)).Moves) := by
  have answeredRun : (machine protobuf).run initial
      (past ++ [.read scl (.data channelNumberRequest) write]) = some (answered, record ++
        [(.read scl (.data channelNumberRequest) write, [.packet scl [number]])]) :=
    (Machine.run_append_eq_some _).mpr ⟨start, record, _, reached,
      (Machine.run_cons_eq_some _).mpr ⟨answered, _, [], asked, rfl, rfl⟩, rfl⟩
  have asksNothing : ∀ event ∈ events, AAServer.AsksNothing scl event := by
    intro event inside acts
    rcases registers event inside acts with opens | ⟨write, rfl⟩
    · exact .inl opens
    · exact .inr ⟨number, 0, [], write, rfl⟩
  have brings := AAServer.run_brings answeredRun asksNothing ran
  obtain ⟨rfl, rfl⟩ : [number] = reply ∧ (deliveries scl trace).map Prod.snd = packets := by
    rw [AAServer.deliveries_append, unheard, List.nil_append] at delivered
    simpa [deliveries, AAServer.packetsTo] using delivered
  have long : ∀ packet ∈ (deliveries scl trace).map Prod.snd, 4 ≤ packet.length := by
    intro packet inside
    obtain ⟨⟨event, bytes⟩, among, rfl⟩ := List.mem_map.mp inside
    obtain ⟨message, accept, written, specific, -, rfl, long⟩ := brings _ among
    exact Nat.add_le_add_right long 2
  refine ⟨_, main_run long, ?_, ?_⟩
  · rw [onlyForEventsOf_iff (by simp [Action.Parses, Action.Injects])]
    simp only [actions_parse_or_inject, true_imp_iff]
  · rw [onlyForEventsOf_iff (by simp [Action.Injects])]
    simp only [actions_inject_iff]
    exact forall₂_congr fun packet inside => not_imp_not.symm

/-! The wire format where every number and every length takes one byte. -/

def TouchAction.ofNumber : UInt8 → TouchAction
  | 1 => .Release
  | 2 => .Drag
  | 5 => .Down
  | 6 => .Up
  | _ => .Press

/-- A field that is not there has its first value. -/
def smallTouchEvent : Bytes → TouchEvent
  | 0x0a :: 0x06 :: 0x08 :: x :: 0x10 :: y :: 0x18 :: pid :: rest =>
      let touch_event := smallTouchEvent rest
      { touch_event with
        touch_location := ⟨x.toUInt32, y.toUInt32, pid.toUInt32⟩ :: touch_event.touch_location }
  | [0x18, touch_action] => ⟨[], .ofNumber touch_action⟩
  | _ => ⟨[], .Press⟩

def smallInputEvent : Bytes → InputEvent
  | 0x1a :: length :: rest => ⟨some (smallTouchEvent (rest.take length.toNat))⟩
  | _ => ⟨none⟩

/-- A service descriptor with an input channel, number 7, and another one, number 3. -/
def announcement : Message where
  channel := 0
  flags := 0x0b
  content := [0x00, 0x06, 0x0a, 0x04, 0x08, 0x07, 0x22, 0x00, 0x0a, 0x04, 0x08, 0x03, 0x12, 0x00]

/-- A press at (5, 6) in the encoding of an input event. -/
def press : Bytes := [0x1a, 0x0a, 0x0a, 0x06, 0x08, 0x05, 0x10, 0x06, 0x18, 0x00, 0x18, 0x00]

def before : List Event :=
  [.headunit announcement .failed fun _ => .complete, .connect 1 10 fun _ => 0]

/-- The program registers. A touch event comes on channel 7, and a message with the same body, of
another type, on channel 3. -/
def pressed : List Event :=
  [.read 1 (.data (registration 7)) fun _ => .complete,
    .headunit ⟨7, 0x0b, [0x80, 0x01] ++ press, 0⟩ .failed fun _ => .complete,
    .headunit ⟨3, 0x0b, [0x80, 0x03] ++ press, 0⟩ .failed fun _ => .complete]

theorem moves_only_for_events_iff_pressed :
    ∃ start answered final record trace packets,
      (machine .small).run initial before = some (start, record) ∧
      (machine .small).step start (.read 1 (.data channelNumberRequest) fun _ => .complete) =
        some (answered, [.packet 1 [7]]) ∧
      (machine .small).run answered pressed = some (final, trace) ∧
      packets = [[0x07, 0x00, 0x80, 0x01] ++ press, [0x03, 0x00, 0x80, 0x03] ++ press] ∧
      ∃ log, (main smallInputEvent Prod.mk .complete (.data [7]) .complete
          (packets.map .data)).run () = ⟨.ok (), (), log⟩ ∧
        (OnlyForEventsOf 7 Action.Injects log ↔
          ∀ packet ∈ packets, ¬ IsEventOf 7 packet →
            ¬ (smallInputEvent ((packet.take maxBufSize).drop 4)).Moves) := by
  obtain ⟨start, record, reached, unheard⟩ : ∃ start record,
      (machine .small).run initial before = some (start, record) ∧ deliveries 1 record = [] :=
    ⟨_, _, rfl, rfl⟩
  obtain ⟨answered, asked⟩ : ∃ answered, (machine .small).step start
      (.read 1 (.data channelNumberRequest) fun _ => .complete) =
        some (answered, [.packet 1 [7]]) := by
    cases reached
    exact ⟨_, rfl⟩
  obtain ⟨final, trace, ran, delivered⟩ : ∃ final trace,
      (machine .small).run answered pressed = some (final, trace) ∧
        (deliveries 1 (record ++ (.read 1 (.data channelNumberRequest) fun _ => .complete,
          [.packet 1 [7]]) :: trace)).map Prod.snd =
            [[7], [0x07, 0x00, 0x80, 0x01] ++ press, [0x03, 0x00, 0x80, 0x03] ++ press] := by
    cases reached
    cases asked
    exact ⟨_, _, rfl, rfl⟩
  have registers : ∀ event ∈ pressed, event.actor = some 1 → event = .clientStep 1 ∨
      ∃ write, event = .read 1 (.data (registration 7)) write := by
    intro event inside acts
    rcases List.mem_cons.mp inside with rfl | later
    · exact .inr ⟨_, rfl⟩
    · rcases List.mem_pair.mp later with rfl | rfl
      · cases acts
      · cases acts
  obtain ⟨log, outcome, -, injects⟩ := moves_only_for_events_iff .small smallInputEvent Prod.mk
    reached unheard asked registers ran delivered
  exact ⟨start, answered, final, record, trace, _, reached, asked, ran, rfl, log, outcome,
    injects⟩

/-- The message on channel 3 presses the button. -/
theorem phantom_press :
    ∃ final trace packets log, (machine .small).run initial (before ++
        .read 1 (.data channelNumberRequest) (fun _ => .complete) :: pressed) =
          some (final, trace) ∧
      (deliveries 1 trace).map Prod.snd = [7] :: packets ∧
      (main smallInputEvent Prod.mk .complete (.data [7]) .complete (packets.map .data)).run () =
        ⟨.ok (), (), log⟩ ∧
      ¬ OnlyForEventsOf 7 Action.Injects log := by
  refine ⟨_, _, _, _, rfl, rfl, rfl, fun only => ?_⟩
  have moved : Since (Action.ReceivesEventOf 7) Action.Receives
      ([.sent channelNumberRequest, .sent (registration 7),
        .received ([0x07, 0x00, 0x80, 0x01] ++ press), .parsed press, .motion 5 6,
        .button true] ++ .received ([0x03, 0x00, 0x80, 0x03] ++ press) :: [.parsed press]) :=
    only _ (.motion 5 6) [.button true] rfl trivial
  have receives : (Action.received ([0x03, 0x00, 0x80, 0x03] ++ press)).Receives := trivial
  have event := (since_round receives_of_event receives (by simp [Action.Receives])).mp moved
  exact absurd event.1 (by decide)

end GetEvents

end AACS
