import AACS.Cable.Setup
import AACS.Client.Pipeline
import AACS.Library.Fifo

/-!
How the samples of the phone's pipeline get to the pipeline of the head unit.

A sample waits in the streaming thread until the channel is open, or goes over the cable at
once, and `AAClient` pushes it when it arrives. Nothing overtakes it on the way.
-/

namespace AACS

open Effects Transitions

namespace Cable

variable {γ δ : Type}

def waiting (pointer : Nat) (channel : UInt8) (cable : Cable γ δ) : List Bytes :=
  AAServer.mediaOn channel cable.toHeadunit ++ cable.phone.pending pointer

/-- What the phone's pipeline gives to its handler. -/
def samples (pointer : Nat) (_ : Cable γ δ) (event : Event) (_ : List Output) : List Bytes :=
  match event with
  | .phone own => own.samples pointer
  | _ => []

def pushes (outputs : List Output) : List Bytes :=
  AAClient.pushes (outputs.filterMap fun
    | .headunit output => some output
    | .phone _ => none)

/-- What `AAClient` pushes for a message on the channel, if its pipeline takes the buffer. -/
def pushed (channel : UInt8) (cable : Cable γ δ) (event : Event) (outputs : List Output) :
    List Bytes :=
  match event with
  | .headunitReceives outside =>
      if outside.pushBuffer.isOk ∧ cable.toHeadunit.head?.any (·.channel = channel) then
        pushes outputs
      else []
  | _ => []

/-- The channel is one of a video handler on both sides, and the set-up is over. -/
structure Shows (pointer : Nat) (channel : UInt8) (cable : Cable γ δ) : Prop where
  wired : cable.phone.Wired
  tabled : cable.phone.Tabled
  streams : cable.phone.Streams pointer channel
  dispatching : cable.headunit.phase = .dispatching
  video : cable.headunit.state.kindAt channel = some (some .Video)

/-- A pipeline can be made when one is needed, and takes every buffer. -/
def Event.pipes : Event → Bool
  | .headunitReceives outside => outside.pipes
  | .phone _ | .phoneReceives _ | .headunit _ => true

/-- The services are not asked for again, and the pipelines work. -/
def Described (cable : Cable γ δ) (event : Event) : Prop :=
  cable.Undiscovered event ∧ event.pipes = true

instance (cable : Cable γ δ) (event : Event) : Decidable (cable.Described event) :=
  inferInstanceAs (Decidable (_ ∧ _))

section Turns

variable {tls : Handshake γ δ} {protobuf : Protobuf} {pointer : Nat} {channel : UInt8}
  {current next : Cable γ δ} {event : Event} {outputs : List Output}

theorem pushes_headunit (log : List AAClient.Output) :
    pushes (log.map .headunit) = AAClient.pushes log := by
  simp [pushes, List.filterMap_map]

theorem PhoneTurn.shows {own : AAServer.Event} {log : List AAServer.Output}
    (turn : PhoneTurn protobuf current next event own log) (plain : own.discovers = false)
    (shows : current.Shows pointer channel) : next.Shows pointer channel where
  wired := AAServer.step_wired shows.wired turn.ran
  tabled := AAServer.step_tabled shows.wired shows.tabled turn.ran
  streams := shows.streams.sameTable shows.tabled
    (AAServer.step_sameTable shows.wired plain turn.ran)
  dispatching := by rw [turn.headunit, shows.dispatching]
  video := by rw [turn.headunit, shows.video]

theorem HeadunitTurn.shows {own : AAClient.Event} {log : List AAClient.Output}
    (turn : HeadunitTurn protobuf current next event own log) (plain : own.discovers = false)
    (shows : current.Shows pointer channel) : next.Shows pointer channel where
  wired := by rw [turn.phone]; exact shows.wired
  tabled := by rw [turn.phone]; exact shows.tabled
  streams := by rw [turn.phone]; exact shows.streams
  dispatching := AAClient.step_dispatching shows.dispatching turn.ran
  video := (congrFun (AAClient.step_kinds plain turn.ran) channel).trans shows.video

theorem arrived_samples {msg : Message} {rest : List Message} {outside : AAClient.Outside}
    {log : List AAClient.Output} (pipes : outside.pipes = true)
    (plain : AAClient.Event.discovers (.message msg outside) = false) (ordinary : channel ≠ 0)
    (shows : current.Shows pointer channel) (first : current.toHeadunit = msg :: rest)
    (ran : (AAClient.machine protobuf).step current.headunit (.message msg outside) =
      some (next.headunit, log)) :
    AAServer.mediaOn channel current.toHeadunit =
      pushed channel current (.headunitReceives outside) (log.map .headunit) ++
        AAServer.mediaOn channel rest := by
  obtain ⟨made, taken⟩ := AAClient.pipes_iff.mp pipes
  have accepts : outside.pushBuffer.isOk = true := by rw [taken]; rfl
  rw [first, AAServer.mediaOn, List.filterMap_cons, pushed, first, pushes_headunit]
  by_cases same : msg.channel = channel
  · subst same
    rw [AAClient.message_pushes made plain ordinary shows.video ran]
    cases AAServer.mediaData msg.content <;> simp [AAServer.mediaOn, accepts]
  · simp [same, AAServer.mediaOn]

/-- A turn moves the samples on, in order. -/
theorem step_samples (ordinary : channel ≠ 0) (shows : current.Shows pointer channel)
    (described : current.Described event)
    (took : (cable tls protobuf).step current event = some (next, outputs)) :
    next.Shows pointer channel ∧
      current.waiting pointer channel ++ samples pointer current event outputs =
        pushed channel current event outputs ++ next.waiting pointer channel := by
  obtain ⟨undiscovered, pipes⟩ := described
  rcases step_cases took with ⟨own, log, turn, rfl⟩ | ⟨own, log, turn, rfl⟩
  · have moved := AAServer.step_media shows.wired shows.tabled shows.streams ordinary turn.ran
    have notes : samples pointer current event (log.map .phone) = own.samples pointer ∧
        pushed channel current event (log.map .phone) = [] := by
      rcases turn.taken with ⟨rfl, -⟩ | ⟨msg, accept, write, rfl, -, rfl⟩ <;> exact ⟨rfl, rfl⟩
    refine ⟨turn.shows (turn.plain undiscovered) shows, ?_⟩
    rw [notes.1, notes.2, waiting, waiting, turn.toHeadunit, AAServer.mediaOn_append,
      List.append_assoc, moved, List.nil_append, List.append_assoc]
  · obtain ⟨plain, arrives⟩ := turn.dispatches shows.dispatching undiscovered
    refine ⟨turn.shows plain shows, ?_⟩
    rcases arrives with ⟨packet, rfl, rfl⟩ | ⟨msg, outside, rest, rfl, first, rfl⟩
    · simp [samples, pushed, waiting, turn.phone, turn.toHeadunit, unreadByHeadunit]
    · have left : next.toHeadunit = rest := by
        rw [turn.toHeadunit, unreadByHeadunit, first, List.tail_cons]
      rw [waiting, waiting, turn.phone, left,
        arrived_samples pipes plain ordinary shows first turn.ran]
      simp [samples]

end Turns

end Cable

/-- A service description with a video channel, number 5. -/
def videoDescription : Bytes := [0x0a, 0x06, 0x08, 0x05, 0x1a, 0x02, 0x08, 0x03]

/-- The first sample opens the channel, and the second one follows it. -/
def twoSamples : List Cable.Event :=
  [.phone (.sample 1 ⟨0 - 1, [0x67]⟩), .phone (.streamStep 1), .phone (.streamStep 1),
    .headunitReceives {}, .phoneReceives fun _ => .complete, .phone (.streamStep 1),
    .phone (.streamStep 1), .phone (.streamStep 1), .headunitReceives {},
    .phoneReceives fun _ => .complete, .phoneReceives fun _ => .complete, .phone (.streamStep 1),
    .phone (.sample 1 ⟨1000, [0x65]⟩), .headunitReceives {}, .headunitReceives {}]

theorem described_streams {phone : AAServer.State}
    {record : List (AAServer.Event × List AAServer.Output)}
    (reached : (AAServer.machine .small).run AAServer.initial (describedPhone videoDescription) =
      some (phone, record)) : phone.Streams 1 5 := by
  cases reached
  refine ⟨rfl, rfl, fun other handler present shape => ?_⟩
  rcases other with _ | _ | other
  · cases present
    cases shape
  · rfl
  · cases present

end AACS
