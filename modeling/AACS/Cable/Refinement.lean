import AACS.Cable.Video
import AACS.Cable.Wire

/-!
The wire refines the cable.

Frames that leave a queue, reads and transfers in the middle of a message are silent. Every other
step of the wire is one of the cable, with the same outputs.
-/

namespace AACS

open Effects RecordLayer Transitions

namespace Wire

variable {γ δ σ ρ : Type}

def carrying (wire : Wire γ δ σ ρ) (toHeadunit toPhone : List Message) : Cable γ δ where
  phone := wire.phone
  headunit := wire.headunit
  accepting := wire.accepting
  connecting := wire.connecting
  toHeadunit
  toPhone

def delivers (down : SecuredStream σ ρ) (wire : Wire γ δ σ ρ) (event : Event) (_ : List Output) :
    List Cable.Event :=
  match event with
  | .phone event => [.phone event]
  | .phoneReceives write => [.phoneReceives write]
  | .headunit packet => [.headunit packet]
  | .headunitReceives outside _ =>
      if (wire.forHeadunit down).isSome then [.headunitReceives outside] else []
  | .phoneSends | .phoneReads _ | .headunitSends => []

/-- The messages of the cable are under way on the wire, and `setup` dispatches messages. -/
inductive Carries (down up : SecuredStream σ ρ) (wire : Wire γ δ σ ρ) : Cable γ δ → Prop
  | mk {toHeadunit toPhone : List Message} (dispatching : wire.headunit.phase = .dispatching)
      (forHeadunit : wire.toHeadunit.Gathers AAServer.cutter down wire.gathering toHeadunit)
      (forPhone : wire.toPhone.Pumps AAClient.cutter up wire.buffer toPhone) :
      Carries down up wire (wire.carrying toHeadunit toPhone)

section Steps

variable {tls : Handshake γ δ} {down up : SecuredStream σ ρ} {protobuf : Protobuf}
  {current next : Wire γ δ σ ρ} {shadow : Cable γ δ} {event : Event} {outputs : List Output}

theorem phoneOutputs_program (log : List AAServer.Output) :
    phoneOutputs (log.map fun output => .program (.phone output)) = log := by
  simp [phoneOutputs, List.filterMap_map]

theorem headunitOutputs_program (log : List AAClient.Output) :
    headunitOutputs (log.map fun output => .program (.headunit output)) = log := by
  simp [headunitOutputs, List.filterMap_map]

theorem short_forHeadunit {msg : Message} (fresh : Fresh msg) :
    msg.content.length ≤ longestForHeadunit msg.flags := by
  have size := fresh.size
  unfold sizeLimit at size
  unfold longestForHeadunit
  split at size <;> simp_all <;> omega

theorem short_forPhone {msg : Message} (fresh : Fresh msg) (whole : Whole msg) :
    msg.content.length ≤ longestForPhone msg.flags := by
  have size := fresh.size
  unfold sizeLimit at size
  unfold longestForPhone
  split
  next encrypted => exact whole encrypted
  next plain =>
    rw [if_neg plain] at size
    omega

theorem phoneTurn_eq {own : AAServer.Event}
    (took : current.phoneTurn protobuf own = some (next, outputs)) :
    ∃ state log, (AAServer.machine protobuf).step current.phone own = some (state, log) ∧
      next = { current with
        phone := state
        toHeadunit := current.toHeadunit.put (AAServer.queued log) } ∧
      outputs = (log.map .phone).map .program := by
  obtain ⟨⟨state, log⟩, ran, same⟩ := Option.map_eq_some_iff.mp took
  cases same
  exact ⟨state, log, ran, rfl, by rw [List.map_map]; rfl⟩

theorem headunitTurn_eq {own : AAClient.Event}
    (took : current.headunitTurn protobuf own = some (next, outputs)) :
    ∃ session log, (AAClient.machine protobuf).step current.headunit own = some (session, log) ∧
      next = { current with
        headunit := session
        toPhone := current.toPhone.put (AAClient.queued log) } ∧
      outputs = (log.map .headunit).map .program := by
  obtain ⟨⟨session, log⟩, ran, same⟩ := Option.map_eq_some_iff.mp took
  cases same
  exact ⟨session, log, ran, rfl, by rw [List.map_map]; rfl⟩

theorem phoneTurn_carries {own : AAServer.Event} {toHeadunit toPhone : List Message}
    (took : current.phoneTurn protobuf own = some (next, outputs))
    (dispatching : current.headunit.phase = .dispatching)
    (forHeadunit : current.toHeadunit.Gathers AAServer.cutter down current.gathering toHeadunit)
    (forPhone : current.toPhone.Pumps AAClient.cutter up current.buffer toPhone)
    (fresh : ∀ msg ∈ AAServer.queued (phoneOutputs outputs), Fresh msg) :
    ∃ state log, (AAServer.machine protobuf).step current.phone own = some (state, log) ∧
      (∀ msg ∈ AAServer.queued log, msg.content.length ≤ longestForHeadunit msg.flags) ∧
      outputs = (log.map .phone).map .program ∧
      Carries down up next { current.carrying toHeadunit toPhone with
        phone := state
        toHeadunit := toHeadunit ++ AAServer.queued log } := by
  obtain ⟨state, log, ran, rfl, rfl⟩ := phoneTurn_eq took
  rw [List.map_map] at fresh
  replace fresh : ∀ msg ∈ AAServer.queued log, Fresh msg := phoneOutputs_program log ▸ fresh
  exact ⟨state, log, ran, fun msg inside => short_forHeadunit (fresh msg inside), rfl,
    .mk dispatching (forHeadunit.put fresh) forPhone⟩

theorem headunitTurn_carries {own : AAClient.Event} {toHeadunit toPhone : List Message}
    (took : current.headunitTurn protobuf own = some (next, outputs))
    (dispatching : current.headunit.phase = .dispatching)
    (forHeadunit : current.toHeadunit.Gathers AAServer.cutter down current.gathering toHeadunit)
    (forPhone : current.toPhone.Pumps AAClient.cutter up current.buffer toPhone)
    (fresh : ∀ msg ∈ AAClient.queued (headunitOutputs outputs), Fresh msg ∧ Whole msg) :
    ∃ session log, (AAClient.machine protobuf).step current.headunit own = some (session, log) ∧
      (∀ msg ∈ AAClient.queued log, msg.content.length ≤ longestForPhone msg.flags) ∧
      outputs = (log.map .headunit).map .program ∧
      Carries down up next { current.carrying toHeadunit toPhone with
        headunit := session
        toPhone := toPhone ++ AAClient.queued log } := by
  obtain ⟨session, log, ran, rfl, rfl⟩ := headunitTurn_eq took
  rw [List.map_map] at fresh
  replace fresh : ∀ msg ∈ AAClient.queued log, Fresh msg ∧ Whole msg :=
    headunitOutputs_program log ▸ fresh
  exact ⟨session, log, ran,
    fun msg inside => short_forPhone (fresh msg inside).1 (fresh msg inside).2, rfl,
    .mk (AAClient.step_dispatching dispatching ran) forHeadunit (forPhone.put fresh)⟩

theorem phoneReceives_carries {write : Nat → AAServer.WriteResult}
    {toHeadunit toPhone : List Message}
    (dispatching : current.headunit.phase = .dispatching)
    (forHeadunit : current.toHeadunit.Gathers AAServer.cutter down current.gathering toHeadunit)
    (forPhone : current.toPhone.Pumps AAClient.cutter up current.buffer toPhone)
    (took : current.phoneReceives tls up protobuf write = some (next, outputs))
    (fresh : ∀ msg ∈ AAServer.queued (phoneOutputs outputs), Fresh msg) :
    ∃ after effects, (cable tls protobuf).step (current.carrying toHeadunit toPhone)
        (.phoneReceives write) = some (after, effects) ∧
      Carries down up next after ∧ outputs = effects.map .program := by
  rw [phoneReceives] at took
  split at took
  · cases took
  next nonempty =>
    obtain ⟨opener, msg, later, taken, received, rfl, rest⟩ := forPhone.receives nonempty
    rw [received] at took
    dsimp only at took
    split at took
    · cases took
    next plain =>
      obtain ⟨state, log, ran, short, same, carries⟩ :=
        phoneTurn_carries took dispatching forHeadunit rest fresh
      refine ⟨_, _, Cable.phoneReceives_step rfl ran short, ?_, same⟩
      rw [if_neg plain]
      exact carries

/-- A transfer that ends no message is silent; another one delivers the first message. -/
theorem headunitReceives_carries {outside : AAClient.Outside} {stack : Buffer}
    {toHeadunit toPhone : List Message} (dispatching : current.headunit.phase = .dispatching)
    (forHeadunit : current.toHeadunit.Gathers AAServer.cutter down current.gathering toHeadunit)
    (forPhone : current.toPhone.Pumps AAClient.cutter up current.buffer toPhone)
    (took : current.headunitReceives down protobuf outside stack = some (next, outputs))
    (fresh : ∀ msg ∈ AAClient.queued (headunitOutputs outputs), Fresh msg ∧ Whole msg) :
    current.forHeadunit down = none ∧ outputs = [] ∧
        Carries down up next (current.carrying toHeadunit toPhone) ∨
      ∃ msg after effects, current.forHeadunit down = some msg ∧
        (cable tls protobuf).step (current.carrying toHeadunit toPhone)
          (.headunitReceives outside) = some (after, effects) ∧
        Carries down up next after ∧ outputs = effects.map .program := by
  rw [headunitReceives] at took
  split at took
  · cases took
  next frame rest first =>
    obtain ⟨opener, gathered, passed, goesOn, ends⟩ := forHeadunit.receives first
    rw [passed] at took
    cases gathered with
    | inl soFar =>
        cases took
        exact .inl ⟨by simp [Wire.forHeadunit, first, passed], rfl,
          .mk dispatching (goesOn soFar rfl) forPhone⟩
    | inr msg =>
        obtain ⟨later, rfl, left⟩ := ends msg rfl
        obtain ⟨session, log, ran, short, same, carries⟩ :=
          headunitTurn_carries took dispatching (left stack) forPhone fresh
        exact .inr ⟨msg, _, _, by simp [Wire.forHeadunit, first, passed],
          Cable.headunitReceives_step rfl dispatching ran short, carries, same⟩

/-- A step is silent, or one of the cable. -/
theorem step_matches (carries : Carries down up current shadow)
    (freshly : Freshly tls down up protobuf current event)
    (took : (wire tls down up protobuf).step current event = some (next, outputs)) :
    (cable tls protobuf).Matches (Carries down up) .program shadow
      (current.delivers down event outputs) next outputs := by
  obtain ⟨dispatching, forHeadunit, forPhone⟩ := carries
  obtain ⟨freshPhone, freshHeadunit⟩ := freshly _ took
  cases event with
  | phone own =>
      simp only [wire, step] at took
      split at took
      · cases took
      next other =>
        obtain ⟨state, log, ran, short, rfl, carries⟩ :=
          phoneTurn_carries took dispatching forHeadunit forPhone freshPhone
        exact .single (Cable.phone_step (by simpa using other) ran short) carries
  | headunit packet =>
      obtain ⟨session, log, ran, short, rfl, carries⟩ :=
        headunitTurn_carries took dispatching forHeadunit forPhone freshHeadunit
      exact .single (Cable.headunit_step ran short) carries
  | phoneSends =>
      obtain ⟨lane, called, sent⟩ := forHeadunit.sends
      rw [Cutter.dequeue_server] at called
      simp only [wire, step, called] at took
      split at took
      · cases took
      · cases took
        exact .silent (.mk dispatching sent forPhone)
  | headunitSends =>
      obtain ⟨lane, called, sent, -⟩ := forPhone.sends
      rw [Cutter.dequeue_client] at called
      simp only [wire, step, called] at took
      split at took
      · cases took
        exact .silent (.mk dispatching forHeadunit sent)
      · cases took
  | phoneReads more =>
      simp only [wire, step] at took
      split at took
      next waits =>
        cases took
        rw [waits.2.1] at forPhone
        exact .silent (.mk dispatching forHeadunit (forPhone.reads (more + 1)))
      next => cases took
  | phoneReceives write =>
      obtain ⟨after, effects, taken, carries, rfl⟩ :=
        phoneReceives_carries dispatching forHeadunit forPhone took freshPhone
      exact .single taken carries
  | headunitReceives outside stack =>
      simp only [wire, step] at took
      split at took
      · rcases headunitReceives_carries dispatching forHeadunit forPhone took freshHeadunit with
          ⟨none, rfl, carries⟩ | ⟨msg, after, effects, arrived, taken, carries, rfl⟩
        · rw [delivers, none]
          exact .silent carries
        · rw [delivers, arrived]
          exact .single taken carries
      · cases took

end Steps

/-- No message is in a queue, in a frame or in a buffer. -/
structure Silent (wire : Wire γ δ σ ρ) : Prop where
  toHeadunit : wire.toHeadunit.Silent
  toPhone : wire.toPhone.Silent
  buffer : wire.buffer = []

structure Idle (down up : SecuredStream σ ρ) (wire : Wire γ δ σ ρ) : Prop where
  dispatching : wire.headunit.phase = .dispatching
  toHeadunit : wire.toHeadunit.Idle down.paired
  toPhone : wire.toPhone.Idle up.paired
  nothing : wire.gathering.fullContent = []
  unknown : wire.gathering.totalLength = 0
  buffer : wire.buffer = []

theorem Idle.carries {down up : SecuredStream σ ρ} {wire : Wire γ δ σ ρ}
    (idle : wire.Idle down up) : Carries down up wire (wire.carrying [] []) := by
  refine .mk idle.dispatching (.idle idle.toHeadunit idle.nothing idle.unknown) ?_
  rw [idle.buffer]
  exact .idle idle.toPhone

/-- The cable, as what the wire shows of itself. -/
def simulation (tls : Handshake γ δ) (down up : SecuredStream σ ρ) (protobuf : Protobuf) :
    (wire tls down up protobuf).Simulation (cable tls protobuf) where
  related := Carries down up
  condition := Freshly tls down up protobuf
  embed := .program
  actions := delivers down
  simulates := step_matches

end Wire

/-- Every run of the two programs on the wire is one on the cable, whose events are the turns of
the programs and the messages that come out of the wire, with the same outputs. No call fails on
the way, and what is still under way on the cable is under way on the wire. -/
theorem wire_refines_cable {γ δ σ ρ : Type} {tls : Handshake γ δ} {down up : SecuredStream σ ρ}
    {protobuf : Protobuf} {start final : Wire γ δ σ ρ} {events : List Wire.Event}
    {trace : List (Wire.Event × List Wire.Output)} (idle : start.Idle down up)
    (freshly : (wire tls down up protobuf).Within (Wire.Freshly tls down up protobuf) start events)
    (ran : (wire tls down up protobuf).run start events = some (final, trace)) :
    ∃ toHeadunit toPhone record,
      (cable tls protobuf).run (start.carrying [] [])
          ((wire tls down up protobuf).observations (Wire.delivers down) start events) =
        some (final.carrying toHeadunit toPhone, record) ∧
      trace.flatMap Prod.snd = (record.flatMap Prod.snd).map .program ∧
      (final.Silent → toHeadunit = [] ∧ toPhone = []) := by
  obtain ⟨after, record, followed, carries, same⟩ :=
    (Wire.simulation tls down up protobuf).run idle.carries freshly ran
  cases carries with
  | mk dispatching forHeadunit forPhone =>
      refine ⟨_, _, record, followed, same, fun silent => ⟨?_, ?_⟩⟩
      · exact forHeadunit.silent silent.toHeadunit
      · rw [silent.buffer] at forPhone
        exact forPhone.silent silent.toPhone

def nullStream : SecuredStream Nat Nat where
  sealer := nullSealer
  opener := nullOpener .bioWrite
  paired := Eq
  bounded := nullSealer_bounded (by decide)
  inStep := nullCipher_inStep DecryptFailure.bioWrite tlsLimit

def idleLane : Lane Nat Nat where
  sender := { sendQueue := [], ssl := 0, writeBio := [] }
  frames := []
  opener := 0

def blankStack : Buffer := fun _ => 0

def describedWire (sd : Bytes) (phone : AAServer.State) : Wire Nat Unit Nat Nat where
  phone
  headunit := { state := Cable.Stage.done.client .small sd, phase := .dispatching }
  accepting := ()
  connecting := 0
  toHeadunit := idleLane
  gathering := { buffer := blankStack }
  toPhone := idleLane
  buffer := []

theorem describedWire_idle (sd : Bytes) (phone : AAServer.State) :
    (describedWire sd phone).Idle nullStream nullStream :=
  ⟨rfl, ⟨⟨rfl, rfl⟩, rfl, rfl⟩, ⟨⟨rfl, rfl⟩, rfl, rfl⟩, rfl, rfl, rfl⟩

/-- The first sample opens the channel; the second one takes two frames. -/
def twoSamplesInFrames : List Wire.Event :=
  [.phone (.sample 1 ⟨0 - 1, [0x67]⟩), .phone (.streamStep 1), .phone (.streamStep 1),
    .phoneSends, .headunitReceives {} blankStack, .headunitSends, .phoneReads 0,
    .phoneReceives fun _ => .complete, .phone (.streamStep 1), .phone (.streamStep 1),
    .phone (.streamStep 1), .phoneSends, .headunitReceives {} blankStack, .headunitSends,
    .headunitSends, .phoneReads 1, .phoneReceives fun _ => .complete,
    .phoneReceives fun _ => .complete, .phone (.streamStep 1),
    .phone (.sample 1 ⟨1000, List.replicate 2100 0x65⟩), .phoneSends, .phoneSends,
    .headunitReceives {} blankStack, .phoneSends, .headunitReceives {} blankStack,
    .headunitReceives {} blankStack, .phoneSends, .headunitReceives {} blankStack]

theorem wire_refines_cable_two_samples :
    ∃ phone record final trace,
      (AAServer.machine .small).run AAServer.initial (describedPhone videoDescription) =
        some (phone, record) ∧
      (wire oneRound nullStream nullStream .small).run (describedWire videoDescription phone)
        twoSamplesInFrames = some (final, trace) ∧
      ∃ toHeadunit toPhone record,
        (cable oneRound .small).run ((describedWire videoDescription phone).carrying [] [])
            ((wire oneRound nullStream nullStream .small).observations (Wire.delivers nullStream)
              (describedWire videoDescription phone) twoSamplesInFrames) =
          some (final.carrying toHeadunit toPhone, record) ∧
        trace.flatMap Prod.snd = (record.flatMap Prod.snd).map .program ∧
        (final.Silent → toHeadunit = [] ∧ toPhone = []) := by
  obtain ⟨phone, record, reached⟩ : ∃ phone record,
      (AAServer.machine .small).run AAServer.initial (describedPhone videoDescription) =
        some (phone, record) :=
    ⟨_, _, rfl⟩
  have freshly : (wire oneRound nullStream nullStream .small).Within
      (Wire.Freshly oneRound nullStream nullStream .small) (describedWire videoDescription phone)
      twoSamplesInFrames := by
    cases reached
    decide +kernel
  have takes : ((wire oneRound nullStream nullStream .small).run
      (describedWire videoDescription phone) twoSamplesInFrames).isSome = true := by
    cases reached
    decide +kernel
  obtain ⟨⟨final, trace⟩, ran⟩ := Option.isSome_iff_exists.mp takes
  exact ⟨phone, record, final, trace, reached, ran,
    wire_refines_cable (describedWire_idle videoDescription phone) freshly ran⟩

end AACS
