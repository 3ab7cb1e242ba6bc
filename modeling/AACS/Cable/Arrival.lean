import AACS.Cable.Refinement

/-!
Messages on the wire arrive.

Whatever has happened, the frames of a message that is under way can be moved on until the message
comes out, without a step of either program.
-/

namespace AACS

open RecordLayer Transitions

namespace Wire

variable {γ δ σ ρ : Type}

def Moves (tls : Handshake γ δ) (down up : SecuredStream σ ρ) (protobuf : Protobuf)
    (current after : Wire γ δ σ ρ) : Prop :=
  ∃ moves record, (wire tls down up protobuf).run current moves = some (after, record) ∧
    (wire tls down up protobuf).observations (delivers down) current moves = [] ∧
    after.phone = current.phone ∧ after.headunit = current.headunit

section Steps

variable {tls : Handshake γ δ} {down up : SecuredStream σ ρ} {protobuf : Protobuf}
  {current next after : Wire γ δ σ ρ} {event : Event} {outputs : List Output}
  {messages : List Message}

theorem Moves.refl (current : Wire γ δ σ ρ) : Moves tls down up protobuf current current :=
  ⟨[], [], rfl, rfl, rfl, rfl⟩

theorem Moves.step (took : (wire tls down up protobuf).step current event = some (next, outputs))
    (quiet : current.delivers down event outputs = []) (phone : next.phone = current.phone)
    (headunit : next.headunit = current.headunit) (later : Moves tls down up protobuf next after) :
    Moves tls down up protobuf current after := by
  obtain ⟨moves, record, ran, nothing, samePhone, sameHeadunit⟩ := later
  refine ⟨event :: moves, (event, outputs) :: record,
    (wire tls down up protobuf).run_cons_eq_some.mpr ⟨next, outputs, record, took, ran, rfl⟩, ?_,
    samePhone.trans phone, sameHeadunit.trans headunit⟩
  simp only [Machine.observations, took, quiet, nothing, List.append_nil]

variable (tls up protobuf) in
theorem loads_headunit {fragments : List Fragment}
    (pumping : current.phone.threadFinished = false)
    (flows : current.toHeadunit.Flows down.sealer down.paired AAServer.cutter.maxSize fragments)
    (more : fragments ≠ []) :
    ∃ lane : Lane σ ρ, lane.frames ≠ [] ∧
      lane.Flows down.sealer down.paired AAServer.cutter.maxSize fragments ∧
      ∀ {after}, Moves tls down up protobuf { current with toHeadunit := lane } after →
        Moves tls down up protobuf current after := by
  by_cases empty : current.toHeadunit.frames = []
  · obtain ⟨lane, called, goesOn, loaded⟩ := flows.called
    rw [Cutter.dequeue_server] at called
    refine ⟨lane, loaded fun queue => more (flows.silent_iff.mp ⟨queue, empty⟩), goesOn,
      fun later => ?_⟩
    have took : (wire tls down up protobuf).step current .phoneSends =
        some ({ current with toHeadunit := lane }, []) := by
      simp only [wire, Wire.step, pumping, called]
      rfl
    exact .step took rfl rfl rfl later
  · exact ⟨current.toHeadunit, empty, flows, id⟩

theorem reaches_headunit {fragments : List Fragment}
    (pumping : current.phone.threadFinished = false) (running : current.headunit.running = true)
    (flows : current.toHeadunit.Flows down.sealer down.paired AAServer.cutter.maxSize fragments)
    (gathering : AAClient.Gathering AAServer.cutter.maxSize current.gathering fragments messages)
    (fresh : ∀ msg ∈ messages, Fresh msg) (waiting : messages ≠ []) :
    ∃ after, Moves tls down up protobuf current after ∧ (after.forHeadunit down).isSome = true := by
  induction fragments generalizing current with
  | nil => exact absurd (gathering.nil_iff.mp rfl) waiting
  | cons fragment fragments inductionHypothesis =>
      obtain ⟨lane, frames, loaded, moves⟩ :=
        loads_headunit tls up protobuf pumping flows (List.cons_ne_nil _ _)
      obtain ⟨frame, rest, first⟩ := List.exists_cons_of_ne_nil frames
      obtain ⟨opener, gathered, same, others, split, passed, goesOn, ends⟩ :=
        Lane.passes_fragment loaded gathering fresh first
      cases split
      cases gathered with
      | inr msg =>
          refine ⟨_, moves (.refl _), ?_⟩
          simp [forHeadunit, first, passed]
      | inl soFar =>
          have took : (wire tls down up protobuf).step { current with toHeadunit := lane }
              (.headunitReceives {} fun _ => 0) =
                some ({ current with
                  toHeadunit := lane.taken opener
                  gathering := soFar }, []) := by
            simp only [wire, Wire.step, running, if_true, headunitReceives, first, passed]
          have quiet : { current with toHeadunit := lane }.delivers down
              (.headunitReceives {} fun _ => 0) [] = [] := by
            simp [delivers, forHeadunit, first, passed]
          obtain ⟨after, later, arrived⟩ := @inductionHypothesis { current with
            toHeadunit := lane.taken opener
            gathering := soFar } pumping running goesOn ends
          exact ⟨after, moves (.step took quiet rfl rfl later), arrived⟩

theorem reads_phone (forPhone : current.toPhone.Pumps AAClient.cutter up current.buffer messages)
    (nonempty : current.buffer ≠ []) : (current.forPhone up).isSome = true := by
  obtain ⟨opener, msg, later, taken, received, -, -⟩ := forPhone.receives nonempty
  simp [Wire.forPhone, received]

theorem loaded_phone {lane : Lane σ ρ} (pumping : current.phone.threadFinished = false)
    (forPhone : lane.Pumps AAClient.cutter up [] messages)
    (frames : lane.frames ≠ []) (empty : current.buffer = []) :
    ∃ after, Moves tls down up protobuf { current with toPhone := lane } after ∧
      (after.forPhone up).isSome = true := by
  have took : (wire tls down up protobuf).step { current with toPhone := lane } (.phoneReads 0) =
      some ({ current with
        toPhone := { lane with frames := lane.frames.drop 1 }
        buffer := (lane.frames.take 1).flatten }, []) := by
    simp only [wire, Wire.step]
    rw [if_pos ⟨pumping, empty, frames⟩]
  refine ⟨_, .step took rfl rfl rfl (.refl _), reads_phone (forPhone.reads 1) ?_⟩
  obtain ⟨-, buffered, -, flows⟩ := forPhone
  obtain ⟨frame, rest, first⟩ := List.exists_cons_of_ne_nil frames
  rw [first] at flows ⊢
  simpa using flows.frame_ne_nil frame (by simp)

/-- The frame of the next message is put, if none is under way, and read, if none has been. -/
theorem reaches_phone (pumping : current.phone.threadFinished = false)
    (running : current.headunit.running = true)
    (forPhone : current.toPhone.Pumps AAClient.cutter up current.buffer messages)
    (waiting : messages ≠ []) :
    ∃ after, Moves tls down up protobuf current after ∧ (after.forPhone up).isSome = true := by
  by_cases read : current.buffer = []
  · rw [read] at forPhone
    by_cases empty : current.toPhone.frames = []
    · obtain ⟨lane, called, sent, loaded⟩ := forPhone.sends
      rw [Cutter.dequeue_client] at called
      have frames : lane.frames ≠ [] := loaded fun queue =>
        waiting (forPhone.silent ⟨queue, empty⟩)
      have took : (wire tls down up protobuf).step current .headunitSends =
          some ({ current with toPhone := lane }, []) := by
        simp only [wire, Wire.step, running, if_true, called]
        rfl
      obtain ⟨after, later, arrived⟩ := loaded_phone pumping sent frames read
      exact ⟨after, .step took rfl rfl rfl later, arrived⟩
    · exact loaded_phone pumping forPhone empty read
  · exact ⟨current, .refl current, reads_phone forPhone read⟩

end Steps

end Wire

/-- Whatever the two programs have done, if neither has ended: as long as a message for one of
them is in a queue, in frames or in a buffer, the pumps and `getMessage` can move frames until a
message comes out, and nothing else happens. -/
theorem wire_never_stuck {γ δ σ ρ : Type} {tls : Handshake γ δ} {down up : SecuredStream σ ρ}
    {protobuf : Protobuf} {start final : Wire γ δ σ ρ} {events : List Wire.Event}
    {trace : List (Wire.Event × List Wire.Output)} (idle : start.Idle down up)
    (freshly : (wire tls down up protobuf).Within (Wire.Freshly tls down up protobuf) start events)
    (ran : (wire tls down up protobuf).run start events = some (final, trace))
    (pumping : final.phone.threadFinished = false) (running : final.headunit.running = true) :
    (¬ final.toHeadunit.Silent → ∃ after, Wire.Moves tls down up protobuf final after ∧
      (after.forHeadunit down).isSome = true) ∧
    (¬ (final.toPhone.Silent ∧ final.buffer = []) →
      ∃ after, Wire.Moves tls down up protobuf final after ∧
        (after.forPhone up).isSome = true) := by
  obtain ⟨after, record, -, carries, -⟩ :=
    (Wire.simulation tls down up protobuf).run idle.carries freshly ran
  obtain ⟨-, ⟨fresh, fragments, flows, gathering⟩, forPhone⟩ := carries
  refine ⟨fun sounds => Wire.reaches_headunit pumping running flows gathering fresh fun none =>
      sounds ?_,
    fun sounds => Wire.reaches_phone pumping running forPhone fun none => sounds ?_⟩
  · exact flows.silent_iff.mpr (gathering.nil_iff.mpr none)
  · exact forPhone.nothing none

/-- Up to the First frame of the second sample. -/
def halfASample : List Wire.Event := twoSamplesInFrames.take 26

theorem wire_never_stuck_half_a_sample :
    ∃ phone record final trace,
      (AAServer.machine .small).run AAServer.initial (describedPhone videoDescription) =
        some (phone, record) ∧
      (wire oneRound nullStream nullStream .small).run (describedWire videoDescription phone)
        halfASample = some (final, trace) ∧
      (¬ final.toHeadunit.Silent →
        ∃ after, Wire.Moves oneRound nullStream nullStream .small final after ∧
          (after.forHeadunit nullStream).isSome = true) ∧
      (¬ (final.toPhone.Silent ∧ final.buffer = []) →
        ∃ after, Wire.Moves oneRound nullStream nullStream .small final after ∧
          (after.forPhone nullStream).isSome = true) := by
  obtain ⟨phone, record, reached⟩ : ∃ phone record,
      (AAServer.machine .small).run AAServer.initial (describedPhone videoDescription) =
        some (phone, record) :=
    ⟨_, _, rfl⟩
  have freshly : (wire oneRound nullStream nullStream .small).Within
      (Wire.Freshly oneRound nullStream nullStream .small) (describedWire videoDescription phone)
      halfASample := by
    cases reached
    decide +kernel
  have takes : ((wire oneRound nullStream nullStream .small).run
      (describedWire videoDescription phone) halfASample).isSome = true := by
    cases reached
    decide +kernel
  have alive : ∀ turn ∈ (wire oneRound nullStream nullStream .small).run
      (describedWire videoDescription phone) halfASample,
      turn.1.phone.threadFinished = false ∧ turn.1.headunit.running = true := by
    cases reached
    decide +kernel
  obtain ⟨⟨final, trace⟩, ran⟩ := Option.isSome_iff_exists.mp takes
  obtain ⟨pumping, running⟩ := alive _ ran
  exact ⟨phone, record, final, trace, reached, ran,
    wire_never_stuck (describedWire_idle videoDescription phone) freshly ran pumping running⟩

end AACS
