import AACS.Cable.Refinement

/-!
The samples of the phone's pipeline on the wire.

What holds on the cable holds on the wire: the samples get to the pipeline of the head unit each
once and in order, in whatever frames, reads and transfers.
-/

namespace AACS

open Effects RecordLayer Transitions

namespace Wire

variable {γ δ σ ρ : Type}

def samples (pointer : Nat) (_ : Wire γ δ σ ρ) (event : Event) (_ : List Output) : List Bytes :=
  match event with
  | .phone own => own.samples pointer
  | _ => []

/-- What `AAClient` pushes for a message on the channel, if its pipeline takes the buffer. -/
def pushed (down : SecuredStream σ ρ) (channel : UInt8) (wire : Wire γ δ σ ρ) (event : Event)
    (outputs : List Output) : List Bytes :=
  match event with
  | .headunitReceives outside _ =>
      if outside.pushBuffer.isOk ∧ (wire.forHeadunit down).any (·.channel = channel) then
        AAClient.pushes (headunitOutputs outputs)
      else []
  | _ => []

/-- The services are not asked for again, and the pipelines work. -/
def Described (down up : SecuredStream σ ρ) (wire : Wire γ δ σ ρ) (event : Event) : Prop :=
  match event with
  | .phoneReceives _ => ∀ msg ∈ wire.forPhone up, AAServer.isServiceDiscoveryResponse msg = false
  | .headunitReceives outside _ =>
      (∀ msg ∈ wire.forHeadunit down,
        AAClient.hasType msg.content MessageType.ServiceDiscoveryRequest.code = false) ∧
      outside.pipes = true
  | _ => True

instance (down up : SecuredStream σ ρ) (wire : Wire γ δ σ ρ) (event : Event) :
    Decidable (wire.Described down up event) := by
  cases event <;> unfold Described <;> infer_instance

section Steps

variable {tls : Handshake γ δ} {down up : SecuredStream σ ρ} {protobuf : Protobuf}
  {current next : Wire γ δ σ ρ} {shadow : Cable γ δ} {event : Event} {outputs : List Output}

theorem Carries.forPhone_eq (carries : Carries down up current shadow)
    (nonempty : current.buffer ≠ []) : current.forPhone up = shadow.toPhone.head? := by
  obtain ⟨-, -, forPhone⟩ := carries
  obtain ⟨opener, msg, later, taken, received, rfl, -⟩ := forPhone.receives nonempty
  rw [Wire.forPhone, received]
  rfl

theorem Carries.forHeadunit_eq (carries : Carries down up current shadow)
    (ends : (current.forHeadunit down).isSome = true) :
    current.forHeadunit down = shadow.toHeadunit.head? := by
  obtain ⟨-, forHeadunit, -⟩ := carries
  cases first : current.toHeadunit.frames with
  | nil => simp [Wire.forHeadunit, first] at ends
  | cons frame rest =>
      obtain ⟨opener, gathered, passed, -, last⟩ := forHeadunit.receives first
      cases gathered with
      | inl soFar => simp [Wire.forHeadunit, first, passed] at ends
      | inr msg =>
          obtain ⟨later, rfl, -⟩ := last msg rfl
          simp [Wire.forHeadunit, first, passed, carrying]

theorem phoneReceives_reads {write : Nat → AAServer.WriteResult}
    (took : (wire tls down up protobuf).step current (.phoneReceives write) =
      some (next, outputs)) : current.buffer ≠ [] := by
  intro empty
  simp [wire, step, phoneReceives, empty] at took

theorem delivers_described (carries : Carries down up current shadow)
    (described : current.Described down up event)
    (took : (wire tls down up protobuf).step current event = some (next, outputs)) :
    (cable tls protobuf).Within Cable.Described shadow (current.delivers down event outputs) := by
  cases event with
  | phone | headunit => exact (cable tls protobuf).within_single_iff.mpr ⟨trivial, rfl⟩
  | phoneSends | phoneReads | headunitSends => trivial
  | phoneReceives write =>
      refine (cable tls protobuf).within_single_iff.mpr ⟨?_, rfl⟩
      rw [Described, carries.forPhone_eq (phoneReceives_reads took)] at described
      exact described
  | headunitReceives outside stack =>
      rw [delivers]
      split
      next ends =>
        obtain ⟨plain, made⟩ := described
        rw [carries.forHeadunit_eq ends] at plain
        exact (cable tls protobuf).within_single_iff.mpr ⟨plain, made⟩
      next => trivial

theorem delivers_samples (pointer : Nat) (carries : Carries down up current shadow)
    (freshly : Freshly tls down up protobuf current event)
    (took : (wire tls down up protobuf).step current event = some (next, outputs)) :
    (cable tls protobuf).observations (Cable.samples pointer) shadow
        (current.delivers down event outputs) = samples pointer current event outputs := by
  have matched := step_matches carries freshly took
  cases event with
  | phoneSends | phoneReads | headunitSends => rfl
  | phone | headunit | phoneReceives =>
      obtain ⟨after, effects, taken, -, -⟩ := matched.step
      exact (cable tls protobuf).observations_single taken
  | headunitReceives outside stack =>
      rw [delivers] at matched ⊢
      split at matched
      next ends =>
        obtain ⟨after, effects, taken, -, -⟩ := matched.step
        rw [if_pos ends, (cable tls protobuf).observations_single taken]
        rfl
      next middle =>
        rw [if_neg middle]
        rfl

theorem pushes_program (effects : List Cable.Output) :
    AAClient.pushes (headunitOutputs (effects.map .program)) = Cable.pushes effects := by
  rw [headunitOutputs, List.filterMap_map, Cable.pushes]
  refine congrArg _ (List.filterMap_congr fun effect _ => ?_)
  cases effect <;> rfl

theorem delivers_pushed (channel : UInt8) (carries : Carries down up current shadow)
    (freshly : Freshly tls down up protobuf current event)
    (took : (wire tls down up protobuf).step current event = some (next, outputs)) :
    (cable tls protobuf).observations (Cable.pushed channel) shadow
        (current.delivers down event outputs) = pushed down channel current event outputs := by
  have matched := step_matches carries freshly took
  cases event with
  | phoneSends | phoneReads | headunitSends => rfl
  | phone | headunit | phoneReceives =>
      obtain ⟨after, effects, taken, -, -⟩ := matched.step
      exact (cable tls protobuf).observations_single taken
  | headunitReceives outside stack =>
      rw [delivers] at matched ⊢
      split at matched
      next ends =>
        obtain ⟨after, effects, taken, -, rfl⟩ := matched.step
        rw [if_pos ends, (cable tls protobuf).observations_single taken, Cable.pushed, pushed,
          carries.forHeadunit_eq ends, pushes_program]
      next middle =>
        obtain nothing : current.forHeadunit down = none := by simpa using middle
        rw [if_neg middle, pushed, nothing, if_neg (by simp)]
        rfl

end Steps

def describedSimulation (tls : Handshake γ δ) (down up : SecuredStream σ ρ) (protobuf : Protobuf) :
    (wire tls down up protobuf).Simulation (cable tls protobuf) :=
  (simulation tls down up protobuf).restrict (Described down up)

end Wire

end AACS
