import AACS.Server.Accesses
import AACS.Server.Pump

/-!
The reads of `AAServer` and the sizes of what it gets.

`handleMessage` looks at the size of a frame before it copies the payload. Behind it
nobody looks at the size of the content, so that every read stays inside exactly when
the content is long enough to begin with.
-/

namespace AACS

namespace AAServer

open Effects RecordLayer

variable {ρ τ : Type} {tls : Opener ρ DecryptFailure UInt8} {handle : Handler τ} {ssl : ρ}
  {store : τ} {buf : Bytes} {handed : Handed}

/-- Every read stays in the content, and a content too short for its type is rejected. -/
structure BoundsKept (protobuf : Protobuf) (accept : Accept) (write : Nat → WriteResult)
    (state : State) (message : Message) : Prop where
  inside : ∀ access ∈ accesses protobuf accept state message, access.Inside message
  rejected : TooShort message → ∃ exception,
    ((handleMessageContent protobuf accept write message).run state).result =
      .error (.thrown exception)

theorem taken_le_of_handed (given : handed ∈ (handleMessage tls handle ssl store buf).handed) :
    handed.taken ≤ buf.length := by
  unfold handleMessage at given
  split at given
  next channel flags high low rest =>
    dsimp only at given
    split at given
    · cases given
    next fits =>
      split at given
      · cases given
      next content =>
        split at given
        · obtain rfl := List.mem_singleton.mp given
          simp only [List.length_cons]
          omega
        · obtain rfl := List.mem_singleton.mp given
          simp only [List.length_cons]
          omega
  next => cases given

theorem boundsKept_iff (protobuf : Protobuf) (accept : Accept) (write : Nat → WriteResult)
    (state : State) (message : Message) :
    BoundsKept protobuf accept write state message ↔ ¬ TooShort message := by
  constructor
  · intro kept
    exact accesses_inside_iff.mp kept.inside
  · intro long
    exact ⟨accesses_inside_iff.mpr long, fun short => absurd short long⟩

/-- A frame's payload is copied from inside the frame, and the message in it is handled
within the bounds of its content exactly when the content has a type and, if that is a
VersionRequest on channel 0, four bytes behind it. -/
theorem payload_bounds_iff (given : handed ∈ (handleMessage tls handle ssl store buf).handed)
    (protobuf : Protobuf) (accept : Accept) (write : Nat → WriteResult) (state : State) :
    handed.taken ≤ buf.length ∧
      (BoundsKept protobuf accept write state handed.msg ↔ ¬ TooShort handed.msg) :=
  ⟨taken_le_of_handed given, boundsKept_iff protobuf accept write state handed.msg⟩

def ignore : Handler Unit := fun store _ => (store, .ok ())

theorem payload_bounds_version_request :
    BoundsKept .small .failed (fun _ => .complete) initial ⟨0, 3, [0, 1, 0, 1, 0, 1], 0⟩ := by
  have given : (⟨⟨0, 3, [0, 1, 0, 1, 0, 1], 0⟩, 10⟩ : Handed) ∈
      (handleMessage (nullOpener .bioWrite) ignore 0 () [0, 3, 0, 6, 0, 1, 0, 1, 0, 1]).handed := by
    decide
  apply (payload_bounds_iff given .small .failed _ initial).2.mpr
  simp [TooShort]

/-- The content of an empty frame on channel 0 is read for its type, and nothing is thrown. -/
theorem empty_content_read :
    ⟨⟨0, 3, [], 0⟩, 4⟩ ∈ (handleMessage (nullOpener .bioWrite) ignore 0 () [0, 3, 0, 0]).handed ∧
      ¬ BoundsKept .small .failed (fun _ => .complete) initial ⟨0, 3, [], 0⟩ := by
  refine ⟨by decide, fun kept => ?_⟩
  have inside := kept.inside (.read 0 2) List.mem_cons_self
  simp [Access.Inside] at inside

end AAServer

end AACS
