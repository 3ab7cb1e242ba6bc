import AACS.Protocol.Exceptions
import AACS.Protocol.Message

/-!
Handlers of received messages.

Both programs give every message that arrives to one function, and stop when it
throws. `handOver` says which messages that function should be given.
-/

namespace AACS

variable {τ : Type}

abbrev Handler (τ : Type) := τ → Message → τ × Except Thrown Unit

/-- The messages that a handler is given until it throws. -/
def handOver (handle : Handler τ) : τ → List Message → List Message
  | _, [] => []
  | state, msg :: messages =>
      match handle state msg with
      | (_, .error _) => [msg]
      | (state, .ok _) => msg :: handOver handle state messages

theorem head?_handOver (handle : Handler τ) (state : τ) (msg : Message)
    (messages : List Message) : (handOver handle state (msg :: messages)).head? = some msg := by
  rw [handOver]
  split <;> rfl

end AACS
