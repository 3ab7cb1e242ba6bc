import AACS.GetEvents.Injections

/-!
`GetEvents`, call by call.

`main` makes one call of `write` or `read` after the other, and each takes it from one phase to
the next. What it does in a run of these calls is what `main` does.
-/

namespace AACS

namespace GetEvents

open Effects Transitions
open AAServer (WriteResult)

inductive Phase where
  | asking
  | awaiting
  | opening (channelNumber : UInt8)
  | reading
  | ended
  deriving DecidableEq, Repr

inductive Call where
  | writes (result : WriteResult)
  | reads (reading : Reading)

section Calls

variable (parse : Bytes → InputEvent) (translate_coordinates : Int32 → Int32 → Int32 × Int32)

def afterCall : Phase → Call → Option (MainAct Phase)
  | .asking, .writes result => some do
      writePacket result channelNumberRequest
      pure .awaiting
  | .awaiting, .reads reply => some
      (match reply.bytes with
      | [] => Act.throw (.thrown (.runtimeError "failed to read video channel number"))
      | channelNumber :: _ => pure (.opening channelNumber))
  | .opening channelNumber, .writes result => some do
      writePacket result (registration channelNumber)
      pure .reading
  | .reading, .reads reading => some do
      turn parse translate_coordinates reading
      pure .reading
  | _, _ => none

/-- An exception leaves `main`. -/
def sessionStep (phase : Phase) (call : Call) : Option (Phase × List Action) :=
  (afterCall parse translate_coordinates phase call).bind fun body =>
    match body.run () with
    | ⟨.ok next, _, log⟩ => some (next, log)
    | ⟨.error (.thrown _), _, log⟩ => some (.ended, log)
    | ⟨.error .undefinedBehaviour, _, _⟩ => none

def session : Machine Phase Call Action := ⟨sessionStep parse translate_coordinates⟩

end Calls

section Runs

variable {parse : Bytes → InputEvent} {translate_coordinates : Int32 → Int32 → Int32 × Int32}
  {phase next : Phase} {call : Call} {log : List Action}

theorem session_body (alive : next ≠ .ended)
    (took : (session parse translate_coordinates).step phase call = some (next, log)) :
    ∃ body, afterCall parse translate_coordinates phase call = some body ∧
      body.run () = ⟨.ok next, (), log⟩ := by
  obtain ⟨body, found, ran⟩ := Option.bind_eq_some_iff.mp took
  refine ⟨body, found, ?_⟩
  rcases outcome : body.run () with ⟨result, ⟨⟩, actions⟩
  rw [outcome] at ran
  rcases result with (_ | _) | after
  · cases ran
    exact absurd rfl alive
  · cases ran
  · cases ran
    rfl

theorem session_turn {reading : Reading} (long : 4 ≤ reading.bytes.length) :
    (session parse translate_coordinates).step .reading (.reads reading) =
      some (.reading, .received (reading.bytes.take maxBufSize) ::
        actions parse translate_coordinates reading.bytes) := by
  simp only [session, sessionStep, afterCall, Option.bind_some, Act.run_bind, turn_run long,
    Act.andThen_ok, Act.run_pure, List.append_nil]

theorem session_ended : (session parse translate_coordinates).step .ended call = none := by
  cases call <;> rfl

theorem run_alive {calls : List Call} {final : Phase} {trace : List (Call × List Action)}
    (alive : final ≠ .ended)
    (ran : (session parse translate_coordinates).run phase calls = some (final, trace)) :
    phase ≠ .ended := by
  rintro rfl
  cases calls with
  | nil =>
      obtain ⟨rfl, -⟩ : .ended = final ∧ [] = trace := by simpa using ran
      exact alive rfl
  | cons call calls =>
      obtain ⟨next, log, rest, took, -, -⟩ :=
        (session parse translate_coordinates).run_cons_eq_some.mp ran
      rw [session_ended] at took
      cases took

/-- The loop of `main`, as long as the program runs. -/
theorem run_reads {readings : List Reading} {final : Phase} {trace : List (Call × List Action)}
    (alive : final ≠ .ended)
    (ran : (session parse translate_coordinates).run .reading (readings.map .reads) =
      some (final, trace)) :
    final = .reading ∧ (readings.forM (turn parse translate_coordinates)).run () =
      ⟨.ok (), (), trace.flatMap Prod.snd⟩ := by
  induction readings generalizing trace with
  | nil =>
      obtain ⟨rfl, rfl⟩ : .reading = final ∧ [] = trace := by simpa using ran
      exact ⟨rfl, rfl⟩
  | cons reading readings inductionHypothesis =>
      obtain ⟨next, log, rest, took, continued, rfl⟩ :=
        (session parse translate_coordinates).run_cons_eq_some.mp ran
      obtain ⟨body, found, outcome⟩ := session_body (run_alive alive continued) took
      cases found
      obtain ⟨⟨⟩, ⟨⟩, here, later, turned, stays, rfl⟩ := Act.run_bind_eq_ok.mp outcome
      cases stays
      obtain ⟨same, loop⟩ := inductionHypothesis continued
      refine ⟨same, ?_⟩
      simp only [Act.run_forM_cons, turned, Act.andThen_ok, loop, List.flatMap_cons,
        List.append_nil]

/-- What is done in a run of the calls is what `main` does. -/
theorem run_main {asked opened : WriteResult} {reply : Reading} {readings : List Reading}
    {final : Phase} {trace : List (Call × List Action)} (alive : final ≠ .ended)
    (ran : (session parse translate_coordinates).run .asking
      (.writes asked :: .reads reply :: .writes opened :: readings.map .reads) =
        some (final, trace)) :
    final = .reading ∧ (main parse translate_coordinates asked reply opened readings).run () =
      ⟨.ok (), (), trace.flatMap Prod.snd⟩ := by
  obtain ⟨first, asking, rest, requested, continued, rfl⟩ :=
    (session parse translate_coordinates).run_cons_eq_some.mp ran
  obtain ⟨body, found, asks⟩ := session_body (run_alive alive continued) requested
  cases found
  obtain ⟨⟨⟩, ⟨⟩, here, later, wrote, stays, rfl⟩ := Act.run_bind_eq_ok.mp asks
  cases stays
  obtain ⟨second, awaiting, others, replied, goesOn, rfl⟩ :=
    (session parse translate_coordinates).run_cons_eq_some.mp continued
  obtain ⟨body, found, answered⟩ := session_body (run_alive alive goesOn) replied
  cases found
  rcases bytes : reply.bytes with _ | ⟨channelNumber, more⟩
  · rw [bytes] at answered
    cases answered
  rw [bytes] at answered
  cases answered
  obtain ⟨third, opening, loops, tells, reads, rfl⟩ :=
    (session parse translate_coordinates).run_cons_eq_some.mp goesOn
  obtain ⟨body, found, opens⟩ := session_body (run_alive alive reads) tells
  cases found
  obtain ⟨⟨⟩, ⟨⟩, registers, later, registered, stays, rfl⟩ := Act.run_bind_eq_ok.mp opens
  cases stays
  obtain ⟨same, loop⟩ := run_reads alive reads
  refine ⟨same, ?_⟩
  simp only [main, openChannel, Act.run_bind, wrote, bytes, registered, loop, Act.andThen_ok,
    Act.run_pure, List.flatMap_cons, List.append_nil, List.nil_append, List.append_assoc]

end Runs

end GetEvents

end AACS
