import AACS.Server.Encrypted
import AACS.Server.Link

/-!
When `getMessage` calls `SSL_write`.

Nothing ties what is sent Encrypted to the handshake. When nothing is sent so before the
first SslHandshake message, `SSL_write` gets an `ssl` object; and when something is, the
thread that empties the queue may come first.
-/

namespace AACS

namespace AAServer

open RecordLayer Transitions

/-- Nothing is sent Encrypted before the first SslHandshake message. -/
def Patient {σ : Type} (protobuf : Protobuf) (link : Link σ) : LinkEvent σ → Prop
  | .server event _ => link.sender.ssl = none → ¬ link.server.SendsEncrypted protobuf event
  | .getMessage => True

section Links

variable {σ : Type} {tls : Sealer σ UInt8} {protobuf : Protobuf} {current next : Link σ}
  {event : LinkEvent σ} {outputs : List LinkOutput} {past events : List (LinkEvent σ)}

def LinkEvent.isSslHandshake : LinkEvent σ → Bool
  | .server event _ => event.isSslHandshake
  | .getMessage => false

/-- There is an `ssl` object, since an SslHandshake message has been handled. -/
def Link.Handshaken (current : Link σ) (past : List (LinkEvent σ)) : Prop :=
  current.sender.ssl.isSome ∧ ∃ event ∈ past, event.isSslHandshake = true

/-- Before the handshake only Plain messages wait in the queue. -/
structure Link.Sealed (current : Link σ) (past : List (LinkEvent σ)) : Prop where
  wired : current.server.Wired
  handshake : current.sender.ssl.isSome → ∃ event ∈ past, event.isSslHandshake = true
  plain : current.sender.ssl = none → ∀ message ∈ current.sender.sendQueue,
    isEncrypted message.flags = false
  alive : current.sender.ssl = none → current.pumping = true ∧ current.crashed = false

theorem sealed_initial : (Link.initial : Link σ).Sealed [] where
  wired := wired_initial
  handshake := by simp [Link.initial]
  plain := by simp [Link.initial]
  alive _ := ⟨rfl, rfl⟩

theorem queued_plain {outputs : List Output} (plain : ¬ outputs.any Output.isEncrypted = true) :
    ∀ message ∈ queued outputs, isEncrypted message.flags = false := by
  intro message membership
  obtain ⟨output, inside, same⟩ := List.mem_filterMap.mp membership
  cases output with
  | packet connection bytes => cases same
  | enqueue channel flags content =>
      cases same
      rw [Bool.not_eq_true, List.any_eq_false] at plain
      simpa [Output.isEncrypted] using plain _ inside

theorem server_sealed {event : Event} {accepted : σ} (holds : current.Sealed past)
    (patient : Patient protobuf current (.server event accepted))
    (took : (link tls protobuf).step current (.server event accepted) = some (next, outputs)) :
    next.Sealed (past ++ [.server event accepted]) := by
  simp only [link, Link.step] at took
  split at took
  next => cases took
  split at took
  next => cases took
  next server sent stepped =>
    cases took
    have encrypts := step_encrypted_iff holds.wired stepped
    cases handshake : event.isSslHandshake with
    | true =>
        exact ⟨step_wired holds.wired stepped,
          fun _ => ⟨.server event accepted, by simp, handshake⟩, by simp, by simp⟩
    | false =>
        simp only [Bool.false_eq_true, if_false]
        refine ⟨step_wired holds.wired stepped, fun object => ?_, fun null message membership => ?_,
          holds.alive⟩
        · obtain ⟨earlier, membership, is⟩ := holds.handshake object
          exact ⟨earlier, List.mem_append_left _ membership, is⟩
        · rcases List.mem_append.mp membership with before | new
          · exact holds.plain null message before
          · exact queued_plain (encrypts.not.mpr (patient null)) message new

theorem not_callsSslWrite (plain : ∀ message ∈ current.sender.sendQueue,
    isEncrypted message.flags = false) : ¬ current.callsSslWrite = true := by
  unfold Link.callsSslWrite
  cases queue : current.sender.sendQueue with
  | nil => exact Bool.false_ne_true
  | cons message rest => simp [plain message (by simp [queue])]

theorem getMessage_silent (silent : ¬ current.callsSslWrite = true) :
    (current.getMessage tls).1 =
      { current with
        sender := { current.sender with sendQueue := current.sender.sendQueue.tail } } := by
  obtain ⟨server, ⟨sendQueue, ssl, writeBio⟩, pumping, crashed⟩ := current
  unfold Link.getMessage
  rw [if_neg fun both => silent both.1]
  cases sendQueue with
  | nil => rfl
  | cons message rest =>
      have front : isEncrypted message.flags = false := by simpa [Link.callsSslWrite] using silent
      simp [getMessage, dequeue, front]

theorem getMessage_object {nbytes : Nat} {sender : Sender (Option σ)}
    (object : sender.ssl.isSome = true) :
    (getMessage (nullable tls) nbytes sender).2.ssl.isSome = true := by
  obtain ⟨sendQueue, ssl, writeBio⟩ := sender
  obtain ⟨there, rfl⟩ := Option.isSome_iff_exists.mp object
  unfold getMessage dequeue
  split
  next => rfl
  next message rest =>
    split
    · dsimp only
      split
      next => rfl
      next written record sealed_ =>
        have some_ : written.isSome = true := by
          obtain ⟨sent, -, same⟩ := Option.map_eq_some_iff.mp sealed_
          cases same
          rfl
        split
        · exact some_
        · exact some_
    · rfl

theorem getMessage_after (object : current.sender.ssl.isSome = true) :
    (current.getMessage tls).1.sender = (getMessage (nullable tls) bufSize current.sender).2 ∧
      ((current.getMessage tls).1.server = current.server ∨
        (current.getMessage tls).1.server = { current.server with threadFinished := true }) := by
  unfold Link.getMessage
  rw [if_neg fun both => by simp [Option.isSome_iff_ne_none.mp object] at both]
  rcases getMessage (nullable tls) bufSize current.sender with ⟨result, sender⟩
  cases result with
  | timedOut => exact ⟨rfl, .inl rfl⟩
  | frame bytes => exact ⟨rfl, .inl rfl⟩
  | threw what => exact ⟨rfl, .inr rfl⟩

theorem callsSslWrite_of_reported (reported : .sslWrite ∈ (current.getMessage tls).2) :
    current.callsSslWrite = true := by
  by_contra silent
  unfold Link.getMessage at reported
  rw [if_neg silent, if_neg fun both => silent both.1] at reported
  revert reported
  rcases getMessage (nullable tls) bufSize current.sender with ⟨result, sender⟩
  cases result with
  | timedOut => exact List.not_mem_nil
  | threw what => exact List.not_mem_nil
  | frame bytes =>
      intro reported
      cases List.mem_singleton.mp reported

theorem getMessage_step (took : (link tls protobuf).step current .getMessage =
      some (next, outputs)) : next = (current.getMessage tls).1 ∧
      outputs = (current.getMessage tls).2 := by
  simp only [link, Link.step] at took
  split at took
  next => cases took
  next =>
    rw [Option.some.injEq] at took
    exact ⟨(congrArg Prod.fst took).symm, (congrArg Prod.snd took).symm⟩

theorem getMessage_sealed (holds : current.Sealed past)
    (took : (link tls protobuf).step current .getMessage = some (next, outputs)) :
    next.Sealed (past ++ [.getMessage]) := by
  obtain ⟨rfl, -⟩ := getMessage_step took
  have finished : ({ current.server with threadFinished := true } : State).Wired :=
    @step_wired _ _ protobuf .threadTerminated [] holds.wired rfl
  have handshake (object : current.sender.ssl.isSome = true) :
      ∃ event ∈ past ++ [.getMessage], event.isSslHandshake = true := by
    obtain ⟨event, membership, is⟩ := holds.handshake object
    exact ⟨event, List.mem_append_left _ membership, is⟩
  cases null : current.sender.ssl with
  | none =>
      rw [getMessage_silent (not_callsSslWrite (holds.plain null))]
      exact ⟨holds.wired, handshake, fun null message membership =>
        holds.plain null message (List.mem_of_mem_tail membership), holds.alive⟩
  | some object =>
      have there : current.sender.ssl.isSome = true := by rw [null]; rfl
      obtain ⟨sender, server⟩ := @getMessage_after σ tls current there
      have kept := @getMessage_object σ tls bufSize current.sender there
      have never {P : Prop} (gone : (current.getMessage tls).1.sender.ssl = none) : P := by
        rw [sender] at gone
        rw [gone] at kept
        cases kept
      refine ⟨?_, fun _ => handshake there, never, never⟩
      rcases server with same | ended
      · exact same ▸ holds.wired
      · exact ended ▸ finished

theorem step_sealed (holds : current.Sealed past) (patient : Patient protobuf current event)
    (took : (link tls protobuf).step current event = some (next, outputs)) :
    next.Sealed (past ++ [event]) := by
  cases event with
  | server event accepted => exact server_sealed holds patient took
  | getMessage => exact getMessage_sealed holds took

theorem not_isSslHandshake {event : Event} {state : State}
    (sends : state.SendsEncrypted protobuf event) : event.isSslHandshake = false := by
  cases event with
  | headunit message accept write =>
      rw [State.SendsEncrypted, State.AnswersEncrypted] at sends
      rw [Event.isSslHandshake, isSslHandshake, decide_eq_false_iff_not]
      rintro ⟨control, handshake⟩
      rw [if_pos control, handshake] at sends
      rcases sends with auth | ⟨ping, -⟩
      · exact absurd auth (by decide)
      · exact absurd ping (by decide)
  | _ => rfl

theorem queued_encrypted {outputs : List Output}
    (encrypts : outputs.any Output.isEncrypted = true) :
    ∃ message ∈ queued outputs, isEncrypted message.flags = true := by
  obtain ⟨output, membership, encrypted⟩ := List.any_eq_true.mp encrypts
  cases output with
  | packet connection bytes => cases encrypted
  | enqueue channel flags content =>
      exact ⟨⟨channel, flags, content, 0⟩, List.mem_filterMap.mpr ⟨_, membership, rfl⟩, encrypted⟩

/-- An Encrypted message that waits comes to the front, whatever the `ssl` pointer is. -/
theorem encrypted_reaches_front (pumping : current.pumping = true)
    (running : current.crashed = false)
    (waits : ∃ message ∈ current.sender.sendQueue, isEncrypted message.flags = true) :
    ∃ count final trace, (link tls protobuf).run current (List.replicate count .getMessage) =
        some (final, trace) ∧ final.callsSslWrite = true ∧
      final.sender.ssl = current.sender.ssl := by
  generalize queue : current.sender.sendQueue = messages at waits
  induction messages generalizing current with
  | nil => simp at waits
  | cons message rest inductionHypothesis =>
      by_cases front : isEncrypted message.flags = true
      · exact ⟨0, current, [], rfl, by rw [Link.callsSslWrite, queue]; exact front, rfl⟩
      have silent : ¬ current.callsSslWrite = true := by rwa [Link.callsSslWrite, queue]
      have after := @getMessage_silent σ tls current silent
      have later : ∃ message ∈ rest, isEncrypted message.flags = true := by
        obtain ⟨waiting, membership, encrypted⟩ := waits
        rcases List.mem_cons.mp membership with rfl | inside
        · exact absurd encrypted front
        · exact ⟨waiting, inside, encrypted⟩
      obtain ⟨count, final, trace, ran, calls, same⟩ :=
        @inductionHypothesis (current.getMessage tls).1 (by rw [after]; exact pumping)
          (by rw [after]; exact running) (by rw [after, queue]; rfl) later
      refine ⟨count + 1, final, (.getMessage, (current.getMessage tls).2) :: trace, ?_, calls, ?_⟩
      · refine (link tls protobuf).run_cons_eq_some.mpr ⟨_, _, trace, ?_, ran, rfl⟩
        simp [link, Link.step, pumping, running]
      · rw [same, after]

/-- Nothing after an impatient turn keeps `getMessage` from calling `SSL_write` with a null
pointer. -/
theorem ssl_write_after_impatient {event : Event} {accepted : σ} (holds : current.Sealed past)
    (null : current.sender.ssl = none) (sends : current.server.SendsEncrypted protobuf event)
    (took : (link tls protobuf).step current (.server event accepted) = some (next, outputs)) :
    ∃ count final trace, (link tls protobuf).run next (List.replicate count .getMessage) =
        some (final, trace) ∧ final.callsSslWrite = true ∧ final.sender.ssl = none := by
  obtain ⟨pumping, running⟩ := holds.alive null
  have early := not_isSslHandshake sends
  simp only [link, Link.step, running, early, Bool.false_eq_true, if_false] at took
  split at took
  next => cases took
  next server sent stepped =>
    cases took
    obtain ⟨message, membership, encrypted⟩ :=
      queued_encrypted ((step_encrypted_iff holds.wired stepped).mpr sends)
    obtain ⟨count, final, trace, ran, calls, same⟩ := @encrypted_reaches_front σ tls protobuf
      { current with
        server
        sender := { current.sender with sendQueue := current.sender.sendQueue ++ queued sent }
        crashed := false }
      pumping rfl ⟨message, List.mem_append_right _ membership, encrypted⟩
    exact ⟨count, final, trace, ran, calls, same.trans null⟩

end Links

section Runs

variable {σ : Type} {tls : Sealer σ UInt8} {protobuf : Protobuf} {events : List (LinkEvent σ)}
  {final : Link σ} {trace : List (LinkEvent σ × List LinkOutput)}

theorem run_sealed (patient : (link tls protobuf).Within (Patient protobuf) .initial events)
    (ran : (link tls protobuf).run .initial events = some (final, trace)) :
    final.Sealed events := by
  have kept : ∀ {current past event next outputs}, Link.Sealed current past →
      Patient protobuf current event →
      (link tls protobuf).step current event = some (next, outputs) →
      Link.Sealed next (past ++ [event]) := fun holds patient took => step_sealed holds patient took
  have holds := (link tls protobuf).run_history kept sealed_initial patient ran
  exact holds

/-- In a patient run `getMessage` takes an Encrypted message off the queue, and calls
`SSL_write`, only after an SslHandshake message. -/
theorem ssl_write_after_handshake
    (patient : (link tls protobuf).Within (Patient protobuf) .initial events)
    (ran : (link tls protobuf).run .initial events = some (final, trace)) :
    (final.callsSslWrite = true → final.Handshaken events) ∧
      ∀ next outputs, (link tls protobuf).step final .getMessage = some (next, outputs) →
        .sslWrite ∈ outputs → final.Handshaken events := by
  have holds := run_sealed patient ran
  have front (calls : final.callsSslWrite = true) : final.Handshaken events := by
    cases null : final.sender.ssl with
    | none => exact absurd calls (not_callsSslWrite (holds.plain null))
    | some object =>
        have there : final.sender.ssl.isSome = true := by rw [null]; rfl
        exact ⟨there, holds.handshake there⟩
  refine ⟨front, fun next outputs took wrote => front ?_⟩
  obtain ⟨-, rfl⟩ := getMessage_step took
  exact callsSslWrite_of_reported wrote

/-- The head unit sends SslHandshake and then AuthComplete, and both answers are taken. -/
def handshakeThenAuth : List (LinkEvent Nat) :=
  [.server (.headunit ⟨0, 3, [0, 3], 0⟩ (.answer []) fun _ => .complete) 0, .getMessage,
    .server (.headunit ⟨0, 3, [0, 4], 0⟩ (.answer []) fun _ => .complete) 0]

/-- The answer to AuthComplete is written with the `ssl` object. -/
theorem ssl_write_after_handshake_auth :
    ∃ final trace, (link nullSealer .small).run .initial handshakeThenAuth = some (final, trace) ∧
      final.callsSslWrite = true ∧ final.Handshaken handshakeThenAuth := by
  have patient : (link nullSealer .small).Within (Patient .small) .initial handshakeThenAuth := by
    refine ⟨fun _ sends => ?_, fun _ _ handshake => ⟨trivial, fun _ _ took => ?_⟩⟩
    · rcases sends with auth | ⟨ping, -⟩
      · exact absurd auth (by decide)
      · exact absurd ping (by decide)
    · cases handshake
      cases took
      exact ⟨fun null => (nomatch null), fun _ _ _ => trivial⟩
  exact ⟨_, _, rfl, rfl, (ssl_write_after_handshake patient rfl).1 rfl⟩

/-- A client sends a message for channel 0 to a server that has heard nothing yet. -/
def earlyRawData : List (LinkEvent Nat) :=
  [.server (.connect 1 10 5) 0,
    .server (.read 1 (.data [1, 0, 0, 5]) fun _ => .complete) 0]

theorem ssl_write_before_handshake :
    ∃ final trace next outputs,
      (link nullSealer .small).run .initial earlyRawData = some (final, trace) ∧
      (link nullSealer .small).step final .getMessage = some (next, outputs) ∧
      .sslWrite ∈ outputs ∧ final.sender.ssl = none ∧
      ∀ event ∈ earlyRawData, event.isSslHandshake = false := by
  refine ⟨_, _, _, _, rfl, rfl, ?_, rfl, ?_⟩
  · decide
  · decide

end Runs

end AAServer

end AACS
