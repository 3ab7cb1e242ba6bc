import AACS.Server.Registry

/-!
The end of the process.

When `mre` is set, `main` leaves, and `~SocketCommunicator` waits for the listening
thread and deletes the clients one after the other. All other threads go on in the
meantime; `~AaCommunicator` comes later.
-/

namespace AACS

namespace AAServer

open Effects FanOut Transitions

/-- Where `main` is: it waits for `mre`, or for the listening thread, or it deletes a
client, before and after it has set `clientThreadCancel`. -/
inductive MainThread where
  | waiting
  | joiningListenThread
  | deleting (scl : Nat)
  | joiningClientThread (scl : Nat)
  | finished
  deriving DecidableEq, Repr

structure Process where
  server : State
  main : MainThread
  /-- The clients that have been deleted. -/
  deleted : List Nat
  /-- The clients for whose descriptor `close` has been called, as often as it has. -/
  closed : List Nat

def Process.initial : Process where
  server := AAServer.initial
  main := .waiting
  deleted := []
  closed := []

inductive ProcessEvent where
  | server (event : Event)
  /-- The error slot or the handler of the signal. -/
  | mreSet
  | listenThreadJoined
  | clientThreadCancel
  /-- The thread of the client finds the flag set after its `select`. -/
  | clientThreadBreaks
  | clientThreadJoined

def State.clientBody (protobuf : Protobuf) (state : State) :
    Event → Option (Nat × ServerAct ClientThread)
  | .read scl reading write =>
      (state.sockets scl).map fun client => (scl, clientRead write scl client reading)
  | .clientStep scl =>
      match (state.sockets scl).map SocketClient.thread with
      | some (.opening pointer step) => some (scl, clientOpen protobuf scl pointer step)
      | _ => none
  | _ => none

/-- The clients whose descriptor a turn closes: the thread's `catch` does. -/
def State.closings (protobuf : Protobuf) (state : State) (event : Event) : List Nat :=
  match state.clientBody protobuf event with
  | none => []
  | some (scl, body) =>
      match (body.run state).result with
      | .error (.thrown _) => [scl]
      | _ => []

/-- The clients that a turn of the head unit's pump writes to, or tries to. -/
def State.writesTo (state : State) : Event → List Nat
  | .headunit message _ write =>
      match state.route message with
      | none => []
      | some (recipients, _) => attempted (state.destination write) isReset recipients
  | _ => []

/-- No connection is accepted when the listening thread is gone, and no packet is read when
the thread has been told to end. A write through a deleted client is not defined. -/
def Process.permits (process : Process) (event : Event) : Bool :=
  match event with
  | .connect _ _ _ => process.main = .waiting ∨ process.main = .joiningListenThread
  | .read scl _ _ => process.main ≠ .joiningClientThread scl
  | event => (process.server.writesTo event).all fun scl => scl ∉ process.deleted

/-- `close(fd)`, and the client is gone. -/
def Process.delete (process : Process) (scl fd : Nat) : Process :=
  { process with
    server := { process.server with
      descriptors := Function.update process.server.descriptors fd none }
    deleted := process.deleted ++ [scl]
    closed := process.closed ++ [scl] }

def Process.goOn (process : Process) (clients : List Nat) : Process :=
  { process with main :=
      match clients.min? with
      | some scl => .deleting scl
      | none => .finished }

def Process.step (protobuf : Protobuf) (process : Process) :
    ProcessEvent → Option (Process × List Output)
  | .server event =>
      if process.permits event then
        match AAServer.step protobuf process.server event with
        | some (server, outputs) =>
            some ({ process with
              server, closed := process.closed ++ process.server.closings protobuf event }, outputs)
        | none => none
      else none
  | .mreSet =>
      if process.main = .waiting then some ({ process with main := .joiningListenThread }, [])
      else none
  | .listenThreadJoined =>
      if process.main = .joiningListenThread then
        some (process.goOn process.server.socketClients, [])
      else none
  | .clientThreadCancel =>
      match process.main with
      | .deleting scl => some ({ process with main := .joiningClientThread scl }, [])
      | _ => none
  | .clientThreadBreaks =>
      match process.main with
      | .joiningClientThread scl =>
          if (process.server.sockets scl).map SocketClient.thread = some .reading then
            some ({ process with server := process.server.withThread scl .ended }, [])
          else none
      | _ => none
  | .clientThreadJoined =>
      match process.main with
      | .joiningClientThread scl =>
          match process.server.sockets scl with
          | none => none
          | some client =>
              -- when the client has left the set, the iterator is dangling
              if client.thread = .ended ∧ scl ∈ process.server.socketClients then
                some ((process.delete scl client.fd).goOn
                  (process.server.socketClients.filter (scl < ·)), [])
              else none
      | _ => none

def process (protobuf : Protobuf) : Machine Process ProcessEvent Output := ⟨Process.step protobuf⟩

section Steps

variable {protobuf : Protobuf} {before after : Process} {outputs : List Output}

theorem server_step {event : Event}
    (took : (process protobuf).step before (.server event) = some (after, outputs)) :
    ∃ server, before.permits event = true ∧
      (machine protobuf).step before.server event = some (server, outputs) ∧
      after = { before with
        server, closed := before.closed ++ before.server.closings protobuf event } := by
  simp only [process, Process.step] at took
  split at took
  next permitted =>
    split at took
    next server put stepped =>
      cases took
      exact ⟨server, permitted, stepped, rfl⟩
    next => cases took
  next => cases took

theorem clientThreadBreaks_step
    (took : (process protobuf).step before .clientThreadBreaks = some (after, outputs)) :
    ∃ scl client, before.main = .joiningClientThread scl ∧
      before.server.sockets scl = some client ∧ client.thread = .reading ∧
      after = { before with server := before.server.withThread scl .ended } := by
  simp only [process, Process.step] at took
  split at took
  next scl main =>
    split at took
    next reading =>
      cases took
      obtain ⟨client, present, ready⟩ := Option.map_eq_some_iff.mp reading
      exact ⟨scl, client, main, present, ready, rfl⟩
    next => cases took
  next => cases took

theorem clientThreadJoined_step
    (took : (process protobuf).step before .clientThreadJoined = some (after, outputs)) :
    ∃ scl client, before.main = .joiningClientThread scl ∧
      before.server.sockets scl = some client ∧ client.thread = .ended ∧
      scl ∈ before.server.socketClients ∧
      after = (before.delete scl client.fd).goOn
        (before.server.socketClients.filter (scl < ·)) := by
  simp only [process, Process.step] at took
  split at took
  next scl main =>
    split at took
    next => cases took
    next client present =>
      split at took
      next ready =>
        cases took
        exact ⟨scl, client, main, present, ready.1, ready.2, rfl⟩
      next => cases took
  next => cases took

theorem main_step {event : ProcessEvent}
    (took : (process protobuf).step before event = some (after, outputs))
    (main : ∀ other, event ≠ .server other) :
    (∃ thread, after = { before with main := thread } ∧
      ((before.main = .waiting ∧ thread = .joiningListenThread) ∨
        ∃ scl, before.main = .deleting scl ∧ thread = .joiningClientThread scl)) ∨
    (before.main = .joiningListenThread ∧ after = before.goOn before.server.socketClients) ∨
    (∃ scl client, before.main = .joiningClientThread scl ∧
      before.server.sockets scl = some client ∧ client.thread = .reading ∧
      after = { before with server := before.server.withThread scl .ended }) ∨
    ∃ scl client, before.main = .joiningClientThread scl ∧
      before.server.sockets scl = some client ∧ client.thread = .ended ∧
      scl ∈ before.server.socketClients ∧
      after = (before.delete scl client.fd).goOn
        (before.server.socketClients.filter (scl < ·)) := by
  cases event with
  | server event => exact absurd rfl (main event)
  | mreSet =>
      simp only [process, Process.step] at took
      split at took
      next waiting =>
        cases took
        exact .inl ⟨_, rfl, .inl ⟨waiting, rfl⟩⟩
      next => cases took
  | listenThreadJoined =>
      simp only [process, Process.step] at took
      split at took
      next joining =>
        cases took
        exact .inr (.inl ⟨joining, rfl⟩)
      next => cases took
  | clientThreadCancel =>
      simp only [process, Process.step] at took
      split at took
      next scl deleting =>
        cases took
        exact .inl ⟨_, rfl, .inr ⟨scl, deleting, rfl⟩⟩
      next => cases took
  | clientThreadBreaks => exact .inr (.inr (.inl (clientThreadBreaks_step took)))
  | clientThreadJoined => exact .inr (.inr (.inr (clientThreadJoined_step took)))

end Steps

section Named

variable {protobuf : Protobuf} {state next : State} {scl : Nat} {outputs : List Output}

/-- Every client whose thread runs is in the map. A descriptor that is closed twice does
not change that. -/
def State.Named (state : State) : Prop :=
  ∀ scl client, state.sockets scl = some client → client.thread ≠ .ended →
    scl ∈ state.clients.map Prod.fst

theorem lookup_of_key {clients : List (Nat × Int)} (key : scl ∈ clients.map Prod.fst) :
    ∃ clientId, clients.lookup scl = some clientId := by
  induction clients with
  | nil => cases key
  | cons head rest inductionHypothesis =>
      rw [List.lookup_cons]
      by_cases same : scl = head.1
      · exact ⟨head.2, by simp [same]⟩
      · rw [beq_false_of_ne same]
        exact inductionHypothesis ((List.mem_cons.mp key).resolve_left same)

theorem State.Named.known (named : state.Named) {client : SocketClient}
    (present : state.sockets scl = some client) (runs : client.thread ≠ .ended) :
    ∃ clientId, state.clients.lookup scl = some clientId :=
  lookup_of_key (named scl client present runs)

theorem ClientTurn.own {clientId : Int} {client : SocketClient}
    (turn : ClientTurn state scl clientId next outputs)
    (present : state.sockets scl = some client) :
    ∃ thread, next.sockets scl = some { client with thread } ∧
      (thread ≠ .ended → next.clients = state.clients) ∧
      (next.clients = state.clients ∨ next.clients = eraseClient scl state.clients) := by
  have updated (state : State) (found : state.sockets scl = some client) (thread : ClientThread) :
      (state.withThread scl thread).sockets scl = some { client with thread } := by
    rw [withThread_sockets found, Function.update_self]
  cases turn with
  | goesOn alive silent => exact ⟨_, updated state present _, fun _ => rfl, .inl rfl⟩
  | registers pointer => exact ⟨_, updated _ present _, fun _ => rfl, .inl rfl⟩
  | answered bytes found opened => exact ⟨_, updated state present _, fun _ => rfl, .inl rfl⟩
  | fails =>
      rw [close_eq present]
      exact ⟨.ended, Function.update_self _ _ _, by simp, .inl rfl⟩
  | thrownOut silent =>
      have kept : (state.forget scl clientId).sockets scl = some client := present
      rw [close_eq kept]
      exact ⟨.ended, Function.update_self _ _ _, by simp, .inr rfl⟩
  | leaves => exact ⟨.ended, updated _ present _, by simp, .inr rfl⟩

theorem State.Named.same (named : state.Named) (clients : next.clients = state.clients)
    (sockets : ∀ scl, (next.sockets scl).map SocketClient.status =
      (state.sockets scl).map SocketClient.status) : next.Named := by
  intro scl client present runs
  have status := sockets scl
  rw [present, Option.map_some] at status
  obtain ⟨old, found, same⟩ := Option.map_eq_some_iff.mp status.symm
  have thread : old.thread = client.thread := congrArg Prod.snd same
  rw [clients]
  exact named scl old found (thread ▸ runs)

theorem State.Named.turn {clientId : Int} {client : SocketClient} (named : state.Named)
    (turn : ClientTurn state scl clientId next outputs) (present : state.sockets scl = some client)
    (member : scl ∈ state.clients.map Prod.fst) : next.Named := by
  obtain ⟨thread, own, stays, clients⟩ := turn.own present
  intro other otherClient found runs
  by_cases same : other = scl
  · subst same
    rw [own] at found
    cases found
    rw [stays runs]
    exact member
  · rw [turn.sockets_other same] at found
    have before := named other otherClient found runs
    rcases clients with kept | erased
    · rw [kept]
      exact before
    · obtain ⟨entry, inside, rfl⟩ := List.mem_map.mp before
      rw [erased]
      exact List.mem_map_of_mem (mem_eraseClient.mpr ⟨inside, same⟩)

theorem client_named {event : Event} (named : state.Named)
    (took : (machine protobuf).step state event = some (next, outputs))
    (acts : event.actor = some scl) : next.Named := by
  obtain ⟨client, clientId, before, present, runs, -, quiet, turn⟩ :=
    client_turn named.known took acts
  obtain ⟨old, found, -, -⟩ := quiet.symm.alive present
  exact (named.same quiet.clients quiet.sockets).turn turn found
    (quiet.clients ▸ named scl client present runs)

theorem step_named {event : Event} (named : state.Named)
    (took : (machine protobuf).step state event = some (next, outputs)) : next.Named := by
  cases event with
  | connect scl fd stack =>
      obtain ⟨-, -, rfl, -⟩ := connect_turn took
      intro other client found runs
      simp only [State.accept, Function.update_apply] at found ⊢
      split at found
      next same => exact List.mem_map.mpr ⟨_, mem_insertClient.mpr (.inl rfl), same.symm⟩
      next different =>
        obtain ⟨entry, inside, rfl⟩ := List.mem_map.mp (named other client found runs)
        exact List.mem_map_of_mem (mem_insertClient.mpr (.inr inside))
  | read scl reading write => exact client_named named took rfl
  | clientStep scl => exact client_named named took rfl
  | headunit message accept write =>
      cases discovery : isServiceDiscoveryResponse message with
      | false =>
          have quiet := headunit_quiet discovery took
          exact named.same quiet.clients quiet.sockets
      | true =>
          obtain ⟨found, discovers, quiet⟩ := headunit_discovers discovery took
          exact (named.same discovers.clients fun scl => by rw [discovers.sockets]).same
            quiet.clients quiet.sockets
  | sample | streamStep | threadTerminated =>
      have quiet := (background_turn took trivial).1
      exact named.same quiet.clients quiet.sockets

theorem process_named {before after : Process} {event : ProcessEvent}
    (named : before.server.Named)
    (took : (process protobuf).step before event = some (after, outputs)) : after.server.Named := by
  cases event with
  | server event =>
      obtain ⟨server, -, stepped, rfl⟩ := server_step took
      exact step_named named stepped
  | clientThreadBreaks =>
      obtain ⟨scl, client, -, present, -, rfl⟩ := clientThreadBreaks_step took
      intro other otherClient found runs
      rw [withThread_sockets present, Function.update_apply] at found
      split at found
      next =>
        cases found
        exact absurd rfl runs
      next => exact named other otherClient found runs
  | clientThreadJoined =>
      obtain ⟨scl, client, -, -, -, -, rfl⟩ := clientThreadJoined_step took
      exact named
  | mreSet | listenThreadJoined =>
      simp only [process, Process.step] at took
      split at took
      · cases took
        exact named
      · cases took
  | clientThreadCancel =>
      simp only [process, Process.step] at took
      split at took
      · cases took
        exact named
      · cases took

end Named

end AAServer

end AACS
