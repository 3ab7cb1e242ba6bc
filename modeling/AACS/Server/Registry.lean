import AACS.Server.Turns

/-!
The registry of the clients.

Two tables say who is connected: the map of `main`, and the sets of the input
handlers. In every reachable state the map is a map, numbers its clients apart and
holds every client whose thread still runs (`State.Wired`). The converse, that a
client in the map is alive and a registered number is one of the map
(`State.Tidy`), needs that no client is dropped half.
-/

namespace AACS

namespace AAServer

open Effects

def ChannelHandler.registered (handler : ChannelHandler) : List Int :=
  match handler.kind with
  | .input input => input.registered_clients
  | _ => []

section Map

theorem mem_insertClient {entry other : Nat × Int} {clients : List (Nat × Int)} :
    other ∈ insertClient entry clients ↔ other = entry ∨ other ∈ clients := by
  rw [insertClient, (List.perm_orderedInsert _ entry clients).mem_iff, List.mem_cons]

theorem map_insertClient {α : Type} (entry : Nat × Int) (clients : List (Nat × Int))
    (field : Nat × Int → α) :
    (insertClient entry clients).map field |>.Perm (field entry :: clients.map field) :=
  (List.perm_orderedInsert _ entry clients).map field

theorem mem_eraseClient {scl : Nat} {other : Nat × Int} {clients : List (Nat × Int)} :
    other ∈ eraseClient scl clients ↔ other ∈ clients ∧ other.1 ≠ scl := by
  simp [eraseClient]

theorem eraseClient_sublist (scl : Nat) (clients : List (Nat × Int)) :
    (eraseClient scl clients).Sublist clients := List.filter_sublist

theorem lookup_of_mem {clients : List (Nat × Int)} {scl : Nat} {clientId : Int}
    (keys : (clients.map Prod.fst).Nodup) (membership : (scl, clientId) ∈ clients) :
    clients.lookup scl = some clientId := by
  induction clients with
  | nil => simp at membership
  | cons head rest inductionHypothesis =>
      obtain ⟨fresh, distinct⟩ := List.nodup_cons.mp keys
      rcases List.mem_cons.mp membership with rfl | later
      · simp
      · have different : scl ≠ head.1 := by
          rintro rfl
          exact fresh (List.mem_map.mpr ⟨_, later, rfl⟩)
        rw [List.lookup_cons, beq_false_of_ne different]
        exact inductionHypothesis distinct later

theorem mem_of_lookup {clients : List (Nat × Int)} {scl : Nat} {clientId : Int}
    (found : clients.lookup scl = some clientId) : (scl, clientId) ∈ clients := by
  induction clients with
  | nil => cases found
  | cons head rest inductionHypothesis =>
      rw [List.lookup_cons] at found
      by_cases same : scl = head.1
      · subst same
        simp only [beq_self_eq_true] at found
        cases found
        exact List.mem_cons_self
      · rw [beq_false_of_ne same] at found
        exact List.mem_cons_of_mem _ (inductionHypothesis found)

end Map

structure State.Wired (state : State) : Prop where
  keys : (state.clients.map Prod.fst).Nodup
  numbers : (state.clients.map Prod.snd).Nodup
  counting : 0 ≤ state.clientCount
  counted : ∀ cl ∈ state.clients, 0 ≤ cl.2 ∧ cl.2 < state.clientCount
  present : ∀ cl ∈ state.clients, (state.sockets cl.1).isSome
  alive : ∀ scl client, state.sockets scl = some client → client.thread ≠ .ended →
    scl ∈ state.clients.map Prod.fst ∧ state.descriptors client.fd = some scl

theorem State.Wired.destination {state : State} (wired : state.Wired) {scl : Nat}
    {client : SocketClient} (present : state.sockets scl = some client)
    (runs : client.thread ≠ .ended) (write : Nat → WriteResult) :
    state.destination write scl =
      match write scl with
      | .complete => .ok scl
      | .failed errno => .error errno := by
  have own := (wired.alive scl client present runs).2
  cases result : write scl <;> simp [State.destination, present, own, result]

theorem State.Wired.known {state : State} (wired : state.Wired) {scl : Nat}
    {client : SocketClient} (present : state.sockets scl = some client)
    (runs : client.thread ≠ .ended) : ∃ clientId, state.clients.lookup scl = some clientId := by
  obtain ⟨⟨other, clientId⟩, membership, rfl⟩ :=
    List.mem_map.mp (wired.alive scl client present runs).1
  exact ⟨clientId, lookup_of_mem wired.keys membership⟩

theorem State.Quiet.alive {before after : State} (quiet : before.Quiet after) {scl : Nat}
    {client : SocketClient} (present : after.sockets scl = some client) :
    ∃ old, before.sockets scl = some old ∧ old.fd = client.fd ∧ old.thread = client.thread := by
  have same := quiet.sockets scl
  rw [present, Option.map_some] at same
  obtain ⟨old, found, status⟩ := Option.map_eq_some_iff.mp same.symm
  exact ⟨old, found, congrArg Prod.fst status, congrArg Prod.snd status⟩

theorem State.Quiet.symm {before after : State} (quiet : before.Quiet after) :
    after.Quiet before :=
  ⟨quiet.handlers.symm, quiet.channelHandlers.symm, quiet.channelTypes.symm,
    quiet.serviceDescriptor.symm, quiet.clients.symm, quiet.clientCount.symm,
    quiet.socketClients.symm, fun scl => (quiet.sockets scl).symm, quiet.descriptors.symm⟩

theorem State.Quiet.destination {state next : State} (quiet : state.Quiet next)
    (write : Nat → WriteResult) (scl : Nat) :
    next.destination write scl = state.destination write scl := by
  have sameTarget : ((next.sockets scl).bind fun client => next.descriptors client.fd) =
      (state.sockets scl).bind fun client => state.descriptors client.fd := by
    have status := congrArg (Option.bind · fun fd => state.descriptors fd.1) (quiet.sockets scl)
    simpa [quiet.descriptors, Option.bind_map, SocketClient.status, Function.comp_def] using status
  unfold State.destination
  rw [sameTarget]

theorem wired_initial : initial.Wired where
  keys := List.nodup_nil
  numbers := List.nodup_nil
  counting := le_refl 0
  counted := by simp [initial]
  present := by simp [initial]
  alive := by simp [initial]

section Wiring

variable {state next : State} {scl : Nat} {client : SocketClient}

theorem State.Wired.quiet (wired : state.Wired) (quiet : state.Quiet next) : next.Wired where
  keys := quiet.clients ▸ wired.keys
  numbers := quiet.clients ▸ wired.numbers
  counting := quiet.clientCount ▸ wired.counting
  counted := quiet.clients ▸ quiet.clientCount ▸ wired.counted
  present := by
    intro cl membership
    rw [quiet.clients] at membership
    have same := congrArg Option.isSome (quiet.sockets cl.1)
    simpa using same.trans (by simpa using wired.present cl membership)
  alive := by
    intro scl client present runs
    obtain ⟨old, found, fd, thread⟩ := quiet.alive present
    rw [quiet.clients, quiet.descriptors, ← fd]
    exact wired.alive scl old found (thread ▸ runs)

theorem State.Wired.discovers (wired : state.Wired) (found : state.Discovers next) :
    next.Wired where
  keys := found.clients ▸ wired.keys
  numbers := found.clients ▸ wired.numbers
  counting := found.clientCount ▸ wired.counting
  counted := found.clients ▸ found.clientCount ▸ wired.counted
  present := found.clients ▸ found.sockets ▸ wired.present
  alive := by
    rw [found.clients, found.sockets, found.descriptors]
    exact wired.alive

theorem State.Wired.goesOn (wired : state.Wired) (present : state.sockets scl = some client)
    (runs : client.thread ≠ .ended) (thread : ClientThread) (clients : next.clients = state.clients)
    (clientCount : next.clientCount = state.clientCount)
    (sockets : next.sockets =
      Function.update state.sockets scl (some { client with thread }))
    (descriptors : next.descriptors = state.descriptors) : next.Wired where
  keys := clients ▸ wired.keys
  numbers := clients ▸ wired.numbers
  counting := clientCount ▸ wired.counting
  counted := clients ▸ clientCount ▸ wired.counted
  present := by
    intro cl membership
    rw [clients] at membership
    rw [sockets, Function.update_apply]
    split
    · rfl
    · exact wired.present cl membership
  alive := by
    intro other otherClient found runsToo
    rw [sockets, Function.update_apply] at found
    rw [clients, descriptors]
    split at found
    next same =>
      cases found
      exact same ▸ wired.alive scl client present runs
    next different => exact wired.alive other otherClient found runsToo

theorem State.Wired.ends (wired : state.Wired) (present : state.sockets scl = some client)
    (runs : client.thread ≠ .ended)
    (clients : next.clients = state.clients ∨ next.clients = eraseClient scl state.clients)
    (clientCount : next.clientCount = state.clientCount)
    (sockets : next.sockets =
      Function.update state.sockets scl (some { client with thread := .ended }))
    (descriptors : next.descriptors = state.descriptors ∨
      next.descriptors = Function.update state.descriptors client.fd none) : next.Wired := by
  have sublist : next.clients.Sublist state.clients := by
    rcases clients with same | erased
    · rw [same]
    · rw [erased]
      exact eraseClient_sublist scl state.clients
  refine ⟨wired.keys.sublist (sublist.map _), wired.numbers.sublist (sublist.map _),
    clientCount ▸ wired.counting, ?_, ?_, ?_⟩
  · intro cl membership
    rw [clientCount]
    exact wired.counted cl (sublist.subset membership)
  · intro cl membership
    rw [sockets, Function.update_apply]
    split
    · rfl
    · exact wired.present cl (sublist.subset membership)
  · intro other otherClient found runsToo
    rw [sockets, Function.update_apply] at found
    split at found
    next same =>
      cases found
      exact absurd rfl runsToo
    next different =>
      obtain ⟨membership, opened⟩ := wired.alive other otherClient found runsToo
      constructor
      · rcases clients with same | erased
        · rw [same]
          exact membership
        · obtain ⟨cl, inside, rfl⟩ := List.mem_map.mp membership
          rw [erased]
          exact List.mem_map_of_mem (mem_eraseClient.mpr ⟨inside, different⟩)
      · rcases descriptors with same | closed
        · rw [same]
          exact opened
        · rw [closed, Function.update_apply]
          split
          next fd =>
            have mine := (wired.alive scl client present runs).2
            rw [← fd, opened] at mine
            exact absurd (Option.some.inj mine) different
          next => exact opened

theorem withThread_sockets (present : state.sockets scl = some client) (thread : ClientThread) :
    (state.withThread scl thread).sockets =
      Function.update state.sockets scl (some { client with thread }) := by
  simp [State.withThread, State.updateSocket, present]

theorem close_eq (present : state.sockets scl = some client) :
    state.close scl = { state with
      sockets := Function.update state.sockets scl (some { client with thread := .ended })
      descriptors := Function.update state.descriptors client.fd none } := by
  simp [State.close, present]

theorem State.Wired.clientTurn {clientId : Int} {outputs : List Output} (wired : state.Wired)
    (present : state.sockets scl = some client) (runs : client.thread ≠ .ended)
    (turn : ClientTurn state scl clientId next outputs) : next.Wired := by
  cases turn with
  | goesOn alive silent =>
      exact wired.goesOn present runs _ rfl rfl (withThread_sockets present _) rfl
  | registers pointer =>
      have kept : (state.register pointer clientId).sockets scl = some client := present
      exact wired.goesOn present runs _ rfl rfl (withThread_sockets kept _) rfl
  | answered bytes found opened =>
      exact wired.goesOn present runs _ rfl rfl (withThread_sockets present _) rfl
  | fails =>
      rw [close_eq present]
      exact wired.ends present runs (.inl rfl) rfl rfl (.inr rfl)
  | thrownOut silent =>
      have kept : (state.forget scl clientId).sockets scl = some client := present
      rw [close_eq kept]
      exact wired.ends present runs (.inr rfl) rfl rfl (.inr rfl)
  | leaves =>
      have kept : (({ state with
        socketClients := state.socketClients.erase scl } : State).forget scl clientId).sockets scl =
          some client := present
      exact wired.ends present runs (.inr rfl) rfl (withThread_sockets kept _) (.inl rfl)

theorem State.Wired.accept (wired : state.Wired) {fd : Nat} (stack : Buffer)
    (fresh : state.sockets scl = none) (free : state.descriptors fd = none) :
    (state.accept scl fd stack).Wired := by
  have newKey : ∀ cl ∈ state.clients, cl.1 ≠ scl := by
    intro cl membership same
    have known := wired.present cl membership
    rw [same, fresh] at known
    cases known
  have newNumber : ∀ cl ∈ state.clients, cl.2 ≠ state.clientCount := fun cl membership =>
    (wired.counted cl membership).2.ne
  refine ⟨?_, ?_, by have := wired.counting; simp only [State.accept]; omega, ?_, ?_, ?_⟩
  · refine (map_insertClient _ _ _).nodup_iff.mpr (List.nodup_cons.mpr ⟨?_, wired.keys⟩)
    simpa using fun clientId membership => newKey (scl, clientId) membership rfl
  · refine (map_insertClient _ _ _).nodup_iff.mpr (List.nodup_cons.mpr ⟨?_, wired.numbers⟩)
    simpa using fun other membership => newNumber (other, state.clientCount) membership rfl
  · intro cl membership
    have counting := wired.counting
    simp only [State.accept]
    rcases mem_insertClient.mp membership with rfl | old
    · exact ⟨counting, by simp⟩
    · have bounds := wired.counted cl old
      omega
  · intro cl membership
    simp only [State.accept, Function.update_apply]
    split
    · rfl
    · rcases mem_insertClient.mp membership with rfl | old
      · exact absurd rfl ‹_›
      · exact wired.present cl old
  · intro other otherClient found runs
    simp only [State.accept, Function.update_apply] at found ⊢
    split at found
    next same =>
      cases found
      exact ⟨List.mem_map.mpr ⟨_, mem_insertClient.mpr (.inl rfl), same.symm⟩, by simp [same]⟩
    next different =>
      obtain ⟨membership, opened⟩ := wired.alive other otherClient found runs
      obtain ⟨cl, inside, rfl⟩ := List.mem_map.mp membership
      refine ⟨List.mem_map_of_mem (mem_insertClient.mpr (.inr inside)), ?_⟩
      split
      next same =>
        rw [same, free] at opened
        cases opened
      next => exact opened

def Event.actor : Event → Option Nat
  | .read scl _ _ => some scl
  | .clientStep scl => some scl
  | _ => none

theorem client_turn {protobuf : Protobuf} {event : Event} {outputs : List Output}
    (known : ∀ {client}, state.sockets scl = some client → client.thread ≠ .ended →
      ∃ clientId, state.clients.lookup scl = some clientId)
    (took : (machine protobuf).step state event = some (next, outputs))
    (acts : event.actor = some scl) :
    ∃ client clientId before, state.sockets scl = some client ∧ client.thread ≠ .ended ∧
      state.clients.lookup scl = some clientId ∧ state.Quiet before ∧
      ClientTurn before scl clientId next outputs := by
  cases event with
  | read other reading write =>
      cases acts
      obtain ⟨client, present, ready⟩ := step_read_ready took
      have runs : client.thread ≠ .ended := by simp [ready]
      obtain ⟨clientId, member⟩ := known present runs
      obtain ⟨before, quiet, turn⟩ := read_turn member took
      exact ⟨client, clientId, before, present, runs, member, quiet, turn⟩
  | clientStep other =>
      cases acts
      obtain ⟨client, present, runs⟩ := clientStep_opening took
      obtain ⟨clientId, member⟩ := known present runs
      obtain ⟨before, quiet, turn⟩ := clientStep_turn member took
      exact ⟨client, clientId, before, present, runs, member, quiet, turn⟩
  | connect | headunit | sample | streamStep | threadTerminated => cases acts

theorem client_wired {protobuf : Protobuf} {event : Event} {outputs : List Output}
    (wired : state.Wired) (took : (machine protobuf).step state event = some (next, outputs))
    (acts : event.actor = some scl) : next.Wired := by
  obtain ⟨client, clientId, before, present, runs, -, quiet, turn⟩ :=
    client_turn wired.known took acts
  obtain ⟨old, found, -, thread⟩ := quiet.symm.alive present
  exact (wired.quiet quiet).clientTurn found (thread ▸ runs) turn

theorem step_wired {protobuf : Protobuf} {event : Event} {outputs : List Output}
    (wired : state.Wired)
    (took : (machine protobuf).step state event = some (next, outputs)) : next.Wired := by
  cases event with
  | connect scl fd stack =>
      obtain ⟨fresh, free, rfl, -⟩ := connect_turn took
      exact wired.accept stack fresh free
  | read scl reading write => exact client_wired wired took rfl
  | clientStep scl => exact client_wired wired took rfl
  | headunit message accept write =>
      cases discovery : isServiceDiscoveryResponse message with
      | false => exact wired.quiet (headunit_quiet discovery took)
      | true =>
          obtain ⟨found, discovers, quiet⟩ := headunit_discovers discovery took
          exact (wired.discovers discovers).quiet quiet
  | sample | streamStep | threadTerminated => exact wired.quiet (background_turn took trivial).1

end Wiring

theorem run_wired {protobuf : Protobuf} {events : List Event} {final : State}
    {trace : List (Event × List Output)}
    (ran : (machine protobuf).run initial events = some (final, trace)) : final.Wired :=
  (machine protobuf).run_keeps (fun wired took => step_wired wired took) wired_initial ran

end AAServer

end AACS
