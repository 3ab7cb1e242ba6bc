import AACS.Server.Endings

/-!
Who closes the descriptor of a connection.

The destructor of a client does, and so does the `catch` of its thread when a packet of
the client throws. At the end of file nobody does: the client is taken out of the set
that the destructor goes through. So a descriptor is closed once exactly when the thread
runs until it is told to end.
-/

namespace AACS

namespace AAServer

open Effects Transitions

section Closing

variable {protobuf : Protobuf} {before after : Process} {event : ProcessEvent} {scl : Nat}
  {outputs : List Output}

/-- The event does not make the thread of this client end. -/
def SparesClient (protobuf : Protobuf) (scl : Nat) (process : Process) : ProcessEvent → Prop
  | .server event => event.actor = some scl → process.server.Spares protobuf event
  | _ => True

/-- How far the destructor has come: what it has deleted comes before where it is, and what
comes before it has deleted, of the clients that are still in the set. -/
def Process.Progress (process : Process) : Prop :=
  match process.main with
  | .waiting | .joiningListenThread => process.deleted = []
  | .deleting scl | .joiningClientThread scl => (∀ other ∈ process.deleted, other < scl) ∧
      ∀ other ∈ process.server.socketClients, other < scl → other ∈ process.deleted
  | .finished => ∀ other ∈ process.server.socketClients, other ∈ process.deleted

structure Process.Sound (process : Process) : Prop where
  named : process.server.Named
  distinct : process.server.socketClients.Nodup
  members : ∀ scl ∈ process.server.socketClients, process.server.ended scl ≠ none
  deleted : ∀ scl ∈ process.deleted, process.server.ended scl = some true
  closed : ∀ scl ∈ process.closed, process.server.ended scl ≠ none
  once : process.deleted.Nodup
  progress : process.Progress

theorem initial_sound : Process.initial.Sound where
  named := by simp [Process.initial, State.Named, AAServer.initial]
  distinct := List.nodup_nil
  members := by simp [Process.initial, AAServer.initial]
  deleted := by simp [Process.initial]
  closed := by simp [Process.initial]
  once := List.nodup_nil
  progress := rfl

def Process.Intact (process : Process) (scl : Nat) : Prop :=
  ∀ ended, process.server.ended scl = some ended → scl ∈ process.server.socketClients ∧
    process.closed.count scl = process.deleted.count scl ∧
    (ended = true → process.main = .joiningClientThread scl ∨ scl ∈ process.deleted)

/-- The thread has ended by itself: nobody closes the descriptor any more, or the `catch`
has, and the destructor will close it again. -/
def Process.Damaged (process : Process) (scl : Nat) : Prop :=
  process.server.ended scl = some true ∧
    (scl ∉ process.server.socketClients ∧ process.closed.count scl = 0 ∨
      scl ∈ process.server.socketClients ∧
        process.closed.count scl = process.deleted.count scl + 1)

theorem goOn_progress {process : Process} {clients : List Nat}
    (later : ∀ other ∈ process.deleted, ∀ client ∈ clients, other < client)
    (rest : ∀ other ∈ process.server.socketClients, other ∈ process.deleted ∨ other ∈ clients) :
    (process.goOn clients).Progress := by
  unfold Process.Progress Process.goOn
  dsimp only
  cases first : clients.min? with
  | none =>
      rw [List.min?_eq_none_iff] at first
      subst first
      exact fun other inside => (rest other inside).resolve_right (by simp)
  | some scl =>
      obtain ⟨member, least⟩ := List.min?_eq_some_iff.mp first
      refine ⟨fun other inside => later other inside scl member, fun other inside earlier => ?_⟩
      exact (rest other inside).resolve_right fun among => absurd (least other among) (by omega)

theorem Process.Progress.fewer (progress : before.Progress) (main : after.main = before.main)
    (deleted : after.deleted = before.deleted)
    (members : ∀ scl ∈ after.server.socketClients, scl ∈ before.server.socketClients) :
    after.Progress := by
  unfold Process.Progress at progress ⊢
  rw [main, deleted]
  split at progress
  · exact progress
  · exact progress
  · exact ⟨progress.1, fun other inside => progress.2 other (members other inside)⟩
  · exact ⟨progress.1, fun other inside => progress.2 other (members other inside)⟩
  · exact fun other inside => progress other (members other inside)

theorem ended_mono {state next : State} {ended : Bool} {scl other : Nat}
    (updated : next.ended = Function.update state.ended scl (some ended))
    (known : state.ended other ≠ none) : next.ended other ≠ none := by
  rw [updated, Function.update_apply]
  split
  · simp
  · exact known

theorem ended_stays {state next : State} {scl other : Nat}
    (updated : next.ended = Function.update state.ended scl (some true))
    (old : state.ended other = some true) : next.ended other = some true := by
  rw [updated, Function.update_apply]
  split
  · rfl
  · exact old

theorem serverTurn_sound {server : State} {event : Event} (sound : before.Sound)
    (permitted : before.permits event = true) (named : server.Named)
    (turn : SocketTurn protobuf before.server event server) :
    ({ before with
        server
        closed := before.closed ++ before.server.closings protobuf event } : Process).Sound := by
  cases turn with
  | accepts scl fd stack connects fresh member ended silent =>
      have known (other : Nat) (old : before.server.ended other ≠ none) :
          server.ended other ≠ none := ended_mono ended old
      have early : before.deleted = [] := by
        subst connects
        have progress := sound.progress
        unfold Process.Progress at progress
        rcases of_decide_eq_true permitted with waiting | joining
        · rw [waiting] at progress
          exact progress
        · rw [joining] at progress
          exact progress
      refine ⟨named, ?_, ?_, ?_, ?_, sound.once, ?_⟩
      · refine member.nodup_iff.mpr (List.nodup_cons.mpr ⟨fun old => ?_, sound.distinct⟩)
        exact sound.members scl old fresh
      · intro other inside
        rcases List.mem_cons.mp (member.mem_iff.mp inside) with rfl | old
        · simp [ended]
        · exact known other (sound.members other old)
      · dsimp only
        simp [early]
      · rw [silent, List.append_nil]
        exact fun other old => known other (sound.closed other old)
      · subst connects
        unfold Process.Progress
        rcases of_decide_eq_true permitted with waiting | joining
        · rw [waiting]
          exact early
        · rw [joining]
          exact early
  | goesOn spared same silent =>
      refine ⟨named, ?_, ?_, ?_, ?_, sound.once, sound.progress.fewer rfl rfl ?_⟩
      · rw [same.socketClients]
        exact sound.distinct
      · rw [same.socketClients, same.ended]
        exact sound.members
      · rw [same.ended]
        exact sound.deleted
      · rw [same.ended, silent, List.append_nil]
        exact sound.closed
      · rw [same.socketClients]
        exact fun _ => id
  | leaves scl acts unspared ran member ended silent =>
      refine ⟨named, ?_, ?_, fun other old => ended_stays ended (sound.deleted other old), ?_,
        sound.once, sound.progress.fewer rfl rfl ?_⟩
      · rw [member]
        exact sound.distinct.erase scl
      · rw [member]
        exact fun other inside =>
          ended_mono ended (sound.members other (List.mem_of_mem_erase inside))
      · rw [silent, List.append_nil]
        exact fun other old => ended_mono ended (sound.closed other old)
      · rw [member]
        exact fun other => List.mem_of_mem_erase
  | throws scl acts unspared ran member ended closed =>
      refine ⟨named, ?_, ?_, fun other old => ended_stays ended (sound.deleted other old), ?_,
        sound.once, sound.progress.fewer rfl rfl ?_⟩
      · rw [member]
        exact sound.distinct
      · rw [member]
        exact fun other inside => ended_mono ended (sound.members other inside)
      · rw [closed]
        intro other inside
        rcases List.mem_append.mp inside with old | new
        · exact ended_mono ended (sound.closed other old)
        · obtain rfl := List.mem_singleton.mp new
          simp [ended]
      · rw [member]
        exact fun _ => id

/-- The destructor goes from one client to the next one. -/
theorem delete_sound {client : SocketClient} (sound : before.Sound)
    (main : before.main = .joiningClientThread scl)
    (present : before.server.sockets scl = some client)
    (finished : client.thread = .ended) :
    ((before.delete scl client.fd).goOn
      (before.server.socketClients.filter (scl < ·))).Sound := by
  have known : before.server.ended scl = some true := by
    rw [State.ended, present, Option.map_some, finished]
    rfl
  have progress := sound.progress
  unfold Process.Progress at progress
  rw [main] at progress
  obtain ⟨earlier, visited⟩ := progress
  refine ⟨sound.named, sound.distinct, sound.members, ?_, ?_, ?_, goOn_progress ?_ ?_⟩
  · intro other inside
    rcases List.mem_append.mp inside with old | last
    · exact sound.deleted other old
    · exact List.mem_singleton.mp last ▸ known
  · intro other inside
    rcases List.mem_append.mp inside with old | last
    · exact sound.closed other old
    · rw [List.mem_singleton.mp last]
      exact known.trans_ne (Option.some_ne_none true)
  · refine List.nodup_append.mpr ⟨sound.once, by simp, ?_⟩
    rintro other inside _ last rfl
    obtain rfl := List.mem_singleton.mp last
    exact absurd (earlier _ inside) (by omega)
  · intro other inside next among
    have after : scl < next := by simpa using (List.mem_filter.mp among).2
    rcases List.mem_append.mp inside with old | last
    · exact (earlier other old).trans after
    · exact List.mem_singleton.mp last ▸ after
  · intro other inside
    rcases Nat.lt_trichotomy other scl with before | same | after
    · exact .inl (List.mem_append_left _ (visited other inside before))
    · exact .inl (List.mem_append_right _ (List.mem_singleton.mpr same))
    · exact .inr (List.mem_filter.mpr ⟨inside, by simpa using after⟩)

theorem step_sound (sound : before.Sound)
    (took : (process protobuf).step before event = some (after, outputs)) : after.Sound := by
  by_cases main : ∀ other, event ≠ .server other
  · rcases main_step took main with ⟨thread, rfl, moved⟩ | ⟨joining, rfl⟩ |
        ⟨scl, client, joining, present, ready, rfl⟩ |
        ⟨scl, client, joining, present, finished, member, rfl⟩
    · refine { sound with progress := ?_ }
      have progress := sound.progress
      unfold Process.Progress at progress ⊢
      rcases moved with ⟨waiting, rfl⟩ | ⟨scl, deleting, rfl⟩
      · rw [waiting] at progress
        exact progress
      · rw [deleting] at progress
        exact progress
    · refine { sound with progress := goOn_progress ?_ fun other inside => .inr inside }
      have progress := sound.progress
      unfold Process.Progress at progress
      rw [joining] at progress
      simp [show before.deleted = [] from progress]
    · have there : (before.server.sockets scl).isSome := by rw [present]; rfl
      have updated := withThread_ended there .ended
      exact
        { named := process_named sound.named took
          distinct := sound.distinct
          members := fun other inside => ended_mono updated (sound.members other inside)
          deleted := fun other inside => ended_stays updated (sound.deleted other inside)
          closed := fun other inside => ended_mono updated (sound.closed other inside)
          once := sound.once
          progress := sound.progress.fewer rfl rfl fun _ => id }
    · exact delete_sound sound joining present finished
  · push Not at main
    obtain ⟨other, rfl⟩ := main
    obtain ⟨server, permitted, stepped, rfl⟩ := server_step took
    exact serverTurn_sound sound permitted (step_named sound.named stepped)
      (socketTurn sound.named stepped)

theorem serverTurn_intact {server : State} {other : Event} (sound : before.Sound)
    (intact : before.Intact scl)
    (spared : other.actor = some scl → before.server.Spares protobuf other)
    (turn : SocketTurn protobuf before.server other server) :
    ({ before with
      server, closed := before.closed ++ before.server.closings protobuf other } : Process).Intact
        scl := by
  intro ended now
  have counted : (before.closed ++ before.server.closings protobuf other).count scl =
      before.closed.count scl + (before.server.closings protobuf other).count scl :=
    List.count_append
  have somebodyElse {actor : Nat} (acts : other.actor = some actor)
      (unspared : ¬ before.server.Spares protobuf other) : scl ≠ actor := by
    rintro rfl
    exact unspared (spared acts)
  cases turn with
  | accepts accepted fd stack connects fresh member updated silent =>
      dsimp only at now ⊢
      rw [updated, Function.update_apply] at now
      rw [counted, silent, List.count_nil, Nat.add_zero, member.mem_iff]
      split at now
      next same =>
        subst same
        cases now
        refine ⟨List.mem_cons_self, ?_, by simp⟩
        rw [List.count_eq_zero.mpr fun inside => sound.closed scl inside fresh,
          List.count_eq_zero.mpr fun inside => by simp [sound.deleted scl inside] at fresh]
      next =>
        obtain ⟨inside, equal, finished⟩ := intact ended now
        exact ⟨List.mem_cons_of_mem _ inside, equal, finished⟩
  | goesOn _ same silent =>
      dsimp only at now ⊢
      rw [counted, silent, List.count_nil, Nat.add_zero, same.socketClients]
      exact intact ended (same.ended ▸ now)
  | leaves actor acts unspared ran member updated silent =>
      have different := somebodyElse acts unspared
      dsimp only at now ⊢
      rw [updated, Function.update_of_ne different] at now
      rw [counted, silent, List.count_nil, Nat.add_zero, member, List.mem_erase_of_ne different]
      exact intact ended now
  | throws actor acts unspared ran member updated closed =>
      have different := somebodyElse acts unspared
      dsimp only at now ⊢
      rw [updated, Function.update_of_ne different] at now
      rw [counted, closed, member, List.count_singleton, if_neg (by simpa using different.symm)]
      exact intact ended now

theorem step_intact (sound : before.Sound) (intact : before.Intact scl)
    (spared : SparesClient protobuf scl before event)
    (took : (process protobuf).step before event = some (after, outputs)) : after.Intact scl := by
  by_cases main : ∀ other, event ≠ .server other
  · rcases main_step took main with ⟨thread, rfl, moved⟩ | ⟨joining, rfl⟩ |
        ⟨other, client, joining, present, ready, rfl⟩ |
        ⟨other, client, joining, present, finished, member, rfl⟩
    · intro ended now
      obtain ⟨inside, equal, done⟩ := intact ended now
      refine ⟨inside, equal, fun finished => .inr ((done finished).resolve_left ?_)⟩
      rcases moved with ⟨waiting, -⟩ | ⟨other, deleting, -⟩
      · simp [waiting]
      · simp [deleting]
    · intro ended now
      obtain ⟨inside, equal, done⟩ := intact ended now
      exact ⟨inside, equal, fun finished => .inr ((done finished).resolve_left (by simp [joining]))⟩
    · intro ended now
      have there : (before.server.sockets other).isSome := by rw [present]; rfl
      dsimp only at now ⊢
      rw [withThread_ended there, Function.update_apply] at now
      split at now
      next same =>
        subst same
        have ran : before.server.ended scl = some false := by
          rw [State.ended, present, Option.map_some, ready]
          rfl
        obtain ⟨inside, equal, -⟩ := intact false ran
        exact ⟨inside, equal, fun _ => .inl joining⟩
      next => exact intact ended now
    · intro ended now
      obtain ⟨inside, equal, done⟩ := intact ended now
      refine ⟨inside, ?_, fun gone => .inr ?_⟩
      · change (before.closed ++ [other]).count scl = (before.deleted ++ [other]).count scl
        rw [List.count_append, List.count_append, equal]
      · change scl ∈ before.deleted ++ [other]
        rcases done gone with here | earlier
        · rw [joining] at here
          cases here
          exact List.mem_append_right _ List.mem_cons_self
        · exact List.mem_append_left _ earlier
  · push Not at main
    obtain ⟨other, rfl⟩ := main
    obtain ⟨server, permitted, stepped, rfl⟩ := server_step took
    exact serverTurn_intact sound intact spared (socketTurn sound.named stepped)

/-- The end of file leaves the descriptor open, an exception closes it once too often. -/
theorem step_damages (sound : before.Sound) (intact : before.Intact scl)
    (unspared : ¬ SparesClient protobuf scl before event)
    (took : (process protobuf).step before event = some (after, outputs)) : after.Damaged scl := by
  obtain ⟨other, rfl⟩ : ∃ other, event = .server other := by
    by_contra main
    push Not at main
    cases event with
    | server other => exact main other rfl
    | mreSet | listenThreadJoined | clientThreadCancel | clientThreadBreaks | clientThreadJoined =>
        exact unspared trivial
  obtain ⟨server, permitted, stepped, rfl⟩ := server_step took
  obtain ⟨acts, harmed⟩ : other.actor = some scl ∧ ¬ before.server.Spares protobuf other := by
    simpa [SparesClient] using unspared
  have counted : (before.closed ++ before.server.closings protobuf other).count scl =
      before.closed.count scl + (before.server.closings protobuf other).count scl :=
    List.count_append
  cases socketTurn sound.named stepped with
  | accepts accepted fd stack connects _ _ _ _ =>
      subst connects
      cases acts
  | goesOn spared _ _ => exact absurd (spared (by simp [acts])) harmed
  | leaves actor actsToo _ ran member updated silent =>
      rw [acts] at actsToo
      cases actsToo
      obtain ⟨inside, equal, -⟩ := intact false ran
      have kept : scl ∉ before.deleted := fun old => by
        have ended := sound.deleted scl old
        rw [ran] at ended
        cases ended
      refine ⟨by rw [updated, Function.update_self], .inl ⟨?_, ?_⟩⟩
      · rw [member]
        exact fun remains => (sound.distinct.mem_erase_iff.mp remains).1 rfl
      · rw [counted, silent, List.count_nil, Nat.add_zero, equal, List.count_eq_zero]
        exact kept
  | throws actor actsToo _ ran member updated closed =>
      rw [acts] at actsToo
      cases actsToo
      obtain ⟨inside, equal, -⟩ := intact false ran
      refine ⟨by rw [updated, Function.update_self], .inr ⟨?_, ?_⟩⟩
      · rw [member]
        exact inside
      · rw [counted, closed, List.count_singleton_self, equal]

theorem step_damaged (sound : before.Sound) (damaged : before.Damaged scl)
    (took : (process protobuf).step before event = some (after, outputs)) : after.Damaged scl := by
  obtain ⟨gone, counts⟩ := damaged
  by_cases main : ∀ other, event ≠ .server other
  · rcases main_step took main with ⟨thread, rfl, -⟩ | ⟨-, rfl⟩ |
        ⟨other, client, -, present, ready, rfl⟩ | ⟨other, client, -, -, -, member, rfl⟩
    · exact ⟨gone, counts⟩
    · exact ⟨gone, counts⟩
    · have there : (before.server.sockets other).isSome := by rw [present]; rfl
      exact ⟨ended_stays (withThread_ended there .ended) gone, counts⟩
    · refine ⟨gone, ?_⟩
      change (_ ∧ (before.closed ++ [other]).count scl = 0) ∨
        _ ∧ (before.closed ++ [other]).count scl = (before.deleted ++ [other]).count scl + 1
      rw [List.count_append, List.count_append]
      refine counts.imp (fun ⟨outside, open_⟩ => ⟨outside, ?_⟩) fun ⟨inside, twice⟩ => ⟨inside, ?_⟩
      · rw [open_, List.count_eq_zero.mpr]
        intro same
        obtain rfl := List.mem_singleton.mp same
        exact outside member
      · omega
  · push Not at main
    obtain ⟨other, rfl⟩ := main
    obtain ⟨server, permitted, stepped, rfl⟩ := server_step took
    have counted : (before.closed ++ before.server.closings protobuf other).count scl =
        before.closed.count scl + (before.server.closings protobuf other).count scl :=
      List.count_append
    unfold Process.Damaged
    dsimp only
    rw [counted]
    cases socketTurn sound.named stepped with
    | accepts accepted fd stack connects fresh member updated silent =>
        have different : scl ≠ accepted := by
          rintro rfl
          rw [gone] at fresh
          cases fresh
        rw [updated, Function.update_of_ne different, silent, List.count_nil, Nat.add_zero,
          member.mem_iff, List.mem_cons, or_iff_right different]
        exact ⟨gone, counts⟩
    | goesOn _ same silent =>
        rw [same.ended, same.socketClients, silent, List.count_nil, Nat.add_zero]
        exact ⟨gone, counts⟩
    | leaves actor acts _ ran member updated silent =>
        have different : scl ≠ actor := by
          rintro rfl
          rw [gone] at ran
          cases ran
        rw [updated, Function.update_of_ne different, silent, List.count_nil, Nat.add_zero, member,
          List.mem_erase_of_ne different]
        exact ⟨gone, counts⟩
    | throws actor acts _ ran member updated closed =>
        have different : scl ≠ actor := by
          rintro rfl
          rw [gone] at ran
          cases ran
        rw [updated, Function.update_of_ne different, closed, member, List.count_singleton,
          if_neg (by simpa using different.symm)]
        exact ⟨gone, counts⟩

/-- When the destructor is through, the descriptor of a client has been closed once exactly
when its thread was never made to end by the peer or by one of its packets. -/
theorem descriptor_closed_once_iff {events : List ProcessEvent} {final : Process}
    {trace : List (ProcessEvent × List Output)}
    (ran : (process protobuf).run .initial events = some (final, trace))
    (finished : final.main = .finished) {client : SocketClient}
    (accepted : final.server.sockets scl = some client) :
    final.closed.count scl = 1 ↔
      (process protobuf).Within (SparesClient protobuf scl) .initial events := by
  have start : Process.initial.Intact scl := by
    intro ended none
    simp [Process.initial, AAServer.initial, State.ended] at none
  have ends := (process protobuf).run_within_or step_sound step_intact step_damages step_damaged
    initial_sound start ran
  have sound : final.Sound := (process protobuf).run_keeps step_sound initial_sound ran
  have visited : ∀ other ∈ final.server.socketClients, other ∈ final.deleted := by
    have progress := sound.progress
    unfold Process.Progress at progress
    rw [finished] at progress
    exact progress
  have once (member : scl ∈ final.server.socketClients) : final.deleted.count scl = 1 :=
    List.count_eq_one_of_mem sound.once (visited scl member)
  rcases ends with ⟨within, intact⟩ | ⟨beyond, -, counts⟩
  · obtain ⟨member, equal, -⟩ := intact client.thread.hasEnded (by simp [State.ended, accepted])
    exact iff_of_true (equal.trans (once member)) within
  · refine iff_of_false ?_ beyond
    rcases counts with ⟨-, open_⟩ | ⟨member, twice⟩
    · omega
    · have visit := once member
      omega

/-- A client that leaves the connection open until the process ends, and asks once. -/
def quietSession : List ProcessEvent :=
  [.server (.connect 1 10 fun _ => 0),
    .server (.read 1 (.data [0x02, 0x00, 0x00]) fun _ => .complete),
    .mreSet, .listenThreadJoined, .clientThreadCancel, .clientThreadBreaks, .clientThreadJoined]

theorem descriptor_closed_once_quiet :
    ∃ final trace, (process .small).run .initial quietSession = some (final, trace) ∧
      final.closed.count 1 = 1 := by
  obtain ⟨final, trace, client, ran, finished, accepted⟩ : ∃ final trace client,
      (process .small).run .initial quietSession = some (final, trace) ∧
      final.main = .finished ∧ final.server.sockets 1 = some client := ⟨_, _, _, rfl, rfl, rfl⟩
  refine ⟨final, trace, ran, (descriptor_closed_once_iff ran finished accepted).mpr ?_⟩
  refine ⟨fun acts => (by cases acts), fun _ _ took => ?_⟩
  cases took
  refine ⟨fun _ => ⟨by simp, fun client present => ?_⟩, fun _ _ took => ?_⟩
  · cases present
    exact ⟨[], 1, rfl, rfl⟩
  cases took
  refine ⟨trivial, fun _ _ took => ?_⟩
  cases took
  refine ⟨trivial, fun _ _ took => ?_⟩
  cases took
  refine ⟨trivial, fun _ _ took => ?_⟩
  cases took
  refine ⟨trivial, fun _ _ took => ?_⟩
  cases took
  exact ⟨trivial, fun _ _ _ => trivial⟩

/-- One client leaves, and one sends a packet of unknown type. -/
def badSession : List ProcessEvent :=
  [.server (.connect 1 10 fun _ => 0), .server (.connect 2 11 fun _ => 0),
    .server (.read 1 (.data []) fun _ => .complete),
    .server (.read 2 (.data [0x07, 0x00, 0x00]) fun _ => .complete),
    .mreSet, .listenThreadJoined, .clientThreadCancel, .clientThreadJoined]

/-- The descriptor of the first client is never closed, the one of the second is twice. -/
theorem descriptors_leaked_and_closed_twice :
    ∃ final trace, (process .small).run .initial badSession = some (final, trace) ∧
      final.main = .finished ∧ final.closed.count 1 = 0 ∧ final.closed.count 2 = 2 :=
  ⟨_, _, rfl, rfl, rfl, rfl⟩

end Closing

end AAServer

end AACS
