import AACS.Client.RoundTrip

/-!
Which frame sequences `AAClient::getMessage` accepts.

It looks at no frame type but First and at no channel: it returns at the first
frame with which the gathered content reaches the announced total.
-/

namespace AACS

open RecordLayer

variable {ρ : Type}

def Transfer.Holds (transfer : Transfer) (frame : Frame) : Prop :=
  ∃ bytes, transfer = .completed bytes ∧ Frame.parse bytes = some frame ∧
    bytes.length ≤ AAClient.bufSize

/-- Frames that are all accepted, and the contents that they add. -/
inductive Accepted (tls : Opener ρ DecryptFailure UInt8) :
    ρ → List Frame → List Bytes → ρ → Prop
  | nil {ssl} : Accepted tls ssl [] [] ssl
  | cons {ssl next final frame content frames contents} :
      frame.content tls ssl = (next, .ok content) → Accepted tls next frames contents final →
      Accepted tls ssl (frame :: frames) (content :: contents) final

/-- The total length that the latest First frame has announced, or `total` when
there is none. -/
def announcedFrom (total : Int) (frames : List Frame) : Int :=
  frames.foldl (fun total frame => frame.total.elim total toInt32) total

/-- Accepted frames after each of which content is still missing, given what was
gathered and announced before them. -/
structure GatheredFrom (tls : Opener ρ DecryptFailure UInt8) (before : Nat) (total : Int)
    (ssl : ρ) (frames : List Frame) (contents : List Bytes) (final : ρ) : Prop where
  accepted : Accepted tls ssl frames contents final
  missing : ∀ count, 0 < count → count ≤ frames.length →
    before + (contents.take count).flatten.length <
      asSizeT (announcedFrom total (frames.take count))

/-- A frame with which nothing is missing any more. -/
structure CompletedFrom (tls : Opener ρ DecryptFailure UInt8) (before : Nat) (total : Int)
    (ssl : ρ) (frames : List Frame) (contents : List Bytes) (last : Frame) (content : Bytes)
    (final : ρ) : Prop where
  gathered : ∃ middle, GatheredFrom tls before total ssl frames contents middle ∧
    last.content tls middle = (final, .ok content)
  complete : asSizeT (announcedFrom total (frames ++ [last])) ≤
    before + (contents ++ [content]).flatten.length

theorem GatheredFrom.nil {tls : Opener ρ DecryptFailure UInt8} {before : Nat} {total : Int}
    {ssl : ρ} : GatheredFrom tls before total ssl [] [] ssl :=
  ⟨.nil, fun _ positive bound => absurd bound (Nat.not_le.mpr positive)⟩

theorem GatheredFrom.cons {tls : Opener ρ DecryptFailure UInt8} {before : Nat} {total : Int}
    {ssl next final : ρ} {frame : Frame} {content : Bytes} {frames : List Frame}
    {contents : List Bytes} (accepted : frame.content tls ssl = (next, .ok content))
    (missing : before + content.length < asSizeT (frame.total.elim total toInt32))
    (rest : GatheredFrom tls (before + content.length) (frame.total.elim total toInt32) next frames
      contents final) :
    GatheredFrom tls before total ssl (frame :: frames) (content :: contents) final := by
  refine ⟨.cons accepted rest.accepted, fun count positive bound => ?_⟩
  obtain ⟨count, rfl⟩ := Nat.exists_eq_succ_of_ne_zero (Nat.pos_iff_ne_zero.mp positive)
  rcases Nat.eq_zero_or_pos count with rfl | more
  · simpa [announcedFrom] using missing
  · have later := rest.missing count more (Nat.le_of_succ_le_succ bound)
    simpa [announcedFrom, Nat.add_assoc] using later

/-- Frames are all gathered, or one of them completes the message, or one is refused. -/
theorem gather (tls : Opener ρ DecryptFailure UInt8) (before : Nat) (total : Int) (ssl : ρ)
    (frames : List Frame) :
    (∃ contents final, GatheredFrom tls before total ssl frames contents final) ∨
    (∃ early last left contents content final, frames = early ++ last :: left ∧
      CompletedFrom tls before total ssl early contents last content final) ∨
    ∃ early bad left contents middle final thrown, frames = early ++ bad :: left ∧
      GatheredFrom tls before total ssl early contents middle ∧
      bad.content tls middle = (final, .error thrown) := by
  induction frames generalizing before total ssl with
  | nil => exact .inl ⟨[], ssl, .nil⟩
  | cons frame frames inductionHypothesis =>
      obtain ⟨next, outcome, opened⟩ : ∃ next outcome, frame.content tls ssl = (next, outcome) :=
        ⟨_, _, rfl⟩
      cases outcome with
      | error thrown =>
          exact .inr (.inr ⟨[], frame, frames, [], ssl, next, thrown, rfl, .nil, opened⟩)
      | ok content =>
          by_cases missing : before + content.length < asSizeT (frame.total.elim total toInt32)
          · rcases inductionHypothesis (before + content.length) (frame.total.elim total toInt32)
              next with ⟨contents, final, rest⟩ |
                ⟨early, last, left, contents, lastContent, final, rfl, completed⟩ |
                ⟨early, bad, left, contents, middle, final, thrown, rfl, rest, refused⟩
            · exact .inl ⟨_, final, rest.cons opened missing⟩
            · obtain ⟨middle, rest, added⟩ := completed.gathered
              have complete := completed.complete
              exact .inr (.inl ⟨frame :: early, last, left, content :: contents, lastContent,
                final, rfl, ⟨middle, rest.cons opened missing, added⟩,
                by simpa [announcedFrom, Nat.add_assoc] using complete⟩)
            · exact .inr (.inr ⟨frame :: early, bad, left, _, middle, final, thrown, rfl,
                rest.cons opened missing, refused⟩)
          · refine .inr (.inl ⟨[], frame, frames, [], content, next, rfl, ⟨ssl, .nil, opened⟩, ?_⟩)
            simpa [announcedFrom] using missing

theorem Transfer.Holds.split {transfers : List Transfer} {early left : List Frame} {frame : Frame}
    (holds : List.Forall₂ Transfer.Holds transfers (early ++ frame :: left)) :
    ∃ before bytes, List.Forall₂ Transfer.Holds before early ∧
      Frame.parse bytes = some frame ∧ bytes.length ≤ AAClient.bufSize ∧
      transfers = before ++ .completed bytes :: transfers.drop (early.length + 1) := by
  obtain ⟨transfer, others, ⟨bytes, rfl, parsed, room⟩, -, split⟩ :=
    List.forall₂_cons_right_iff.mp (List.forall₂_drop_append _ _ _ holds)
  refine ⟨transfers.take early.length, bytes, List.forall₂_take_append _ _ _ holds, parsed, room,
    ?_⟩
  rw [← List.drop_drop, split, List.drop_one, List.tail_cons, ← split, List.take_append_drop]

namespace AAClient

theorem getMessageFrom_gathered {tls : Opener ρ DecryptFailure UInt8} {ssl final : ρ}
    {transfers : List Transfer} {frames : List Frame} {contents : List Bytes}
    (holds : List.Forall₂ Transfer.Holds transfers frames) (soFar : Reassembly)
    (gathered : GatheredFrom tls soFar.fullContent.length soFar.totalLength ssl frames contents
      final) :
    ∃ after : Reassembly, after.fullContent = soFar.fullContent ++ contents.flatten ∧
      after.totalLength = announcedFrom soFar.totalLength frames ∧
      ∀ rest, getMessageFrom tls ssl soFar (transfers ++ rest) =
        getMessageFrom tls final after rest := by
  obtain ⟨accepted, missing⟩ := gathered
  induction accepted generalizing soFar transfers with
  | nil =>
      cases holds
      exact ⟨soFar, by simp, rfl, fun rest => rfl⟩
  | @cons ssl next final frame content frames contents opened rest inductionHypothesis =>
      cases holds with
      | cons first others =>
          obtain ⟨bytes, rfl, parsed, room⟩ := first
          have now : soFar.fullContent.length + content.length <
              asSizeT (frame.total.elim soFar.totalLength toInt32) := by
            simpa [announcedFrom] using missing 1 (by omega) (by simp)
          obtain ⟨after, full, total, passed⟩ := inductionHypothesis others
            (soFar.add bytes frame content) (fun count positive bound => by
              have later := missing (count + 1) (by omega) (by simpa using bound)
              simpa [announcedFrom, Reassembly.add, Nat.add_assoc] using later)
          refine ⟨after, by simp [full, Reassembly.add], total, fun left => ?_⟩
          rw [List.cons_append, getMessageFrom_accepted soFar _ parsed room opened,
            List.length_append, if_pos now, passed]

/-- What a call does with the transfers of a message and any that follow. -/
theorem getMessage_completed {tls : Opener ρ DecryptFailure UInt8} {ssl final : ρ}
    {transfers : List Transfer} {early left : List Frame} {last : Frame} {contents : List Bytes}
    {content : Bytes} (buffer : Buffer)
    (holds : List.Forall₂ Transfer.Holds transfers (early ++ last :: left))
    (completed : CompletedFrom tls 0 0 ssl early contents last content final) :
    getMessage tls buffer ssl transfers =
      .returned ⟨last.channel, last.flags ||| FrameType.Bulk.mask, (contents ++ [content]).flatten,
        0⟩ final (transfers.drop (early.length + 1)) := by
  obtain ⟨middle, gathered, added⟩ := completed.gathered
  obtain ⟨before, bytes, earlier, parsed, room, split⟩ := Transfer.Holds.split holds
  obtain ⟨after, full, total, passed⟩ := getMessageFrom_gathered earlier { buffer } gathered
  have complete : ¬ (after.fullContent ++ content).length <
      asSizeT (last.total.elim after.totalLength toInt32) := by
    have enough := completed.complete
    rw [announcedFrom, List.foldl_append] at enough
    simpa [full, total, announcedFrom] using enough
  rw [split, getMessage, passed, getMessageFrom_accepted after _ parsed room added,
    if_neg complete, ← split, full]
  simp

theorem getMessage_refused {tls : Opener ρ DecryptFailure UInt8} {ssl middle final : ρ}
    {transfers : List Transfer} {early left : List Frame} {bad : Frame} {contents : List Bytes}
    {thrown : Thrown} (buffer : Buffer)
    (holds : List.Forall₂ Transfer.Holds transfers (early ++ bad :: left))
    (gathered : GatheredFrom tls 0 0 ssl early contents middle)
    (refused : bad.content tls middle = (final, .error thrown)) :
    getMessage tls buffer ssl transfers =
      .threw thrown final (transfers.drop (early.length + 1)) := by
  obtain ⟨before, bytes, earlier, parsed, room, split⟩ := Transfer.Holds.split holds
  obtain ⟨after, -, -, passed⟩ := getMessageFrom_gathered earlier { buffer } gathered
  rw [split, getMessage, passed, getMessageFrom_refused after _ parsed room refused, ← split]

theorem getMessage_gathered {tls : Opener ρ DecryptFailure UInt8} {ssl final : ρ}
    {transfers : List Transfer} {frames : List Frame} {contents : List Bytes} (buffer : Buffer)
    (holds : List.Forall₂ Transfer.Holds transfers frames)
    (gathered : GatheredFrom tls 0 0 ssl frames contents final) :
    getMessage tls buffer ssl transfers = .waiting final := by
  obtain ⟨after, -, -, passed⟩ := getMessageFrom_gathered holds { buffer } gathered
  rw [← List.append_nil transfers, getMessage, passed]
  rfl

end AAClient

theorem Accepted.split {tls : Opener ρ DecryptFailure UInt8} {ssl final : ρ}
    {first second : List Frame} {contents : List Bytes}
    (accepted : Accepted tls ssl (first ++ second) contents final) :
    ∃ middle early late, contents = early ++ late ∧ early.length = first.length ∧
      Accepted tls ssl first early middle ∧ Accepted tls middle second late final := by
  induction first generalizing ssl contents with
  | nil => exact ⟨ssl, [], contents, rfl, rfl, .nil, accepted⟩
  | cons frame first inductionHypothesis =>
      cases accepted with
      | cons opened rest =>
          obtain ⟨middle, early, late, rfl, same, before, after⟩ := inductionHypothesis rest
          exact ⟨middle, _ :: early, late, rfl, congrArg (· + 1) same, .cons opened before, after⟩

/-- The frames of one message as a sender forms them. -/
inductive Grammatical : List Frame → List Bytes → Prop
  | bulk {frame content} : frameBits frame.flags = FrameType.Bulk.mask →
      Grammatical [frame] [content]
  | split {first middles last contents} :
      frameBits first.flags = FrameType.First.mask →
      (∀ frame ∈ middles, frameBits frame.flags = 0) →
      frameBits last.flags = FrameType.Last.mask →
      (∀ frame ∈ first :: middles, frame.channel = last.channel) →
      first.total = some contents.flatten.length →
      Grammatical (first :: middles ++ [last]) contents

theorem Frame.total_of_parse {bytes : Bytes} {frame : Frame}
    (parsed : Frame.parse bytes = some frame)
    (other : frameBits frame.flags ≠ FrameType.First.mask) :
    frame.total = none := by
  fun_cases Frame.parse bytes with
  | case1 channel flags high low first =>
      obtain rfl : _ = frame := by simpa [Frame.parse, first] using parsed
      exact absurd first other
  | case2 => simp_all [Frame.parse]
  | case3 channel flags high low rest bits =>
      obtain rfl : _ = frame := by simpa [Frame.parse, bits] using parsed
      rfl
  | case4 => simp_all [Frame.parse]

theorem announcedFrom_eq {total : Int} {frames : List Frame}
    (silent : ∀ frame ∈ frames, frame.total = none) : announcedFrom total frames = total := by
  induction frames with
  | nil => rfl
  | cons frame frames inductionHypothesis =>
      obtain ⟨first, others⟩ := List.forall_mem_cons.mp silent
      rw [announcedFrom, List.foldl_cons, first]
      exact inductionHypothesis others

/-- What the receiver needs of a message in several frames: a total that an `int`
holds, and content left for the last of them. -/
def Deliverable (contents : List Bytes) : Prop :=
  contents.length = 1 ∨
    contents.flatten.length < 2 ^ 31 ∧ ∀ content ∈ contents.getLast?, content ≠ []

theorem Grammatical.completed {tls : Opener ρ DecryptFailure UInt8} {ssl final : ρ}
    {consumed : List Frame} {contents : List Bytes} (grammatical : Grammatical consumed contents)
    (silent : ∀ frame ∈ consumed, frameBits frame.flags ≠ FrameType.First.mask →
      frame.total = none)
    (accepted : Accepted tls ssl consumed contents final) (deliverable : Deliverable contents) :
    ∃ early last before content, consumed = early ++ [last] ∧ contents = before ++ [content] ∧
      (∀ frame ∈ consumed, frame.channel = last.channel) ∧
      CompletedFrom tls 0 0 ssl early before last content final := by
  cases grammatical with
  | @bulk frame content bulk =>
      refine ⟨[], frame, [], content, rfl, rfl, by simp, ?_⟩
      cases accepted with
      | cons opened rest =>
          cases rest
          have none := silent frame (by simp) (by rw [bulk]; decide)
          refine ⟨⟨ssl, .nil, opened⟩, ?_⟩
          simp [announcedFrom, none, asSizeT]
  | @split first middles last contents firstBits middleBits lastBits channels total =>
      obtain ⟨middle, before, ending, rfl, same, opened, lastOpened⟩ := accepted.split
      cases lastOpened with
      | @cons _ _ _ _ content _ _ added rest =>
          cases rest
          have remaining : 0 < content.length ∧ (before ++ [content]).flatten.length < 2 ^ 31 := by
            rcases deliverable with one | ⟨small, nonempty⟩
            · simp at one
              simp [one] at same
            · exact ⟨List.length_pos_iff.mpr (nonempty content (by simp)), small⟩
          have quiet : ∀ frame ∈ middles ++ [last], frame.total = none := by
            intro frame membership
            apply silent frame (by simpa using .inr (by simpa using membership))
            rcases List.mem_append.mp membership with inside | final
            · rw [middleBits frame inside]
              decide
            · obtain rfl := List.mem_singleton.mp final
              rw [lastBits]
              decide
          refine ⟨first :: middles, last, before, content, rfl, rfl, ?_,
            ⟨middle, ⟨opened, ?_⟩, added⟩, ?_⟩
          · intro frame membership
            rcases List.mem_append.mp membership with early | final
            · exact channels frame early
            · rw [List.mem_singleton.mp final]
          · intro count positive bound
            obtain ⟨count, rfl⟩ := Nat.exists_eq_succ_of_ne_zero (Nat.pos_iff_ne_zero.mp positive)
            have announced : announcedFrom 0 ((first :: middles).take count.succ) =
                toInt32 (before ++ [content]).flatten.length := by
              rw [List.take_succ_cons, announcedFrom, List.foldl_cons, total]
              exact announcedFrom_eq fun frame membership =>
                quiet frame (List.mem_append_left _ (List.mem_of_mem_take membership))
            have part : (before.take count.succ).flatten.length ≤ before.flatten.length :=
              ((List.take_prefix _ before).flatten).length_le
            rw [announced, asSizeT_toInt32 remaining.2, List.flatten_append, List.length_append]
            simp only [List.flatten_cons, List.flatten_nil, List.append_nil]
            omega
          · have announced : announcedFrom 0 (first :: middles ++ [last]) =
                toInt32 (before ++ [content]).flatten.length := by
              rw [List.cons_append, announcedFrom, List.foldl_cons, total]
              exact announcedFrom_eq quiet
            rw [announced, asSizeT_toInt32 remaining.2]
            omega

theorem silent_of_holds {transfers : List Transfer} {frames : List Frame}
    (holds : List.Forall₂ Transfer.Holds transfers frames) :
    ∀ frame ∈ frames, frameBits frame.flags ≠ FrameType.First.mask → frame.total = none := by
  intro frame membership other
  obtain ⟨early, left, rfl⟩ := List.append_of_mem membership
  obtain ⟨-, bytes, -, parsed, -⟩ := Transfer.Holds.split holds
  exact Frame.total_of_parse parsed other

/-- A call returns exactly when accepted frames reach what the latest First frame
announced, throws exactly when a refused frame comes before, and returns in
particular the frames of a well-formed message. -/
theorem reassembly_acceptance (tls : Opener ρ DecryptFailure UInt8) (buffer : Buffer)
    (ssl : ρ) (transfers : List Transfer) (frames : List Frame)
    (holds : List.Forall₂ Transfer.Holds transfers frames) :
    (∀ msg final rest,
      AAClient.getMessage tls buffer ssl transfers = .returned msg final rest ↔
        ∃ early last left contents content, frames = early ++ last :: left ∧
          CompletedFrom tls 0 0 ssl early contents last content final ∧
          msg = ⟨last.channel, last.flags ||| FrameType.Bulk.mask,
            (contents ++ [content]).flatten, 0⟩ ∧
          rest = transfers.drop (early.length + 1)) ∧
    (∀ thrown final rest,
      AAClient.getMessage tls buffer ssl transfers = .threw thrown final rest ↔
        ∃ early bad left contents middle, frames = early ++ bad :: left ∧
          GatheredFrom tls 0 0 ssl early contents middle ∧
          bad.content tls middle = (final, .error thrown) ∧
          rest = transfers.drop (early.length + 1)) ∧
    ∀ consumed left contents final, frames = consumed ++ left →
      Grammatical consumed contents → Accepted tls ssl consumed contents final →
      Deliverable contents →
      ∃ msg, AAClient.getMessage tls buffer ssl transfers =
          .returned msg final (transfers.drop consumed.length) ∧
        msg.content = contents.flatten ∧ ∀ frame ∈ consumed, frame.channel = msg.channel := by
  refine ⟨fun msg final rest => ⟨fun returned => ?_, ?_⟩,
    fun thrown final rest => ⟨fun threw => ?_, ?_⟩, ?_⟩
  · rcases gather tls 0 0 ssl frames with ⟨contents, reached, all⟩ |
      ⟨early, last, left, contents, content, reached, rfl, completed⟩ |
      ⟨early, bad, left, contents, middle, reached, thrown, rfl, gathered, refused⟩
    · simp [AAClient.getMessage_gathered buffer holds all] at returned
    · rw [AAClient.getMessage_completed buffer holds completed] at returned
      obtain ⟨rfl, rfl, rfl⟩ := AAClient.Received.returned.inj returned
      exact ⟨early, last, left, contents, content, rfl, completed, rfl, rfl⟩
    · simp [AAClient.getMessage_refused buffer holds gathered refused] at returned
  · rintro ⟨early, last, left, contents, content, rfl, completed, rfl, rfl⟩
    exact AAClient.getMessage_completed buffer holds completed
  · rcases gather tls 0 0 ssl frames with ⟨contents, reached, all⟩ |
      ⟨early, last, left, contents, content, reached, rfl, completed⟩ |
      ⟨early, bad, left, contents, middle, reached, other, rfl, gathered, refused⟩
    · simp [AAClient.getMessage_gathered buffer holds all] at threw
    · simp [AAClient.getMessage_completed buffer holds completed] at threw
    · rw [AAClient.getMessage_refused buffer holds gathered refused] at threw
      obtain ⟨rfl, rfl, rfl⟩ := AAClient.Received.threw.inj threw
      exact ⟨early, bad, left, contents, middle, rfl, gathered, refused, rfl⟩
  · rintro ⟨early, bad, left, contents, middle, rfl, gathered, refused, rfl⟩
    exact AAClient.getMessage_refused buffer holds gathered refused
  · rintro consumed left contents final rfl grammatical accepted deliverable
    obtain ⟨early, last, before, content, rfl, rfl, channels, completed⟩ := grammatical.completed
      (fun frame membership => silent_of_holds holds frame (List.mem_append_left _ membership))
      accepted deliverable
    rw [List.append_assoc, List.singleton_append] at holds
    refine ⟨⟨last.channel, last.flags ||| FrameType.Bulk.mask, (before ++ [content]).flatten, 0⟩,
      ?_, rfl, channels⟩
    rw [AAClient.getMessage_completed buffer holds completed, List.length_append,
      List.length_singleton]

theorem reassembly_acceptance_two_frames :
    ∃ msg, AAClient.getMessage (nullOpener .bioWrite) (fun _ => 0) 0
          [.completed [3, 1, 0, 1, 0, 0, 0, 2, 65], .completed [3, 2, 0, 1, 66]] =
        .returned msg 0 [] ∧
      msg.content = [65, 66] ∧
      ∀ frame ∈ [⟨3, 1, 1, some 2, [65]⟩, ⟨3, 2, 1, none, [66]⟩],
        Frame.channel frame = msg.channel :=
  (reassembly_acceptance (nullOpener .bioWrite) (fun _ => 0) 0
      [.completed [3, 1, 0, 1, 0, 0, 0, 2, 65], .completed [3, 2, 0, 1, 66]]
      [⟨3, 1, 1, some 2, [65]⟩, ⟨3, 2, 1, none, [66]⟩]
      (.cons ⟨_, rfl, by decide, by decide⟩ (.cons ⟨_, rfl, by decide, by decide⟩ .nil))).2.2
    [⟨3, 1, 1, some 2, [65]⟩, ⟨3, 2, 1, none, [66]⟩] [] [[65], [66]] 0 rfl
    (@Grammatical.split ⟨3, 1, 1, some 2, [65]⟩ [] ⟨3, 2, 1, none, [66]⟩ [[65], [66]]
      (by decide) (by simp) (by decide) (by simp) rfl)
    (.cons rfl (.cons rfl .nil)) (.inr ⟨by decide, by simp⟩)

/-- A Middle frame without a First one is returned as a message. -/
theorem lone_middle_frame_is_returned :
    List.Forall₂ Transfer.Holds [.completed [3, 0, 0, 1, 65]] [⟨3, 0, 1, none, [65]⟩] ∧
    (∀ contents, ¬ Grammatical [⟨3, 0, 1, none, [65]⟩] contents) ∧
    AAClient.getMessage (nullOpener .bioWrite) (fun _ => 0) 0 [.completed [3, 0, 0, 1, 65]] =
      .returned ⟨3, 3, [65], 0⟩ 0 [] := by
  refine ⟨.cons ⟨_, rfl, by decide, by decide⟩ .nil, fun contents grammatical => ?_, rfl⟩
  generalize frames : [(⟨3, 0, 1, none, [65]⟩ : Frame)] = consumed at grammatical
  cases grammatical with
  | bulk bits =>
      obtain ⟨rfl, -⟩ := List.cons.inj frames
      exact absurd bits (by decide)
  | split => simpa using congrArg List.length frames

end AACS
