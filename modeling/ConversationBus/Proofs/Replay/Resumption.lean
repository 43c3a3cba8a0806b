import ConversationBus.Proofs.Replay.Tally

/-!
# Reading the same lines again

A line that was read is settled: read again, now or later, it publishes nothing, as the inbox knows
its id or its event can never be published. So reading all lines after some of them publishes what
was not published before, in the same order, and leaves the same inbox as reading them at once.
-/

namespace ConversationBus.Replay

/-- Nothing is published for a line, whatever else the inbox comes to know. -/
def Settled (channel : Channel) (inbox : String → Option String) (text : String) : Prop :=
  Text.allBlank text = false → ∀ line, InboundLine.parse? text = some line →
    Text.allBlank line.platformMessageId = false →
      (inbox line.platformMessageId).isSome = true ∨ publishable channel line = false

variable {channel : Channel} {tally next : Tally} {text : String} {lines : List String}

/-! ## What a line does -/

/-- Nothing but the count of a line that is not published is changed. -/
structure Idle (tally next : Tally) : Prop where
  inbox : next.inbox = tally.inbox
  published : next.published = tally.published
  count : next.summary.published = tally.summary.published

theorem Idle.refl (tally : Tally) : Idle tally tally :=
  ⟨rfl, rfl, rfl⟩

theorem Idle.trans {mid : Tally} (first : Idle tally mid) (last : Idle mid next) :
    Idle tally next :=
  ⟨last.inbox.trans first.inbox, last.published.trans first.published,
    last.count.trans first.count⟩

/-- A line is settled, or its event is published. -/
inductive Effect (channel : Channel) (tally : Tally) (text : String) (next : Tally) : Prop where
  | idle (settled : Settled channel tally.inbox text) (idle : Idle tally next)
  | publishes {line : InboundLine} (parsed : InboundLine.parse? text = some line)
      (fresh : ¬ Settled channel tally.inbox text) (same : Idle (tally.publish line) next)

theorem read_effect (channel : Channel) (tally : Tally) (text : String) :
    Effect channel tally text (tally.read channel text) := by
  simp only [Tally.read]
  split
  next blank =>
    refine .idle ?_ (.refl tally)
    intro counts
    simp [blank] at counts
  next counts =>
    have counts : Text.allBlank text = false := by simpa using counts
    split
    next malformed =>
      refine .idle ?_ ⟨rfl, rfl, rfl⟩
      intro _ line parsed
      simp [malformed] at parsed
    next line parsed =>
      simp only [Tally.take]
      split
      next unnamed =>
        refine .idle ?_ ⟨rfl, rfl, rfl⟩
        intro _ other same named
        cases parsed.symm.trans same
        simp [unnamed] at named
      next named =>
        have named : Text.allBlank line.platformMessageId = false := by simpa using named
        split
        next known =>
          refine .idle ?_ ⟨rfl, rfl, rfl⟩
          intro _ other same _
          cases parsed.symm.trans same
          exact .inl known
        next unknown =>
          split
          next fit =>
            refine .publishes parsed ?_ ⟨rfl, rfl, rfl⟩
            intro settled
            rcases settled counts line parsed named with known | unfit
            · exact unknown known
            · simp [unfit] at fit
          next unfit =>
            refine .idle ?_ ⟨rfl, rfl, rfl⟩
            intro _ other same _
            cases parsed.symm.trans same
            exact .inr (by simpa using unfit)

namespace Tally

theorem readAll_append (first last : List String) :
    tally.readAll channel (first ++ last) = (tally.readAll channel first).readAll channel last :=
  List.foldl_append

/-- What holds before the first line and is kept by every line holds after all of them. -/
theorem readAll_invariant (kept : Tally → Prop) (initial : kept tally)
    (keeps : ∀ tally text next, Effect channel tally text next → kept tally → kept next)
    (lines : List String) : kept (tally.readAll channel lines) := by
  induction lines generalizing tally with
  | nil => exact initial
  | cons text rest ih => exact ih (keeps tally text _ (read_effect channel tally text) initial)

theorem counts_readAll (channel : Channel) (inbox : String → Option String) (lines : List String) :
    ((start inbox).readAll channel lines).summary.published =
      ((start inbox).readAll channel lines).published.length := by
  refine readAll_invariant (fun tally => tally.summary.published = tally.published.length) rfl ?_
    lines
  intro tally text next effect counted
  cases effect with
  | idle _ same => rw [same.count, same.published, counted]
  | publishes _ _ same =>
      rw [same.count, same.published, publish, List.length_append]
      exact congrArg (· + 1) counted

theorem knows_readAll (lines : List String) (id : String) (known : (tally.inbox id).isSome = true) :
    ((tally.readAll channel lines).inbox id).isSome = true := by
  refine readAll_invariant (fun tally => (tally.inbox id).isSome = true) known ?_ lines
  intro tally text next effect known
  cases effect with
  | idle _ same => rwa [same.inbox]
  | publishes _ _ same =>
      rw [same.inbox, publish]
      dsimp only
      split
      next => rfl
      next => exact known

/-- A line that was read is settled. -/
theorem settled_of_effect (effect : Effect channel tally text next) :
    Settled channel next.inbox text := by
  cases effect with
  | idle settled same => rwa [same.inbox]
  | publishes parsed _ same =>
      intro _ line again _
      cases parsed.symm.trans again
      rw [same.inbox]
      exact .inl (by simp [publish])

theorem settled_readAll (channel : Channel) (tally : Tally) (lines : List String) :
    ∀ text ∈ lines, Settled channel (tally.readAll channel lines).inbox text := by
  induction lines generalizing tally with
  | nil => simp
  | cons first rest ih =>
      intro text member
      rcases List.mem_cons.mp member with rfl | member
      · intro counts line parsed named
        have settled := settled_of_effect (read_effect channel tally text)
        exact (settled counts line parsed named).imp_left (knows_readAll rest _)
      · exact ih (tally.read channel first) text member

theorem readAll_settled (settled : ∀ text ∈ lines, Settled channel tally.inbox text) :
    Idle tally (tally.readAll channel lines) := by
  induction lines generalizing tally with
  | nil => exact .refl tally
  | cons first rest ih =>
      cases read_effect channel tally first with
      | publishes _ fresh => exact absurd (settled first List.mem_cons_self) fresh
      | idle _ same =>
          refine same.trans (ih ?_)
          intro text member
          rw [same.inbox]
          exact settled text (List.mem_cons_of_mem _ member)

end Tally

/-! ## One tally ahead of another -/

/-- Two tallies know the same ids, and one of them published some events before. -/
structure Ahead (events : List InboundLine) (tally ahead : Tally) : Prop where
  inbox : ahead.inbox = tally.inbox
  published : ahead.published = events ++ tally.published
  count : ahead.summary.published = events.length + tally.summary.published

namespace Ahead

variable {events : List InboundLine} {ahead : Tally}

/-- A line does the same to two tallies that know the same ids. -/
theorem read (same : Ahead events tally ahead) (text : String) :
    Ahead events (tally.read channel text) (ahead.read channel text) := by
  cases read_effect channel tally text with
  | idle settled idle =>
      cases read_effect channel ahead text with
      | idle _ alsoIdle =>
          exact ⟨by rw [alsoIdle.inbox, idle.inbox, same.inbox],
            by rw [alsoIdle.published, idle.published, same.published],
            by rw [alsoIdle.count, idle.count, same.count]⟩
      | publishes _ fresh =>
          rw [same.inbox] at fresh
          exact absurd settled fresh
  | @publishes line parsed fresh grown =>
      cases read_effect channel ahead text with
      | idle settled =>
          rw [same.inbox] at settled
          exact absurd settled fresh
      | publishes again _ alsoGrown =>
          cases parsed.symm.trans again
          refine ⟨?_, ?_, ?_⟩
          · rw [alsoGrown.inbox, grown.inbox, Tally.publish, Tally.publish, same.inbox]
          · rw [alsoGrown.published, grown.published, Tally.publish, Tally.publish, same.published,
              List.append_assoc]
          · rw [alsoGrown.count, grown.count]
            exact congrArg (· + 1) same.count

theorem readAll (same : Ahead events tally ahead) (lines : List String) :
    Ahead events (tally.readAll channel lines) (ahead.readAll channel lines) := by
  induction lines generalizing tally ahead with
  | nil => exact same
  | cons text rest ih => exact ih (same.read text)

end Ahead

namespace Tally

/-- Reading all lines after some of them publishes the others, and comes to the same inbox as
reading them at once. -/
theorem readAll_again (channel : Channel) (inbox : String → Option String)
    (front back : List String) :
    Ahead ((start inbox).readAll channel front).published
      ((start ((start inbox).readAll channel front).inbox).readAll channel (front ++ back))
      ((start inbox).readAll channel (front ++ back)) := by
  have idle : Idle (start ((start inbox).readAll channel front).inbox)
      ((start ((start inbox).readAll channel front).inbox).readAll channel front) :=
    readAll_settled (settled_readAll channel (start inbox) front)
  have ahead : Ahead ((start inbox).readAll channel front).published
      ((start ((start inbox).readAll channel front).inbox).readAll channel front)
      ((start inbox).readAll channel front) := by
    refine ⟨idle.inbox.symm, ?_, ?_⟩
    · rw [idle.published]
      exact (List.append_nil _).symm
    · rw [idle.count]
      exact counts_readAll channel inbox front
  rw [readAll_append, readAll_append]
  exact ahead.readAll back

/-- Reading lines that were all read before publishes nothing. -/
theorem readAll_twice (channel : Channel) (tally : Tally) (lines : List String) :
    Idle (start (tally.readAll channel lines).inbox)
      ((start (tally.readAll channel lines).inbox).readAll channel lines) :=
  readAll_settled (settled_readAll channel tally lines)

end Tally

end ConversationBus.Replay
