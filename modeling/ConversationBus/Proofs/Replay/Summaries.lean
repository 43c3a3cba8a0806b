import ConversationBus.Proofs.Replay.Resumption
import ConversationBus.Proofs.Replay.Settling

/-!
# What a replay comes to

Under every budget, with queues of every size and in every order of moves, a replay comes to what
the fold over its lines says. So one that was interrupted goes on where it stopped when the lines
are replayed again.
-/

namespace ConversationBus.Replay

variable {σ : Type} [RecordStore σ] [FaithfulStore σ] {config : BusConfig} {bus : Bus}
  {backing : FaultyStore σ} {channel : Channel} {lines : List String} {now : Instant}
  {givesUp cancelled : Bool} {trace : List Event} {count : Nat} {progress : Progress σ}

/-- What the inbox of a channel knows: the conversation of each id. -/
def inboxOf (backing : FaultyStore σ) (channel : Channel) (id : String) : Option String :=
  ((FaithfulStore.holdings backing.store).inbox channel id).map (·.conversationKey)

/-- What a tally says of a replay at its end: what the store holds, and that the handlers were
called with the messages of the events that were published, each once and to the end. -/
def Shows (channel : Channel) (backing : FaultyStore σ) (tally : Tally) (trace : List Event)
    (progress : Progress σ) : Prop :=
  ∃ messages, Agrees channel (FaithfulStore.holdings backing.store) tally
      (FaithfulStore.holdings progress.system.backing.store) messages ∧
    ((startedIn trace).map Admitted.message).Perm messages ∧
    ((endedIn trace).map Admitted.message).Perm messages

/-- A replay that has come to its end shows what the tally of the lines says that it took in. -/
theorem Run.outcome (started : Bus.start config = .ok bus)
    (may : cancelled = true → givesUp = true)
    (run : Run givesUp (begin bus backing channel (lines.map some) cancelled now) trace count
      progress)
    (stuck : next? progress = none) :
    ∃ front reading, Read channel givesUp (.start (inboxOf backing channel)) lines front reading ∧
      Shows channel backing ((Tally.start (inboxOf backing channel)).readAll channel front) trace
        progress ∧
      result progress = .ok { reading.summary with
        delivered :=
          ((Tally.start (inboxOf backing channel)).readAll channel front).summary.published
        failed := 0 } := by
  rcases run.trial with ⟨_, trial⟩
  rcases trial.returns started may stuck with ⟨_, done⟩
  rcases run.returned started may done with
    ⟨_, own, reading, rfl, returned, dialogue, expected, held⟩
  have same := Bus.start_ofConfig started
  subst same
  rcases returned.run.settled started returned.finished with ⟨begun, ended⟩
  rcases readLines_tells dialogue expected (.start channel _) with ⟨front, read, agrees⟩
  rw [List.nil_append, ← returned.taken, ← held] at agrees
  refine ⟨front, reading, read, ⟨_, agrees, begun.map _, ended.map _⟩, ?_⟩
  have handled : progress.handled =
      ((Tally.start (inboxOf backing channel)).readAll channel front).summary.published := by
    rw [Tally.counts_readAll, returned.handled, ended.length_eq, ← List.length_map Admitted.message]
    exact agrees.published.length_eq.symm
  have readable : reading.readable = true := by
    cases read with
    | through | upTo => rfl
  rw [conclusion, if_pos readable] at done
  rw [result_eq_ok_iff, ← handled, ← returned.collected]
  exact ⟨_, done, rfl⟩

/-! ## Lines that are read to their end -/

theorem cancelled_readAll (channel : Channel) (tally : Tally) (lines : List String) :
    (tally.readAll channel lines).summary.cancelled = tally.summary.cancelled := by
  induction lines generalizing tally with
  | nil => rfl
  | cons text rest ih =>
      refine (ih (tally.read channel text)).trans ?_
      simp only [Tally.read]
      split
      next => rfl
      next =>
        split
        next => rfl
        next line _ =>
          simp only [Tally.take]
          repeat' split
          all_goals rfl

/-- The summary that the fold over the lines comes to, where every event that is published is
delivered. -/
def foldSummary (backing : FaultyStore σ) (channel : Channel) (lines : List String) : Summary :=
  let tally := (Tally.start (inboxOf backing channel)).readAll channel lines
  { tally.summary with delivered := tally.summary.published, failed := 0, cancelled := false }

/-- A replay whose caller never gives up takes in all lines. -/
theorem Run.whole (started : Bus.start config = .ok bus)
    (run : Run false (begin bus backing channel (lines.map some) false now) trace count progress)
    (stuck : next? progress = none) :
    result progress = .ok (foldSummary backing channel lines) ∧
      Shows channel backing ((Tally.start (inboxOf backing channel)).readAll channel lines) trace
        progress := by
  rcases run.outcome started id stuck with ⟨front, reading, read, shows, told⟩
  cases read with
  | upTo gone => cases gone
  | through =>
      refine ⟨?_, shows⟩
      have going := cancelled_readAll channel (.start (inboxOf backing channel)) lines
      simp only [told, foldSummary]
      rw [going]
      rfl

/-- Whatever the settings of the bus are and in whatever order the moves are made, a replay whose
caller never gives up comes to its end within some moves, and then to what the fold over its lines
says: the summary is the one of the fold, the inbox is the one of the fold, and the handlers were
called with the messages of the events that were published, each once. -/
theorem replay_counts_as_fold (started : Bus.start config = .ok bus)
    (run : Run false (begin bus backing channel (lines.map some) false now) trace count progress) :
    count ≤ 16 * (lines.length + 4) ∧
      (next? progress = none →
        result progress = .ok (foldSummary backing channel lines) ∧
          Shows channel backing ((Tally.start (inboxOf backing channel)).readAll channel lines) trace
            progress) := by
  refine ⟨?_, run.whole started⟩
  rcases run.standing started id with ⟨_, _, left, _, bound⟩
  rw [List.length_map] at bound
  omega

/-- A check-in message as a line. -/
def checkInLine (id conversationKey : String) : String :=
  "\x7b\"platform_message_id\":\"" ++ id ++ "\",\"topic\":\"dm-checkin\",\"conversation_key\":\"" ++
    conversationKey ++ "\",\"idempotency_key\":\"k\",\"payload\":\x7b\"text\":\"hi\"\x7d\x7d"

/-- The least of everything: one message at a time, in the bus and in its ingress queue. -/
def narrow : BusConfig :=
  { BusConfig.standard with maxInFlight := 1, ingressBuffer := 1 }

/-- A caller that never gives up. -/
theorem never (made : List StoreCall) : (fun _ => false) made = true → false = true :=
  id

/-- A blank line, one that cannot be read, an event without an id, and an event that comes twice. -/
theorem replay_counts_as_fold_five_lines :
    let lines := ["", "weather", checkInLine " " "k", checkInLine "1" "k", checkInLine "1" "k"]
    ∃ trace count progress,
      Run false (begin (.ofConfig narrow) (.sound MemoryStore.empty) .slack (lines.map some) false
        .epoch) trace count progress ∧
      count ≤ 144 ∧ next? progress = none ∧
      result progress = .ok {
        lines := 4, published := 1, duplicates := 1, rejected := 1, malformed := 1
        delivered := 1, failed := 0, cancelled := false } := by
  intro lines
  have started : Bus.start narrow = .ok (.ofConfig narrow) := rfl
  have faultless := FaultyStore.faultless_sound MemoryStore.empty
  rcases settle_completes started never id faultless .slack (lines.map some) .epoch with
    ⟨_, stuck, trace, count, run⟩
  rcases replay_counts_as_fold started run with ⟨bound, told⟩
  refine ⟨trace, count, _, run, bound, stuck, ?_⟩
  have folded : foldSummary (.sound MemoryStore.empty) .slack lines =
      ⟨4, 1, 1, 1, 1, 1, 0, false⟩ := by
    decide +kernel
  rw [(told stuck).1, folded]

/-- The replay that makes the first possible move as long as there is one comes to its end with the
summary of the fold. -/
theorem run_eq_fold {backing : FaultyStore MemoryStore} (started : Bus.start config = .ok bus)
    (faultless : backing.Faultless) (channel : Channel) (lines : List String) (now : Instant) :
    (Replay.run config channel (lines.map some) backing false (fun _ => false) now).1 =
      .ok (foldSummary backing channel lines) := by
  rcases settle_completes started never id faultless channel (lines.map some) now with
    ⟨_, stuck, trace, count, run⟩
  rw [Replay.run, started]
  exact (run.whole started stuck).1

/-! ## Replays that were interrupted -/

/-- A replay of some lines that has run from the first move to the end. -/
structure Complete (givesUp : Bool) (channel : Channel) (lines : List String)
    (backing : FaultyStore σ) (trace : List Event) (progress : Progress σ) : Prop where
  ran : ∃ config bus cancelled now count, Bus.start config = .ok bus ∧
    (cancelled = true → givesUp = true) ∧
    Run givesUp (begin bus backing channel (lines.map some) cancelled now) trace count progress
  stuck : next? progress = none

/-- The handlers were called with the messages of some events, each once and to the end. -/
def Handled (channel : Channel) (events : List InboundLine) (trace : List Event) : Prop :=
  ∃ messages, List.Forall₂ (MadeFrom channel) events messages ∧
    ((startedIn trace).map Admitted.message).Perm messages ∧
    ((endedIn trace).map Admitted.message).Perm messages

theorem Shows.handled {tally : Tally} (shows : Shows channel backing tally trace progress) :
    Handled channel tally.published trace := by
  rcases shows with ⟨messages, agrees, begun, ended⟩
  exact ⟨messages, agrees.published, begun, ended⟩

theorem Shows.inbox {tally : Tally} (shows : Shows channel backing tally trace progress) :
    inboxOf progress.system.backing channel = tally.inbox := by
  rcases shows with ⟨messages, agrees, _⟩
  exact funext agrees.inbox

/-- Where the inbox has come to know no id, nothing at all is stored. -/
theorem Shows.unchanged {tally : Tally} (shows : Shows channel backing tally trace progress)
    (same : tally.inbox = inboxOf backing channel) :
    FaithfulStore.holdings progress.system.backing.store =
      FaithfulStore.holdings backing.store := by
  rcases shows with ⟨messages, agrees, _⟩
  have inbox : (FaithfulStore.holdings progress.system.backing.store).inbox =
      (FaithfulStore.holdings backing.store).inbox := by
    funext other id
    by_cases own : other = channel
    · subst own
      cases known : (FaithfulStore.holdings backing.store).inbox other id with
      | some record => exact agrees.kept id record known
      | none =>
          have unknown := agrees.inbox id
          rw [same, inboxOf, known] at unknown
          exact Option.map_eq_none_iff.mp unknown
    · exact agrees.others other id own
  cases held : FaithfulStore.holdings progress.system.backing.store with
  | mk inboxAfter outboxAfter =>
      have outbox := agrees.outbox
      rw [held] at inbox outbox
      cases inbox
      cases outbox
      rfl

/-- A complete replay takes in some of the lines from the first on, or all if its caller never gives
up, and counts what it publishes and delivers. -/
theorem Complete.outcome (complete : Complete givesUp channel lines backing trace progress) :
    ∃ front back summary, lines = front ++ back ∧ (givesUp = false → back = []) ∧
      Shows channel backing ((Tally.start (inboxOf backing channel)).readAll channel front) trace
        progress ∧
      result progress = .ok summary ∧
      summary.published =
        ((Tally.start (inboxOf backing channel)).readAll channel front).summary.published ∧
      summary.delivered = summary.published := by
  rcases complete.ran with ⟨config, bus, cancelled, now, count, started, may, run⟩
  rcases run.outcome started may complete.stuck with ⟨front, reading, read, shows, told⟩
  cases read with
  | through => exact ⟨lines, [], _, by simp, fun _ => rfl, shows, told, rfl, rfl⟩
  | @upTo front back gone split counted =>
      exact ⟨front, back, _, split, by simp [gone], shows, told, rfl, rfl⟩

/-- A complete replay whose caller never gives up takes in all lines. -/
theorem Complete.whole (complete : Complete false channel lines backing trace progress) :
    ∃ summary, Shows channel backing ((Tally.start (inboxOf backing channel)).readAll channel lines)
        trace progress ∧
      result progress = .ok summary ∧
      summary.published =
        ((Tally.start (inboxOf backing channel)).readAll channel lines).summary.published ∧
      summary.delivered = summary.published := by
  rcases complete.outcome with ⟨front, back, summary, split, all, shows, told, counted⟩
  rw [all rfl, List.append_nil] at split
  subst split
  exact ⟨summary, shows, told, counted⟩

/-- A replay that was interrupted at any moment goes on where it stopped when the lines are replayed
again: the inbox is the one that a replay without an interruption leaves, the events are those that
it publishes, in two parts, and what the two replays publish and deliver adds up to what it does.
One more replay publishes and delivers nothing and leaves the store as it is. -/
theorem interrupted_replay_resumes {cut rest all again : List Event}
    {interrupted resumed whole repeated : Progress σ}
    (first : Complete true channel lines backing cut interrupted)
    (second : Complete false channel lines interrupted.system.backing rest resumed)
    (uninterrupted : Complete false channel lines backing all whole)
    (third : Complete false channel lines resumed.system.backing again repeated) :
    inboxOf resumed.system.backing channel = inboxOf whole.system.backing channel ∧
      (∃ early late, Handled channel early cut ∧ Handled channel late rest ∧
        Handled channel (early ++ late) all ∧ Handled channel [] again) ∧
      FaithfulStore.holdings repeated.system.backing.store =
        FaithfulStore.holdings resumed.system.backing.store ∧
      ∃ one two three four, result interrupted = .ok one ∧ result resumed = .ok two ∧
        result whole = .ok three ∧ result repeated = .ok four ∧
        one.published + two.published = three.published ∧
        one.delivered + two.delivered = three.delivered ∧
        four.published = 0 ∧ four.delivered = 0 := by
  rcases first.outcome with ⟨front, back, one, split, _, cutShows, oneTold, onePublished, oneSame⟩
  rcases second.whole with ⟨two, restShows, twoTold, twoPublished, twoSame⟩
  rcases uninterrupted.whole with ⟨three, allShows, threeTold, threePublished, threeSame⟩
  rcases third.whole with ⟨four, againShows, fourTold, fourPublished, fourSame⟩
  have ahead := Tally.readAll_again channel (inboxOf backing channel) front back
  rw [← split, ← cutShows.inbox] at ahead
  have idle := Tally.readAll_twice channel (.start (inboxOf interrupted.system.backing channel)) lines
  rw [← restShows.inbox] at idle
  have counted := Tally.counts_readAll channel (inboxOf backing channel) front
  have added : one.published + two.published = three.published := by
    rw [onePublished, twoPublished, threePublished, ahead.count, counted]
  have nothing : four.published = 0 := by
    rw [fourPublished, idle.count]
    rfl
  refine ⟨?_, ⟨_, _, cutShows.handled, restShows.handled, ?_, ?_⟩, ?_, one, two, three, four, oneTold,
    twoTold, threeTold, fourTold, added, ?_, nothing, ?_⟩
  · rw [restShows.inbox, allShows.inbox, ahead.inbox]
  · rw [← ahead.published]
    exact allShows.handled
  · have handled := againShows.handled
    rwa [idle.published] at handled
  · exact againShows.unchanged idle.inbox
  · rw [oneSame, twoSame, threeSame, added]
  · rw [fourSame, nothing]

/-- A replay that is given its moves is complete. -/
theorem complete_of_settle {backing : FaultyStore MemoryStore} {gaveUp : List StoreCall → Bool}
    (started : Bus.start config = .ok bus) (may : ∀ made, gaveUp made = true → givesUp = true)
    (faultless : backing.Faultless) (channel : Channel) (lines : List String) (now : Instant)
    {last : Progress MemoryStore}
    (settled : settle gaveUp (16 * ((lines.map some).length + 4))
      (begin bus backing channel (lines.map some) false now) = last) :
    last.system.backing.Faultless ∧ ∃ trace, Complete givesUp channel lines backing trace last := by
  subst settled
  have early : false = true → givesUp = true := nofun
  rcases settle_completes started may early faultless channel (lines.map some) now with
    ⟨faultless, stuck, trace, count, run⟩
  exact ⟨faultless, trace, ⟨config, bus, false, now, count, started, early, run⟩, stuck⟩

/-- The caller gives up when the first of two events is published. The other one is published when
the lines are replayed again. -/
theorem interrupted_replay_resumes_two_lines :
    let lines := [checkInLine "1" "slack:dm:7", checkInLine "2" "slack:dm:7"]
    ∃ (cut rest : List Event) (interrupted resumed : Progress MemoryStore) (one two : Summary),
      Complete true .slack lines (.sound MemoryStore.empty) cut interrupted ∧
      Complete false .slack lines interrupted.system.backing rest resumed ∧
      result interrupted = .ok one ∧ result resumed = .ok two ∧
      one.cancelled = true ∧ one.published = 1 ∧ one.delivered = 1 ∧
      two.published = 1 ∧ two.delivered = 1 := by
  intro lines
  have started : Bus.start narrow = .ok (.ofConfig narrow) := rfl
  have sound := FaultyStore.faultless_sound MemoryStore.empty
  have may : ∀ made : List StoreCall, decide (2 ≤ made.length) = true → true = true :=
    fun _ _ => rfl
  generalize cutShort : settle (fun made => 2 ≤ made.length) (16 * ((lines.map some).length + 4))
    (begin (.ofConfig narrow) (.sound MemoryStore.empty) .slack (lines.map some) false .epoch) =
      interrupted
  generalize inOne : settle (fun _ => false) (16 * ((lines.map some).length + 4))
    (begin (.ofConfig narrow) (.sound MemoryStore.empty) .slack (lines.map some) false .epoch) =
      whole
  have oneSeen : result interrupted = .ok ⟨1, 1, 0, 0, 0, 1, 0, true⟩ := by
    rw [← cutShort]
    decide +kernel
  have threeSeen : result whole = .ok ⟨2, 2, 0, 0, 0, 2, 0, false⟩ := by
    rw [← inOne]
    decide +kernel
  rcases complete_of_settle started may sound .slack lines .epoch cutShort with
    ⟨faultless, cut, first⟩
  rcases complete_of_settle started never faultless .slack lines .epoch rfl with
    ⟨faultless, rest, second⟩
  rcases complete_of_settle started never sound .slack lines .epoch inOne with ⟨_, all, full⟩
  rcases complete_of_settle started never faultless .slack lines .epoch rfl with ⟨_, again, third⟩
  rcases interrupted_replay_resumes first second full third with
    ⟨_, _, _, one, two, three, four, oneTold, twoTold, threeTold, _, published, delivered, _⟩
  cases oneSeen.symm.trans oneTold
  cases threeSeen.symm.trans threeTold
  exact ⟨cut, rest, interrupted, _, _, two, first, second, oneSeen, twoTold, rfl, rfl, rfl,
    Nat.add_left_cancel published, Nat.add_left_cancel delivered⟩

end ConversationBus.Replay
