import ConversationBus.Proofs.Replay.Summaries

/-!
# Input that cannot be read on

A replay that comes to a line which cannot be read has done with the lines before it what a replay
of these alone does. It still closes the bus and waits until it is drained, and fails only then: no
message that the bus has taken is lost, and no handler is left at work.
-/

namespace ConversationBus.Replay

/-! ## Reading up to a line that cannot be read -/

/-- How a reading ends at a line that cannot be read. Where the caller has given up before, the line
is not come to. -/
def Reading.cutShort (reading : Reading) : Reading :=
  if reading.summary.cancelled then reading else { reading with readable := false }

theorem cutShort_going {summary : Summary} (going : summary.cancelled = false) (readable : Bool) :
    Reading.cutShort ⟨summary, readable⟩ = ⟨summary, false⟩ := by
  simp [Reading.cutShort, going]

theorem cancelled_withResult (summary : Summary) (result : Except InboundError Bool) :
    (summary.withResult result).cancelled = summary.cancelled := by
  rcases result with error | _ | _
  · rfl
  · rfl
  · rfl

/-- Lines up to one that cannot be read are read like those before it; what comes after it has no
part in this. -/
theorem readLines_cut (channel : Channel) (front : List String) (rest : List (Option String))
    {summary : Summary} (going : summary.cancelled = false) :
    readLines channel (front.map some ++ none :: rest) summary =
      (readLines channel (front.map some) summary).bind fun reading =>
        .done reading.cutShort := by
  induction front generalizing summary with
  | nil =>
      simp only [List.map_nil, List.nil_append, readLines, Flow.bind]
      refine congrArg (Flow.act .cancelled) (funext ?_)
      rintro (_ | _)
      · rw [Flow.bind, cutShort_going going]
      · rfl
  | cons text others ih =>
      simp only [List.map_cons, List.cons_append, readLines_cons, Flow.bind]
      refine congrArg (Flow.act .cancelled) (funext ?_)
      rintro (_ | _)
      · rw [if_neg Bool.false_ne_true, if_neg Bool.false_ne_true]
        split
        next => exact ih going
        next =>
          split
          next => exact ih going
          next line _ =>
            simp only [Flow.bind]
            refine congrArg (Flow.act .now) (funext fun now => ?_)
            rw [Flow.bind_assoc]
            refine congrArg (Flow.bind _) (funext fun result => ?_)
            simp only [goOn]
            split
            next => rfl
            next => exact ih ((cancelled_withResult _ _).trans going)
      · rfl

/-! ## Replays that come to such a line -/

variable {σ : Type} [RecordStore σ] [FaithfulStore σ] {config : BusConfig} {bus : Bus}
  {backing : FaultyStore σ} {channel : Channel} {front : List String} {rest : List (Option String)}
  {now : Instant} {trace : List Event} {count : Nat} {progress : Progress σ} {own : List Exchange}
  {reading : Reading}

/-- A replay that was cut short after some lines, as it is when it has returned. -/
structure CutShort (channel : Channel) (front : List String) (backing : FaultyStore σ)
    (trace : List Event) (progress : Progress σ) : Prop where
  /-- The store and the handler calls are what the fold over these lines says. -/
  shows : Shows channel backing ((Tally.start (inboxOf backing channel)).readAll channel front)
    trace progress
  /-- They are what a replay of these lines alone comes to, with any settings. -/
  same : ∀ other whole, Complete false channel front backing other whole →
    inboxOf progress.system.backing channel = inboxOf whole.system.backing channel ∧
      ∃ events, Handled channel events trace ∧ Handled channel events other
  /-- Each message that the bus took was handled once, and to the end. -/
  once : ∀ call, .returned call (.ok ()) ∈ trace →
    ((startedIn trace).map Admitted.call).count call = 1 ∧
      ((endedIn trace).map Admitted.call).count call = 1
  /-- Nothing is on its way, and no handler is at work. -/
  rest : Bus.AtRest progress.system.bus

/-- A reading up to a line that cannot be read takes in the lines before it and fails. -/
theorem readLines_cut_tells {first last : Holdings}
    (dialogue : (readLines channel (front.map some ++ none :: rest) .zero).Dialogue first own
      reading)
    (expected : ∀ exchange ∈ own, exchange.Expected false) (held : last = first.afterAll own) :
    reading.readable = false ∧
      Agrees channel first
        ((Tally.start fun id => (first.inbox channel id).map (·.conversationKey)).readAll channel
          front)
        last (takenIn own) := by
  rw [readLines_cut channel front rest rfl] at dialogue
  rcases Flow.dialogue_bind.mp dialogue with ⟨own, last, read, split, dialogue, cut⟩
  rcases Flow.dialogue_done.mp cut with ⟨rfl, rfl⟩
  rw [List.append_nil] at split
  subst split
  rcases readLines_tells dialogue expected (.start channel first) with ⟨taken, read, agrees⟩
  rw [List.nil_append, ← held] at agrees
  cases read with
  | upTo gone => cases gone
  | through =>
      refine ⟨?_, agrees⟩
      have going := cancelled_readAll channel
        (.start fun id => (first.inbox channel id).map (·.conversationKey)) front
      exact congrArg Reading.readable (cutShort_going going true)

/-- A replay that has returned after a line that could not be read was cut short there. -/
theorem Run.cutShort (started : Bus.start config = .ok bus)
    (run : Run false (begin bus backing channel (front.map some ++ none :: rest) false now) trace
      count progress) {ended : Except ReplayError Summary}
    (done : progress.returned? = some ended) :
    ended = .error .unreadable ∧ CutShort channel front backing trace progress := by
  rcases run.returned started id done with
    ⟨_, own, reading, rfl, returned, dialogue, expected, held⟩
  have same := Bus.start_ofConfig started
  subst same
  rcases readLines_cut_tells dialogue expected held with ⟨unreadable, agrees⟩
  rw [← returned.taken] at agrees
  rcases returned.run.settled started returned.finished with ⟨begun, ended⟩
  have shows : Shows channel backing
      ((Tally.start (inboxOf backing channel)).readAll channel front) trace progress :=
    ⟨_, agrees, begun.map _, ended.map _⟩
  refine ⟨by rw [conclusion, unreadable]; rfl, ?_⟩
  exact {
    shows
    same := by
      intro other whole complete
      rcases complete.whole with ⟨_, alone, _⟩
      exact ⟨shows.inbox.trans alone.inbox.symm, _, shows.handled, alone.handled⟩
    once := fun call taken => returned.run.count_settled started returned.finished taken
    rest := (returned.run.course.sound started).at_rest returned.finished }

/-- A line that cannot be read loses nothing of what was taken in before it. Whatever the settings
of the bus are and in whatever order the moves are made, a replay comes to its end within some
moves; when it has returned, it has failed, and what it leaves behind is what a replay of the lines
before that one does: the same inbox and the same messages handled, each once and to the end. -/
theorem unreadable_line_loses_nothing (started : Bus.start config = .ok bus)
    (run : Run false (begin bus backing channel (front.map some ++ none :: rest) false now) trace
      count progress) :
    count ≤ 16 * ((front.map some ++ none :: rest).length + 4) ∧
      (next? progress = none → ∃ ended, progress.returned? = some ended) ∧
      ∀ ended, progress.returned? = some ended →
        ended = .error .unreadable ∧ CutShort channel front backing trace progress := by
  rcases run.trial with ⟨_, trial⟩
  refine ⟨?_, trial.returns started id, fun ended done => run.cutShort started done⟩
  rcases trial.standing started id with ⟨_, left, _, bound⟩
  omega

/-- Three events, a line that cannot be read while the budget is one message, and an event after it
that is not come to. -/
theorem unreadable_line_loses_nothing_four_lines :
    let front := [checkInLine "1" "k", checkInLine "2" "k", checkInLine "1" "k"]
    let rest := [some (checkInLine "3" "k")]
    ∃ trace count progress,
      Run false (begin (.ofConfig narrow) (.sound MemoryStore.empty) .slack
        (front.map some ++ none :: rest) false .epoch) trace count progress ∧
      next? progress = none ∧ progress.returned? = some (.error .unreadable) ∧
      CutShort .slack front (.sound MemoryStore.empty) trace progress ∧
      (startedIn trace).length = 2 ∧
      inboxOf progress.system.backing .slack "2" = some "k" ∧
      inboxOf progress.system.backing .slack "3" = none := by
  intro front rest
  have started : Bus.start narrow = .ok (.ofConfig narrow) := rfl
  have faultless := FaultyStore.faultless_sound MemoryStore.empty
  rcases settle_completes started never id faultless .slack (front.map some ++ none :: rest) .epoch
    with ⟨_, stuck, trace, count, run⟩
  rcases unreadable_line_loses_nothing started run with ⟨_, returns, told⟩
  rcases returns stuck with ⟨ended, done⟩
  rcases told ended done with ⟨rfl, cut⟩
  have folded :
      let tally := (Tally.start (inboxOf (.sound MemoryStore.empty) .slack)).readAll .slack front;
      tally.published.length = 2 ∧ tally.inbox "2" = some "k" ∧ tally.inbox "3" = none := by
    decide +kernel
  rcases folded with ⟨two, known, unknown⟩
  rcases cut.shows with ⟨messages, agrees, begun, _⟩
  refine ⟨trace, count, _, run, stuck, done, cut, ?_, ?_, ?_⟩
  · rw [← List.length_map Admitted.message, begun.length_eq, ← agrees.published.length_eq, two]
  · rw [cut.shows.inbox, known]
  · rw [cut.shows.inbox, unknown]

/-- The replay that makes the first possible move as long as there is one fails at such a line, with
the inbox that the replay of the lines before it leaves. -/
theorem run_unreadable {backing : FaultyStore MemoryStore} (started : Bus.start config = .ok bus)
    (faultless : backing.Faultless) (channel : Channel) (front : List String)
    (rest : List (Option String)) (now : Instant) :
    let cut := Replay.run config channel (front.map some ++ none :: rest) backing false
      (fun _ => false) now
    let alone := Replay.run config channel (front.map some) backing false (fun _ => false) now
    cut.1 = .error .unreadable ∧ inboxOf cut.2 channel = inboxOf alone.2 channel := by
  rcases settle_completes started never id faultless channel (front.map some ++ none :: rest) now
    with ⟨_, stuck, trace, count, run⟩
  rcases run.trial with ⟨_, trial⟩
  rcases trial.returns started id stuck with ⟨ended, done⟩
  rcases run.cutShort started done with ⟨rfl, cut⟩
  rcases complete_of_settle started never faultless channel front now rfl with ⟨_, other, whole⟩
  simp only [Replay.run, started]
  refine ⟨?_, (cut.same other _ whole).1⟩
  rw [result_eq, done]
  rfl

end ConversationBus.Replay
