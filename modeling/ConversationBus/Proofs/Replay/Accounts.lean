import ConversationBus.Proofs.Replay.Summaries

/-!
# The accounts of a replay

Calls of the inbox may fail in any pattern, the caller may give up at any moment, and the bus may
interleave in any way. What the replay is told about each line that it reads still settles what
becomes of the line, and the counts of the summary are the counts of the lines.
-/

namespace ConversationBus.Replay

/-! ## Lines that were read -/

/-- A line that was read: what the replay was told about it, and what the flow of its event came to,
if it has one. -/
structure Entry where
  text : String
  exchanges : List Exchange
  result : Option (Except InboundError Bool)

namespace Entry

def counts (entry : Entry) : Bool :=
  !Text.allBlank entry.text

/-- The line cannot be read as an event. -/
def malformed (entry : Entry) : Bool :=
  entry.counts && (InboundLine.parse? entry.text).isNone

def published (entry : Entry) : Bool :=
  match entry.result with
  | some (.ok published) => published
  | _ => false

def duplicate (entry : Entry) : Bool :=
  match entry.result with
  | some (.ok published) => !published
  | _ => false

/-- The publish call of the event returned that the caller has given up, which stops the replay. -/
def cancelled (entry : Entry) : Bool :=
  match entry.result with
  | some (.error error) => error = .bus .cancelled
  | _ => false

def rejected (entry : Entry) : Bool :=
  match entry.result with
  | some (.error error) => error ≠ .bus .cancelled
  | _ => false

/-- The bus took the message of the event. -/
def accepted (entry : Entry) : Bool :=
  !(takenIn entry.exchanges).isEmpty

/-- The inbox record of the event was to be written, and was not. -/
def unwritten (entry : Entry) : Bool :=
  (marksIn entry.exchanges).any fun mark => !mark.2

/-- The bus took the message of the event, which is rejected because its inbox record could not be
written. -/
def unmarked (entry : Entry) : Bool :=
  entry.rejected && entry.accepted && entry.unwritten

/-- The ways in which a line is dealt with, once the caller is known not to have given up. -/
inductive Arises (channel : Channel) : Entry → Prop where
  | blank {text : String} (blank : Text.allBlank text = true) :
      Arises channel ⟨text, [⟨.cancelled, false⟩], none⟩
  | malformed {text : String} (counts : Text.allBlank text = false)
      (unreadable : InboundLine.parse? text = none) :
      Arises channel ⟨text, [⟨.cancelled, false⟩], none⟩
  | received {text : String} {line : InboundLine} {now : Instant} {own : List Exchange}
      {result : Except InboundError Bool} (counts : Text.allBlank text = false)
      (parsed : InboundLine.parse? text = some line)
      (leads : (Inbound.publish channel line.platformMessageId (line.message now)).Leads own
        (.done result)) :
      Arises channel ⟨text, ⟨.cancelled, false⟩ :: ⟨.now, now⟩ :: own, some result⟩

variable {channel : Channel} {entry : Entry}

/-- A line that is counted comes to exactly one end. -/
theorem Arises.one_end (arises : entry.Arises channel) :
    entry.counts.toNat = entry.published.toNat + entry.duplicate.toNat + entry.rejected.toNat +
      entry.malformed.toNat + entry.cancelled.toNat := by
  cases arises with
  | blank blank => simp [counts, blank, published, duplicate, rejected, Entry.malformed, cancelled]
  | malformed counted unreadable =>
      simp [counts, counted, unreadable, published, duplicate, rejected, Entry.malformed, cancelled]
  | @received text line now own result counted parsed leads =>
      have readable : Entry.malformed ⟨text, ⟨.cancelled, false⟩ :: ⟨.now, now⟩ :: own,
          some result⟩ = false := by simp [Entry.malformed, parsed]
      rw [readable, counts, counted]
      rcases result with error | published
      · by_cases gone : error = .bus .cancelled
        · simp [published, duplicate, rejected, cancelled, gone]
        · simp [published, duplicate, rejected, cancelled, gone]
      · cases published with
        | true | false => rfl

end Entry

variable {channel : Channel} {own : List Exchange}

section Received

variable {id : String} {message : Message} {result : Except InboundError Bool}

/-- The bus takes the message of an event that is published, and of one whose inbox record could not
be written. It takes no other. -/
theorem publish_leads (leads : (Inbound.publish channel id message).Leads own (.done result)) :
    (takenIn own = [] ∧ result ≠ .ok true) ∨
      ∃ stamped, takenIn own = [stamped] ∧
        (result = .ok true ∨
          ∃ error, result = .error (.store error) ∧ (marksIn own).any (fun mark => !mark.2)) := by
  simp only [Inbound.publish] at leads
  split at leads
  next =>
    rcases Flow.leads_done.mp leads with ⟨rfl, rfl⟩
    exact .inl ⟨rfl, by simp⟩
  next =>
    rcases Flow.leads_act.mp leads with ⟨found, asked, rfl, looked⟩
    rcases found with error | _ | record
    · rcases Flow.leads_done.mp looked with ⟨rfl, rfl⟩
      exact .inl ⟨rfl, by simp⟩
    · rcases Flow.leads_act.mp looked with ⟨answer, offered, rfl, told⟩
      rcases answer with error | ⟨⟨⟩⟩
      · rcases Flow.leads_done.mp told with ⟨rfl, rfl⟩
        exact .inl ⟨rfl, by simp⟩
      · rcases Flow.leads_act.mp told with ⟨seenAt, timed, rfl, marks⟩
        rcases Flow.leads_act.mp marks with ⟨saved, last, rfl, ends⟩
        rcases saved with error | ⟨⟨⟩⟩
        · rcases Flow.leads_done.mp ends with ⟨rfl, rfl⟩
          exact .inr ⟨_, rfl, .inr ⟨error, rfl, rfl⟩⟩
        · rcases Flow.leads_done.mp ends with ⟨rfl, rfl⟩
          exact .inr ⟨_, rfl, .inl rfl⟩
    · rcases Flow.leads_done.mp looked with ⟨rfl, rfl⟩
      exact .inl ⟨rfl, by simp⟩

/-- The bus takes one message of a line that is published, and of one that is rejected because its
inbox record could not be written. -/
theorem Entry.Arises.taken {entry : Entry} (arises : entry.Arises channel) :
    (takenIn entry.exchanges).length = entry.published.toNat + entry.unmarked.toNat := by
  cases arises with
  | blank | malformed => simp [takenIn, Exchange.taken?, published, unmarked, rejected]
  | @received text line now own result counts parsed leads =>
      have taken : takenIn (⟨.cancelled, false⟩ :: ⟨.now, now⟩ :: own) = takenIn own := rfl
      have marks : marksIn (⟨.cancelled, false⟩ :: ⟨.now, now⟩ :: own) = marksIn own := rfl
      rcases publish_leads leads with
        ⟨none, unpublished⟩ | ⟨stamped, one, rfl | ⟨error, rfl, failed⟩⟩
      · have unpublished : Entry.published ⟨text, ⟨.cancelled, false⟩ :: ⟨.now, now⟩ :: own,
            some result⟩ = false := by
          rcases result with error | published
          · rfl
          · cases published with
            | true => exact absurd rfl unpublished
            | false => rfl
        simp [unpublished, unmarked, accepted, taken, none]
      · simp [taken, one, published, unmarked, rejected]
      · simp [taken, marks, one, failed, published, unmarked, rejected, accepted, unwritten]

end Received

/-- The lines that were read and what the replay was told about them, in their order. The reading
goes on after each line but one whose publish call returned that the caller has given up. -/
structure Ledger (channel : Channel) (lines : List String) (exchanges : List Exchange)
    (entries : List Entry) : Prop where
  told : ∃ last, exchanges = entries.flatMap Entry.exchanges ++ last ∧
    (last = [] ∨ ∃ gaveUp, last = [⟨.cancelled, gaveUp⟩])
  read : entries.map Entry.text <+: lines
  arise : ∀ entry ∈ entries, entry.Arises channel
  goesOn : ∀ entry ∈ entries.dropLast, entry.cancelled = false

/-- A summary counts the lines that were read, on top of what another one has counted. -/
structure Counted (before : Summary) (entries : List Entry) (summary : Summary) : Prop where
  lines : summary.lines = before.lines + entries.countP Entry.counts
  published : summary.published = before.published + entries.countP Entry.published
  duplicates : summary.duplicates = before.duplicates + entries.countP Entry.duplicate
  rejected : summary.rejected = before.rejected + entries.countP Entry.rejected
  malformed : summary.malformed = before.malformed + entries.countP Entry.malformed
  cancelled : 0 < entries.countP Entry.cancelled → summary.cancelled = true

section Ledger

variable {lines : List String} {exchanges : List Exchange} {entries : List Entry}
  {before counted summary : Summary} {entry : Entry}

/-- No line is read after the caller was found to have given up, and after the last line. -/
theorem Ledger.ends (lines : List String) (gaveUp : Bool) :
    Ledger channel lines [⟨.cancelled, gaveUp⟩] [] where
  told := ⟨_, rfl, .inr ⟨gaveUp, rfl⟩⟩
  read := List.nil_prefix
  arise := nofun
  goesOn := nofun

theorem Ledger.stops (arises : entry.Arises channel) (lines : List String) :
    Ledger channel (entry.text :: lines) entry.exchanges [entry] where
  told := ⟨[], by simp, .inl rfl⟩
  read := ⟨lines, rfl⟩
  arise := List.forall_mem_singleton.mpr arises
  goesOn := nofun

theorem Ledger.cons (ledger : Ledger channel lines exchanges entries)
    (arises : entry.Arises channel) (going : entry.cancelled = false) :
    Ledger channel (entry.text :: lines) (entry.exchanges ++ exchanges) (entry :: entries) where
  told := by
    rcases ledger.told with ⟨last, rfl, form⟩
    exact ⟨last, by simp, form⟩
  read := List.cons_prefix_cons.mpr ⟨rfl, ledger.read⟩
  arise := List.forall_mem_cons.mpr ⟨arises, ledger.arise⟩
  goesOn := by
    cases entries with
    | nil => nofun
    | cons next rest => exact List.forall_mem_cons.mpr ⟨going, ledger.goesOn⟩

/-- At most one line is the last one because the caller has given up. -/
theorem Ledger.once (ledger : Ledger channel lines exchanges entries) :
    entries.countP Entry.cancelled ≤ 1 := by
  rcases entries.eq_nil_or_concat with rfl | ⟨front, last, rfl⟩
  · exact Nat.zero_le 1
  · have going := ledger.goesOn
    rw [List.concat_eq_append, List.dropLast_concat] at going
    have none : front.countP Entry.cancelled = 0 := by
      rw [List.countP_eq_zero]
      intro entry member
      simp [going entry member]
    rw [List.concat_eq_append, List.countP_append, none, Nat.zero_add]
    exact List.countP_le_length

/-- What the bus took is what it took of the lines. -/
theorem Ledger.taken (ledger : Ledger channel lines exchanges entries) :
    takenIn exchanges = entries.flatMap fun entry => takenIn entry.exchanges := by
  rcases ledger.told with ⟨last, rfl, form⟩
  have none : takenIn last = [] := by
    rcases form with rfl | ⟨gaveUp, rfl⟩
    · rfl
    · rfl
  rw [takenIn_append, none, List.append_nil, takenIn, List.filterMap_flatMap]
  rfl

theorem countP_cons_toNat (counts : Entry → Bool) (entry : Entry) (entries : List Entry) :
    (entry :: entries).countP counts = (counts entry).toNat + entries.countP counts := by
  rw [List.countP_cons, Nat.add_comm]
  cases counts entry with
  | true | false => rfl

theorem one_end_each (arise : ∀ entry ∈ entries, entry.Arises channel) :
    entries.countP Entry.counts = entries.countP Entry.published +
      entries.countP Entry.duplicate + entries.countP Entry.rejected +
      entries.countP Entry.malformed + entries.countP Entry.cancelled := by
  induction entries with
  | nil => rfl
  | cons entry rest ih =>
      have one := (arise entry List.mem_cons_self).one_end
      have others := ih fun other member => arise other (List.mem_cons_of_mem _ member)
      simp only [countP_cons_toNat]
      omega

theorem taken_each (arise : ∀ entry ∈ entries, entry.Arises channel) :
    (entries.flatMap fun entry => takenIn entry.exchanges).length =
      entries.countP Entry.published + entries.countP Entry.unmarked := by
  induction entries with
  | nil => rfl
  | cons entry rest ih =>
      have one := (arise entry List.mem_cons_self).taken
      have others := ih fun other member => arise other (List.mem_cons_of_mem _ member)
      simp only [List.flatMap_cons, List.length_append, countP_cons_toNat]
      omega

theorem Counted.cons (one : Counted before [entry] counted)
    (rest : Counted counted entries summary) (going : entry.cancelled = false) :
    Counted before (entry :: entries) summary where
  lines := by rw [rest.lines, one.lines, Nat.add_assoc, ← List.countP_append]; rfl
  published := by rw [rest.published, one.published, Nat.add_assoc, ← List.countP_append]; rfl
  duplicates := by rw [rest.duplicates, one.duplicates, Nat.add_assoc, ← List.countP_append]; rfl
  rejected := by rw [rest.rejected, one.rejected, Nat.add_assoc, ← List.countP_append]; rfl
  malformed := by rw [rest.malformed, one.malformed, Nat.add_assoc, ← List.countP_append]; rfl
  cancelled := by
    intro some
    rw [List.countP_cons_of_neg (by simp [going])] at some
    exact rest.cancelled some

theorem counted_nothing (before : Summary) (cancelled : Bool) :
    Counted before [] { before with cancelled } :=
  ⟨rfl, rfl, rfl, rfl, rfl, fun some => absurd some (Nat.lt_irrefl 0)⟩

section Line

variable {text : String} {line : InboundLine} {now : Instant} {result : Except InboundError Bool}

theorem counted_blank (blank : Text.allBlank text = true) :
    Counted before [⟨text, [⟨.cancelled, false⟩], none⟩] before := by
  constructor <;>
    simp [Entry.counts, Entry.malformed, Entry.published, Entry.duplicate, Entry.rejected,
      Entry.cancelled, blank]

theorem counted_malformed (counts : Text.allBlank text = false)
    (unreadable : InboundLine.parse? text = none) :
    Counted before [⟨text, [⟨.cancelled, false⟩], none⟩]
      { before with lines := before.lines + 1, malformed := before.malformed + 1 } := by
  constructor <;>
    simp [Entry.counts, Entry.malformed, Entry.published, Entry.duplicate, Entry.rejected,
      Entry.cancelled, counts, unreadable]

theorem counted_received (counts : Text.allBlank text = false)
    (parsed : InboundLine.parse? text = some line) (going : result ≠ .error (.bus .cancelled)) :
    Counted before [⟨text, ⟨.cancelled, false⟩ :: ⟨.now, now⟩ :: own, some result⟩]
      (Summary.withResult { before with lines := before.lines + 1 } result) := by
  rcases result with error | _ | _
  · have going : error ≠ .bus .cancelled := fun gone => going (congrArg Except.error gone)
    constructor <;>
      simp [Summary.withResult, Entry.counts, Entry.malformed, Entry.published, Entry.duplicate,
        Entry.rejected, Entry.cancelled, counts, parsed, going]
  all_goals
    constructor <;>
      simp [Summary.withResult, Entry.counts, Entry.malformed, Entry.published, Entry.duplicate,
        Entry.rejected, Entry.cancelled, counts, parsed]

/-- A line at which the caller has given up counts as one that was read, and as nothing else. -/
theorem counted_cancelled (counts : Text.allBlank text = false)
    (parsed : InboundLine.parse? text = some line) :
    Counted before
      [⟨text, ⟨.cancelled, false⟩ :: ⟨.now, now⟩ :: own, some (.error (.bus .cancelled))⟩]
      { before with lines := before.lines + 1, cancelled := true } := by
  constructor <;>
    simp [Entry.counts, Entry.malformed, Entry.published, Entry.duplicate, Entry.rejected,
      Entry.cancelled, counts, parsed]

end Line

/-- However the flow is answered, it counts the lines that it reads by what it is told about
them. -/
theorem readLines_counts {reading : Reading}
    (leads : (readLines channel (lines.map some) before).Leads exchanges (.done reading)) :
    ∃ entries, Ledger channel lines exchanges entries ∧
      Counted before entries reading.summary ∧ reading.readable = true := by
  -- By induction on the lines, for all counts to begin with: a line that does not stop the reading
  -- is counted, and the rest is read on top of its counts.
  induction lines generalizing before exchanges with
  | nil =>
      rw [List.map_nil, readLines] at leads
      rcases Flow.leads_act.mp leads with ⟨told, rest, rfl, ends⟩
      cases told with
      | true =>
          rcases Flow.leads_done.mp ends with ⟨rfl, rfl⟩
          exact ⟨[], .ends [] true, counted_nothing before true, rfl⟩
      | false =>
          rcases Flow.leads_done.mp ends with ⟨rfl, rfl⟩
          exact ⟨[], .ends [] false, counted_nothing before before.cancelled, rfl⟩
  | cons text others ih =>
      rw [List.map_cons, readLines_cons] at leads
      rcases Flow.leads_act.mp leads with ⟨told, rest, rfl, goes⟩
      cases told with
      | true =>
          rcases Flow.leads_done.mp goes with ⟨rfl, rfl⟩
          exact ⟨[], .ends _ true, counted_nothing before true, rfl⟩
      | false =>
          rw [if_neg Bool.false_ne_true] at goes
          split at goes
          next blank =>
            rcases ih goes with ⟨entries, ledger, counted, readable⟩
            exact ⟨_, ledger.cons (.blank blank) rfl, (counted_blank blank).cons counted rfl,
              readable⟩
          next counts =>
            have counts : Text.allBlank text = false := Bool.eq_false_iff.mpr counts
            split at goes
            next unreadable =>
              rcases ih goes with ⟨entries, ledger, counted, readable⟩
              exact ⟨_, ledger.cons (.malformed counts unreadable) rfl,
                (counted_malformed counts unreadable).cons counted rfl, readable⟩
            next line parsed =>
              rcases Flow.leads_act.mp goes with ⟨now, rest, rfl, asks⟩
              rcases Flow.leads_bind.mp asks with ⟨own, later, result, rfl, published, ends⟩
              have arises := Entry.Arises.received counts parsed published
              by_cases gone : result = .error (.bus .cancelled)
              · rw [goOn, if_pos gone] at ends
                rcases Flow.leads_done.mp ends with ⟨rfl, rfl⟩
                subst gone
                rw [List.append_nil]
                exact ⟨_, .stops arises others, counted_cancelled counts parsed, rfl⟩
              · rw [goOn, if_neg gone] at ends
                rcases ih ends with ⟨entries, ledger, counted, readable⟩
                have going : Entry.cancelled ⟨text, ⟨.cancelled, false⟩ :: ⟨.now, now⟩ :: own,
                    some result⟩ = false := by
                  rcases result with error | published
                  · simpa [Entry.cancelled] using gone
                  · rfl
                exact ⟨_, ledger.cons arises going,
                  (counted_received counts parsed gone).cons counted going, readable⟩

end Ledger

/-- The accounts of a replay: each count of the summary is the count of the lines of that kind, and
together they are the lines, but for the one at which the caller was found to have given up. The
handlers have taken what was published, and the messages of the rejected lines that the bus had
taken, and no handler has failed. -/
structure Balanced (channel : Channel) (lines : List String) (exchanges : List Exchange)
    (entries : List Entry) (summary : Summary) : Prop where
  ledger : ∃ own, exchanges = own ++ [⟨.close, .ok ()⟩] ∧ Ledger channel lines own entries
  published : summary.published = entries.countP Entry.published
  duplicates : summary.duplicates = entries.countP Entry.duplicate
  rejected : summary.rejected = entries.countP Entry.rejected
  malformed : summary.malformed = entries.countP Entry.malformed
  lines : summary.lines = summary.published + summary.duplicates + summary.rejected +
    summary.malformed + entries.countP Entry.cancelled
  once : entries.countP Entry.cancelled ≤ 1
  cancelled : entries.countP Entry.cancelled = 1 → summary.cancelled = true
  delivered : summary.delivered = summary.published + entries.countP Entry.unmarked
  failed : summary.failed = 0

section Run

variable {σ : Type} [RecordStore σ] {config : BusConfig} {bus : Bus} {backing : FaultyStore σ}
  {lines : List String} {now : Instant} {cancelled givesUp faulty : Bool} {trace : List Event}
  {exchanges : List Exchange} {count left : Nat} {progress : Progress σ} {summary : Summary}
  {task : Task (Except ReplayError Summary)}

omit [RecordStore σ] in
/-- The handler of a topic succeeds with what the bus takes, whatever the replay was told before. -/
theorem Standing.succeeds (standing : Standing config givesUp trace exchanges progress task left)
    {running : Running} (queued : running.admitted ∈ queuedIn trace) :
    handle running = .succeeded := by
  have taken := List.mem_map_of_mem (f := Admitted.message) queued
  rw [standing.taken, takenIn, List.mem_filterMap] at taken
  rcases taken with ⟨⟨action, answer⟩, member, taken⟩
  cases action with
  | publish message =>
      rcases answer with error | ⟨⟨⟩⟩
      · cases taken
      · cases taken
        have expected := (standing.expected _ member).resolve_left Bool.false_ne_true
        rcases expected.offered with ⟨_, error, refused⟩ | ⟨valid, _⟩
        · cases refused
        · cases validated : running.admitted.message.validate with
          | error error =>
              rw [validated] at valid
              cases valid
          | ok topic => exact handle_valid validated
  | findInbox | saveInbox | findOutbox | saveOutbox | send | now | cancelled | close => cases taken

/-- A replay of lines that can be read does not fail. -/
theorem Trial.concludes (started : Bus.start config = .ok bus)
    (may : cancelled = true → givesUp = true)
    (trial : Trial faulty givesUp (begin bus backing channel (lines.map some) cancelled now) trace
      exchanges count progress) (stuck : next? progress = none) :
    ∃ summary, result progress = .ok summary := by
  rcases trial.returns started may stuck with ⟨_, done⟩
  rcases trial.returned started may done with ⟨own, reading, rfl, returned⟩
  rcases readLines_counts returned.read with ⟨entries, _, _, readable⟩
  rw [conclusion, if_pos readable] at done
  exact ⟨_, result_eq_ok_iff.mpr ⟨_, done, rfl⟩⟩

theorem Trial.balanced (started : Bus.start config = .ok bus)
    (may : cancelled = true → givesUp = true)
    (trial : Trial faulty givesUp (begin bus backing channel (lines.map some) cancelled now) trace
      exchanges count progress) (told : result progress = .ok summary) :
    ∃ entries, Balanced channel lines exchanges entries summary := by
  rcases result_eq_ok_iff.mp told with ⟨read, done, rfl⟩
  rcases trial.returned started may done with ⟨own, reading, concluded, returned⟩
  have same := Bus.start_ofConfig started
  subst same
  rcases returned.run.settled started returned.finished with ⟨_, finished⟩
  rcases readLines_counts returned.read with ⟨entries, ledger, counted, readable⟩
  rw [conclusion, if_pos readable] at concluded
  cases concluded
  have handled : progress.handled =
      entries.countP Entry.published + entries.countP Entry.unmarked := by
    rw [returned.handled, finished.length_eq, ← List.length_map Admitted.message, returned.taken,
      ledger.taken, taken_each ledger.arise]
  have published := counted.published.trans (Nat.zero_add _)
  have duplicates := counted.duplicates.trans (Nat.zero_add _)
  have rejected := counted.rejected.trans (Nat.zero_add _)
  have malformed := counted.malformed.trans (Nat.zero_add _)
  refine ⟨entries, ⟨own, returned.told, ledger⟩, published, duplicates, rejected, malformed, ?_,
    ledger.once, ?_, ?_, returned.collected⟩
  · have lines := counted.lines.trans (Nat.zero_add _)
    rw [one_end_each ledger.arise] at lines
    dsimp only
    rw [lines, published, duplicates, rejected, malformed]
  · intro once
    exact counted.cancelled (by omega)
  · exact handled.trans (congrArg (· + _) published.symm)

/-- Whatever the settings of the bus are, whatever calls of the store fail, whenever the caller
gives up and in whatever order the moves are made, a replay of lines that can be read comes to its
end within some moves, with a summary that balances. What the replay was told that the bus took is
what has entered the ingress queue, and the handler of every topic succeeds with it. -/
theorem replay_balances (started : Bus.start config = .ok bus)
    (trial : Trial true true (begin bus backing channel (lines.map some) cancelled now) trace
      exchanges count progress) :
    count ≤ 16 * (lines.length + 4) ∧
      (next? progress = none → ∃ summary, result progress = .ok summary) ∧
      (∀ summary, result progress = .ok summary →
        ∃ entries, Balanced channel lines exchanges entries summary) ∧
      (queuedIn trace).map Admitted.message = takenIn exchanges ∧
      ∀ running : Running, running.admitted ∈ queuedIn trace → handle running = .succeeded := by
  have may : cancelled = true → true = true := fun _ => rfl
  rcases trial.standing started may with ⟨task, left, standing, bound⟩
  refine ⟨?_, trial.concludes started may, fun _ => trial.balanced started may, standing.taken,
    fun _ => standing.succeeds⟩
  rw [List.length_map] at bound
  omega

/-- A blank line, one that cannot be read, an event, one whose inbox record cannot be written, the
first event again, and an event that is being published when the caller gives up. -/
theorem replay_balances_six_lines :
    let lines := ["", "weather", checkInLine "1" "k", checkInLine "2" "k", checkInLine "1" "k",
      checkInLine "3" "k"]
    let backing : FaultyStore MemoryStore := {
      store := .empty, made := []
      fault := fun number _ => if number = 3 then some .connection else none }
    ∃ trace exchanges count progress entries summary,
      Trial true true (begin (.ofConfig narrow) backing .slack (lines.map some) false .epoch) trace
        exchanges count progress ∧
      next? progress = none ∧ result progress = .ok summary ∧
      Balanced .slack lines exchanges entries summary ∧
      summary.delivered = 2 ∧ summary.published = 1 ∧ entries.countP Entry.unmarked = 1 ∧
      summary.lines = 5 ∧ entries.countP Entry.cancelled = 1 := by
  intro lines backing
  have started : Bus.start narrow = .ok (.ofConfig narrow) := rfl
  have may : ∀ made : List StoreCall, decide (4 ≤ made.count .findInbox) = true → true = true :=
    fun _ _ => rfl
  have early : false = true → true = true := nofun
  have certain : true = false → backing.Certain := nofun
  have seen : result (settle (fun made => 4 ≤ made.count .findInbox)
      (16 * ((lines.map some).length + 4))
      (begin (.ofConfig narrow) backing .slack (lines.map some) false .epoch)) =
        .ok ⟨5, 1, 1, 1, 1, 2, 0, true⟩ := by
    decide +kernel
  rcases settle_ends started may early certain .slack (lines.map some) .epoch with
    ⟨_, stuck, trace, exchanges, count, trial⟩
  rcases replay_balances started trial with ⟨_, ends, balances, _⟩
  rcases ends stuck with ⟨summary, told⟩
  rcases balances summary told with ⟨entries, balanced⟩
  cases seen.symm.trans told
  have delivered := balanced.delivered
  have counted := balanced.lines
  refine ⟨trace, exchanges, count, _, entries, _, trial, stuck, told, balanced, rfl, rfl, ?_, rfl,
    ?_⟩
  · exact Nat.add_left_cancel delivered.symm
  · exact Nat.add_left_cancel counted.symm

end Run

end ConversationBus.Replay
