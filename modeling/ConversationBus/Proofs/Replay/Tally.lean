import ConversationBus.Proofs.Delivery.Marks
import ConversationBus.Replay.Basic
import Mathlib.Data.List.Forall2

/-!
# What the lines of a replay come to

The reference for a replay is a plain fold over the lines. It knows no bus and no clock: a line is
counted by what it holds and by the ids that the inbox has so far. Whatever the surroundings answer
to the flow of a replay, it counts as the fold does, up to the line at which its caller gives up.
-/

namespace ConversationBus

/-- The answers to a replay on a store that does not fail, and on a bus that has a handler for each
topic and is open: every valid message is taken, unless the caller has given up. -/
def Exchange.Expected (gaveUp : Bool) : Exchange → Prop
  | ⟨.publish message, answer⟩ =>
    match message.validate with
    | .error error => answer = .error (.invalid error)
    | .ok _ => answer = .ok () ∨ gaveUp = true ∧ answer = .error .cancelled
  | ⟨.cancelled, told⟩ => told = true → gaveUp = true
  | ⟨.close, answer⟩ => answer = .ok ()
  | exchange => exchange.storeFailed = false

theorem Exchange.Expected.sound {gaveUp : Bool} {exchange : Exchange}
    (expected : exchange.Expected gaveUp) : exchange.storeFailed = false := by
  rcases exchange with ⟨action, answer⟩
  cases action with
  | findInbox | saveInbox | findOutbox | saveOutbox => exact expected
  | publish | send | now | cancelled | close => rfl

/-- What is expected of one who has not given up is expected of one who may have. -/
theorem Exchange.Expected.mono {gaveUp mayHave : Bool} {exchange : Exchange}
    (expected : exchange.Expected gaveUp) (may : gaveUp = true → mayHave = true) :
    exchange.Expected mayHave := by
  rcases exchange with ⟨action, answer⟩
  cases action with
  | publish message =>
      simp only [Expected] at expected ⊢
      split
      next error invalid => simpa [invalid] using expected
      next topic valid =>
        simp only [valid] at expected
        exact expected.imp_right fun gone => ⟨may gone.1, gone.2⟩
  | cancelled => exact fun told => may (expected told)
  | findInbox | saveInbox | findOutbox | saveOutbox | send | now | close => exact expected

/-- A message that is offered is refused as invalid, or taken, or the caller has given up. -/
theorem Exchange.Expected.offered {gaveUp : Bool} {message : Message}
    {answer : Except BusError Unit}
    (expected : Exchange.Expected gaveUp ⟨.publish message, answer⟩) :
    (message.validate.isOk = false ∧ ∃ error, answer = .error (.invalid error)) ∨
      (message.validate.isOk = true ∧
        (answer = .ok () ∨ gaveUp = true ∧ answer = .error .cancelled)) := by
  simp only [Expected] at expected
  split at expected
  next error invalid =>
    rw [invalid]
    exact .inl ⟨rfl, error, expected⟩
  next topic valid =>
    rw [valid]
    exact .inr ⟨rfl, expected⟩

@[simp] theorem takenIn_append (first last : List Exchange) :
    takenIn (first ++ last) = takenIn first ++ takenIn last :=
  List.filterMap_append

@[simp] theorem takenIn_nil : takenIn [] = [] := rfl

@[simp] theorem takenIn_singleton (exchange : Exchange) :
    takenIn [exchange] = exchange.taken?.toList := by
  cases taken : exchange.taken? with
  | none => simp [takenIn, taken]
  | some message => simp [takenIn, taken]

namespace Replay

/-! ## The fold -/

/-- What a replay has come to after some lines: its counts, the conversation of each id that the
inbox of the channel knows, and the events that were published, in their order. -/
structure Tally where
  summary : Summary
  inbox : String → Option String
  published : List InboundLine

/-- The message of an event is valid, whenever it is made. -/
def publishable (channel : Channel) (line : InboundLine) : Bool :=
  ((line.message .epoch).stamped channel line.platformMessageId).validate.isOk

namespace Tally

def start (inbox : String → Option String) : Tally :=
  ⟨.zero, inbox, []⟩

def countLine (tally : Tally) : Tally :=
  { tally with summary.lines := tally.summary.lines + 1 }

def malformed (tally : Tally) : Tally :=
  { tally with summary.malformed := tally.summary.malformed + 1 }

def rejected (tally : Tally) : Tally :=
  { tally with summary.rejected := tally.summary.rejected + 1 }

def duplicate (tally : Tally) : Tally :=
  { tally with summary.duplicates := tally.summary.duplicates + 1 }

/-- An event is published, and the inbox knows its id. -/
def publish (tally : Tally) (line : InboundLine) : Tally where
  summary := { tally.summary with published := tally.summary.published + 1 }
  inbox id := if id = line.platformMessageId then some line.conversationKey else tally.inbox id
  published := tally.published ++ [line]

/-- Takes an event. The inbox is asked before the message is checked. -/
def take (channel : Channel) (tally : Tally) (line : InboundLine) : Tally :=
  if Text.allBlank line.platformMessageId then tally.rejected
  else if (tally.inbox line.platformMessageId).isSome then tally.duplicate
  else if publishable channel line then tally.publish line
  else tally.rejected

section Take

variable {channel : Channel} {tally : Tally} {line : InboundLine}

theorem take_of_blank (blank : Text.allBlank line.platformMessageId = true) :
    tally.take channel line = tally.rejected := if_pos blank

theorem take_of_known (named : Text.allBlank line.platformMessageId = false)
    (known : (tally.inbox line.platformMessageId).isSome) :
    tally.take channel line = tally.duplicate := by
  simp [take, named, known]

theorem take_of_unknown (named : Text.allBlank line.platformMessageId = false)
    (unknown : tally.inbox line.platformMessageId = none) :
    tally.take channel line =
      if publishable channel line then tally.publish line else tally.rejected := by
  simp [take, named, unknown]

end Take

/-- Takes a line. A blank one is not counted. -/
def read (channel : Channel) (tally : Tally) (text : String) : Tally :=
  if Text.allBlank text then tally
  else match InboundLine.parse? text with
    | none => tally.countLine.malformed
    | some line => tally.countLine.take channel line

/-- Takes lines one after the other. -/
def readAll (channel : Channel) (tally : Tally) (lines : List String) : Tally :=
  lines.foldl (read channel) tally

end Tally

/-! ## The flow counts as the fold does -/

/-- A message that was made from an event, at some time. -/
def MadeFrom (channel : Channel) (line : InboundLine) (message : Message) : Prop :=
  ∃ now, message = (line.message now).stamped channel line.platformMessageId

/-- What is held and what was published goes with a tally. Only the inbox of the channel has changed
since the beginning, and only by ids that it did not know. -/
structure Agrees (channel : Channel) (first : Holdings) (tally : Tally) (held : Holdings)
    (taken : List Message) : Prop where
  inbox : ∀ id, (held.inbox channel id).map (·.conversationKey) = tally.inbox id
  kept : ∀ id record, first.inbox channel id = some record → held.inbox channel id = some record
  others : ∀ other id, other ≠ channel → held.inbox other id = first.inbox other id
  outbox : held.outbox = first.outbox
  published : List.Forall₂ (MadeFrom channel) tally.published taken

variable {channel : Channel} {first before : Holdings} {tally : Tally} {taken : List Message}
  {exchanges : List Exchange} {gaveUp : Bool} {line : InboundLine} {now : Instant}
  {result : Except InboundError Bool}

/-- Whether a message is valid does not depend on the time at which it was made. -/
theorem validate_made (channel : Channel) (line : InboundLine) (now : Instant) :
    ((line.message now).stamped channel line.platformMessageId).validate =
      ((line.message .epoch).stamped channel line.platformMessageId).validate := rfl

/-- How the flow counts the result of an event. -/
def Summary.withResult (summary : Summary) : Except InboundError Bool → Summary
  | .ok true => { summary with published := summary.published + 1 }
  | .ok false => { summary with duplicates := summary.duplicates + 1 }
  | .error _ => { summary with rejected := summary.rejected + 1 }

theorem Agrees.start (channel : Channel) (held : Holdings) :
    Agrees channel held
      (.start fun id => (held.inbox channel id).map (·.conversationKey)) held [] where
  inbox _ := rfl
  kept _ _ known := known
  others _ _ _ := rfl
  outbox := rfl
  published := .nil

theorem Agrees.count {counted : Tally} (agrees : Agrees channel first tally before taken)
    (inbox : counted.inbox = tally.inbox) (published : counted.published = tally.published)
    (same : before.afterAll exchanges = before) (none : takenIn exchanges = []) :
    Agrees channel first counted (before.afterAll exchanges) (taken ++ takenIn exchanges) where
  inbox := by
    rw [same, inbox]
    exact agrees.inbox
  kept := by
    rw [same]
    exact agrees.kept
  others := by
    rw [same]
    exact agrees.others
  outbox := by
    rw [same]
    exact agrees.outbox
  published := by
    rw [none, List.append_nil, published]
    exact agrees.published

/-- An event that is published agrees with its tally. -/
theorem Agrees.publish (agrees : Agrees channel first tally before taken)
    (unknown : before.inbox channel line.platformMessageId = none) (made seenAt : Instant) :
    Agrees channel first (tally.publish line)
      (before.putInbox ⟨channel, line.platformMessageId, line.conversationKey, seenAt⟩)
      (taken ++ [(line.message made).stamped channel line.platformMessageId]) where
  inbox := by
    intro id
    rw [Holdings.inbox_putInbox, Tally.publish]
    by_cases same : id = line.platformMessageId
    · simp [same]
    · simpa [same] using agrees.inbox id
  kept := by
    intro id record known
    have held := agrees.kept id record known
    rw [Holdings.inbox_putInbox, if_neg]
    · exact held
    · rintro ⟨_, rfl⟩
      simp [unknown] at held
  others := by
    intro other id apart
    rw [Holdings.inbox_putInbox, if_neg (fun same => apart same.1)]
    exact agrees.others other id apart
  outbox := agrees.outbox
  published := by
    rw [Tally.publish]
    exact List.rel_append agrees.published (.cons ⟨made, rfl⟩ .nil)

/-- An event comes to what the tally says, unless the caller has given up. -/
theorem publish_tells
    (dialogue : (Inbound.publish channel line.platformMessageId (line.message now)).Dialogue before
      exchanges result)
    (expected : ∀ exchange ∈ exchanges, exchange.Expected gaveUp)
    (agrees : Agrees channel first tally before taken) :
    (result = .error (.bus .cancelled) ∧ gaveUp = true ∧
      Agrees channel first tally (before.afterAll exchanges) (taken ++ takenIn exchanges)) ∨
    (result ≠ .error (.bus .cancelled) ∧
      tally.summary.withResult result = (tally.take channel line).summary ∧
      Agrees channel first (tally.take channel line) (before.afterAll exchanges)
        (taken ++ takenIn exchanges)) := by
  cases blank : Text.allBlank line.platformMessageId with
  | true =>
      simp only [Inbound.publish, Inbound.check, blank, if_true] at dialogue
      rcases Flow.dialogue_done.mp dialogue with ⟨rfl, rfl⟩
      rw [Tally.take_of_blank blank]
      exact .inr ⟨by simp, rfl, agrees.count rfl rfl rfl rfl⟩
  | false =>
      have inbox := agrees.inbox line.platformMessageId
      have acceptable : Inbound.Acceptable channel ⟨line.platformMessageId, line.message now⟩ :=
        ⟨blank, .inl rfl⟩
      have received : Inbound.Receiving channel ⟨line.platformMessageId, line.message now⟩ before
          exchanges result := Inbound.receiving dialogue
      cases received with
      | refused unacceptable => exact absurd acceptable unacceptable
      | unread _ error =>
          have sound := (expected _ List.mem_cons_self).sound
          cases sound
      | unmarked _ _ seenAt error =>
          have sound := (expected _ (List.mem_of_getLast? rfl)).sound
          cases sound
      | @known record _ held =>
          rw [Tally.take_of_known blank (by rw [← inbox, held]; rfl)]
          exact .inr ⟨by simp, rfl, agrees.count rfl rfl rfl rfl⟩
      | untaken _ unknown error =>
          rw [Tally.take_of_unknown blank (by rw [← inbox, unknown]; rfl)]
          have answered := (expected _ (List.mem_cons_of_mem _ List.mem_cons_self)).offered
          rw [validate_made] at answered
          rcases answered with ⟨invalid, reason, refused⟩ | ⟨_, taken | ⟨gone, cancelled⟩⟩
          · cases refused
            rw [publishable, invalid]
            exact .inr ⟨by simp, rfl, agrees.count rfl rfl rfl rfl⟩
          · cases taken
          · cases cancelled
            exact .inl ⟨rfl, gone, agrees.count rfl rfl rfl rfl⟩
      | marked _ unknown seenAt =>
          rw [Tally.take_of_unknown blank (by rw [← inbox, unknown]; rfl)]
          have answered := (expected _ (List.mem_cons_of_mem _ List.mem_cons_self)).offered
          rw [validate_made] at answered
          rcases answered with ⟨_, reason, refused⟩ | ⟨valid, _⟩
          · cases refused
          · rw [publishable, valid]
            exact .inr ⟨by simp, rfl, agrees.publish unknown now seenAt⟩

/-- How the flow goes on after an event. -/
def goOn (channel : Channel) (rest : List (Option String)) (summary : Summary)
    (result : Except InboundError Bool) : Flow Reading :=
  if result = .error (.bus .cancelled) then .done ⟨{ summary with cancelled := true }, true⟩
  else readLines channel rest (summary.withResult result)

theorem readLines_cons (channel : Channel) (text : String) (rest : List (Option String))
    (summary : Summary) :
    readLines channel (some text :: rest) summary = .act .cancelled fun told =>
      if told then .done ⟨{ summary with cancelled := true }, true⟩
      else if Text.allBlank text then readLines channel rest summary
      else match InboundLine.parse? text with
        | none => readLines channel rest
            { summary with lines := summary.lines + 1, malformed := summary.malformed + 1 }
        | some line => .act .now fun now =>
            (Inbound.publish channel line.platformMessageId (line.message now)).bind
              (goOn channel rest { summary with lines := summary.lines + 1 }) := by
  rw [readLines]
  refine congrArg (Flow.act .cancelled) (funext ?_)
  rintro (_ | _)
  · rw [if_neg Bool.false_ne_true]
    refine if_congr Iff.rfl rfl ?_
    cases InboundLine.parse? text with
    | none => rfl
    | some line =>
        refine congrArg (Flow.act .now) (funext fun now => congrArg (Flow.bind _) (funext ?_))
        rintro (error | _ | _)
        · simp [goOn, Summary.withResult]
        · rfl
        · rfl
  · rfl

/-- How the reading of the lines ended: at their end, or where the caller gave up. The line at which
it did so may be counted already. -/
inductive Read (channel : Channel) (gaveUp : Bool) (tally : Tally) (lines : List String) :
    List String → Reading → Prop where
  | through : Read channel gaveUp tally lines lines ⟨(tally.readAll channel lines).summary, true⟩
  | upTo {front back : List String} (gone : gaveUp = true) (split : lines = front ++ back)
      (count : Nat) :
      Read channel gaveUp tally lines front
        ⟨{ (tally.readAll channel front).summary with lines := count, cancelled := true }, true⟩

theorem Read.nothing (gone : gaveUp = true) (lines : List String) (count : Nat) :
    Read channel gaveUp tally lines []
      ⟨{ tally.summary with lines := count, cancelled := true }, true⟩ :=
  @Read.upTo channel gaveUp tally lines [] lines gone rfl count

theorem Read.cons {text : String} {rest front : List String} {reading : Reading}
    (read : Read channel gaveUp (tally.read channel text) rest front reading) :
    Read channel gaveUp tally (text :: rest) (text :: front) reading := by
  cases read with
  | through => exact .through
  | upTo gone split count => exact .upTo gone (congrArg (text :: ·) split) count

/-- The lines come to what the tally says, as far as they are read. -/
theorem readLines_tells {lines : List String} {reading : Reading}
    (dialogue : (readLines channel (lines.map some) tally.summary).Dialogue before exchanges
      reading)
    (expected : ∀ exchange ∈ exchanges, exchange.Expected gaveUp)
    (agrees : Agrees channel first tally before taken) :
    ∃ front, Read channel gaveUp tally lines front reading ∧
      Agrees channel first (tally.readAll channel front) (before.afterAll exchanges)
        (taken ++ takenIn exchanges) := by
  induction lines generalizing tally before taken exchanges with
  | nil =>
      rw [List.map_nil, readLines] at dialogue
      rcases Flow.dialogue_act.mp dialogue with ⟨told, _, rfl, _, dialogue⟩
      cases told with
      | true =>
          rcases Flow.dialogue_done.mp dialogue with ⟨rfl, rfl⟩
          have gone := expected _ List.mem_cons_self rfl
          exact ⟨[], .nothing gone _ _, agrees.count rfl rfl rfl rfl⟩
      | false =>
          rcases Flow.dialogue_done.mp dialogue with ⟨rfl, rfl⟩
          exact ⟨[], .through, agrees.count rfl rfl rfl rfl⟩
  | cons text rest ih =>
      -- It is enough to know how the rest is read, once the line is counted.
      have ofRest : ∀ {held : Holdings} {all : List Message},
          (∃ front, Read channel gaveUp (tally.read channel text) rest front reading ∧
            Agrees channel first ((tally.read channel text).readAll channel front) held all) →
          ∃ front, Read channel gaveUp tally (text :: rest) front reading ∧
            Agrees channel first (tally.readAll channel front) held all := by
        rintro held all ⟨front, read, agrees⟩
        exact ⟨text :: front, read.cons, agrees⟩
      rw [List.map_cons, readLines_cons] at dialogue
      rcases Flow.dialogue_act.mp dialogue with ⟨told, later, rfl, _, dialogue⟩
      have others : ∀ exchange ∈ later, exchange.Expected gaveUp :=
        fun exchange member => expected exchange (List.mem_cons_of_mem _ member)
      split at dialogue
      next told =>
        rcases Flow.dialogue_done.mp dialogue with ⟨rfl, rfl⟩
        have gone := expected _ List.mem_cons_self told
        exact ⟨[], .nothing gone _ _, agrees.count rfl rfl rfl rfl⟩
      next =>
        split at dialogue
        next blank =>
          have skips : tally.read channel text = tally := if_pos blank
          have read := ih dialogue others agrees
          rw [← skips] at read
          exact ofRest read
        next counts =>
          split at dialogue
          next malformed =>
            have counted : Agrees channel first tally.countLine.malformed before taken :=
              { agrees with }
            have read := ih dialogue others counted
            have counts : tally.read channel text = tally.countLine.malformed := by
              rw [Tally.read, if_neg counts, malformed]
            rw [← counts] at read
            exact ofRest read
          next line parsed =>
            have takes : tally.read channel text = tally.countLine.take channel line := by
              rw [Tally.read, if_neg counts, parsed]
            rcases Flow.dialogue_act.mp dialogue with ⟨now, later, rfl, _, dialogue⟩
            rcases Flow.dialogue_bind.mp dialogue with
              ⟨own, later, result, rfl, published, dialogue⟩
            have ownExpected : ∀ exchange ∈ own, exchange.Expected gaveUp := by
              intro exchange member
              exact others exchange (List.mem_cons_of_mem _ (List.mem_append_left _ member))
            have laterExpected : ∀ exchange ∈ later, exchange.Expected gaveUp := by
              intro exchange member
              exact others exchange (List.mem_cons_of_mem _ (List.mem_append_right _ member))
            have counted : Agrees channel first tally.countLine before taken := { agrees with }
            rcases publish_tells published ownExpected counted with
              ⟨rfl, gone, agrees⟩ | ⟨going, summary, agrees⟩
            · rcases Flow.dialogue_done.mp dialogue with ⟨rfl, rfl⟩
              rw [List.append_nil]
              exact ⟨[], .nothing gone _ _, { agrees with }⟩
            · rw [goOn, if_neg going] at dialogue
              have next : (readLines channel (rest.map some)
                  (tally.countLine.take channel line).summary).Dialogue (before.afterAll own) later
                    reading := summary ▸ dialogue
              have read := ih next laterExpected agrees
              rw [← Holdings.afterAll_append, List.append_assoc, ← takenIn_append, ← takes] at read
              exact ofRest read

end Replay

end ConversationBus
