import ConversationBus.Delivery.Inbound
import ConversationBus.Replay.Line
import ConversationBus.Replay.Summary
import ConversationBus.System.Basic
import ConversationBus.Text.Lines

/-!
# Replays

Recorded events go through the dedup flow onto a bus of their own, where a handler for every topic
checks each message again and counts it. When the input ends, cannot be read on, or the caller
gives up, the bus is closed and drained before the summary is made.
-/

namespace ConversationBus.Replay

/-- Why a replay fails. -/
inductive ReplayError where
  | start (error : StartError)
  /-- The input cannot be read on. -/
  | unreadable
  | bus (error : BusError)
  deriving DecidableEq, Repr

/-! ## The flow -/

/-- How the reading of the input ended. -/
structure Reading where
  summary : Summary
  /-- The input could be read to where the reading ended. -/
  readable : Bool
  deriving DecidableEq, Repr

/-- Publishes the events of the lines, one after the other. A line that is not there cannot be
read. -/
def readLines (channel : Channel) : List (Option String) → Summary → Flow Reading
  | lines, summary => .act .cancelled fun
    | true => .done ⟨{ summary with cancelled := true }, true⟩
    | false =>
      match lines with
      | [] => .done ⟨summary, true⟩
      | none :: _ => .done ⟨summary, false⟩
      | some text :: rest =>
        if Text.allBlank text then readLines channel rest summary
        else
          let summary := { summary with lines := summary.lines + 1 }
          match InboundLine.parse? text with
          | none => readLines channel rest { summary with malformed := summary.malformed + 1 }
          | some line => .act .now fun now =>
            (Inbound.publish channel line.platformMessageId (line.message now)).bind fun
              | .ok true =>
                readLines channel rest { summary with published := summary.published + 1 }
              | .ok false =>
                readLines channel rest { summary with duplicates := summary.duplicates + 1 }
              | .error error =>
                if error = .bus .cancelled then
                  .done ⟨{ summary with cancelled := true }, true⟩
                else readLines channel rest { summary with rejected := summary.rejected + 1 }

/-- Reads the lines and closes the bus. -/
def flow (channel : Channel) (lines : List (Option String)) :
    Flow (Except ReplayError Summary) :=
  (readLines channel lines .zero).bind fun reading =>
    .act .close fun
      | .error error => .done (.error (.bus error))
      | .ok () =>
        .done (if reading.readable then .ok reading.summary else .error .unreadable)

/-! ## The run -/

/-- A replay on its way: the system, the number of messages that the handlers have taken, and the
number of reports that have been collected from the error stream. -/
structure Progress (σ : Type) where
  system : System σ (Except ReplayError Summary)
  handled : Nat
  collected : Nat

/-- What the handler of a topic makes of a message. -/
def handle (running : Running) : Outcome :=
  match running.admitted.message.decode with
  | .ok _ => .succeeded
  | .error error => .failed [error.message]

/-- Subscribes a handler to each topic. -/
def subscribeAll (bus : Bus) : Bus :=
  Topic.all.foldl
    (fun bus topic => (bus.subscribe topic.name bus.handlers.length).toOption.getD bus) bus

variable {σ : Type}

/-- The replay of some lines on a bus, before the first move. -/
def begin (bus : Bus) (backing : FaultyStore σ) (channel : Channel) (lines : List (Option String))
    (cancelled : Bool) (now : Instant) : Progress σ where
  system := {
    bus := let subscribed := subscribeAll bus
      subscribed.takeErrors.getD subscribed
    backing, clock := now, tasks := [.begin "replay" cancelled (flow channel lines)] }
  handled := 0
  collected := 0

def absorb (progress : Progress σ) (event : Event) : Progress σ :=
  match event with
  | .ended _ .succeeded => { progress with handled := progress.handled + 1 }
  | .received _ => { progress with collected := progress.collected + 1 }
  | _ => progress

/-- The replay after a move. -/
def Progress.goOn (progress : Progress σ)
    (moved : System σ (Except ReplayError Summary) × List Event) : Progress σ :=
  moved.2.foldl absorb { progress with system := moved.1 }

/-- The moves that are tried, in this order. Reports are collected as they come. -/
def Progress.moves (progress : Progress σ) : List Move :=
  .bus .receive :: progress.system.candidates (some ∘ handle)

variable [RecordStore σ]

def next? (progress : Progress σ) : Option (Progress σ) :=
  (progress.moves.findSome? progress.system.move?).map progress.goOn

/-- Moves on until nothing can, or until the given number of moves is made. The caller gives up
when the store has been used as `gaveUp` says. -/
def settle (gaveUp : List StoreCall → Bool) : Nat → Progress σ → Progress σ
  | 0, progress => progress
  | moves + 1, progress =>
    let progress :=
      if gaveUp progress.system.backing.made then
        { progress with system := progress.system.cancelTask 0 }
      else progress
    match next? progress with
    | none => progress
    | some progress => settle gaveUp moves progress

omit [RecordStore σ] in
/-- The summary of a replay that has come to its end. -/
def result (progress : Progress σ) : Except ReplayError Summary :=
  match progress.system.tasks with
  | { flow := .done (.ok summary), .. } :: _ =>
    .ok { summary with delivered := progress.handled, failed := progress.collected }
  | { flow := .done (.error error), .. } :: _ => .error error
  | _ => .error .unreadable

/-- Replays some lines on a bus with the given settings. The result comes with the store as it is
left. -/
def run (config : BusConfig) (channel : Channel) (lines : List (Option String))
    (backing : FaultyStore σ) (cancelled : Bool) (gaveUp : List StoreCall → Bool)
    (now : Instant) : Except ReplayError Summary × FaultyStore σ :=
  match Bus.start config with
  | .error error => (.error (.start error), backing)
  | .ok bus =>
    let progress := begin bus backing channel lines cancelled now
    let progress := settle gaveUp (16 * (lines.length + 4)) progress
    (result progress, progress.system.backing)

end ConversationBus.Replay
