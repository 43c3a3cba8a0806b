import ConversationBus.Proofs.Replay.Run

/-!
# Moving on until nothing can

A replay that makes the first move that is possible as long as there is one is one of the trials, and
one of the runs where no call of the store fails. The number of moves that it is given is enough.
-/

namespace ConversationBus

namespace FaultyStore

variable {σ : Type}

def Faultless (backing : FaultyStore σ) : Prop :=
  ∀ number call, backing.fault number call = none

theorem faultless_sound (store : σ) : (FaultyStore.sound store).Faultless :=
  fun _ _ => rfl

theorem attempt_fault {α : Type} (backing : FaultyStore σ) (call : StoreCall)
    (run : σ → Except StoreError (α × σ)) :
    (backing.attempt call run).2.fault = backing.fault := by
  simp only [attempt]
  split
  next => rfl
  next =>
    split
    next => rfl
    next => rfl

/-- No call of a store fails, whatever it comes to hold. -/
def Certain [RecordStore σ] (backing : FaultyStore σ) : Prop :=
  ∀ later : FaultyStore σ, later.fault = backing.fault → ∀ action result,
    later.ask action = some result → Exchange.storeFailed ⟨action, result.1⟩ = false

/-- A call of a store in memory does not fail by itself. -/
theorem Faultless.certain {backing : FaultyStore MemoryStore} (faultless : backing.Faultless) :
    backing.Certain := by
  intro later same action result asked
  have none : ∀ call, later.fault later.made.length call = none := by
    intro call
    rw [same]
    exact faultless _ call
  cases action with
  | findInbox | saveInbox | findOutbox | saveOutbox =>
      cases asked
      simp [findInbox, saveInbox, findOutbox, saveOutbox, attempt, none, RecordStore.findInbox,
        RecordStore.saveInbox, RecordStore.findOutbox, RecordStore.saveOutbox, Except.map,
        Exchange.storeFailed]
  | publish | send | now | cancelled | close => cases asked

end FaultyStore

namespace System

variable {σ α : Type} [RecordStore σ] {system : System σ α} {moved : System σ α × List Event}

/-- No move injects failures into the store. -/
theorem fault_move {move : Move} (made : system.move? move = some moved) :
    moved.1.backing.fault = system.backing.fault := by
  cases move with
  | bus step =>
      rcases Option.map_eq_some_iff.mp made with ⟨result, _, rfl⟩
      rfl
  | task index putOff =>
      simp only [move?, moveTask, Option.bind_eq_bind, Option.bind_eq_some_iff] at made
      rcases made with ⟨task, _, made⟩
      rcases task with ⟨name, flow, pending, cancelled⟩
      cases flow with
      | done => cases made
      | act action next =>
          cases action with
          | findInbox | saveInbox | findOutbox | saveOutbox =>
              cases made
              simp only [afterStore, FaultyStore.findInbox, FaultyStore.saveInbox,
                FaultyStore.findOutbox, FaultyStore.saveOutbox]
              exact FaultyStore.attempt_fault ..
          | publish | close =>
              cases pending with
              | none | some =>
                  rcases Option.map_eq_some_iff.mp made with ⟨result, _, rfl⟩
                  rfl
          | send => cases made
          | now | cancelled =>
              cases made
              rfl

end System

namespace Replay

variable {σ : Type} [RecordStore σ] {faulty givesUp : Bool} {first mid last progress : Progress σ}
  {trace later : List Event} {exchanges others : List Exchange} {count more : Nat}
  {gaveUp : List StoreCall → Bool}

theorem Trial.append (trial : Trial faulty givesUp first trace exchanges count mid)
    (rest : Trial faulty givesUp mid later others more last) :
    Trial faulty givesUp first (trace ++ later) (exchanges ++ others) (count + more) last := by
  induction rest with
  | refl => simpa using trial
  | move rest now offered answered made ih =>
      rw [← List.append_assoc, ← List.append_assoc]
      exact ih.move now offered answered made
  | giveUp rest may ih => exact ih.giveUp may

/-- The first move that is possible is one of those that may be made. -/
theorem trial_of_next {next : Progress σ}
    (certain : faulty = false → progress.system.backing.Certain)
    (made : next? progress = some next) :
    next.system.backing.fault = progress.system.backing.fault ∧
      ∃ events heard, Trial faulty givesUp progress events heard 1 next := by
  rcases Option.map_eq_some_iff.mp made with ⟨moved, found, rfl⟩
  rcases List.exists_of_findSome?_eq_some found with ⟨move, member, possible⟩
  have answered : faulty = false → progress.Answered := by
    intro sound task _ action next result _ asked
    exact certain sound _ rfl action result asked
  refine ⟨?_, [] ++ moved.2, _,
    Trial.refl.move progress.system.clock (.tried member) answered possible⟩
  rw [goOn_system, System.fault_move possible]

/-- How settling begins: the caller may give up, and then a move is made if one is possible. -/
theorem settle_begins (may : ∀ made, gaveUp made = true → givesUp = true)
    (progress : Progress σ) :
    ∃ begun, Trial faulty givesUp progress [] [] 0 begun ∧
      begun.system.backing.fault = progress.system.backing.fault ∧ ∀ moves,
        (next? begun = none → settle gaveUp (moves + 1) progress = begun) ∧
          ∀ next, next? begun = some next →
            settle gaveUp (moves + 1) progress = settle gaveUp moves next := by
  cases given : gaveUp progress.system.backing.made with
  | false =>
      refine ⟨progress, .refl, rfl, fun moves => ⟨?_, ?_⟩⟩
      · intro stuck
        simp [settle, given, stuck]
      · intro next made
        simp [settle, given, made]
  | true =>
      refine ⟨progress.giveUp, Trial.refl.giveUp (may _ given), by rw [backing_giveUp],
        fun moves => ⟨?_, ?_⟩⟩
      · intro stuck
        rw [Progress.giveUp] at stuck
        simp [settle, given, Progress.giveUp, stuck]
      · intro next made
        rw [Progress.giveUp] at made
        simp [settle, given, made]

/-- To settle is to run, until no move is possible or as far as the moves reach. -/
theorem trial_of_settle (may : ∀ made, gaveUp made = true → givesUp = true)
    (certain : faulty = false → progress.system.backing.Certain) (moves : Nat) :
    (settle gaveUp moves progress).system.backing.fault = progress.system.backing.fault ∧
      ∃ trace exchanges count,
        Trial faulty givesUp progress trace exchanges count (settle gaveUp moves progress) ∧
        (moves ≤ count ∨ next? (settle gaveUp moves progress) = none) := by
  induction moves generalizing progress with
  | zero => exact ⟨rfl, [], [], 0, .refl, .inl (Nat.le_refl 0)⟩
  | succ moves ih =>
      rcases settle_begins may progress with ⟨begun, trial, kept, same⟩
      cases made : next? begun with
      | none =>
          rw [(same moves).1 made]
          exact ⟨kept, [], [], 0, trial, .inr made⟩
      | some next =>
          rw [(same moves).2 next made]
          have begunCertain : faulty = false → begun.system.backing.Certain :=
            fun sound later fault => certain sound later (fault.trans kept)
          rcases trial_of_next begunCertain made with ⟨fault, events, heard, step⟩
          have nextCertain : faulty = false → next.system.backing.Certain :=
            fun sound later kept => begunCertain sound later (kept.trans fault)
          rcases ih nextCertain with ⟨lastKept, trace, exchanges, count, rest, reached⟩
          refine ⟨lastKept.trans (fault.trans kept), _, _, _, (trial.append step).append rest,
            reached.imp_left ?_⟩
          intro far
          omega

/-- The moves that a replay is given are enough for it to come to its end, whatever calls of the
store fail. -/
theorem settle_ends {config : BusConfig} {bus : Bus} {backing : FaultyStore σ} {cancelled : Bool}
    (started : Bus.start config = .ok bus) (may : ∀ made, gaveUp made = true → givesUp = true)
    (early : cancelled = true → givesUp = true) (certain : faulty = false → backing.Certain)
    (channel : Channel) (lines : List (Option String)) (now : Instant) :
    let last := settle gaveUp (16 * (lines.length + 4))
      (begin bus backing channel lines cancelled now)
    last.system.backing.fault = backing.fault ∧ next? last = none ∧
      ∃ trace exchanges count,
        Trial faulty givesUp (begin bus backing channel lines cancelled now) trace exchanges count
          last := by
  have certain : faulty = false →
      (begin bus backing channel lines cancelled now).system.backing.Certain := certain
  rcases trial_of_settle may certain (16 * (lines.length + 4)) with
    ⟨kept, trace, exchanges, count, trial, far | stuck⟩
  · rcases trial.standing started early with ⟨_, left, _, bound⟩
    omega
  · exact ⟨kept, stuck, trace, exchanges, count, trial⟩

/-- On a store in memory without injected failures, the replay comes to its end in a run. -/
theorem settle_completes {config : BusConfig} {bus : Bus} {backing : FaultyStore MemoryStore}
    {gaveUp : List StoreCall → Bool} {cancelled : Bool} (started : Bus.start config = .ok bus)
    (may : ∀ made, gaveUp made = true → givesUp = true) (early : cancelled = true → givesUp = true)
    (faultless : backing.Faultless) (channel : Channel) (lines : List (Option String))
    (now : Instant) :
    let last := settle gaveUp (16 * (lines.length + 4))
      (begin bus backing channel lines cancelled now)
    last.system.backing.Faultless ∧ next? last = none ∧
      ∃ trace count,
        Run givesUp (begin bus backing channel lines cancelled now) trace count last := by
  rcases settle_ends started may early (fun _ => faultless.certain) channel lines now with
    ⟨kept, stuck, trace, _, count, trial⟩
  refine ⟨?_, stuck, trace, count, trial.run⟩
  intro number call
  rw [kept]
  exact faultless number call

end Replay

end ConversationBus
