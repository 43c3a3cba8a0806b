import ConversationBus.Proofs.Delivery.Moves
import ConversationBus.Proofs.Flow.Interleaving

/-!
# Deliveries that overlap

A send is delivered several times at once, and the store does not fail. A delivery looks up the
record of the send and then saves its attempt, and others may do so in between. As long as each
attempt is saved where the record still allows one, at most one send is in progress at a time, none
starts after one succeeded, and the record tells in the end whether one did. An attempt that is
saved on top of another record starts a send while an earlier attempt has not ended, or after one
has succeeded.
-/

namespace ConversationBus

/-- Whether an outbox record with a status was saved. -/
def Exchange.saves (status : OutboxStatus) : Exchange → Bool
  | ⟨.saveOutbox record, .ok ()⟩ => record.status = status
  | _ => false

/-- The number of outbox records with a status that were saved. -/
def savesIn (status : OutboxStatus) (exchanges : List Exchange) : Nat :=
  exchanges.countP (Exchange.saves status)

def successesIn (exchanges : List Exchange) : Nat :=
  (sendsIn exchanges).countP Except.isOk

theorem savesIn_concat (status : OutboxStatus) (exchanges : List Exchange) (last : Exchange) :
    savesIn status (exchanges ++ [last]) =
      savesIn status exchanges + (last.saves status).toNat := by
  rw [savesIn, List.countP_append, List.countP_singleton, savesIn]
  cases last.saves status with
  | false | true => rfl

theorem savesIn_saved (status : OutboxStatus) (exchanges : List Exchange) (record : OutboxRecord) :
    savesIn status (exchanges ++ [⟨.saveOutbox record, .ok ()⟩]) =
      savesIn status exchanges + (decide (record.status = status)).toNat :=
  savesIn_concat status exchanges _

theorem successesIn_concat (exchanges : List Exchange) (last : Exchange) :
    successesIn (exchanges ++ [last]) =
      successesIn exchanges + last.outcome?.toList.countP Except.isOk := by
  rw [successesIn, sendsIn, filterMap_concat, List.countP_append, ← sendsIn, successesIn]

/-- Whenever an attempt was saved, what came before it was as asked. -/
def AtAttempts (asked : List Exchange → Prop) (exchanges : List Exchange) : Prop :=
  ∀ place < exchanges.length, exchanges[place]?.any (Exchange.saves .pending) →
    asked (exchanges.take place)

theorem atAttempts_nil (asked : List Exchange → Prop) : AtAttempts asked [] := by
  intro place bound
  cases bound

theorem atAttempts_concat {asked : List Exchange → Prop} {exchanges : List Exchange}
    {last : Exchange} :
    AtAttempts asked (exchanges ++ [last]) ↔
      AtAttempts asked exchanges ∧ (last.saves .pending → asked exchanges) := by
  constructor
  · intro all
    constructor
    · intro place bound saved
      have earlier := all place (by simp; omega)
      rw [List.getElem?_append_left bound,
        List.take_append_of_le_length (Nat.le_of_lt bound)] at earlier
      exact earlier saved
    · intro saved
      have here := all exchanges.length (by simp)
      simpa [saved] using here
  · rintro ⟨earlier, here⟩ place bound saved
    rw [List.length_append, List.length_singleton, Nat.lt_succ_iff_lt_or_eq] at bound
    rcases bound with bound | rfl
    · rw [List.getElem?_append_left bound] at saved
      rw [List.take_append_of_le_length (Nat.le_of_lt bound)]
      exact earlier place bound saved
    · rw [List.take_left]
      exact here (by simpa using saved)

namespace Flow

/-- Whether a send of a flow is in progress. -/
def sending {α : Type} : Flow α → Bool
  | .act .send _ => true
  | _ => false

end Flow

namespace Outbound

/-- The status of the record that is held for a send. -/
def statusIn (held : Holdings) (identity : SendIdentity) : Option OutboxStatus :=
  (held.outbox identity).map (·.status)

/-- Each attempt is saved where there is no record, or where the last attempt failed. -/
def Orderly (identity : SendIdentity) (before : Holdings) : List Exchange → Prop :=
  AtAttempts fun earlier =>
    Transition.startAttempt.LeadsFrom (statusIn (before.afterAll earlier) identity)

/-- Each attempt is saved after all earlier ones were recorded as failed and no send succeeded. -/
def Apart : List Exchange → Prop :=
  AtAttempts fun earlier =>
    savesIn .pending earlier = savesIn .failed earlier ∧ successesIn earlier = 0

/-! ## How far a delivery has come -/

/-- The rest of a move after the look-up. -/
def settle (draft : OutboxDraft) (transition : Transition) (found : Option OutboxRecord) :
    Flow (Except OutboxError OutboxRecord) :=
  .act .now fun now =>
    match applyTransition found draft transition now with
    | .error error => .done (.error error)
    | .ok next => save next

/-- The rest of a delivery after its attempt. -/
def proceed (draft : OutboxDraft) : Except OutboxError OutboxRecord →
    Flow (Except OutboxError OutboxRecord)
  | .error error => .done (.error error)
  | .ok _ => .act .send fun outcome => move draft (closing outcome)

inductive Stage where
  /-- It has not looked up the record. -/
  | arrived
  /-- It found no answer of the platform. -/
  | unanswered
  /-- It looked up the record for its attempt. -/
  | looked (found : Option OutboxRecord)
  /-- It is about to save its attempt. -/
  | ready (attempt : OutboxRecord)
  /-- Its send is in progress. -/
  | sending
  /-- Its send has an outcome. -/
  | answered (outcome : Except SendFailure SendReceipt)
  /-- It looked up the record for the outcome. -/
  | reviewed (outcome : Except SendFailure SendReceipt) (found : Option OutboxRecord)
  /-- It is about to save the outcome. -/
  | closing (outcome : Except SendFailure SendReceipt) (next : OutboxRecord)
  | ended (result : Except OutboxError OutboxRecord)

namespace Stage

def flow (draft : OutboxDraft) : Stage → Flow (Except OutboxError OutboxRecord)
  | .arrived => deliver draft
  | .unanswered => (move draft .startAttempt).bind (proceed draft)
  | .looked found => (settle draft .startAttempt found).bind (proceed draft)
  | .ready attempt => (save attempt).bind (proceed draft)
  | .sending => .act .send fun outcome => move draft (Outbound.closing outcome)
  | .answered outcome => move draft (Outbound.closing outcome)
  | .reviewed outcome found => settle draft (Outbound.closing outcome) found
  | .closing _ next => save next
  | .ended result => .done result

/-- Whether an attempt was saved and has not ended. -/
def underway : Stage → Bool
  | .sending | .answered _ | .reviewed .. | .closing .. => true
  | .arrived | .unanswered | .looked _ | .ready _ | .ended _ => false

/-- Whether a send succeeded, which is not recorded yet. -/
def won : Stage → Bool
  | .answered outcome | .reviewed outcome _ | .closing outcome _ => outcome.isOk
  | .arrived | .unanswered | .looked _ | .ready _ | .sending | .ended _ => false

/-- What a delivery found allows it an attempt. -/
def Eager : Stage → Prop
  | .looked found => Transition.startAttempt.LeadsFrom (found.map (·.status))
  | .ready _ => True
  | .arrived | .unanswered | .sending | .answered _ | .reviewed .. | .closing .. | .ended _ => False

/-- What is held for a send is the attempt of a delivery. -/
structure Holds (draft : OutboxDraft) (current : Option OutboxRecord) : Prop where
  named : Text.allBlank draft.idempotencyKey = false
  pending : current.map (·.status) = some .pending
  same : ∀ record, current = some record → record.identity = draft.identity

/-- What a delivery is about to save and what it found goes with what is held. -/
def Fits (draft : OutboxDraft) (current : Option OutboxRecord) : Stage → Prop
  | .ready attempt => Text.allBlank draft.idempotencyKey = false ∧
      attempt.identity = draft.identity ∧ attempt.status = .pending
  | .sending | .answered _ => Holds draft current
  | .reviewed _ found => Holds draft current ∧ found = current
  | .closing outcome next => Holds draft current ∧ next.identity = draft.identity ∧
      next.status = (Outbound.closing outcome).target
  | .arrived | .unanswered | .looked _ | .ended _ => True

variable {draft : OutboxDraft} {current other : Option OutboxRecord} {stage : Stage}

theorem underway_of_won (won : stage.won = true) : stage.underway = true := by
  cases stage with
  | answered | reviewed | closing => rfl
  | arrived | unanswered | looked | ready | sending | ended => cases won

theorem Fits.holds (fits : stage.Fits draft current) (underway : stage.underway = true) :
    Holds draft current := by
  cases stage with
  | sending | answered => exact fits
  | reviewed | closing => exact fits.1
  | arrived | unanswered | looked | ready | ended => cases underway

/-- What is held matters only to a delivery whose attempt was saved. -/
theorem Fits.of_idle (fits : stage.Fits draft current) (idle : stage.underway = false) :
    stage.Fits draft other := by
  cases stage with
  | arrived | unanswered | looked | ready | ended => exact fits
  | sending | answered | reviewed | closing => cases idle

end Stage

section Closing

variable (outcome : Except SendFailure SendReceipt)

theorem closing_target_ne_pending : (closing outcome).target ≠ .pending := by
  cases outcome with
  | ok receipt | error failure => exact OutboxStatus.noConfusion

theorem closing_target_eq_sent : decide ((closing outcome).target = .sent) = outcome.isOk := by
  cases outcome with
  | ok receipt | error failure => rfl

/-- An outcome is recorded either as failed or as sent. -/
theorem closing_target_failed_or_sent :
    (decide ((closing outcome).target = .failed)).toNat + outcome.isOk.toNat = 1 := by
  cases outcome with
  | ok receipt | error failure => rfl

end Closing

/-- The outcome of a send can be recorded on top of its attempt. -/
theorem Stage.Holds.applies {draft : OutboxDraft} {current : Option OutboxRecord}
    (holds : Stage.Holds draft current) (outcome : Except SendFailure SendReceipt)
    (now : Instant) :
    ∃ next, applyTransition current draft (Outbound.closing outcome) now = .ok next := by
  have leads : (Outbound.closing outcome).LeadsFrom (current.map (·.status)) := by
    cases outcome with
    | ok receipt | error failure => exact holds.pending
  exact applyTransition_of_leadsFrom holds.named holds.same (closing_speaks outcome) leads

theorem attempt_eq (draft : OutboxDraft) :
    attempt draft = Stage.unanswered.flow draft := by
  simp only [attempt, startAttempt, Stage.flow]
  congr 1
  funext begun
  cases begun with
  | error error => rfl
  | ok first =>
      refine congrArg (Flow.act _) ?_
      funext outcome
      cases outcome with
      | error failure => rfl
      | ok receipt => rfl

/-! ## What overlapping deliveries keep -/

variable {identity : SendIdentity} {first before held : Holdings}
  {calls front back : List (OutboxDraft × Stage)} {draft : OutboxDraft} {trace : List Exchange}
  {stage later : Stage} {exchange : Exchange}

/-- What the trace of overlapping deliveries tells of how far they have come, as long as their
attempts are orderly. -/
structure Course (identity : SendIdentity) (first : Holdings) (calls : List (OutboxDraft × Stage))
    (trace : List Exchange) (held : Holdings) : Prop where
  after : held = first.afterAll trace
  orderly : Orderly identity first trace
  apart : Apart trace
  fits : ∀ call ∈ calls, call.2.Fits call.1 (held.outbox identity)
  alone : calls.countP (·.2.underway) ≤ 1
  /-- Each attempt was recorded as failed or as sent, or has not ended. -/
  attempts : savesIn .pending trace =
    savesIn .failed trace + savesIn .sent trace + calls.countP (·.2.underway)
  /-- Each success was recorded, or has still to be. -/
  successes : successesIn trace = savesIn .sent trace + calls.countP (·.2.won)
  sent : 0 < savesIn .sent trace → statusIn held identity = some .sent
  origin : statusIn held identity = some .sent →
    statusIn first identity = some .sent ∨ 0 < savesIn .sent trace
  /-- A record that never allowed an attempt is found by all. -/
  stuck : ¬ Transition.startAttempt.LeadsFrom (statusIn held identity) →
    calls.countP (·.2.underway) = 0 → successesIn trace = 0 → ∀ call ∈ calls, ¬ call.2.Eager

theorem statusIn_putOutbox {record : OutboxRecord} (same : record.identity = identity) :
    statusIn (held.putOutbox record) identity = some record.status := by
  rw [statusIn, ← same, Holdings.outbox_putOutbox_self]
  rfl

/-- Beside a delivery whose attempt has not ended there is no other. -/
theorem idle_of_others {call : OutboxDraft} {other : OutboxDraft × Stage}
    (alone : (front ++ (call, stage) :: back).countP (·.2.underway) ≤ 1)
    (underway : stage.underway = true) (member : other ∈ front ++ back) :
    other.2.underway = false := by
  have others : (front ++ back).countP (·.2.underway) = 0 := by
    simp only [List.countP_append, List.countP_cons, underway, if_true] at alone ⊢
    omega
  simpa using List.countP_eq_zero.mp others other member

namespace Course

theorem begin (drafts : List OutboxDraft) :
    Course identity first (drafts.map (·, .arrived)) [] first where
  after := rfl
  orderly := atAttempts_nil _
  apart := atAttempts_nil _
  fits := by
    intro call member
    rcases List.mem_map.mp member with ⟨draft, _, rfl⟩
    trivial
  alone := by simp [List.countP_map, Function.comp_def, Stage.underway]
  attempts := by simp [savesIn, List.countP_map, Function.comp_def, Stage.underway]
  successes := by
    simp [successesIn, sendsIn, savesIn, List.countP_map, Function.comp_def, Stage.won]
  sent := by simp [savesIn]
  origin := .inl
  stuck := by
    intro _ _ _ call member
    rcases List.mem_map.mp member with ⟨draft, _, rfl⟩
    exact not_false

theorem pending (course : Course identity first calls trace held)
    (present : 0 < calls.countP (·.2.underway)) :
    statusIn held identity = some .pending := by
  rcases List.countP_pos_iff.mp present with ⟨call, member, underway⟩
  exact ((course.fits call member).holds underway).pending

theorem won_le (calls : List (OutboxDraft × Stage)) :
    calls.countP (·.2.won) ≤ calls.countP (·.2.underway) := by
  refine List.countP_mono_left ?_
  intro call _ won
  exact Stage.underway_of_won won

/-- Where the record allows an attempt, none has not ended, and none has succeeded. -/
theorem free (course : Course identity first calls trace held)
    (leads : Transition.startAttempt.LeadsFrom (statusIn held identity)) :
    calls.countP (·.2.underway) = 0 ∧ successesIn trace = 0 := by
  have idle : calls.countP (·.2.underway) = 0 := by
    refine Nat.eq_zero_of_not_pos ?_
    intro present
    simp [course.pending present, Transition.LeadsFrom] at leads
  have unsent : savesIn .sent trace = 0 := by
    refine Nat.eq_zero_of_not_pos ?_
    intro saved
    simp [course.sent saved, Transition.LeadsFrom] at leads
  have won := won_le calls
  have successes := course.successes
  exact ⟨idle, by omega⟩

/-- An attempt that can be saved is orderly if and only if it is apart from all others. -/
theorem leads_iff (course : Course identity first calls trace held)
    {call : OutboxDraft × Stage} (member : call ∈ calls) (eager : call.2.Eager) :
    Transition.startAttempt.LeadsFrom (statusIn held identity) ↔
      savesIn .pending trace = savesIn .failed trace ∧ successesIn trace = 0 := by
  have attempts := course.attempts
  have successes := course.successes
  constructor
  · intro leads
    rcases course.free leads with ⟨idle, none⟩
    exact ⟨by omega, none⟩
  · rintro ⟨ended, none⟩
    refine Decidable.byContradiction ?_
    intro held
    exact course.stuck held (by omega) none call member eager

theorem goOn (course : Course identity first (front ++ (draft, stage) :: back) trace before)
    (unsaved : ∀ status, exchange.saves status = false) (same : before.after exchange = before)
    (fits : later.Fits draft (before.outbox identity))
    (underway : later.underway = stage.underway)
    (won : later.won.toNat = stage.won.toNat + exchange.outcome?.toList.countP Except.isOk)
    (eager : later.Eager →
      stage.Eager ∨ Transition.startAttempt.LeadsFrom (statusIn before identity)) :
    Course identity first (front ++ (draft, later) :: back) (trace ++ [exchange])
      (before.after exchange) := by
  have saves : ∀ status, savesIn status (trace ++ [exchange]) = savesIn status trace := by
    intro status
    rw [savesIn_concat, unsaved]
    rfl
  have underwayBefore := countP_goOn Stage.underway front back draft stage later
  have wonBefore := countP_goOn Stage.won front back draft stage later
  rw [underway] at underwayBefore
  have successes := successesIn_concat trace exchange
  rw [same]
  refine ⟨?_, ?_, ?_, ?_, ?_, ?_, ?_, ?_, ?_, ?_⟩
  · rw [Holdings.afterAll_concat, ← course.after, same]
  · exact atAttempts_concat.mpr ⟨course.orderly, by simp [unsaved]⟩
  · exact atAttempts_concat.mpr ⟨course.apart, by simp [unsaved]⟩
  · intro call member
    rcases mem_goOn member with rfl | member
    · exact fits
    · exact course.fits call (mem_of_others member)
  · have alone := course.alone
    omega
  · have attempts := course.attempts
    rw [saves, saves, saves]
    omega
  · have known := course.successes
    rw [saves]
    omega
  · rw [saves]
    exact course.sent
  · rw [saves]
    exact course.origin
  · intro stuck idle none call member
    have others := course.stuck stuck (by omega) (by omega)
    rcases mem_goOn member with rfl | member
    · intro eagerLater
      rcases eager eagerLater with eager | leads
      · exact others (draft, stage) (by simp) eager
      · exact stuck leads
    · exact others call (mem_of_others member)

/-- A delivery saves its attempt where the record allows one. -/
theorem begins {attempt : OutboxRecord} (same : draft.identity = identity)
    (course : Course identity first (front ++ (draft, .ready attempt) :: back) trace before)
    (leads : Transition.startAttempt.LeadsFrom (statusIn before identity)) :
    Course identity first (front ++ (draft, .sending) :: back)
      (trace ++ [⟨.saveOutbox attempt, .ok ()⟩]) (before.putOutbox attempt) := by
  rcases course.fits (draft, .ready attempt) (by simp) with ⟨named, own, status⟩
  have here : statusIn (before.putOutbox attempt) identity = some .pending := by
    rw [statusIn_putOutbox (own.trans same), status]
  have found : (before.putOutbox attempt).outbox identity = some attempt := by
    rw [← own.trans same, Holdings.outbox_putOutbox_self]
  rcases course.free leads with ⟨idle, none⟩
  have member : (draft, Stage.ready attempt) ∈ front ++ (draft, .ready attempt) :: back := by simp
  have counted := (course.leads_iff member trivial).mp leads
  have attempts := course.attempts
  have successes := course.successes
  have underway : (front ++ (draft, Stage.sending) :: back).countP (·.2.underway) =
      (front ++ (draft, Stage.ready attempt) :: back).countP (·.2.underway) + 1 :=
    countP_goOn Stage.underway front back draft (.ready attempt) .sending
  have won : (front ++ (draft, Stage.sending) :: back).countP (·.2.won) =
      (front ++ (draft, Stage.ready attempt) :: back).countP (·.2.won) :=
    countP_goOn Stage.won front back draft (.ready attempt) .sending
  have sends : successesIn (trace ++ [⟨.saveOutbox attempt, .ok ()⟩]) = successesIn trace :=
    successesIn_concat trace _
  refine ⟨?_, ?_, ?_, ?_, ?_, ?_, ?_, ?_, ?_, ?_⟩
  · rw [Holdings.afterAll_concat, ← course.after]
    rfl
  · exact atAttempts_concat.mpr ⟨course.orderly, fun _ => course.after ▸ leads⟩
  · exact atAttempts_concat.mpr ⟨course.apart, fun _ => counted⟩
  · intro call member
    rcases mem_goOn member with rfl | member
    · rw [found]
      refine ⟨named, by simp [status], ?_⟩
      intro record held
      cases held
      exact own
    · have others : call ∈ front ++ (draft, .ready attempt) :: back := mem_of_others member
      have quiet : call.2.underway = false := by
        simpa using List.countP_eq_zero.mp idle call others
      exact (course.fits call others).of_idle quiet
  · omega
  · simp only [savesIn_saved, status, reduceCtorEq, decide_true, decide_false, Bool.toNat_true,
      Bool.toNat_false]
    omega
  · rw [sends]
    simp only [savesIn_saved, status, reduceCtorEq, decide_false, Bool.toNat_false]
    omega
  · simp only [savesIn_saved, status, reduceCtorEq, decide_false, Bool.toNat_false]
    omega
  · simp [here]
  · omega

theorem closes {outcome : Except SendFailure SendReceipt} {next : OutboxRecord}
    (same : draft.identity = identity)
    (course :
      Course identity first (front ++ (draft, .closing outcome next) :: back) trace before) :
    Course identity first (front ++ (draft, .ended (.ok next)) :: back)
      (trace ++ [⟨.saveOutbox next, .ok ()⟩]) (before.putOutbox next) := by
  rcases course.fits (draft, .closing outcome next) (by simp) with ⟨holds, own, status⟩
  have here : statusIn (before.putOutbox next) identity = some (closing outcome).target := by
    rw [statusIn_putOutbox (own.trans same), status]
  have pending : statusIn before identity = some .pending := holds.pending
  have alone := course.alone
  have attempts := course.attempts
  have successes := course.successes
  have unsent : savesIn .sent trace = 0 := by
    refine Nat.eq_zero_of_not_pos ?_
    intro saved
    simp [course.sent saved] at pending
  have underway : (front ++ (draft, Stage.ended (.ok next)) :: back).countP (·.2.underway) + 1 =
      (front ++ (draft, Stage.closing outcome next) :: back).countP (·.2.underway) :=
    countP_goOn Stage.underway front back draft (.closing outcome next) (.ended (.ok next))
  have won : (front ++ (draft, Stage.ended (.ok next)) :: back).countP (·.2.won) +
      outcome.isOk.toNat =
        (front ++ (draft, Stage.closing outcome next) :: back).countP (·.2.won) :=
    countP_goOn Stage.won front back draft (.closing outcome next) (.ended (.ok next))
  have saves : ∀ other, savesIn other (trace ++ [⟨.saveOutbox next, .ok ()⟩]) =
      savesIn other trace + (decide ((closing outcome).target = other)).toNat := by
    intro other
    rw [savesIn_saved, status]
  have pendingSaves := saves .pending
  rw [decide_eq_false (closing_target_ne_pending outcome), Bool.toNat_false] at pendingSaves
  have failedSaves := saves .failed
  have sentSaves := saves .sent
  rw [closing_target_eq_sent] at sentSaves
  have either := closing_target_failed_or_sent outcome
  have sends : successesIn (trace ++ [⟨.saveOutbox next, .ok ()⟩]) = successesIn trace :=
    successesIn_concat trace _
  refine ⟨?_, ?_, ?_, ?_, ?_, ?_, ?_, ?_, ?_, ?_⟩
  · rw [Holdings.afterAll_concat, ← course.after]
    rfl
  · refine atAttempts_concat.mpr ⟨course.orderly, ?_⟩
    simp [Exchange.saves, status, closing_target_ne_pending]
  · refine atAttempts_concat.mpr ⟨course.apart, ?_⟩
    simp [Exchange.saves, status, closing_target_ne_pending]
  · intro call member
    rcases mem_goOn member with rfl | member
    · trivial
    · have quiet := idle_of_others alone rfl member
      exact (course.fits call (mem_of_others member)).of_idle quiet
  · omega
  · omega
  · omega
  · rw [sentSaves, unsent, here]
    cases outcome with
    | ok receipt =>
        intro _
        rfl
    | error failure =>
        intro saved
        cases saved
  · rw [sentSaves, here]
    cases outcome with
    | ok receipt =>
        intro _
        exact .inr (Nat.succ_pos _)
    | error failure =>
        intro sent
        cases sent
  · rw [here, sends]
    cases outcome with
    | ok receipt =>
        have one : (Except.isOk (.ok receipt : Except SendFailure SendReceipt)).toNat = 1 := rfl
        omega
    | error failure =>
        intro stuck
        exact absurd (Or.inr rfl) stuck

/-- Whatever a delivery exchanges, it goes on to another stage, unless the store fails or its
attempt is neither orderly nor apart. -/
theorem next {action : Action} {next : action.Answer → Flow (Except OutboxError OutboxRecord)}
    {answer : action.Answer} (same : draft.identity = identity)
    (course : Course identity first (front ++ (draft, stage) :: back) trace before)
    (here : stage.flow draft = .act action next) (admitted : before.Admits ⟨action, answer⟩)
    (sound : Exchange.storeFailed ⟨action, answer⟩ = false)
    (kept : Orderly identity first (trace ++ [⟨action, answer⟩]) ∨
      Apart (trace ++ [⟨action, answer⟩])) :
    ∃ later : Stage, next answer = later.flow draft ∧
      Course identity first (front ++ (draft, later) :: back) (trace ++ [⟨action, answer⟩])
        (before.after ⟨action, answer⟩) := by
  subst same
  have fits := course.fits (draft, stage) (by simp)
  cases stage with
  | arrived =>
      cases here
      rcases answer with error | found
      · cases sound
      · cases found with
        | none =>
            exact ⟨.unanswered, attempt_eq draft, course.goOn (fun _ => rfl) rfl trivial rfl rfl
              False.elim⟩
        | some record =>
            by_cases sent : record.status = .sent
            · exact ⟨.ended (.ok record), if_pos sent, course.goOn (fun _ => rfl) rfl trivial rfl rfl
                False.elim⟩
            · exact ⟨.unanswered, (if_neg sent).trans (attempt_eq draft),
                course.goOn (fun _ => rfl) rfl trivial rfl rfl False.elim⟩
  | unanswered =>
      cases here
      rcases answer with error | found
      · cases sound
      · change found = before.outbox draft.identity at admitted
        subst found
        exact ⟨.looked (before.outbox draft.identity), rfl,
          course.goOn (fun _ => rfl) rfl trivial rfl rfl .inr⟩
  | looked found =>
      cases here
      cases applied : applyTransition found draft .startAttempt answer with
      | error error =>
          refine ⟨.ended (.error error), ?_, course.goOn (fun _ => rfl) rfl trivial rfl rfl
            False.elim⟩
          simp only [applied]
          rfl
      | ok attempt =>
          rcases moves_of_applied applied with ⟨named, moves⟩
          refine ⟨.ready attempt, ?_, course.goOn (fun _ => rfl) rfl
            ⟨named, moves.identity, moves.status⟩ rfl rfl fun _ => .inl moves.leadsFrom⟩
          simp only [applied]
          rfl
  | ready attempt =>
      cases here
      rcases answer with error | ⟨⟨⟩⟩
      · cases sound
      · have began : Exchange.saves .pending ⟨.saveOutbox attempt, .ok ()⟩ = true := by
          simpa [Exchange.saves] using fits.2.2
        have leads : Transition.startAttempt.LeadsFrom (statusIn before draft.identity) := by
          rcases kept with orderly | apart
          · rw [course.after]
            exact (atAttempts_concat.mp orderly).2 began
          · have member : (draft, Stage.ready attempt) ∈ front ++ (draft, .ready attempt) :: back := by
              simp
            exact (course.leads_iff member trivial).mpr ((atAttempts_concat.mp apart).2 began)
        exact ⟨.sending, rfl, course.begins rfl leads⟩
  | sending =>
      cases here
      refine ⟨.answered answer, rfl, course.goOn (fun _ => rfl) rfl fits rfl ?_ False.elim⟩
      cases answer with
      | ok receipt | error failure => rfl
  | answered outcome =>
      cases here
      rcases answer with error | found
      · cases sound
      · exact ⟨.reviewed outcome found, rfl,
          course.goOn (fun _ => rfl) rfl ⟨fits, admitted⟩ rfl rfl False.elim⟩
  | reviewed outcome found =>
      cases here
      rcases fits with ⟨holds, rfl⟩
      rcases holds.applies outcome answer with ⟨next, applied⟩
      have moves := (moves_of_applied applied).2
      refine ⟨.closing outcome next, ?_, course.goOn (fun _ => rfl) rfl
        ⟨holds, moves.identity, moves.status⟩ rfl rfl False.elim⟩
      simp only [applied]
      rfl
  | closing outcome record =>
      cases here
      rcases answer with error | ⟨⟨⟩⟩
      · cases sound
      · exact ⟨.ended (.ok record), rfl, course.closes rfl⟩
  | ended result => cases here

end Course

theorem ended_of_result (done : (stage.flow draft).result?.isSome) :
    ∃ result, stage = .ended result := by
  cases stage with
  | ended result => exact ⟨result, rfl⟩
  | arrived | unanswered | looked | ready | sending | answered | reviewed | closing => cases done

theorem sending_of_sending (sending : (stage.flow draft).sending) : stage = .sending := by
  cases stage with
  | sending => rfl
  | arrived | unanswered | looked | ready | answered | reviewed | closing | ended => cases sending

section Runs

variable {σ : Type} [RecordStore σ] [FaithfulStore σ] {start world : Surroundings σ}
  {drafts : List OutboxDraft} {flows : List (Flow (Except OutboxError OutboxRecord))}

/-- Along a run without failures whose attempts are orderly, or are apart, the trace tells how far
all deliveries have come. -/
theorem course_of_run (run : Interleaved (drafts.map deliver) start trace flows world)
    (same : ∀ draft ∈ drafts, draft.identity = identity) (sound : Sound trace)
    (kept : Orderly identity start.holdings trace ∨ Apart trace) :
    ∃ calls : List (OutboxDraft × Stage),
      flows = calls.map (fun call => call.2.flow call.1) ∧
      Course identity start.holdings calls trace world.holdings := by
  have begun : drafts.map deliver =
      (drafts.map (·, Stage.arrived)).map fun call => call.2.flow call.1 := by
    simp [Stage.flow]
  have own : (drafts.map (·, Stage.arrived)).map (·.1) = drafts := by
    simp [Function.comp_def]
  rw [begun] at run
  have reached := run.stages
    (fun trace => Sound trace ∧ (Orderly identity start.holdings trace ∨ Apart trace))
    (fun trace calls held => Course identity start.holdings calls trace held)
    ⟨sound, kept⟩ ?_ (.begin drafts) ?_
  · rcases reached with ⟨calls, _, same, course⟩
    exact ⟨calls, same, course⟩
  · rintro trace exchange ⟨sound, kept⟩
    refine ⟨fun other member => sound other (List.mem_append_left _ member), ?_⟩
    exact kept.imp (fun orderly => (atAttempts_concat.mp orderly).1)
      (fun apart => (atAttempts_concat.mp apart).1)
  · rintro trace front draft stage action next back before answer member course here admitted
      ⟨sound, kept⟩
    rw [own] at member
    exact course.next (same draft member) here admitted (sound _ (by simp)) kept

/-- What deliveries of one send come to that overlap and do not disturb each other. -/
structure Excluded (identity : SendIdentity) (first : Holdings) (trace : List Exchange)
    (flows : List (Flow (Except OutboxError OutboxRecord))) (held : Holdings) : Prop where
  /-- At most one send is in progress. -/
  alone : flows.countP Flow.sending ≤ 1
  /-- Once a send has succeeded, none is in progress. -/
  final : 0 < successesIn trace → flows.countP Flow.sending = 0
  /-- The record of a send that was not sent before tells in the end whether a send succeeded. -/
  told : (∀ flow ∈ flows, flow.result?.isSome) → statusIn first identity ≠ some .sent →
    (statusIn held identity = some .sent ↔ 0 < successesIn trace)

namespace Course

/-- While a send is in progress, no other attempt has not ended, and no send has succeeded. -/
theorem unfinished (course : Course identity first calls trace held)
    (sending : 0 < calls.countP fun call => (call.2.flow call.1).sending) :
    successesIn trace = 0 := by
  rcases List.countP_pos_iff.mp sending with ⟨⟨draft, stage⟩, member, sending⟩
  cases sending_of_sending sending
  rcases List.append_of_mem member with ⟨front, back, rfl⟩
  have won : (front ++ (draft, Stage.sending) :: back).countP (·.2.won) = 0 := by
    rw [List.countP_eq_zero]
    intro call member won
    rcases mem_goOn member with rfl | member
    · cases won
    · have idle := idle_of_others course.alone rfl member
      simp [Stage.underway_of_won won] at idle
  have unsent : savesIn .sent trace = 0 := by
    refine Nat.eq_zero_of_not_pos ?_
    intro saved
    have underway : 0 < (front ++ (draft, Stage.sending) :: back).countP (·.2.underway) :=
      List.countP_pos_iff.mpr ⟨_, member, rfl⟩
    exact absurd (course.pending underway) (by simp [course.sent saved])
  rw [course.successes, unsent, won]

theorem excluded (course : Course identity first calls trace held) :
    Excluded identity first trace (calls.map fun call => call.2.flow call.1) held := by
  have counted : (calls.map fun call => call.2.flow call.1).countP Flow.sending =
      calls.countP fun call => (call.2.flow call.1).sending := List.countP_map
  refine ⟨?_, ?_, ?_⟩
  · rw [counted]
    refine Nat.le_trans (List.countP_mono_left ?_) course.alone
    intro call _ sending
    rw [sending_of_sending sending]
    rfl
  · intro succeeded
    rw [counted]
    refine Nat.eq_zero_of_not_pos ?_
    intro sending
    exact Nat.ne_of_gt succeeded (course.unfinished sending)
  · intro ended unsent
    have atEnd : calls.countP (·.2.won) = 0 := by
      rw [List.countP_eq_zero]
      intro call member
      rcases ended_of_result (ended _ (List.mem_map_of_mem member)) with ⟨result, last⟩
      simp [last, Stage.won]
    rw [course.successes, atEnd, Nat.add_zero]
    constructor
    · intro sent
      exact (course.origin sent).resolve_left unsent
    · exact course.sent

end Course

/-- Without failures of the store, deliveries of one send that overlap do not disturb each other if
each attempt is saved where the record allows one, and only then are their attempts apart. -/
theorem sends_apart_iff_orderly (same : ∀ draft ∈ drafts, draft.identity = identity)
    (run : Interleaved (drafts.map deliver) start trace flows world) (sound : Sound trace) :
    (Apart trace ↔ Orderly identity start.holdings trace) ∧
      (Apart trace → Excluded identity start.holdings trace flows world.holdings) := by
  refine ⟨⟨?_, ?_⟩, ?_⟩
  · intro apart
    rcases course_of_run run same sound (.inr apart) with ⟨calls, _, course⟩
    exact course.orderly
  · intro orderly
    rcases course_of_run run same sound (.inl orderly) with ⟨calls, _, course⟩
    exact course.apart
  · intro apart
    rcases course_of_run run same sound (.inr apart) with ⟨calls, rfl, course⟩
    exact course.excluded

/-- Two deliveries look up before either saves its attempt: both sends are in progress at once, and
both succeed. Where the second one looks up after the first attempt was saved, it is refused. -/
theorem sends_apart_iff_orderly_two :
    ∃ (start : Surroundings MemoryStore) (drafts : List OutboxDraft),
      (∀ draft ∈ drafts, draft.identity = ⟨.telegram, "greeting"⟩) ∧
      (∃ (trace : List Exchange) (flows : List (Flow (Except OutboxError OutboxRecord)))
        (world : Surroundings MemoryStore),
        Interleaved (drafts.map deliver) start trace flows world ∧ Sound trace ∧
        flows.countP Flow.sending = 2 ∧ ¬ Apart trace ∧
        ¬ Orderly ⟨.telegram, "greeting"⟩ start.holdings trace) ∧
      ∃ (trace : List Exchange) (flows : List (Flow (Except OutboxError OutboxRecord)))
        (world : Surroundings MemoryStore),
        Interleaved (drafts.map deliver) start trace flows world ∧ Sound trace ∧ Apart trace ∧
        successesIn trace = 1 ∧ (∀ flow ∈ flows, flow.result?.isSome) ∧
        Excluded ⟨.telegram, "greeting"⟩ start.holdings trace flows world.holdings := by
  let draft : OutboxDraft :=
    { channel := .telegram, idempotencyKey := "greeting", contactId := none, peerId := none,
      itemId := none, contentType := none, payload := [] }
  let drafts := [draft, draft]
  let start := Surroundings.plain MemoryStore.empty .epoch
  have same : ∀ draft ∈ drafts, draft.identity = ⟨.telegram, "greeting"⟩ := by decide
  -- Both look up before either saves its attempt.
  let together := [0, 0, 1, 1, 0, 0, 1, 1]
  -- The second one looks up while the send of the first is in progress.
  let inTurn := [0, 0, 0, 0, 1, 1, 0, 1, 0, 0, 0]
  have overlapping := Interleaved.of_interleave start (drafts.map deliver) together
  have overlappingSound : Sound (start.interleave (drafts.map deliver) together).1 := by
    simp only [Sound]
    decide +kernel
  have both : (start.interleave (drafts.map deliver) together).2.1.countP Flow.sending = 2 := by
    decide +kernel
  have close : ¬ Apart (start.interleave (drafts.map deliver) together).1 := by
    simp only [Apart, AtAttempts]
    decide +kernel
  have turns := Interleaved.of_interleave start (drafts.map deliver) inTurn
  have turnsSound : Sound (start.interleave (drafts.map deliver) inTurn).1 := by
    simp only [Sound]
    decide +kernel
  have apart : Apart (start.interleave (drafts.map deliver) inTurn).1 := by
    simp only [Apart, AtAttempts]
    decide +kernel
  have once : successesIn (start.interleave (drafts.map deliver) inTurn).1 = 1 := by
    decide +kernel
  have ended : ∀ flow ∈ (start.interleave (drafts.map deliver) inTurn).2.1,
      flow.result?.isSome := by
    decide +kernel
  refine ⟨start, drafts, same, ?_, ?_⟩
  · exact ⟨_, _, _, overlapping, overlappingSound, both, close,
      fun orderly => close ((sends_apart_iff_orderly same overlapping overlappingSound).1.mpr
        orderly)⟩
  · exact ⟨_, _, _, turns, turnsSound, apart, once, ended,
      (sends_apart_iff_orderly same turns turnsSound).2 apart⟩

end Runs

end Outbound

end ConversationBus
