import ConversationBus.Proofs.Delivery.Marks
import ConversationBus.Proofs.Flow.Interleaving

/-!
# Redeliveries that overlap

An event is delivered to a channel several times at once, and neither the bus nor the store fails.
The look-up and the mark of a redelivery are apart, so others may look up in between. Each one that
looks up before the first mark is written finds nothing, and is published; each later one is
skipped. So the event is published once if and only if a single one looks up before the first mark.
-/

namespace ConversationBus

namespace Exchange

/-- Whether an exchange is a look-up of a mark. -/
def isLookUp : Exchange → Bool
  | ⟨.findInbox .., _⟩ => true
  | _ => false

/-- Whether the bus did not take a message. -/
def refused : Exchange → Bool
  | ⟨.publish _, .error _⟩ => true
  | _ => false

end Exchange

/-- Neither the store nor the bus failed. -/
def Unfailing (exchanges : List Exchange) : Prop :=
  ∀ exchange ∈ exchanges, exchange.storeFailed = false ∧ exchange.refused = false

/-- The number of look-ups before the first mark was written. -/
def earlyLookUps (exchanges : List Exchange) : Nat :=
  (exchanges.takeWhile (·.mark?.isNone)).countP Exchange.isLookUp

/-- A further exchange is an early look-up if it is a look-up and no mark was written before. -/
theorem earlyLookUps_concat (exchanges : List Exchange) (last : Exchange) :
    earlyLookUps (exchanges ++ [last]) =
      earlyLookUps exchanges + if marksIn exchanges = [] ∧ last.isLookUp then 1 else 0 := by
  induction exchanges with
  | nil =>
      rcases last with ⟨action, answer⟩
      cases action with
      | findInbox => rfl
      | saveInbox | findOutbox | saveOutbox | publish | send | now | cancelled | close => rfl
  | cons exchange exchanges ih =>
      simp only [earlyLookUps, marksIn, List.cons_append, List.takeWhile_cons,
        List.filterMap_cons] at ih ⊢
      split
      next unwritten =>
        simp only [Option.isNone_iff_eq_none.mp unwritten, List.countP_cons, ih]
        exact Nat.add_right_comm ..
      next written =>
        simp only [Option.isNone_iff_eq_none] at written
        rcases Option.ne_none_iff_exists'.mp written with ⟨mark, found⟩
        simp [found]

namespace Inbound

inductive Stage where
  /-- It has not looked up the mark. -/
  | arrived
  /-- It found no mark. -/
  | unknown
  /-- The bus took its message. -/
  | taken
  /-- It read the time for its mark. -/
  | timed (seenAt : Instant)
  /-- It has a result, which says whether it was published. -/
  | ended (published : Bool)

namespace Stage

def flow (channel : Channel) (event : Event) : Stage → Flow (Except InboundError Bool)
  | .arrived => receive channel event
  | .unknown =>
    .act (.publish (event.message.stamped channel event.id)) fun
      | .error error => .done (.error (.bus error))
      | .ok () => Inbound.mark channel event.id event.message.conversationKey
  | .taken => Inbound.mark channel event.id event.message.conversationKey
  | .timed seenAt =>
    .act (.saveInbox (event.mark channel seenAt)) fun
      | .error error => .done (.error (.store error))
      | .ok () => .done (.ok true)
  | .ended published => .done (.ok published)

/-- Whether a redelivery found no mark. -/
def foundNothing : Stage → Bool
  | .unknown | .taken | .timed _ | .ended true => true
  | .arrived | .ended false => false

/-- Whether the message of a redelivery was taken. -/
def wasTaken : Stage → Bool
  | .taken | .timed _ | .ended true => true
  | .arrived | .unknown | .ended false => false

end Stage

variable {channel : Channel} {id : String}

theorem flow_arrived {event : Event} (acceptable : Acceptable channel event) :
    Stage.arrived.flow channel event = .act (.findInbox channel event.id) fun
      | .error error => .done (.error (.store error))
      | .ok (some _) => (Stage.ended false).flow channel event
      | .ok none => Stage.unknown.flow channel event := by
  simp only [Stage.flow, receive, publish, check_eq_ok.mpr acceptable]
  congr 1
  funext answer
  rcases answer with error | _ | record
  · rfl
  · refine congrArg (Flow.act _) ?_
    funext answer
    rcases answer with error | ⟨⟨⟩⟩
    · rfl
    · rfl
  · rfl

theorem flow_taken (channel : Channel) (event : Event) :
    Stage.taken.flow channel event = .act .now fun seenAt =>
      (Stage.timed seenAt).flow channel event := by
  refine congrArg (Flow.act _) ?_
  funext seenAt
  refine congrArg (Flow.act _) ?_
  funext answer
  rcases answer with error | ⟨⟨⟩⟩
  · rfl
  · rfl

/-- What the trace of overlapping redeliveries tells of how far they have come. -/
structure Progress (channel : Channel) (id : String) (calls : List (Message × Stage))
    (trace : List Exchange) (held : Holdings) : Prop where
  early : earlyLookUps trace = calls.countP (·.2.foundNothing)
  taken : (takenIn trace).length = calls.countP (·.2.wasTaken)
  /-- As long as nothing is marked, nobody is done. -/
  unmarked : held.inbox channel id = none →
    marksIn trace = [] ∧ ∀ call ∈ calls, ∀ published, call.2 ≠ .ended published
  marked : ∀ record, held.inbox channel id = some record →
    marksIn trace ≠ [] ∧ 0 < calls.countP (·.2.foundNothing)

variable {calls front back : List (Message × Stage)} {message : Message} {trace : List Exchange}
  {before : Holdings}

namespace Progress

theorem begin (messages : List Message) (unknown : before.inbox channel id = none) :
    Progress channel id (messages.map (·, .arrived)) [] before where
  early := by
    simp [earlyLookUps, List.countP_map, Function.comp_def, Stage.foundNothing]
  taken := by
    simp [takenIn, List.countP_map, Function.comp_def, Stage.wasTaken]
  unmarked := by
    intro _
    refine ⟨rfl, ?_⟩
    simp
  marked := by
    intro record held
    simp [unknown] at held

variable {stage later : Stage} {exchange : Exchange}

theorem goOn (progress : Progress channel id (front ++ (message, stage) :: back) trace before)
    (unwritten : exchange.mark? = none)
    (same : (before.after exchange).inbox channel id = before.inbox channel id)
    (early : later.foundNothing.toNat = stage.foundNothing.toNat +
      if marksIn trace = [] ∧ exchange.isLookUp then 1 else 0)
    (taken : later.wasTaken.toNat = stage.wasTaken.toNat + exchange.taken?.toList.length)
    (underway : before.inbox channel id = none → ∀ published, later ≠ .ended published) :
    Progress channel id (front ++ (message, later) :: back) (trace ++ [exchange])
      (before.after exchange) where
  early := by
    have known := progress.early
    have count := countP_goOn Stage.foundNothing front back message stage later
    rw [earlyLookUps_concat]
    omega
  taken := by
    have known := progress.taken
    have count := countP_goOn Stage.wasTaken front back message stage later
    rw [takenIn, filterMap_concat, List.length_append, ← takenIn]
    omega
  unmarked := by
    intro unknown
    rw [same] at unknown
    rcases progress.unmarked unknown with ⟨none, others⟩
    refine ⟨by rw [marksIn, filterMap_concat, ← marksIn, none, unwritten]; rfl, ?_⟩
    intro call member
    rcases List.mem_append.mp member with member | member
    · exact others call (List.mem_append_left _ member)
    · rcases List.mem_cons.mp member with rfl | member
      · exact underway unknown
      · exact others call (List.mem_append_right _ (List.mem_cons_of_mem _ member))
  marked := by
    intro record held
    rw [same] at held
    rcases progress.marked record held with ⟨written, some⟩
    have count := countP_goOn Stage.foundNothing front back message stage later
    refine ⟨?_, by omega⟩
    rw [marksIn, filterMap_concat, ← marksIn]
    exact List.append_ne_nil_of_left_ne_nil written _

theorem mark {seenAt : Instant}
    (progress : Progress channel id (front ++ (message, .timed seenAt) :: back) trace before) :
    Progress channel id (front ++ (message, .ended true) :: back)
      (trace ++ [⟨.saveInbox (Event.mark ⟨id, message⟩ channel seenAt), .ok ()⟩])
      (before.putInbox (Event.mark ⟨id, message⟩ channel seenAt)) where
  early := by
    have known := progress.early
    have count := countP_goOn Stage.foundNothing front back message (.timed seenAt) (.ended true)
    rw [earlyLookUps_concat, known, if_neg (by simp [Exchange.isLookUp])]
    exact Nat.add_right_cancel count.symm
  taken := by
    have known := progress.taken
    have count := countP_goOn Stage.wasTaken front back message (.timed seenAt) (.ended true)
    rw [takenIn, filterMap_concat, List.length_append, ← takenIn, known]
    exact Nat.add_right_cancel count.symm
  unmarked := by
    intro unknown
    simp [Holdings.inbox_putInbox] at unknown
  marked := by
    intro record held
    refine ⟨by rw [marksIn, filterMap_concat]; simp [Exchange.mark?], ?_⟩
    rw [List.countP_pos_iff]
    exact ⟨(message, .ended true), by simp, rfl⟩

/-- Whatever a call exchanges, it goes on to another stage, unless the store or the bus fails. -/
theorem next {action : Action} {next : action.Answer → Flow (Except InboundError Bool)}
    {answer : action.Answer}
    (progress : Progress channel id (front ++ (message, stage) :: back) trace before)
    (acceptable : Acceptable channel ⟨id, message⟩)
    (here : stage.flow channel ⟨id, message⟩ = .act action next)
    (admitted : before.Admits ⟨action, answer⟩)
    (sound : Exchange.storeFailed ⟨action, answer⟩ = false)
    (accepted : Exchange.refused ⟨action, answer⟩ = false) :
    ∃ later : Stage, next answer = later.flow channel ⟨id, message⟩ ∧
      Progress channel id (front ++ (message, later) :: back) (trace ++ [⟨action, answer⟩])
        (before.after ⟨action, answer⟩) := by
  cases stage with
  | arrived =>
      rw [flow_arrived acceptable] at here
      cases here
      rcases answer with error | found
      · cases sound
      · change found = before.inbox channel id at admitted
        cases found with
        | none =>
            have unmarked := (progress.unmarked admitted.symm).1
            refine ⟨.unknown, rfl, progress.goOn rfl rfl ?_ rfl (by simp)⟩
            simp [unmarked, Exchange.isLookUp, Stage.foundNothing]
        | some record =>
            have marked := (progress.marked record admitted.symm).1
            refine ⟨.ended false, rfl, progress.goOn rfl rfl ?_ rfl ?_⟩
            · simp [marked, Stage.foundNothing]
            · simp [← admitted]
  | unknown =>
      cases here
      rcases answer with error | ⟨⟨⟩⟩
      · cases accepted
      · exact ⟨.taken, rfl, progress.goOn rfl rfl
          (by simp [Exchange.isLookUp, Stage.foundNothing]) rfl (by simp)⟩
  | taken =>
      rw [flow_taken] at here
      cases here
      exact ⟨.timed answer, rfl, progress.goOn rfl rfl
        (by simp [Exchange.isLookUp, Stage.foundNothing]) rfl (by simp)⟩
  | timed seenAt =>
      cases here
      rcases answer with error | ⟨⟨⟩⟩
      · cases sound
      · exact ⟨.ended true, rfl, progress.mark⟩
  | ended published => cases here

end Progress

theorem ended_of_result {event : Event} {stage : Stage} (acceptable : Acceptable channel event)
    (done : (stage.flow channel event).result?.isSome) : ∃ published, stage = .ended published := by
  cases stage with
  | arrived =>
      rw [flow_arrived acceptable] at done
      cases done
  | unknown | taken | timed => cases done
  | ended published => exact ⟨published, rfl⟩

theorem countP_results (channel : Channel) (id : String) (calls : List (Message × Stage))
    (ended : ∀ call ∈ calls, ∃ published, call.2 = .ended published) :
    (calls.map fun call => call.2.flow channel ⟨id, call.1⟩).countP
        (·.result? = some (.ok true)) = calls.countP (·.2.foundNothing) ∧
      (calls.map fun call => call.2.flow channel ⟨id, call.1⟩).countP
        (·.result? = some (.ok false)) = calls.countP (¬ ·.2.foundNothing) ∧
      calls.countP (·.2.wasTaken) = calls.countP (·.2.foundNothing) := by
  simp only [List.countP_map]
  refine ⟨List.countP_congr ?_, List.countP_congr ?_, List.countP_congr ?_⟩
  · rintro ⟨message, stage⟩ member
    rcases ended _ member with ⟨published, rfl⟩
    cases published with
    | false | true => simp [Stage.flow, Stage.foundNothing, Flow.result?]
  · rintro ⟨message, stage⟩ member
    rcases ended _ member with ⟨published, rfl⟩
    cases published with
    | false | true => simp [Stage.flow, Stage.foundNothing, Flow.result?]
  · rintro ⟨message, stage⟩ member
    rcases ended _ member with ⟨published, rfl⟩
    cases published with
    | false | true => rfl

section Runs

variable {σ : Type} [RecordStore σ] [FaithfulStore σ] {start world : Surroundings σ}
  {messages : List Message} {flows : List (Flow (Except InboundError Bool))}

/-- Along a run without failures, the trace tells how far all redeliveries have come. -/
theorem progress_of_run
    (run : Interleaved (messages.map fun message => receive channel ⟨id, message⟩) start trace
      flows world)
    (acceptable : ∀ message ∈ messages, Acceptable channel ⟨id, message⟩)
    (unknown : start.holdings.inbox channel id = none) (unfailing : Unfailing trace) :
    ∃ calls : List (Message × Stage), calls.map (·.1) = messages ∧
      flows = calls.map (fun call => call.2.flow channel ⟨id, call.1⟩) ∧
      Progress channel id calls trace world.holdings := by
  have begun : messages.map (fun message => receive channel ⟨id, message⟩) =
      (messages.map (·, Stage.arrived)).map fun call => call.2.flow channel ⟨id, call.1⟩ := by
    simp [Stage.flow]
  have own : (messages.map (·, Stage.arrived)).map (·.1) = messages := by
    simp [Function.comp_def]
  rw [begun] at run
  rw [← own]
  refine run.stages Unfailing (fun trace calls held => Progress channel id calls trace held)
    unfailing ?_ (.begin messages unknown) ?_
  · intro trace exchange unfailing other member
    exact unfailing other (List.mem_append_left _ member)
  · intro trace front message stage action next back before answer member progress here admitted
      unfailing
    rw [own] at member
    rcases unfailing ⟨action, answer⟩ (by simp) with ⟨sound, accepted⟩
    exact progress.next (acceptable message member) here admitted sound accepted

/-- What redeliveries of an event come to that all have ended. -/
structure Overlapped (messages : List Message) (trace : List Exchange)
    (flows : List (Flow (Except InboundError Bool))) : Prop where
  /-- The bus takes a message for each look-up before the first mark. -/
  taken : (takenIn trace).length = earlyLookUps trace
  /-- As many calls tell that they published the event. -/
  published : flows.countP (·.result? = some (.ok true)) = earlyLookUps trace
  /-- All others tell that they skipped it. -/
  skipped : flows.countP (·.result? = some (.ok false)) + earlyLookUps trace = messages.length
  /-- If there is a call at all, one of them looks up before the first mark. -/
  early : messages ≠ [] → 0 < earlyLookUps trace
  /-- The event is published once, one call tells so, and all others tell that they skipped it, if
  and only if one call looks up before the first mark. -/
  once : (takenIn trace).length = 1 ∧ flows.countP (·.result? = some (.ok true)) = 1 ∧
    flows.countP (·.result? = some (.ok false)) + 1 = messages.length ↔ earlyLookUps trace = 1

/-- Without failures, redeliveries that overlap publish an event once if and only if a single one
of them looks up before the first mark is written. -/
theorem published_once_iff_one_looks_up_early
    (acceptable : ∀ message ∈ messages, Acceptable channel ⟨id, message⟩)
    (unknown : start.holdings.inbox channel id = none)
    (run : Interleaved (messages.map fun message => receive channel ⟨id, message⟩) start trace
      flows world)
    (unfailing : Unfailing trace) (ended : ∀ flow ∈ flows, flow.result?.isSome) :
    Overlapped messages trace flows := by
  rcases progress_of_run run acceptable unknown unfailing with ⟨calls, rfl, rfl, progress⟩
  have atEnd : ∀ call ∈ calls, ∃ published, call.2 = .ended published := by
    intro call member
    exact ended_of_result (acceptable call.1 (List.mem_map_of_mem member))
      (ended _ (List.mem_map_of_mem member))
  rcases countP_results channel id calls atEnd with ⟨published, skipped, taken⟩
  have all := List.length_eq_countP_add_countP (fun call => call.2.foundNothing) (l := calls)
  have early : calls.map (·.1) ≠ [] → 0 < earlyLookUps trace := by
    intro some
    cases held : world.holdings.inbox channel id with
    | some record =>
        rw [progress.early]
        exact (progress.marked record held).2
    | none =>
        rcases List.exists_mem_of_ne_nil calls (by simpa using some) with ⟨call, member⟩
        rcases atEnd call member with ⟨told, last⟩
        exact absurd last ((progress.unmarked held).2 call member told)
  have taken := progress.taken.trans (taken.trans progress.early.symm)
  rw [← progress.early] at published all
  refine ⟨taken, published, ?_, early, ?_⟩
  · rw [skipped, List.length_map]
    omega
  · rw [taken, published, skipped, List.length_map]
    constructor
    · intro once
      exact once.1
    · intro one
      exact ⟨one, one, by omega⟩

/-- Two redeliveries look up before either is marked: the bus takes both, and both calls tell that
they published the event. -/
theorem published_once_iff_one_looks_up_early_twice :
    ∃ (start world : Surroundings MemoryStore) (messages : List Message) (trace : List Exchange)
      (flows : List (Flow (Except InboundError Bool))),
      (∀ message ∈ messages, Acceptable .telegram ⟨"77", message⟩) ∧
      start.holdings.inbox .telegram "77" = none ∧
      Interleaved (messages.map fun message => receive .telegram ⟨"77", message⟩) start trace
        flows world ∧
      Unfailing trace ∧ flows.map (·.result?) = [some (.ok true), some (.ok true)] ∧
      (takenIn trace).length = 2 ∧ Overlapped messages trace flows := by
  let message := Message.plain "chat-message" "telegram:chat:42" "k" [] .epoch
  let messages : List Message := [message, message]
  let start := Surroundings.plain MemoryStore.empty .epoch
  let begun : List (Flow (Except InboundError Bool)) :=
    messages.map fun message => receive .telegram ⟨"77", message⟩
  -- Both look up; then the first publishes and marks, and so does the second.
  let schedule := [0, 1, 0, 0, 0, 1, 1, 1]
  have run := Interleaved.of_interleave start begun schedule
  have acceptable : ∀ message ∈ messages, Acceptable .telegram ⟨"77", message⟩ := by
    simp only [Acceptable]
    decide +kernel
  have unfailing : Unfailing (start.interleave begun schedule).1 := by
    simp only [Unfailing]
    decide +kernel
  have results : (start.interleave begun schedule).2.1.map (·.result?) =
      [some (.ok true), some (.ok true)] := by
    decide +kernel
  have taken : (takenIn (start.interleave begun schedule).1).length = 2 := by
    decide +kernel
  have ended : ∀ flow ∈ (start.interleave begun schedule).2.1, flow.result?.isSome := by
    decide +kernel
  exact ⟨start, _, messages, _, _, acceptable, rfl, run, unfailing, results, taken,
    published_once_iff_one_looks_up_early acceptable rfl run unfailing ended⟩

end Runs

end Inbound

end ConversationBus
