import ConversationBus.Proofs.Flow.Hearing
import ConversationBus.Proofs.Replay.Caller
import ConversationBus.Proofs.Replay.Length

/-!
# Where a replay stands

The task of a replay, the dispatcher and the workers of its bus move in any order in which their
moves are possible. Each move leaves fewer of them, and what the replay has counted goes with what
its task was told and with what can be seen of the bus. When no move is possible any more, the
replay has come to its end.
-/

namespace ConversationBus

namespace System

variable {σ α : Type} {system : System σ α} {index : Nat} {task : Task α} {call : CallId}
  {next : Except BusError Unit → Flow α} {result : Bus × List Event}

theorem afterClose_waits (told : closeReturned call result.2 = false) :
    system.afterClose index task call next result =
      ({ system with
          bus := result.1, tasks := system.tasks.set index { task with pending := some call } },
        result.2) := by
  simp [afterClose, putTask, told]

theorem afterClose_returned (told : closeReturned call result.2 = true) :
    system.afterClose index task call next result =
      ({ system with
          bus := result.1, tasks := system.tasks.set index (task.goOn (next (.ok ()))) },
        result.2) := by
  simp [afterClose, putTask, told]

end System

namespace Replay

variable {σ : Type} [RecordStore σ]

namespace Progress

omit [RecordStore σ] in
/-- The replay when its caller has given up. -/
def giveUp (progress : Progress σ) : Progress σ :=
  { progress with system := progress.system.cancelTask 0 }

omit [RecordStore σ] in
/-- The moves that a scheduler may choose from: those that are tried, and that the publish call of
the replay is put off at one of its waits. -/
inductive Offered (progress : Progress σ) : Move → Prop where
  | tried {move : Move} (member : move ∈ progress.moves) : Offered progress move
  | putOff (stage : PublishStage) : Offered progress (.task 0 (some stage))

end Progress

def conclusion (reading : Reading) : Except ReplayError Summary :=
  if reading.readable then .ok reading.summary else .error .unreadable

/-- How a replay ends when the bus is closed. -/
def conclude (reading : Reading) : Except BusError Unit → Flow (Except ReplayError Summary)
  | .error error => .done (.error (.bus error))
  | .ok () => .done (conclusion reading)

/-- What a replay does when it has read the lines. -/
def finish (reading : Reading) : Flow (Except ReplayError Summary) :=
  .act .close (conclude reading)

/-- How far the task of a replay is, and the moves that are left to it. -/
inductive Stage (bus : Bus) : Task (Except ReplayError Summary) → Nat → Prop where
  | reading {name : String} {cancelled : Bool} {rest : Flow Reading} {left : Nat}
      (lasts : rest.Lasts (fun _ left => 2 ≤ left) left) (free : bus.Open []) :
      Stage bus ⟨name, rest.bind finish, none, cancelled⟩ left
  | publishing {name : String} {message : Message}
      {next : Except BusError Unit → Flow Reading} {left : Nat} {call : PublishCall}
      (lasts : ∀ answer, (next answer).Lasts (fun _ left => 2 ≤ left) left)
      (alone : bus.Open [call]) (own : call.admitted.message = message) :
      Stage bus
        ⟨name, .act (.publish message) fun answer => (next answer).bind finish, some call.id,
          call.cancelled⟩ (left + 4 + call.rank)
  | closing {name : String} {cancelled : Bool} {reading : Reading} {call : CallId}
      (closed : bus.closed = true) (returned : bus.calls = [])
      (waits : bus.closing = [⟨call, true⟩]) :
      Stage bus ⟨name, finish reading, some call, cancelled⟩ 1
  | ended {name : String} {cancelled : Bool} {reading : Reading}
      (finished : bus.dispatcher = .finished) :
      Stage bus ⟨name, .done (conclusion reading), none, cancelled⟩ 0

/-- A replay on its way: its task is the only one, and what it counts and what can be seen of the bus
go with what it has been told. -/
structure Standing (config : BusConfig) (givesUp : Bool) (trace : List Event)
    (exchanges : List Exchange) (progress : Progress σ) (task : Task (Except ReplayError Summary))
    (left : Nat) : Prop where
  run : Bus.Run (.ofConfig config) trace progress.system.bus
  equipped : progress.system.bus.Equipped
  alone : progress.system.tasks = [task]
  stage : Stage progress.system.bus task left
  expected : ∀ exchange ∈ exchanges, exchange.storeFailed = true ∨ exchange.Expected givesUp
  taken : (queuedIn trace).map Admitted.message = takenIn exchanges
  given : task.cancelled = true → givesUp = true
  handled : progress.handled = (endedIn trace).length
  collected : progress.collected = 0

variable {config : BusConfig} {givesUp : Bool} {trace events : List Event} {progress : Progress σ}
  {task : Task (Except ReplayError Summary)} {exchanges : List Exchange} {left : Nat}

omit [RecordStore σ] in
theorem Standing.first
    (standing : Standing config givesUp trace exchanges progress task left) :
    progress.system.tasks[0]? = some task := by
  rw [standing.alone]
  rfl

/-! ## Counting -/

omit [RecordStore σ] in
theorem goOn_system (moved : System σ (Except ReplayError Summary) × List Event) :
    (progress.goOn moved).system = moved.1 := by
  rw [Progress.goOn]
  generalize same : { progress with system := moved.1 } = first
  have kept : first.system = moved.1 := by rw [← same]
  clear same
  induction moved.2 generalizing first with
  | nil => exact kept
  | cons event rest ih =>
      refine ih (absorb first event) ?_
      rw [← kept]
      cases event with
      | ended running outcome =>
          cases outcome with
          | succeeded | failed | broke => rfl
      | _ => rfl

/-- An event that is no report, and that ends no handler call but one that succeeds. -/
def Fair (event : Event) : Prop :=
  (event.ended? ≠ none → ∃ running, event = .ended running .succeeded) ∧
    ∀ report, event ≠ .received report

omit [RecordStore σ] in
/-- The handler calls that succeed are counted, and nothing else is. -/
theorem goOn_fair (fair : ∀ event ∈ events, Fair event)
    (system : System σ (Except ReplayError Summary)) :
    progress.goOn (system, events) =
      { progress with system, handled := progress.handled + (endedIn events).length } := by
  rw [Progress.goOn]
  dsimp only
  generalize started : { progress with system } = first
  have same : ({ progress with
      system, handled := progress.handled + (endedIn events).length } : Progress σ) =
      { first with handled := first.handled + (endedIn events).length } := by rw [← started]
  rw [same]
  clear started same
  induction events generalizing first with
  | nil => rfl
  | cons event rest ih =>
      rw [List.forall_mem_cons] at fair
      rw [List.foldl_cons, ih fair.2]
      cases event with
      | ended running outcome =>
          rcases fair.1.1 (Option.some_ne_none _) with ⟨_, same⟩
          cases same
          simp [absorb, Event.ended?]
          omega
      | brokenOff running =>
          rcases fair.1.1 (Option.some_ne_none _) with ⟨_, same⟩
          cases same
      | received report => exact absurd rfl (fair.1.2 report)
      | _ => simp [absorb, Event.ended?]

/-! ## Moves of the bus -/

omit [RecordStore σ] in
theorem mem_moves {move : Move} : move ∈ progress.moves ↔
    move = .bus .receive ∨ (∃ index < progress.system.tasks.length, move = .task index none) ∨
      move = .bus (.route progress.system.clock) ∨
      (∃ worker ∈ progress.system.bus.workers,
        move ∈ System.workerMoves progress.system.clock (some ∘ handle) worker) ∨
      move = .bus .drain ∨ move = .bus .halt ∨ move = .bus .drop := by
  simp [Progress.moves, System.candidates, eq_comm]

omit [RecordStore σ] in
theorem index_of_offered {index : Nat} {putOff : Option PublishStage}
    (alone : progress.system.tasks = [task]) (offered : progress.Offered (.task index putOff)) :
    index = 0 := by
  cases offered with
  | putOff stage => rfl
  | tried member =>
      rcases mem_moves.mp member with same | ⟨other, less, same⟩ | same | ⟨worker, _, member⟩ | same |
        same | same
      · cases same
      · cases same
        rw [alone] at less
        exact Nat.lt_one_iff.mp less
      · cases same
      · simp only [System.workerMoves] at member
        split at member
        next => simp at member
        next => simp at member
      · cases same
      · cases same
      · cases same

theorem handle_valid {running : Running} {topic : Topic}
    (valid : running.admitted.message.validate = .ok topic) : handle running = .succeeded := by
  rw [Message.validate] at valid
  rw [handle]
  cases decoded : running.admitted.message.decode with
  | ok decoded => rfl
  | error error => simp [decoded, Except.map] at valid

omit [RecordStore σ] in
/-- The moves of the bus are those of its dispatcher and its workers, where every handler
succeeds. -/
theorem labour_of_offered {step : Bus.Step} {result : Bus × List Event}
    (offered : progress.Offered (.bus step)) (regular : Bus.Regular config progress.system.bus)
    (equipped : progress.system.bus.Equipped)
    (taken : progress.system.bus.step? step = some result) :
    Bus.Labour progress.system.bus result := by
  cases offered with
  | tried member =>
      rcases mem_moves.mp member with same | ⟨_, _, same⟩ | same | ⟨worker, present, member⟩ | same |
        same | same
      · cases same
        simp [Bus.step?, Bus.receive, equipped.unreported] at taken
      · cases same
      · cases same
        exact Bus.route_labour regular taken
      · cases busy : worker.running with
        | some running =>
            simp only [System.workerMoves, busy, Function.comp, List.mem_singleton,
              Move.bus.injEq] at member
            cases member
            rw [handle_valid (regular.valid.running worker present running busy)] at taken
            have finished : progress.system.bus.finish worker.key .succeeded
              progress.system.clock = some result := taken
            exact Bus.finish_labour regular finished
        | none =>
            simp only [System.workerMoves, busy, List.mem_cons, Move.bus.injEq, List.not_mem_nil,
              or_false] at member
            rcases member with rfl | rfl
            · exact Bus.begin_labour regular taken
            · rcases Option.map_eq_some_iff.mp taken with ⟨next, retired, rfl⟩
              exact Bus.retire_labour regular retired
      · cases same
        rcases Option.map_eq_some_iff.mp taken with ⟨next, drained, rfl⟩
        exact Bus.drain_labour drained
      · cases same
        rcases Option.map_eq_some_iff.mp taken with ⟨next, halted, rfl⟩
        exact Bus.halt_labour halted
      · cases same
        simp [Bus.step?, Bus.drop, equipped.handle] at taken

theorem open_of_labour {bus : Bus} {result : Bus × List Event} {calls : List PublishCall}
    (labour : Bus.Labour bus result) (going : bus.Open calls) : result.1.Open calls := by
  rw [labour.same]
  exact { going with }

theorem open_of_calling {bus : Bus} {result : Bus × List Event} {calls later : List PublishCall}
    (calling : Bus.Calling bus result) (going : bus.Open calls) (left : result.1.calls = later) :
    result.1.Open later := by
  refine ⟨?_, left, ?_, ?_⟩
  · rw [calling.same]
    exact going.closed
  · rw [calling.same]
    exact going.closing
  · rw [calling.same]
    exact going.joinable

/-- A publish call ends no handler call and receives no report. -/
theorem fair_of_calling {bus : Bus} {result : Bus × List Event}
    (calling : Bus.Calling bus result) : ∀ event ∈ result.2, Fair event := by
  intro event member
  rcases calling.quiet event member with ⟨_, unended, unreceived⟩
  exact ⟨fun ended => absurd unended ended, unreceived⟩

omit [RecordStore σ] in
/-- What the dispatcher and the workers do is nothing to the task. -/
theorem Stage.labour {bus : Bus} {result : Bus × List Event} (stage : Stage bus task left)
    (regular : Bus.Regular config bus) (labour : Bus.Labour bus result) :
    Stage result.1 task left := by
  cases stage with
  | reading lasts free => exact .reading lasts (open_of_labour labour free)
  | publishing lasts alone own => exact .publishing lasts (open_of_labour labour alone) own
  | closing closed returned waits =>
      refine .closing ?_ ?_ ?_
      · rw [labour.same]
        exact closed
      · rw [labour.same]
        exact returned
      · rw [labour.same]
        exact waits
  | ended finished =>
      have less := labour.less
      simp [regular.work_of_finished finished] at less

omit [RecordStore σ] in
/-- A step of the bus, with which the task may go on as well. -/
theorem Standing.onBus {step : Bus.Step} {result : Bus × List Event}
    {nextTask : Task (Except ReplayError Summary)} {more : List Exchange} {fewer : Nat}
    (standing : Standing config givesUp trace exchanges progress task left)
    (taken : progress.system.bus.step? step = some result) (equipped : result.1.Equipped)
    (fair : ∀ event ∈ result.2, Fair event) (stage : Stage result.1 nextTask fewer)
    (expected : ∀ exchange ∈ more, exchange.Expected givesUp)
    (queued : (queuedIn result.2).map Admitted.message = takenIn more)
    (given : nextTask.cancelled = true → givesUp = true) :
    Standing config givesUp (trace ++ result.2) (exchanges ++ more)
      (progress.goOn ({ progress.system with bus := result.1, tasks := [nextTask] }, result.2))
      nextTask fewer := by
  rw [goOn_fair fair]
  exact {
    run := standing.run.tail taken
    equipped, stage, given
    alone := rfl
    expected := List.forall_mem_append.mpr
      ⟨standing.expected, fun exchange member => .inr (expected exchange member)⟩
    taken := by
      rw [queuedIn_append, List.map_append, standing.taken, queued, takenIn_append]
    handled := by
      dsimp only
      rw [standing.handled, endedIn_append, List.length_append]
    collected := standing.collected }

omit [RecordStore σ] in
/-- A step of the bus that the task does not learn of as an answer. -/
theorem Standing.beside {step : Bus.Step} {result : Bus × List Event}
    {nextTask : Task (Except ReplayError Summary)} {fewer : Nat}
    (standing : Standing config givesUp trace exchanges progress task left)
    (taken : progress.system.bus.step? step = some result) (equipped : result.1.Equipped)
    (fair : ∀ event ∈ result.2, Fair event) (stage : Stage result.1 nextTask fewer)
    (none : queuedIn result.2 = []) (given : nextTask.cancelled = true → givesUp = true) :
    Standing config givesUp (trace ++ result.2) (exchanges ++ [])
      (progress.goOn ({ progress.system with bus := result.1, tasks := [nextTask] }, result.2))
      nextTask fewer :=
  standing.onBus taken equipped fair stage (by simp) (by simp [none]) given

omit [RecordStore σ] in
theorem Standing.labour {step : Bus.Step} {result : Bus × List Event}
    (standing : Standing config givesUp trace exchanges progress task left)
    (taken : progress.system.bus.step? step = some result)
    (labour : Bus.Labour progress.system.bus result) :
    Standing config givesUp (trace ++ result.2) (exchanges ++ [])
      (progress.goOn ({ progress.system with bus := result.1 }, result.2)) task left := by
  have fair : ∀ event ∈ result.2, Fair event := by
    intro event member
    rcases labour.shown event member with ⟨running, rfl⟩ | ⟨running, rfl⟩
    · exact ⟨fun ended => absurd rfl ended, by simp⟩
    · exact ⟨fun _ => ⟨running, rfl⟩, by simp⟩
  have none : queuedIn result.2 = [] := by
    rw [queuedIn, List.filterMap_eq_nil_iff]
    intro event member
    rcases labour.shown event member with ⟨running, rfl⟩ | ⟨running, rfl⟩
    · rfl
    · rfl
  have equipped : result.1.Equipped := by
    rw [labour.same]
    exact { standing.equipped with }
  have stage := standing.stage.labour (standing.run.regular (Bus.ofConfig_regular config)) labour
  have moved := standing.beside taken equipped fair stage none standing.given
  rwa [← standing.alone] at moved

/-! ## Moves of the task -/

theorem expected_of_ask {backing : FaultyStore σ} {action : Action}
    {result : action.Answer × FaultyStore σ} (asked : backing.ask action = some result) :
    (Exchange.storeFailed ⟨action, result.1⟩ = true ∨
        Exchange.Expected givesUp ⟨action, result.1⟩) ∧
      Exchange.taken? ⟨action, result.1⟩ = none := by
  cases action with
  | findInbox | saveInbox | findOutbox | saveOutbox => exact ⟨Bool.eq_false_or_eq_true _, rfl⟩
  | publish | send | now | cancelled | close => cases asked

theorem moveTask_ask {α : Type} {system : System σ α} {name : String} {action : Action}
    {next : action.Answer → Flow α} {pending : Option CallId} {cancelled : Bool}
    {result : action.Answer × FaultyStore σ}
    (alone : system.tasks = [⟨name, .act action next, pending, cancelled⟩])
    (asked : system.backing.ask action = some result) (putOff : Option PublishStage) :
    system.moveTask 0 putOff =
      some (system.afterStore 0 ⟨name, .act action next, pending, cancelled⟩ next result) := by
  have first : system.tasks[0]? = some ⟨name, .act action next, pending, cancelled⟩ := by
    rw [alone]
    rfl
  rw [System.moveTask, first]
  cases action with
  | findInbox | saveInbox | findOutbox | saveOutbox =>
      cases asked
      rfl
  | publish | send | now | cancelled | close => cases asked

omit [RecordStore σ] in
/-- The task goes on with an answer that is not the bus's. -/
theorem Standing.exchanged {action : Action} {next : action.Answer → Flow Reading}
    {answer : action.Answer} {backing : FaultyStore σ} {fewer : Nat}
    (standing : Standing config givesUp trace exchanges progress task left)
    (free : progress.system.bus.Open [])
    (expected : Exchange.storeFailed ⟨action, answer⟩ = true ∨
      Exchange.Expected givesUp ⟨action, answer⟩)
    (untaken : Exchange.taken? ⟨action, answer⟩ = none)
    (lasts : (next answer).Lasts (fun _ left => 2 ≤ left) fewer) :
    Standing config givesUp (trace ++ []) (exchanges ++ [⟨action, answer⟩])
      (progress.goOn ({ progress.system with
        backing, tasks := [task.goOn ((next answer).bind finish)] }, []))
      (task.goOn ((next answer).bind finish)) fewer := by
  rw [List.append_nil]
  exact { standing with
    alone := rfl
    stage := .reading lasts free
    expected := List.forall_mem_append.mpr
      ⟨standing.expected, List.forall_mem_singleton.mpr expected⟩
    taken := by simp [standing.taken, untaken]
    given := standing.given }

theorem Standing.called {step : Bus.Step} {result : Bus × List Event} {message : Message}
    {next : Except BusError Unit → Flow Reading} {call : CallId} {calls : List PublishCall}
    {bound fewer : Nat}
    (standing : Standing config givesUp trace exchanges progress task left)
    (same : task.flow = .act (.publish message) fun answer => (next answer).bind finish)
    (named : task.pending.getD progress.system.bus.nextCall = call)
    (lasts : ∀ answer, (next answer).Lasts (fun _ left => 2 ≤ left) fewer)
    (going : progress.system.bus.Open calls) (positive : 0 < bound)
    (taken : progress.system.bus.step? step = some result)
    (calling : Bus.Calling progress.system.bus result)
    (coming : Bus.Coming call message task.cancelled bound result) :
    ∃ nextTask left,
      Standing config givesUp (trace ++ result.2)
        (exchanges ++ progress.system.told task result.2)
        (progress.goOn (progress.system.afterPublish 0 task call
          (fun answer => (next answer).bind finish) result)) nextTask left ∧
        left + result.1.work < fewer + 4 + bound + progress.system.bus.work := by
  have fair := fair_of_calling calling
  have equipped : result.1.Equipped := by
    rw [calling.same]
    exact { standing.equipped with }
  have work := calling.work
  cases coming with
  | answered answer done told expected queued =>
      have heard : progress.system.told task result.2 = [⟨.publish message, answer⟩] := by
        simp only [System.told, same, named, told]
      rw [heard]
      simp only [System.afterPublish, System.putTask, standing.alone, List.set_cons_zero]
      rw [told]
      refine ⟨task.goOn ((next answer).bind finish), fewer, ?_, ?_⟩
      · have awaited := List.forall_mem_singleton.mpr (expected.mono standing.given)
        refine standing.onBus taken equipped fair ?_ awaited (by simp [queued]) standing.given
        exact .reading (lasts answer) (open_of_calling calling going done)
      · have most : (queuedIn result.2).length ≤ 1 := by
          rw [← List.length_map Admitted.message, queued]
          exact Option.length_toList_le
        omega
  | waits other alone told own whole given less queued =>
      have heard : progress.system.told task result.2 = [] := by
        simp only [System.told, same, named, told]
      rw [heard]
      simp only [System.afterPublish, System.putTask, standing.alone, List.set_cons_zero]
      rw [told]
      refine ⟨{ task with pending := some call }, fewer + 4 + other.rank, ?_, ?_⟩
      · refine standing.beside taken equipped fair ?_ queued standing.given
        cases task with
        | mk name flow pending cancelled =>
            cases same
            cases given
            cases own
            exact .publishing lasts (open_of_calling calling going alone) whole
      · rw [queued, List.length_nil] at work
        omega

/-- What is claimed of a move: the replay stands again, and there is less before it. -/
def Advances (config : BusConfig) (givesUp : Bool) (trace : List Event)
    (exchanges : List Exchange) (progress : Progress σ) (left : Nat) (move : Move)
    (moved : System σ (Except ReplayError Summary) × List Event) : Prop :=
  ∃ task fewer,
    Standing config givesUp (trace ++ moved.2)
      (exchanges ++ progress.system.heard move moved.2) (progress.goOn moved) task fewer ∧
    fewer + moved.1.bus.work < left + progress.system.bus.work

section Moves

variable {name : String} {cancelled : Bool} {putOff : Option PublishStage}
  {moved : System σ (Except ReplayError Summary) × List Event}

theorem Standing.reads {action : Action} {next : action.Answer → Flow Reading}
    (standing : Standing config givesUp trace exchanges progress
      ⟨name, .act action fun answer => (next answer).bind finish, none, cancelled⟩ left)
    (lasts : (Flow.act action next).Lasts (fun _ left => 2 ≤ left) left)
    (free : progress.system.bus.Open []) (made : progress.system.moveTask 0 putOff = some moved) :
    Advances config givesUp trace exchanges progress left (.task 0 putOff) moved := by
  rcases lasts with ⟨sends, closes, fewer, bound, lasts⟩
  have first := standing.first
  rw [Advances, System.heard_task first]
  cases asked : progress.system.backing.ask action with
  | some result =>
      rw [moveTask_ask standing.alone asked] at made
      cases made
      rcases expected_of_ask asked with ⟨expected, untaken⟩
      rw [System.told_ask asked]
      simp only [System.afterStore, System.putTask, standing.alone, List.set_cons_zero]
      have cheap : 1 ≤ action.cost := by
        cases action with
        | _ => simp [Action.cost]
      refine ⟨_, fewer, standing.exchanged free expected untaken (lasts _), ?_⟩
      omega
  | none =>
      simp only [System.moveTask, first, Option.bind_eq_bind, Option.bind_some] at made
      cases action with
      | findInbox | saveInbox | findOutbox | saveOutbox => cases asked
      | send => exact absurd rfl sends
      | close => exact absurd rfl closes
      | now =>
          cases made
          simp only [System.putTask, standing.alone, List.set_cons_zero]
          refine ⟨_, fewer, standing.exchanged free (.inr rfl) rfl (lasts _), ?_⟩
          exact Nat.add_lt_add_right (Nat.lt_of_lt_of_le (by simp [Action.cost]) bound) _
      | cancelled =>
          cases made
          simp only [System.putTask, standing.alone, List.set_cons_zero]
          refine ⟨_, fewer, standing.exchanged free (.inr standing.given) rfl (lasts _), ?_⟩
          exact Nat.add_lt_add_right (Nat.lt_of_lt_of_le (by simp [Action.cost]) bound) _
      | publish message =>
          rcases Option.map_eq_some_iff.mp made with ⟨result, taken, rfl⟩
          have begun := taken
          rw [Bus.step?, Bus.whileHeld, if_pos standing.equipped.handle] at begun
          cases begun
          rcases Bus.publish_coming free standing.equipped message cancelled putOff with
            ⟨calling, coming⟩
          rcases standing.called rfl rfl lasts free (by decide) taken calling coming with
            ⟨task, fewer, standing, less⟩
          refine ⟨task, fewer, standing, Nat.lt_of_lt_of_le less ?_⟩
          simp only [Action.cost] at bound
          omega

/-- The task closes the bus when it has read the lines. -/
theorem Standing.closes {reading : Reading}
    (standing : Standing config givesUp trace exchanges progress
      ⟨name, finish reading, none, cancelled⟩ left)
    (enough : 2 ≤ left) (free : progress.system.bus.Open [])
    (made : progress.system.moveTask 0 putOff = some moved) :
    Advances config givesUp trace exchanges progress left (.task 0 putOff) moved := by
  have first := standing.first
  have regular := standing.run.regular (Bus.ofConfig_regular config)
  have taken := Bus.step?_close standing.equipped free (regular.routing free.closed)
  simp only [System.moveTask, first, finish, Option.bind_eq_bind, Option.bind_some, taken,
    Option.map_some, Option.some.injEq] at made
  rw [Advances, System.heard_task first, ← made, System.afterClose_waits rfl, standing.alone,
    List.set_cons_zero]
  refine ⟨⟨name, finish reading, some progress.system.bus.nextCall, cancelled⟩, 1, ?_,
    Nat.add_lt_add_right enough _⟩
  exact standing.beside taken { standing.equipped with } (by simp)
    (.closing rfl free.calls rfl) rfl standing.given

theorem Standing.returns {reading : Reading} {call : CallId}
    (standing : Standing config givesUp trace exchanges progress
      ⟨name, finish reading, some call, cancelled⟩ 1)
    (waits : progress.system.bus.closing = [⟨call, true⟩])
    (made : progress.system.moveTask 0 putOff = some moved) :
    Advances config givesUp trace exchanges progress 1 (.task 0 putOff) moved := by
  have first := standing.first
  simp only [System.moveTask, first, finish, Option.bind_eq_bind, Option.bind_some,
    Option.map_eq_some_iff] at made
  rcases made with ⟨result, taken, made⟩
  rcases Bus.resumeClose_alone waits taken with ⟨finished, rfl⟩
  have returned : closeReturned call [.closeReturned call] = true := by simp [closeReturned]
  rw [Advances, System.heard_task first, ← made, System.afterClose_returned returned,
    standing.alone, List.set_cons_zero]
  refine ⟨⟨name, .done (conclusion reading), none, cancelled⟩, 0, ?_,
    Nat.add_lt_add_right Nat.one_pos _⟩
  simp only [System.told, finish, Option.getD_some, returned, if_true]
  exact standing.onBus taken { standing.equipped with } (by simp [Fair, Event.ended?])
    (.ended finished) (List.forall_mem_singleton.mpr rfl) rfl standing.given

theorem Standing.resumes {message : Message} {next : Except BusError Unit → Flow Reading}
    {call : PublishCall} {fewer : Nat}
    (standing : Standing config givesUp trace exchanges progress
      ⟨name, .act (.publish message) fun answer => (next answer).bind finish, some call.id,
        call.cancelled⟩ (fewer + 4 + call.rank))
    (lasts : ∀ answer, (next answer).Lasts (fun _ left => 2 ≤ left) fewer)
    (alone : progress.system.bus.Open [call]) (own : call.admitted.message = message)
    (valid : progress.system.bus.Throughout Admitted.Valid)
    (made : progress.system.moveTask 0 putOff = some moved) :
    Advances config givesUp trace exchanges progress (fewer + 4 + call.rank) (.task 0 putOff)
      moved := by
  have first := standing.first
  simp only [System.moveTask, first, Option.bind_eq_bind, Option.bind_some] at made
  rcases Option.map_eq_some_iff.mp made with ⟨result, taken, rfl⟩
  rcases Bus.resume_coming alone valid taken with ⟨calling, coming⟩
  rw [own] at coming
  have positive : 0 < call.rank := by
    rw [PublishCall.rank]
    split
    all_goals exact Nat.succ_pos _
  rw [Advances, System.heard_task first]
  exact standing.called rfl rfl lasts alone positive taken calling coming

/-- Every move of a replay that stands leaves it standing, with less before it. -/
theorem Standing.move {move : Move}
    (standing : Standing config givesUp trace exchanges progress task left)
    (started : Bus.start config = .ok (.ofConfig config)) (offered : progress.Offered move)
    (made : progress.system.move? move = some moved) :
    Advances config givesUp trace exchanges progress left move moved := by
  have regular := standing.run.regular_of_start started
  cases move with
  | bus step =>
      rcases Option.map_eq_some_iff.mp made with ⟨result, taken, rfl⟩
      have labour := labour_of_offered offered regular standing.equipped taken
      exact ⟨task, left, standing.labour taken labour, Nat.add_lt_add_left labour.less left⟩
  | task index putOff =>
      obtain rfl := index_of_offered standing.alone offered
      have made : progress.system.moveTask 0 putOff = some moved := made
      cases standing.stage with
      | @reading name cancelled rest left lasts free =>
          cases rest with
          | done reading =>
              rcases lasts with ⟨enough, bound, atLeast⟩
              exact standing.closes (Nat.le_trans atLeast bound) free made
          | act action next => exact standing.reads lasts free made
      | publishing lasts alone own => exact standing.resumes lasts alone own regular.valid made
      | closing closed returned waits => exact standing.returns waits made
      | ended finished => simp [System.moveTask, standing.alone] at made

end Moves

/-! ## The caller gives up -/

theorem Stage.cancel {bus : Bus} {call : CallId} {name : String} {flow : Flow _}
    {cancelled : Bool} (stage : Stage bus ⟨name, flow, some call, cancelled⟩ left) :
    Stage (bus.cancel call) ⟨name, flow, some call, true⟩ left := by
  cases stage with
  | @publishing _ message next left call lasts alone own =>
      have told : (bus.cancel call.id).Open [{ call with cancelled := true }] := by
        refine { alone with calls := ?_ }
        simp [Bus.cancel, alone.calls]
      exact .publishing lasts told own
  | closing closed returned waits =>
      refine .closing closed ?_ waits
      simp [Bus.cancel, returned]

omit [RecordStore σ] in
theorem Standing.giveUp
    (standing : Standing config givesUp trace exchanges progress task left)
    (may : givesUp = true) :
    ∃ task, Standing config givesUp trace exchanges progress.giveUp task left ∧
      progress.giveUp.system.bus.work = progress.system.bus.work := by
  rcases task with ⟨name, flow, pending, cancelled⟩
  refine ⟨⟨name, flow, pending, true⟩, ?_⟩
  simp only [Progress.giveUp, System.cancelTask, System.putTask, standing.alone,
    List.set_cons_zero]
  have stage := standing.stage
  cases pending with
  | none =>
      refine ⟨{ standing with alone := rfl, given := fun _ => may, stage := ?_ }, rfl⟩
      cases stage with
      | reading lasts free => exact .reading lasts free
      | ended finished => exact .ended finished
  | some call =>
      have taken : progress.system.bus.step? (.cancel call) =
        some (progress.system.bus.cancel call).quietly := rfl
      have run := standing.run.tail taken
      rw [Bus.quietly, List.append_nil] at run
      exact ⟨{ standing with
        run, equipped := { standing.equipped with }, alone := rfl, given := fun _ => may
        stage := stage.cancel }, rfl⟩

/-! ## The end -/

/-- Where no move is possible, neither the dispatcher nor a worker has anything to do. -/
theorem idle_of_stuck (stuck : ∀ move ∈ progress.moves, progress.system.move? move = none) :
    progress.system.bus.Idle progress.system.clock := by
  have still : ∀ step, Move.bus step ∈ progress.moves → progress.system.bus.step? step = none := by
    intro step member
    exact Option.map_eq_none_iff.mp (stuck _ member)
  have worked : ∀ worker ∈ progress.system.bus.workers, ∀ step,
      Move.bus step ∈ System.workerMoves progress.system.clock (some ∘ handle) worker →
        progress.system.bus.step? step = none := by
    intro worker present step member
    exact still step (mem_moves.mpr (.inr (.inr (.inr (.inl ⟨worker, present, member⟩)))))
  exact {
    route := still (.route _) (by simp [mem_moves])
    begin := fun worker member idle => worked worker member (.begin _ _) (by
      simp [System.workerMoves, idle])
    finish := fun worker member running busy => ⟨handle running,
      worked worker member (.finish _ _ _) (by simp [System.workerMoves, busy])⟩
    retire := fun worker member idle => Option.map_eq_none_iff.mp
      (worked worker member (.retire _) (by simp [System.workerMoves, idle]))
    drain := Option.map_eq_none_iff.mp (still .drain (by simp [mem_moves]))
    halt := Option.map_eq_none_iff.mp (still .halt (by simp [mem_moves])) }

/-- While the lines are read the task can go on. -/
theorem Standing.can_read {name : String} {cancelled : Bool} {rest : Flow Reading}
    (standing : Standing config givesUp trace exchanges progress
      ⟨name, rest.bind finish, none, cancelled⟩ left)
    (lasts : rest.Lasts (fun _ left => 2 ≤ left) left) (free : progress.system.bus.Open []) :
    (progress.system.moveTask 0 none).isSome := by
  have first := standing.first
  cases rest with
  | done reading =>
      have regular := standing.run.regular (Bus.ofConfig_regular config)
      have taken := Bus.step?_close standing.equipped free (regular.routing free.closed)
      simp [System.moveTask, first, Flow.bind, finish, taken]
  | act action next =>
      rcases lasts with ⟨sends, closes, _⟩
      cases asked : progress.system.backing.ask action with
      | some result =>
          rw [moveTask_ask standing.alone asked]
          rfl
      | none =>
          simp only [System.moveTask, first, Flow.bind, Option.bind_eq_bind, Option.bind_some]
          cases action with
          | findInbox | saveInbox | findOutbox | saveOutbox => cases asked
          | send => exact absurd rfl sends
          | close => exact absurd rfl closes
          | now | cancelled => rfl
          | publish message => simp [Bus.step?, Bus.whileHeld, standing.equipped.handle]

/-- When no move is possible, the replay has come to its end. -/
theorem Standing.ended
    (standing : Standing config givesUp trace exchanges progress task left)
    (started : Bus.start config = .ok (.ofConfig config)) (stuck : next? progress = none) :
    ∃ reading, task.flow = .done (conclusion reading) := by
  rw [next?, Option.map_eq_none_iff, List.findSome?_eq_none_iff] at stuck
  have idle := idle_of_stuck stuck
  have regular := standing.run.regular (Bus.ofConfig_regular config)
  have still : progress.system.moveTask 0 none = none :=
    stuck (.task 0 none) (mem_moves.mpr (.inr (.inl ⟨0, by simp [standing.alone], rfl⟩)))
  have first := standing.first
  cases standing.stage with
  | reading lasts free =>
      have possible := standing.can_read lasts free
      simp [still] at possible
  | @publishing _ message next left call lasts alone own =>
      rcases Bus.start_positive started with ⟨budget, room⟩
      have possible := idle.resumes regular alone.calls alone.closed budget room none
      simp only [System.moveTask, first, Option.bind_eq_bind, Option.bind_some,
        Option.map_eq_none_iff] at still
      have still : progress.system.bus.resume call.id none = none := still
      simp [still] at possible
  | @closing _ _ reading call closed returned waits =>
      have finished := idle.finished regular.toBooks closed returned
      simp [System.moveTask, first, finish, Bus.step?, Bus.resumeClose, waits, finished] at still
  | @ended _ _ reading finished => exact ⟨reading, rfl⟩

omit [RecordStore σ] in
/-- A replay that has come to its end leaves a bus whose dispatcher has finished. -/
theorem Standing.finished {result : Except ReplayError Summary}
    (standing : Standing config givesUp trace exchanges progress task left)
    (ended : task.flow = .done result) : progress.system.bus.dispatcher = .finished := by
  cases standing.stage with
  | @reading _ _ rest _ lasts free =>
      cases rest with
      | done reading => cases ended
      | act action next => cases ended
  | publishing | closing => cases ended
  | ended finished => exact finished

end Replay

end ConversationBus
