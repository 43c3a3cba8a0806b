import ConversationBus.Proofs.Flow.Dialogue
import ConversationBus.System.Basic

/-!
# What a task is told

A task of a system moves on when its action is answered: at once by the store, the clock or its
caller, or by the bus when a call returns. The answers that it is told, in their order, are what its
flow has exchanged with its surroundings, and they tell what became of the store.
-/

namespace ConversationBus

namespace FaultyStore

variable {σ : Type} [RecordStore σ]

/-- What a store answers to an action that is a call of it. -/
def ask (backing : FaultyStore σ) :
    (action : Action) → Option (action.Answer × FaultyStore σ)
  | .findInbox channel id => some (backing.findInbox channel id)
  | .saveInbox record => some (backing.saveInbox record)
  | .findOutbox channel key => some (backing.findOutbox channel key)
  | .saveOutbox record => some (backing.saveOutbox record)
  | .publish _ | .send | .now | .cancelled | .close => none

/-- The answer is admitted by what the store holds, which holds afterwards what the exchange
says. -/
theorem ask_admitted [FaithfulStore σ] {backing : FaultyStore σ} {action : Action}
    {result : action.Answer × FaultyStore σ} (asked : backing.ask action = some result) :
    (FaithfulStore.holdings backing.store).Admits ⟨action, result.1⟩ ∧
      FaithfulStore.holdings result.2.store =
        (FaithfulStore.holdings backing.store).after ⟨action, result.1⟩ := by
  let world : Surroundings σ := { Surroundings.plain backing.store .epoch with backing }
  cases action with
  | findInbox channel id =>
      cases asked
      exact world.answer_admitted (.findInbox channel id)
  | saveInbox record =>
      cases asked
      exact world.answer_admitted (.saveInbox record)
  | findOutbox channel key =>
      cases asked
      exact world.answer_admitted (.findOutbox channel key)
  | saveOutbox record =>
      cases asked
      exact world.answer_admitted (.saveOutbox record)
  | publish | send | now | cancelled | close => cases asked

/-- A store before and after an exchange: it is changed by the calls of it, and by nothing else. -/
inductive Explained (backing : FaultyStore σ) : List Exchange → FaultyStore σ → Prop where
  | silent : Explained backing [] backing
  | asked {action : Action} {result : action.Answer × FaultyStore σ}
      (asked : backing.ask action = some result) : Explained backing [⟨action, result.1⟩] result.2
  | beside {exchange : Exchange} (other : backing.ask exchange.action = none) :
      Explained backing [exchange] backing

theorem Explained.held [FaithfulStore σ] {backing later : FaultyStore σ}
    {exchanges : List Exchange} (explained : backing.Explained exchanges later) :
    (FaithfulStore.holdings backing.store).AdmitsAll exchanges ∧
      FaithfulStore.holdings later.store =
        (FaithfulStore.holdings backing.store).afterAll exchanges := by
  cases explained with
  | silent => exact ⟨trivial, rfl⟩
  | asked asked =>
      rcases ask_admitted asked with ⟨admitted, held⟩
      exact ⟨⟨admitted, trivial⟩, held⟩
  | @beside exchange other =>
      rcases exchange with ⟨action, answer⟩
      cases action with
      | findInbox | saveInbox | findOutbox | saveOutbox => cases other
      | publish | send | now | cancelled | close => exact ⟨⟨trivial, trivial⟩, rfl⟩

end FaultyStore

namespace System

variable {σ α : Type} [RecordStore σ] {system : System σ α} {index : Nat} {task : Task α}
  {putOff : Option PublishStage} {moved : System σ α × List Event}

/-- What a task is told in a move that shows some events: the answer to its action, unless it waits
for the bus. -/
def told (system : System σ α) (task : Task α) (events : List Event) : List Exchange :=
  match task.flow with
  | .done _ | .act .send _ => []
  | .act (.publish message) _ =>
    match publishResult? (task.pending.getD system.bus.nextCall) events with
    | some answer => [⟨.publish message, answer⟩]
    | none => []
  | .act .close _ =>
    if closeReturned (task.pending.getD system.bus.nextCall) events then [⟨.close, .ok ()⟩] else []
  | .act .now _ => [⟨.now, system.clock⟩]
  | .act .cancelled _ => [⟨.cancelled, task.cancelled⟩]
  | .act action _ =>
    match system.backing.ask action with
    | some result => [⟨action, result.1⟩]
    | none => []

/-- What the tasks are told in a move. -/
def heard (system : System σ α) (move : Move) (events : List Event) : List Exchange :=
  match move with
  | .task index _ => system.tasks[index]?.elim [] fun task => system.told task events
  | .bus _ => []

theorem heard_task (found : system.tasks[index]? = some task) (events : List Event) :
    system.heard (.task index putOff) events = system.told task events := by
  rw [heard, found]
  rfl

theorem told_ask {name : String} {action : Action} {next : action.Answer → Flow α}
    {pending : Option CallId} {cancelled : Bool} {result : action.Answer × FaultyStore σ}
    (asked : system.backing.ask action = some result) (events : List Event) :
    system.told ⟨name, .act action next, pending, cancelled⟩ events = [⟨action, result.1⟩] := by
  cases action with
  | findInbox | saveInbox | findOutbox | saveOutbox => simp only [told, asked]
  | publish | send | now | cancelled | close => cases asked

/-- A task goes on with what it is told, which tells what becomes of the store. -/
def GoesOn (system : System σ α) (index : Nat) (task : Task α)
    (moved : System σ α × List Event) : Prop :=
  (∃ later, moved.1.tasks = system.tasks.set index later ∧
      task.flow.Leads (system.told task moved.2) later.flow) ∧
    system.backing.Explained (system.told task moved.2) moved.1.backing

variable {name : String} {pending : Option CallId} {cancelled : Bool} {call : CallId}
  {result : Bus × List Event}

theorem afterPublish_goesOn {message : Message} {next : Except BusError Unit → Flow α}
    (named : pending.getD system.bus.nextCall = call) :
    system.GoesOn index ⟨name, .act (.publish message) next, pending, cancelled⟩
      (system.afterPublish index ⟨name, .act (.publish message) next, pending, cancelled⟩ call next
        result) := by
  cases answered : publishResult? call result.2 with
  | none =>
      simp only [GoesOn, told, afterPublish, named, answered]
      exact ⟨⟨_, rfl, .refl _⟩, .silent⟩
  | some answer =>
      simp only [GoesOn, told, afterPublish, named, answered]
      exact ⟨⟨_, rfl, @Flow.Leads.answered _ (.publish message) next answer⟩, .beside rfl⟩

theorem afterClose_goesOn {next : Except BusError Unit → Flow α}
    (named : pending.getD system.bus.nextCall = call) :
    system.GoesOn index ⟨name, .act .close next, pending, cancelled⟩
      (system.afterClose index ⟨name, .act .close next, pending, cancelled⟩ call next result) := by
  cases returned : closeReturned call result.2 with
  | false =>
      simp only [GoesOn, told, afterClose, named, returned, Bool.false_eq_true, if_false]
      exact ⟨⟨_, rfl, .refl _⟩, .silent⟩
  | true =>
      simp only [GoesOn, told, afterClose, named, returned, if_true]
      exact ⟨⟨_, rfl, @Flow.Leads.answered _ .close next (.ok ())⟩, .beside rfl⟩

/-- A task that moves goes on with what it is told. -/
theorem moveTask_goesOn (found : system.tasks[index]? = some task)
    (made : system.moveTask index putOff = some moved) : system.GoesOn index task moved := by
  rcases task with ⟨name, flow, pending, cancelled⟩
  simp only [moveTask, found, Option.bind_eq_bind, Option.bind_some] at made
  cases flow with
  | done result => cases made
  | act action next =>
      cases action with
      | findInbox | saveInbox | findOutbox | saveOutbox =>
          cases made
          exact ⟨⟨_, rfl, .answered next _⟩, .asked rfl⟩
      | send => cases made
      | now | cancelled =>
          cases made
          exact ⟨⟨_, rfl, .answered next _⟩, .beside rfl⟩
      | publish message =>
          cases pending with
          | none =>
              rcases Option.map_eq_some_iff.mp made with ⟨result, _, rfl⟩
              exact afterPublish_goesOn rfl
          | some call =>
              rcases Option.map_eq_some_iff.mp made with ⟨result, _, rfl⟩
              exact afterPublish_goesOn rfl
      | close =>
          cases pending with
          | none =>
              rcases Option.map_eq_some_iff.mp made with ⟨result, _, rfl⟩
              exact afterClose_goesOn rfl
          | some call =>
              rcases Option.map_eq_some_iff.mp made with ⟨result, _, rfl⟩
              exact afterClose_goesOn rfl

/-- The only task of a system goes on in every move with what it is told, if anything. -/
theorem move_alone {move : Move} (alone : system.tasks = [task])
    (made : system.move? move = some moved) :
    (∃ later, moved.1.tasks = [later] ∧
        task.flow.Leads (system.heard move moved.2) later.flow) ∧
      system.backing.Explained (system.heard move moved.2) moved.1.backing := by
  cases move with
  | bus step =>
      rcases Option.map_eq_some_iff.mp made with ⟨result, _, rfl⟩
      exact ⟨⟨task, alone, .refl _⟩, .silent⟩
  | task index putOff =>
      have made : system.moveTask index putOff = some moved := made
      cases index with
      | zero =>
          have found : system.tasks[0]? = some task := by
            rw [alone]
            rfl
          rcases moveTask_goesOn found made with ⟨⟨later, same, leads⟩, explained⟩
          rw [alone, List.set_cons_zero] at same
          rw [heard_task found]
          exact ⟨⟨later, same, leads⟩, explained⟩
      | succ index => simp [moveTask, alone] at made

end System

end ConversationBus
