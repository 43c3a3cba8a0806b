import ConversationBus.Proofs.Delivery.Identities

/-!
# Flows on a shared store

A call has a clock, a platform, a publisher and failures of its own, and shares its store with
others. What an action is answered and what it saves goes by the places of the identity that it
touches, and so does a whole flow.
-/

namespace ConversationBus

open TableStore

namespace FaultyStore

variable {σ α : Type}

/-- Makes a call on a shared store, with failures of its own. -/
def attemptOver (own : FaultyStore Unit) (call : StoreCall)
    (run : σ → Except StoreError (α × σ)) (store : σ) :
    (Except StoreError α × FaultyStore Unit) × σ :=
  let made := (own.map fun _ => store).attempt call run
  ((made.1, made.2.map fun _ => ()), made.2.store)

theorem attemptOver_of_fault {backing : FaultyStore Unit} {call : StoreCall} {error : StoreError}
    (fails : backing.fault backing.made.length call = some error)
    (run : σ → Except StoreError (α × σ)) :
    backing.attemptOver call run = fun store =>
      ((.error error, { backing with made := call :: backing.made }), store) := by
  funext store
  simp [attemptOver, attempt, map, fails]

variable {κ ρ τ : Type} [DecidableEq κ] [RecordStore σ] [TableStore σ κ ρ τ] {own : Identity → Prop}

/-- A look-up that goes by the records of some identities, and changes nothing. -/
theorem look_confined (backing : FaultyStore Unit) (call : StoreCall)
    (look : σ → Except StoreError α)
    (goesBy : ∀ {one other : σ},
      (∀ identity, own identity → held one (place σ identity) = held other (place σ identity)) →
        look one = look other) :
    Confined own
      (backing.attemptOver call fun store : σ => (look store).map (·, store)) := by
  cases fails : backing.fault backing.made.length call with
  | some error =>
      rw [attemptOver_of_fault fails]
      exact .pure own _
  | none =>
      have answered : backing.attemptOver call (fun store : σ => (look store).map (·, store)) =
          fun store => ((look store, { backing with made := call :: backing.made }), store) := by
        funext store
        cases looked : look store with
        | error error => simp [attemptOver, attempt, map, fails, looked, Except.map]
        | ok found => simp [attemptOver, attempt, map, fails, looked, Except.map]
      rw [answered]
      exact {
        result := fun alike => by rw [goesBy alike]
        written := fun _ _ same => same
        frame := fun _ _ _ => rfl }

theorem save_confined (backing : FaultyStore Unit) (call : StoreCall) {identity : Identity}
    {save : σ → Except StoreError σ} (mine : own identity) (rewrites : Rewrites σ identity save) :
    Confined own (backing.attemptOver call fun store : σ => (save store).map ((), ·)) := by
  cases fails : backing.fault backing.made.length call with
  | some error =>
      rw [attemptOver_of_fault fails]
      exact .pure own _
  | none =>
      rcases rewrites with ⟨rewrite, saves⟩
      choose next saved written using saves
      have answered : backing.attemptOver call (fun store : σ => (save store).map ((), ·)) =
          fun store => ((.ok (), { backing with made := call :: backing.made }), next store) := by
        funext store
        simp [attemptOver, attempt, map, fails, saved, Except.map]
      rw [answered]
      refine ⟨fun _ => rfl, ?_, ?_⟩
      · intro one other alike spot same
        rw [written, written, alike identity mine, Function.update_apply, Function.update_apply,
          same]
      · intro store spot apart
        rw [written, Function.update_of_ne (apart identity mine)]

end FaultyStore

namespace Surroundings

variable {σ α : Type}

/-- The surroundings of one call, on a store that it shares with others. -/
def sharing (own : Surroundings Unit) (store : σ) : Surroundings σ :=
  own.map fun _ => store

/-- What is left of the surroundings without the store. -/
def apart (world : Surroundings σ) : Surroundings Unit :=
  world.map fun _ => ()

variable [RecordStore σ]

def answerOver (own : Surroundings Unit) (action : Action) (store : σ) :
    (action.Answer × Surroundings Unit) × σ :=
  let answered := answer action (own.sharing store)
  ((answered.1, answered.2.apart), answered.2.backing.store)

def runOver (own : Surroundings Unit) (flow : Flow α) (store : σ) : (α × Surroundings Unit) × σ :=
  let ended := (own.sharing store).run flow
  ((ended.1, ended.2.apart), ended.2.backing.store)

theorem runOver_act (own : Surroundings Unit) (action : Action) (next : action.Answer → Flow α) :
    own.runOver (σ := σ) (.act action next) = fun store =>
      let answered := own.answerOver action store
      answered.1.2.runOver (next answered.1.1) answered.2 := rfl

/-- The store has no part in an action beside it. -/
theorem answerOver_beside (world : Surroundings Unit) {action : Action}
    (beside : action.identity? = none) :
    ∃ told, world.answerOver action = fun store : σ => (told, store) := by
  cases action with
  | findInbox | saveInbox | findOutbox | saveOutbox => cases beside
  | publish message => exact ⟨world.offer message, rfl⟩
  | send => exact ⟨(world.platform world.sends, { world with sends := world.sends + 1 }), rfl⟩
  | now => exact ⟨(world.clock world.readings, { world with readings := world.readings + 1 }), rfl⟩
  | cancelled => exact ⟨(world.cancelled, world), rfl⟩
  | close => exact ⟨((.ok () : Except BusError Unit), world), rfl⟩

variable {κ ρ τ : Type} [DecidableEq κ] [TableStore σ κ ρ τ] {own : Identity → Prop}

/-- An action keeps to the place of its identity. -/
theorem answerOver_confined (world : Surroundings Unit) {action : Action}
    (within : ∀ identity ∈ action.identity?, own identity) :
    Confined own (world.answerOver (σ := σ) action) := by
  cases touched : action.identity? with
  | none =>
      rcases world.answerOver_beside (σ := σ) touched with ⟨told, same⟩
      rw [same]
      exact .pure own told
  | some identity =>
      have mine := within identity touched
      cases action with
      | findInbox channel id =>
          cases touched
          have looks := world.backing.look_confined .findInbox
            (fun store : σ => RecordStore.findInbox store channel id)
            fun alike => findInbox_of_held (alike _ mine)
          exact looks.bind fun made => .pure own (made.1, { world with backing := made.2 })
      | findOutbox channel key =>
          cases touched
          have looks := world.backing.look_confined .findOutbox
            (fun store : σ => RecordStore.findOutbox store channel key)
            fun alike => findOutbox_of_held (alike _ mine)
          exact looks.bind fun made => .pure own (made.1, { world with backing := made.2 })
      | saveInbox record =>
          cases touched
          have saves := world.backing.save_confined .saveInbox mine
            (saveInbox_rewrites (σ := σ) record)
          exact saves.bind fun made => .pure own (made.1, { world with backing := made.2 })
      | saveOutbox record =>
          cases touched
          have saves := world.backing.save_confined .saveOutbox mine
            (saveOutbox_rewrites (σ := σ) record)
          exact saves.bind fun made => .pure own (made.1, { world with backing := made.2 })
      | publish | send | now | cancelled | close => cases touched

/-- A flow keeps to the places of the identities that it touches. -/
theorem runOver_confined (world : Surroundings Unit) {flow : Flow α} (within : flow.Within own) :
    Confined own (world.runOver (σ := σ) flow) := by
  induction flow generalizing world with
  | done result => exact .pure own (result, world)
  | act action next ih =>
      rw [runOver_act]
      exact (world.answerOver_confined within.1).bind fun answered =>
        ih answered.1 answered.2 (within.2 answered.1)

end Surroundings

end ConversationBus
