import ConversationBus.Proofs.Flow.Sharing

/-!
# Calls on different identities

Two parties make calls of the delivery layer on one store, each call with a clock, a platform and a
publisher of its own. Their actions interleave in any order. Where the parties have no identity in
common, every call comes to what it comes to when one party makes its calls after the other, and so
does the store.
-/

namespace ConversationBus

open Interchange TableStore

/-! ## Calls on their way -/

/-- A call on its way: what it has still to do, and its own surroundings. -/
structure Errand where
  flow : Flow Reply
  own : Surroundings Unit

namespace Errand

def Returned (errand : Errand) : Prop :=
  errand.flow.result?.isSome

instance (errand : Errand) : Decidable errand.Returned :=
  inferInstanceAs (Decidable (_ = true))

variable {σ : Type} [RecordStore σ]

/-- Takes the next action of a call. -/
def advance (errand : Errand) (store : σ) : Errand × σ :=
  let taken := errand.flow.advance Surroundings.answer (errand.own.sharing store)
  (⟨taken.1, taken.2.apart⟩, taken.2.backing.store)

/-- Makes a call to its end. -/
def run (errand : Errand) (store : σ) : Errand × σ :=
  let ended := errand.own.runOver errand.flow store
  (⟨.done ended.1.1, ended.1.2⟩, ended.2)

theorem run_advance (errand : Errand) (store : σ) :
    (errand.advance store).1.run (errand.advance store).2 = errand.run store := by
  rcases errand with ⟨_ | _, own⟩
  · rfl
  · rfl

theorem run_returned {errand : Errand} (returned : errand.Returned) (store : σ) :
    errand.run store = (errand, store) := by
  rcases errand with ⟨_ | _, own⟩
  · rfl
  · cases returned

variable {own : Identity → Prop} {errand : Errand}

theorem within_advance (within : errand.flow.Within own) (store : σ) :
    (errand.advance store).1.flow.Within own := by
  rcases errand with ⟨result | ⟨action, next⟩, world⟩
  · exact within
  · exact within.2 _

variable {κ ρ τ : Type} [DecidableEq κ] [TableStore σ κ ρ τ]

theorem run_confined (within : errand.flow.Within own) :
    Confined own (errand.run (σ := σ)) :=
  (errand.own.runOver_confined within).bind fun ended =>
    .pure own (Errand.mk (.done ended.1) ended.2)

theorem advance_confined (within : errand.flow.Within own) :
    Confined own (errand.advance (σ := σ)) := by
  rcases errand with ⟨result | ⟨action, next⟩, world⟩
  · exact .pure own (Errand.mk (.done result) world)
  · exact (world.answerOver_confined within.1).bind fun answered =>
      .pure own (Errand.mk (next answered.1) answered.2)

end Errand

section Party

variable {σ : Type} [RecordStore σ]

/-- Makes the calls of a party, one after another. -/
def serveAll : List Errand → σ → List Errand × σ
  | [], store => ([], store)
  | errand :: others, store =>
    let ended := errand.run store
    let later := serveAll others ended.2
    (ended.1 :: later.1, later.2)

/-- Takes the next action of a party: that of its first call that has not returned. -/
def advanceFirst : List Errand → σ → List Errand × σ
  | [], store => ([], store)
  | errand :: others, store =>
    if errand.Returned then
      let later := advanceFirst others store
      (errand :: later.1, later.2)
    else
      let taken := errand.advance store
      (taken.1 :: others, taken.2)

/-- Takes actions of a party, one after another. -/
def advanceTimes : Nat → List Errand → σ → List Errand × σ
  | 0, errands, store => (errands, store)
  | count + 1, errands, store =>
    let taken := advanceFirst errands store
    advanceTimes count taken.1 taken.2

theorem advanceTimes_cons {errand : Errand} (returned : errand.Returned) (count : Nat)
    (others : List Errand) (store : σ) :
    advanceTimes count (errand :: others) store =
      (errand :: (advanceTimes count others store).1, (advanceTimes count others store).2) := by
  induction count generalizing others store with
  | zero => rfl
  | succ count ih => simp only [advanceTimes, advanceFirst, if_pos returned, ih]

theorem exists_returned (errands : List Errand) (store : σ) :
    ∃ count, ∀ errand ∈ (advanceTimes count errands store).1, errand.Returned := by
  induction errands generalizing store with
  | nil => exact ⟨0, nofun⟩
  | cons errand others ih =>
      rcases errand with ⟨flow, own⟩
      induction flow generalizing own store with
      | done result =>
          rcases ih store with ⟨count, returned⟩
          have here : (Errand.mk (.done result) own).Returned := rfl
          refine ⟨count, ?_⟩
          rw [advanceTimes_cons here]
          exact List.forall_mem_cons.mpr ⟨here, returned⟩
      | act action next further =>
          let taken := (Errand.mk (.act action next) own).advance store
          rcases further _ taken.2 taken.1.own with ⟨count, returned⟩
          exact ⟨count + 1, returned⟩

theorem serveAll_advanceFirst (errands : List Errand) (store : σ) :
    serveAll (advanceFirst errands store).1 (advanceFirst errands store).2 =
      serveAll errands store := by
  induction errands with
  | nil => rfl
  | cons errand others ih =>
      rw [advanceFirst]
      split
      next returned => simp only [serveAll, errand.run_returned returned, ih]
      next => simp only [serveAll, errand.run_advance]

theorem serveAll_returned {errands : List Errand} (returned : ∀ errand ∈ errands, errand.Returned)
    (store : σ) : serveAll errands store = (errands, store) := by
  induction errands with
  | nil => rfl
  | cons errand others ih =>
      rw [List.forall_mem_cons] at returned
      simp only [serveAll, Errand.run_returned returned.1, ih returned.2]

variable {own : Identity → Prop} {errands : List Errand}

theorem within_advanceFirst (within : ∀ errand ∈ errands, errand.flow.Within own) (store : σ) :
    ∀ errand ∈ (advanceFirst errands store).1, errand.flow.Within own := by
  induction errands with
  | nil => exact within
  | cons errand others ih =>
      rw [List.forall_mem_cons] at within
      rw [advanceFirst]
      split
      next => exact List.forall_mem_cons.mpr ⟨within.1, ih within.2⟩
      next => exact List.forall_mem_cons.mpr ⟨Errand.within_advance within.1 store, within.2⟩

variable {κ ρ τ : Type} [DecidableEq κ] [TableStore σ κ ρ τ]

theorem serveAll_confined (within : ∀ errand ∈ errands, errand.flow.Within own) :
    Confined own (serveAll (σ := σ) errands) := by
  induction errands with
  | nil => exact .pure own ([] : List Errand)
  | cons errand others ih =>
      rw [List.forall_mem_cons] at within
      exact (Errand.run_confined (σ := σ) within.1).bind fun ended =>
        (ih within.2).bind fun later => .pure own (ended :: later)

theorem advanceFirst_confined (within : ∀ errand ∈ errands, errand.flow.Within own) :
    Confined own (advanceFirst (σ := σ) errands) := by
  induction errands with
  | nil => exact .pure own ([] : List Errand)
  | cons errand others ih =>
      rw [List.forall_mem_cons] at within
      by_cases returned : errand.Returned
      · have later := (ih within.2).bind fun later => .pure own (errand :: later)
        simpa only [advanceFirst, if_pos returned] using later
      · have taken := (Errand.advance_confined (σ := σ) within.1).bind fun taken =>
          .pure own (taken :: others)
        simpa only [advanceFirst, if_neg returned] using taken

end Party

/-- Two parties on one store. -/
structure Parties (σ : Type) where
  left : List Errand
  right : List Errand
  store : σ

/-- A call that is to be made, with its own surroundings. -/
structure Call where
  request : Request
  own : Surroundings Unit

/-- Whose turn it is. -/
inductive Side where
  | left
  | right
  deriving DecidableEq, Repr

namespace Parties

variable {σ : Type}

def start (left right : List Call) (store : σ) : Parties σ where
  left := left.map fun call => ⟨call.request.flow, call.own⟩
  right := right.map fun call => ⟨call.request.flow, call.own⟩
  store

def Returned (parties : Parties σ) : Prop :=
  ∀ errand ∈ parties.left ++ parties.right, errand.Returned

instance (parties : Parties σ) : Decidable parties.Returned :=
  inferInstanceAs (Decidable (∀ errand ∈ parties.left ++ parties.right, errand.Returned))

variable [RecordStore σ]

def turn (parties : Parties σ) : Side → Parties σ
  | .left =>
    let taken := advanceFirst parties.left parties.store
    { parties with left := taken.1, store := taken.2 }
  | .right =>
    let taken := advanceFirst parties.right parties.store
    { parties with right := taken.1, store := taken.2 }

/-- The parties take their actions in the order of a schedule. -/
def play (parties : Parties σ) (schedule : List Side) : Parties σ :=
  schedule.foldl turn parties

/-- One party makes its calls, and then the other one does. -/
def inTurn (parties : Parties σ) : Parties σ :=
  let first := serveAll parties.left parties.store
  let second := serveAll parties.right first.2
  ⟨first.1, second.1, second.2⟩

theorem inTurn_returned {parties : Parties σ} (returned : parties.Returned) :
    parties.inTurn = parties := by
  rcases parties with ⟨left, right, store⟩
  rcases List.forall_mem_append.mp returned with ⟨leftReturned, rightReturned⟩
  simp only [inTurn, serveAll_returned leftReturned, serveAll_returned rightReturned]

theorem play_left (count : Nat) (parties : Parties σ) :
    let taken := advanceTimes count parties.left parties.store
    parties.play (.replicate count .left) = { parties with left := taken.1, store := taken.2 } := by
  induction count generalizing parties with
  | zero => rfl
  | succ count ih => exact ih (parties.turn .left)

theorem play_right (count : Nat) (parties : Parties σ) :
    let taken := advanceTimes count parties.right parties.store
    parties.play (.replicate count .right) =
      { parties with right := taken.1, store := taken.2 } := by
  induction count generalizing parties with
  | zero => rfl
  | succ count ih => exact ih (parties.turn .right)

/-- In any state, the parties can go on until every call has returned. -/
theorem exists_play_returned (parties : Parties σ) :
    ∃ schedule, (parties.play schedule).Returned := by
  rcases exists_returned parties.left parties.store with ⟨first, leftReturned⟩
  rcases exists_returned parties.right (advanceTimes first parties.left parties.store).2 with
    ⟨second, rightReturned⟩
  refine ⟨.replicate first .left ++ .replicate second .right, ?_⟩
  have split : parties.play (.replicate first .left ++ .replicate second .right) =
      (parties.play (.replicate first .left)).play (.replicate second .right) :=
    List.foldl_append
  rw [split, play_left, play_right]
  exact List.forall_mem_append.mpr ⟨leftReturned, rightReturned⟩

variable {own others : Identity → Prop} {parties : Parties σ}

/-- Each party keeps to identities of its own. -/
structure Apart (own others : Identity → Prop) (parties : Parties σ) : Prop where
  left : ∀ errand ∈ parties.left, errand.flow.Within own
  right : ∀ errand ∈ parties.right, errand.flow.Within others

theorem Apart.turn (apart : parties.Apart own others) (side : Side) :
    (parties.turn side).Apart own others := by
  cases side with
  | left => exact ⟨within_advanceFirst apart.left _, apart.right⟩
  | right => exact ⟨apart.left, within_advanceFirst apart.right _⟩

variable {κ ρ τ : Type} [DecidableEq κ] [TableStore σ κ ρ τ]

/-- Every call has returned the same, and the stores have the same contents. -/
structure SameOutcome (one other : Parties σ) : Prop where
  left : one.left = other.left
  right : one.right = other.right
  contents : SameContents one.store other.store

/-- The calls of both are as far, and the stores hold the same in every place. -/
structure Agree (one other : Parties σ) : Prop where
  left : one.left = other.left
  right : one.right = other.right
  held : held one.store = held other.store

theorem Agree.trans {one other third : Parties σ} (first : one.Agree other)
    (second : other.Agree third) : one.Agree third :=
  ⟨first.left.trans second.left, first.right.trans second.right, first.held.trans second.held⟩

theorem Agree.sameOutcome {one other : Parties σ} (agree : one.Agree other) :
    one.SameOutcome other :=
  ⟨agree.left, agree.right, sameContents_of_held agree.held⟩

/-- An action of any party changes nothing in what the calls of one party and then those of the
other come to: an action of the other party can as well wait for all calls of the first. -/
theorem inTurn_turn (disjoint : ∀ identity, own identity → ¬others identity)
    (apart : parties.Apart own others) (side : Side) :
    (parties.turn side).inTurn.Agree parties.inTurn := by
  cases side with
  | left =>
      have same : (parties.turn .left).inTurn = parties.inTurn := by
        simp only [turn, inTurn, serveAll_advanceFirst]
      rw [same]
      exact ⟨rfl, rfl, rfl⟩
  | right =>
      -- The action commutes with all calls of the first party. The calls that follow it then find the
      -- same in every place.
      rcases (serveAll_confined apart.left).commute (advanceFirst_confined apart.right) disjoint
        parties.store with ⟨same, taken, commutes⟩
      have rest := serveAll_confined (σ := σ) (apart.turn .right).right
      rcases rest.congr commutes with ⟨results, contents⟩
      have waited := serveAll_advanceFirst parties.right (serveAll parties.left parties.store).2
      rw [taken] at waited
      simp only [turn] at results contents
      rw [waited] at results contents
      exact ⟨same, results.symm, contents.symm⟩

theorem inTurn_play (disjoint : ∀ identity, own identity → ¬others identity)
    (apart : parties.Apart own others) (schedule : List Side) :
    (parties.play schedule).inTurn.Agree parties.inTurn := by
  induction schedule generalizing parties with
  | nil => exact ⟨rfl, rfl, rfl⟩
  | cons side schedule ih => exact (ih (apart.turn side)).trans (inTurn_turn disjoint apart side)

end Parties

open Parties

variable {σ κ ρ τ : Type} [DecidableEq κ] [RecordStore σ] [TableStore σ κ ρ τ]

/-- Where two parties have no identity in common, their calls do not interfere. In whatever order
their actions interleave, every call can be brought to its end, and when all have returned, each has
returned what it returns when one party makes all of its calls and then the other one does, with the
same left of its own surroundings, and the store has the same contents. -/
theorem disjoint_calls_commute {left right : List Call}
    (disjoint : ∀ one ∈ left, ∀ other ∈ right, one.request.identity ≠ other.request.identity)
    (store : σ) (schedule : List Side) :
    let played := (start left right store).play schedule
    (∃ more, (played.play more).Returned) ∧
      (played.Returned → played.SameOutcome (start left right store).inTurn) := by
  refine ⟨exists_play_returned _, fun returned => ?_⟩
  have apart : (start left right store).Apart
      (fun identity => ∃ call ∈ left, call.request.identity = identity)
      (fun identity => ∃ call ∈ right, call.request.identity = identity) := by
    constructor
    · intro errand member
      rcases List.mem_map.mp member with ⟨call, present, rfl⟩
      exact Request.within ⟨call, present, rfl⟩
    · intro errand member
      rcases List.mem_map.mp member with ⟨call, present, rfl⟩
      exact Request.within ⟨call, present, rfl⟩
  have distinct : ∀ identity, (∃ call ∈ left, call.request.identity = identity) →
      ¬∃ call ∈ right, call.request.identity = identity := by
    rintro identity ⟨one, here, rfl⟩ ⟨other, there, same⟩
    exact disjoint one here other there same.symm
  have kept := inTurn_play distinct apart schedule
  rw [inTurn_returned returned] at kept
  exact kept.sameOutcome

/-- Two sends whose keys differ in the case of one letter, and events with one id on two channels.
The parties take turns, in memory and in a database. -/
theorem disjoint_calls_commute_letter_case :
    ∃ (left right : List Call) (schedule : List Side),
      (∀ one ∈ left, ∀ other ∈ right, one.request.identity ≠ other.request.identity) ∧
      ((start left right MemoryStore.empty).play schedule).Returned ∧
      ((start left right MemoryStore.empty).play schedule).SameOutcome
        (start left right MemoryStore.empty).inTurn ∧
      ((start left right Database.empty).play schedule).Returned ∧
      ((start left right Database.empty).play schedule).SameOutcome
        (start left right Database.empty).inTurn := by
  let draft : OutboxDraft :=
    { channel := .slack, idempotencyKey := "Order-7", contactId := none, peerId := none,
      itemId := none, contentType := none, payload := [] }
  let event : Inbound.Event :=
    ⟨"1182736450001", .plain "dm-checkin" "slack:dm:7" "checkin-1" [] .epoch⟩
  let sound := Surroundings.plain () .epoch
  let late := { sound with platform := fun _ => .error ["late"] }
  let left : List Call := [⟨.send (.deliver draft), sound⟩, ⟨.receive .slack event, sound⟩]
  let right : List Call :=
    [⟨.send (.deliver { draft with idempotencyKey := "order-7" }), late⟩,
      ⟨.receive .peer event, sound⟩]
  let schedule := (List.replicate 12 [Side.left, .right]).flatten
  have disjoint : ∀ one ∈ left, ∀ other ∈ right, one.request.identity ≠ other.request.identity := by
    decide
  have inMemory : ((start left right MemoryStore.empty).play schedule).Returned := by
    decide +kernel
  have inDatabase : ((start left right Database.empty).play schedule).Returned := by
    decide +kernel
  exact ⟨left, right, schedule, disjoint, inMemory,
    (disjoint_calls_commute disjoint MemoryStore.empty schedule).2 inMemory, inDatabase,
    (disjoint_calls_commute disjoint Database.empty schedule).2 inDatabase⟩

end ConversationBus
