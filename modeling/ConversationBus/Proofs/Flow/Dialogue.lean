import ConversationBus.Flow.Surroundings
import ConversationBus.Proofs.Store.Holdings

/-!
# Dialogues of flows

What a flow does is told by its dialogue: the actions that it took, each with the answer that it
got. An answer may be anything, except that a look-up which does not fail finds what the store
holds. Whatever the surroundings are, a flow that is run has a dialogue, which also tells what the
store holds in the end. So a property of all dialogues is one for all faults, outcomes and clocks.
-/

namespace ConversationBus

/-- An action and the answer to it. -/
structure Exchange where
  action : Action
  answer : action.Answer

namespace Exchange

def outcome? : Exchange → Option (Except SendFailure SendReceipt)
  | ⟨.send, outcome⟩ => some outcome
  | _ => none

def offered? : Exchange → Option Message
  | ⟨.publish message, _⟩ => some message
  | _ => none

def taken? : Exchange → Option Message
  | ⟨.publish message, .ok ()⟩ => some message
  | _ => none

/-- An inbox record that was to be saved, and whether it was. -/
def mark? : Exchange → Option (InboxRecord × Bool)
  | ⟨.saveInbox record, answer⟩ => some (record, answer.isOk)
  | _ => none

def reading? : Exchange → Option Instant
  | ⟨.now, time⟩ => some time
  | _ => none

def storeFailed : Exchange → Bool
  | ⟨.findInbox .., .error _⟩ => true
  | ⟨.saveInbox _, .error _⟩ => true
  | ⟨.findOutbox .., .error _⟩ => true
  | ⟨.saveOutbox _, .error _⟩ => true
  | _ => false

end Exchange

/-- The sends that ran, by how they ended. -/
def sendsIn (exchanges : List Exchange) : List (Except SendFailure SendReceipt) :=
  exchanges.filterMap Exchange.outcome?

theorem sendsIn_append (first last : List Exchange) :
    sendsIn (first ++ last) = sendsIn first ++ sendsIn last :=
  List.filterMap_append

theorem sendsIn_of_split {exchanges earlier later : List Exchange}
    {outcome : Except SendFailure SendReceipt}
    (split : exchanges = earlier ++ ⟨.send, outcome⟩ :: later) : outcome ∈ sendsIn exchanges := by
  rw [split, sendsIn_append]
  exact List.mem_append_right _ List.mem_cons_self

/-- Where only one exchange is of some kind, it is known what comes before one of that kind. -/
theorem eq_front_of_split {α : Type} (view : Exchange → Option α)
    {front back earlier later : List Exchange} {one other : Exchange}
    (none : front.filterMap view = []) (noMore : back.filterMap view = [])
    (seen : (view other).isSome) (split : front ++ one :: back = earlier ++ other :: later) :
    earlier = front ∧ other = one := by
  have elsewhere : other ∉ front ∧ other ∉ back := by
    rw [List.filterMap_eq_nil_iff] at none noMore
    constructor
    · intro member
      simp [none other member] at seen
    · intro member
      simp [noMore other member] at seen
  rcases List.append_eq_append_iff.mp split with ⟨between, rfl, rest⟩ | ⟨between, rfl, rest⟩
  · cases between with
    | nil => exact ⟨List.append_nil front, (List.cons.inj rest).1.symm⟩
    | cons exchange between =>
        have more : other ∈ back := by simp [(List.cons.inj rest).2]
        exact absurd more elsewhere.2
  · cases between with
    | nil => exact ⟨(List.append_nil earlier).symm, (List.cons.inj rest).1⟩
    | cons exchange between =>
        have before : other ∈ earlier ++ exchange :: between := by simp [(List.cons.inj rest).1]
        exact absurd before elsewhere.1

/-- No call of the store failed. -/
def Sound (exchanges : List Exchange) : Prop :=
  ∀ exchange ∈ exchanges, exchange.storeFailed = false

namespace Holdings

/-- A look-up that does not fail finds what is held. -/
def Admits (holdings : Holdings) : Exchange → Prop
  | ⟨.findInbox channel id, .ok found⟩ => found = holdings.inbox channel id
  | ⟨.findOutbox channel key, .ok found⟩ => found = holdings.outbox ⟨channel, key⟩
  | _ => True

def after (holdings : Holdings) : Exchange → Holdings
  | ⟨.saveInbox record, .ok ()⟩ => holdings.putInbox record
  | ⟨.saveOutbox record, .ok ()⟩ => holdings.putOutbox record
  | _ => holdings

def afterAll (holdings : Holdings) (exchanges : List Exchange) : Holdings :=
  exchanges.foldl after holdings

/-- Each exchange is admitted by what is held when it takes place. -/
def AdmitsAll : Holdings → List Exchange → Prop
  | _, [] => True
  | holdings, exchange :: rest => holdings.Admits exchange ∧ (holdings.after exchange).AdmitsAll rest

variable {holdings : Holdings}

@[simp] theorem afterAll_nil : holdings.afterAll [] = holdings := rfl

theorem afterAll_append (holdings : Holdings) (first last : List Exchange) :
    holdings.afterAll (first ++ last) = (holdings.afterAll first).afterAll last :=
  List.foldl_append

theorem afterAll_concat (exchanges : List Exchange) (last : Exchange) :
    holdings.afterAll (exchanges ++ [last]) = (holdings.afterAll exchanges).after last :=
  List.foldl_append

theorem admitsAll_append {first last : List Exchange} :
    holdings.AdmitsAll (first ++ last) ↔
      holdings.AdmitsAll first ∧ (holdings.afterAll first).AdmitsAll last := by
  induction first generalizing holdings with
  | nil => simp [AdmitsAll]
  | cons exchange rest ih =>
      rw [List.cons_append, AdmitsAll, AdmitsAll, ih, and_assoc]
      rfl

end Holdings

namespace Flow

variable {α β ω : Type} {before : Holdings} {exchanges : List Exchange}

theorem bind_assoc {γ : Type} (flow : Flow α) (rest : α → Flow β) (last : β → Flow γ) :
    (flow.bind rest).bind last = flow.bind fun result => (rest result).bind last := by
  induction flow with
  | done => rfl
  | act action next ih =>
      simp only [bind]
      exact congrArg (Flow.act action) (funext ih)

/-- The dialogues of a flow with surroundings whose store holds something. -/
inductive Dialogue : Flow α → Holdings → List Exchange → α → Prop where
  | done (result : α) (before : Holdings) : Dialogue (.done result) before [] result
  | act {action : Action} {next : action.Answer → Flow α} {before : Holdings}
      {exchanges : List Exchange} {result : α} (answer : action.Answer)
      (admitted : before.Admits ⟨action, answer⟩)
      (rest : Dialogue (next answer) (before.after ⟨action, answer⟩) exchanges result) :
      Dialogue (.act action next) before (⟨action, answer⟩ :: exchanges) result

theorem dialogue_done {held result : α} :
    Dialogue (.done held) before exchanges result ↔ exchanges = [] ∧ result = held := by
  constructor
  · intro dialogue
    cases dialogue
    exact ⟨rfl, rfl⟩
  · rintro ⟨rfl, rfl⟩
    exact .done ..

theorem dialogue_act {action : Action} {next : action.Answer → Flow α} {result : α} :
    Dialogue (.act action next) before exchanges result ↔
      ∃ answer rest, exchanges = ⟨action, answer⟩ :: rest ∧ before.Admits ⟨action, answer⟩ ∧
        Dialogue (next answer) (before.after ⟨action, answer⟩) rest result := by
  constructor
  · intro dialogue
    cases dialogue with
    | act answer admitted rest => exact ⟨answer, _, rfl, admitted, rest⟩
  · rintro ⟨answer, rest, rfl, admitted, dialogue⟩
    exact .act answer admitted dialogue

/-- A flow that goes on with the result of another has a dialogue of two parts. -/
theorem dialogue_bind {flow : Flow α} {rest : α → Flow β} {result : β} :
    (flow.bind rest).Dialogue before exchanges result ↔
      ∃ first last held, exchanges = first ++ last ∧ flow.Dialogue before first held ∧
        (rest held).Dialogue (before.afterAll first) last result := by
  induction flow generalizing before exchanges with
  | done held =>
      simp only [bind, dialogue_done]
      constructor
      · intro dialogue
        exact ⟨[], exchanges, held, rfl, ⟨rfl, rfl⟩, dialogue⟩
      · rintro ⟨_, last, _, rfl, ⟨rfl, rfl⟩, dialogue⟩
        exact dialogue
  | act action next ih =>
      simp only [bind, dialogue_act, ih]
      constructor
      · rintro ⟨answer, _, rfl, admitted, first, last, held, rfl, dialogue, later⟩
        exact ⟨⟨action, answer⟩ :: first, last, held, rfl, ⟨answer, first, rfl, admitted, dialogue⟩,
          later⟩
      · rintro ⟨_, last, held, rfl, ⟨answer, first, rfl, admitted, dialogue⟩, later⟩
        exact ⟨answer, first ++ last, rfl, admitted, first, last, held, rfl, dialogue, later⟩

/-- A flow on its way: what it has exchanged so far, whatever the surroundings hold, and what it has
still to do. -/
inductive Leads : Flow α → List Exchange → Flow α → Prop where
  | refl (flow : Flow α) : Leads flow [] flow
  | act {action : Action} {next : action.Answer → Flow α} {exchanges : List Exchange}
      {rest : Flow α} (answer : action.Answer) (later : Leads (next answer) exchanges rest) :
      Leads (.act action next) (⟨action, answer⟩ :: exchanges) rest

theorem Leads.answered {action : Action} (next : action.Answer → Flow α) (answer : action.Answer) :
    Leads (.act action next) [⟨action, answer⟩] (next answer) :=
  .act answer (.refl _)

theorem leads_done {held result : α} :
    Leads (.done held) exchanges (.done result) ↔ exchanges = [] ∧ result = held := by
  constructor
  · intro leads
    cases leads
    exact ⟨rfl, rfl⟩
  · rintro ⟨rfl, rfl⟩
    exact .refl _

theorem leads_act {action : Action} {next : action.Answer → Flow α} {result : α} :
    Leads (.act action next) exchanges (.done result) ↔
      ∃ answer rest, exchanges = ⟨action, answer⟩ :: rest ∧
        Leads (next answer) rest (.done result) := by
  constructor
  · intro leads
    cases leads with
    | act answer later => exact ⟨answer, _, rfl, later⟩
  · rintro ⟨answer, rest, rfl, later⟩
    exact .act answer later

theorem Leads.append {flow mid last : Flow α} {later : List Exchange}
    (first : flow.Leads exchanges mid) (rest : mid.Leads later last) :
    flow.Leads (exchanges ++ later) last := by
  induction first with
  | refl => exact rest
  | act answer _ ih => exact .act answer (ih rest)

theorem leads_bind {flow : Flow α} {rest : α → Flow β} {result : β} :
    (flow.bind rest).Leads exchanges (.done result) ↔
      ∃ first last held, exchanges = first ++ last ∧ flow.Leads first (.done held) ∧
        (rest held).Leads last (.done result) := by
  induction flow generalizing exchanges with
  | done held =>
      simp only [bind, leads_done]
      constructor
      · intro leads
        exact ⟨[], exchanges, held, rfl, ⟨rfl, rfl⟩, leads⟩
      · rintro ⟨_, last, _, rfl, ⟨rfl, rfl⟩, leads⟩
        exact leads
  | act action next ih =>
      simp only [bind, leads_act, ih]
      constructor
      · rintro ⟨answer, _, rfl, first, last, held, rfl, leads, later⟩
        exact ⟨⟨action, answer⟩ :: first, last, held, rfl, ⟨answer, first, rfl, leads⟩, later⟩
      · rintro ⟨_, last, held, rfl, ⟨answer, first, rfl, leads⟩, later⟩
        exact ⟨answer, first ++ last, rfl, first, last, held, rfl, leads, later⟩

/-- A flow that has come to its end has had a dialogue, if its exchanges were admitted. -/
theorem Leads.dialogue {flow : Flow α} {result : α} (leads : flow.Leads exchanges (.done result))
    (admitted : before.AdmitsAll exchanges) : flow.Dialogue before exchanges result := by
  generalize ended : Flow.done result = last at leads
  induction leads generalizing before with
  | refl =>
      subst ended
      exact .done ..
  | act answer _ ih => exact .act answer admitted.1 (ih admitted.2 ended)

/-- The exchanges of a flow that is run to its end. -/
def transcript (answering : Answering ω) : Flow α → ω → List Exchange
  | .done _, _ => []
  | .act action next, world =>
    let (answer, world) := answering action world
    ⟨action, answer⟩ :: (next answer).transcript answering world

end Flow

/-! ## What a store tells -/

/-- An exchange with a store, and the store after it. A call that fails tells nothing, and changes
nothing. -/
def Exchange.ToldBy {σ : Type} [RecordStore σ] (store : σ) : Exchange → σ → Prop
  | ⟨.findInbox channel id, .ok found⟩, next =>
    RecordStore.findInbox store channel id = .ok found ∧ next = store
  | ⟨.saveInbox record, .ok ()⟩, next => RecordStore.saveInbox store record = .ok next
  | ⟨.findOutbox channel key, .ok found⟩, next =>
    RecordStore.findOutbox store channel key = .ok found ∧ next = store
  | ⟨.saveOutbox record, .ok ()⟩, next => RecordStore.saveOutbox store record = .ok next
  | _, next => next = store

/-- What a store tells is admitted by what it holds, and it holds afterwards what the exchange
says. -/
theorem Exchange.ToldBy.admitted {σ : Type} [RecordStore σ] [FaithfulStore σ] {store next : σ}
    {exchange : Exchange} (told : exchange.ToldBy store next) :
    (FaithfulStore.holdings store).Admits exchange ∧
      FaithfulStore.holdings next = (FaithfulStore.holdings store).after exchange := by
  obtain ⟨action, answer⟩ := exchange
  cases action with
  | findInbox channel id =>
      cases answer with
      | error error => exact ⟨trivial, congrArg FaithfulStore.holdings told⟩
      | ok found =>
          exact ⟨FaithfulStore.findInbox_ok told.1, congrArg FaithfulStore.holdings told.2⟩
  | findOutbox channel key =>
      cases answer with
      | error error => exact ⟨trivial, congrArg FaithfulStore.holdings told⟩
      | ok found =>
          exact ⟨FaithfulStore.findOutbox_ok told.1, congrArg FaithfulStore.holdings told.2⟩
  | saveInbox record =>
      cases answer with
      | error error => exact ⟨trivial, congrArg FaithfulStore.holdings told⟩
      | ok => exact ⟨trivial, FaithfulStore.saveInbox_ok told⟩
  | saveOutbox record =>
      cases answer with
      | error error => exact ⟨trivial, congrArg FaithfulStore.holdings told⟩
      | ok => exact ⟨trivial, FaithfulStore.saveOutbox_ok told⟩
  | publish | send | now | cancelled | close =>
      exact ⟨trivial, congrArg FaithfulStore.holdings told⟩

namespace Surroundings

variable {σ κ α : Type} [RecordStore σ]

theorem answer_told (world : Surroundings σ) (action : Action) :
    Exchange.ToldBy world.backing.store ⟨action, (answer action world).1⟩
      (answer action world).2.backing.store := by
  cases action with
  | findInbox channel id =>
      rcases world.backing.attempt_look .findInbox (RecordStore.findInbox · channel id) with
        ⟨same, ⟨error, failed⟩ | ⟨found, looked, told⟩⟩
      · have answered : (answer (.findInbox channel id) world).1 = .error error := failed
        rw [answered]
        exact same
      · have answered : (answer (.findInbox channel id) world).1 = .ok found := told
        rw [answered]
        exact ⟨looked, same⟩
  | findOutbox channel key =>
      rcases world.backing.attempt_look .findOutbox (RecordStore.findOutbox · channel key) with
        ⟨same, ⟨error, failed⟩ | ⟨found, looked, told⟩⟩
      · have answered : (answer (.findOutbox channel key) world).1 = .error error := failed
        rw [answered]
        exact same
      · have answered : (answer (.findOutbox channel key) world).1 = .ok found := told
        rw [answered]
        exact ⟨looked, same⟩
  | saveInbox record =>
      rcases world.backing.attempt_save .saveInbox (RecordStore.saveInbox · record) with
        ⟨error, failed, same⟩ | ⟨told, done⟩
      · have answered : (answer (.saveInbox record) world).1 = .error error := failed
        rw [answered]
        exact same
      · have answered : (answer (.saveInbox record) world).1 = .ok () := told
        rw [answered]
        exact done
  | saveOutbox record =>
      rcases world.backing.attempt_save .saveOutbox (RecordStore.saveOutbox · record) with
        ⟨error, failed, same⟩ | ⟨told, done⟩
      · have answered : (answer (.saveOutbox record) world).1 = .error error := failed
        rw [answered]
        exact same
      · have answered : (answer (.saveOutbox record) world).1 = .ok () := told
        rw [answered]
        exact done
  | publish | send | now | cancelled | close => rfl

variable [FaithfulStore σ]

/-- What the store of the surroundings holds. -/
def holdings (world : Surroundings σ) : Holdings :=
  FaithfulStore.holdings world.backing.store

/-- The answer to an action is admitted, and the store holds afterwards what the exchange says. -/
theorem answer_admitted (world : Surroundings σ) (action : Action) :
    world.holdings.Admits ⟨action, (answer action world).1⟩ ∧
      (answer action world).2.holdings =
        world.holdings.after ⟨action, (answer action world).1⟩ :=
  (world.answer_told action).admitted

theorem run_dialogue (world : Surroundings σ) (flow : Flow α) :
    flow.Dialogue world.holdings (flow.transcript answer world) (world.run flow).1 ∧
      (world.run flow).2.holdings = world.holdings.afterAll (flow.transcript answer world) := by
  induction flow generalizing world with
  | done result => exact ⟨.done .., rfl⟩
  | act action next ih =>
      rcases world.answer_admitted action with ⟨admitted, held⟩
      rcases ih _ (answer action world).2 with ⟨dialogue, last⟩
      rw [held] at dialogue last
      exact ⟨.act _ admitted dialogue, last⟩

end Surroundings

/-! ## Calls one after another -/

/-- A call that was made: what it exchanged with its surroundings, and its result. -/
structure Performed (κ α : Type) where
  call : κ
  exchanges : List Exchange
  result : α

namespace Surroundings

variable {σ κ α : Type} [RecordStore σ]

def perform (world : Surroundings σ) (operation : κ → Flow α) (call : κ) : Performed κ α where
  call
  exchanges := (operation call).transcript answer world
  result := (world.run (operation call)).1

def afterCall (world : Surroundings σ) (operation : κ → Flow α) (call : κ) : Surroundings σ :=
  (world.run (operation call)).2

/-- A call that is made has a dialogue, which also tells what the store holds after it. -/
theorem perform_dialogue [FaithfulStore σ] (world : Surroundings σ) (operation : κ → Flow α)
    (call : κ) :
    (operation call).Dialogue world.holdings (world.perform operation call).exchanges
        (world.perform operation call).result ∧
      (world.afterCall operation call).holdings =
        world.holdings.afterAll (world.perform operation call).exchanges :=
  world.run_dialogue (operation call)

def performAll (world : Surroundings σ) (operation : κ → Flow α) :
    List κ → List (Performed κ α) × Surroundings σ
  | [] => ([], world)
  | call :: calls =>
    let (later, last) := (world.afterCall operation call).performAll operation calls
    (world.perform operation call :: later, last)

end Surroundings

section Shown

variable {κ α β : Type} {own : κ → Prop} [DecidablePred own] {view : List Exchange → List β}
  {history : List (Performed κ α)} {entry : Performed κ α}

/-- What a history shows of some of its calls. -/
def shownOf (own : κ → Prop) [DecidablePred own] (view : List Exchange → List β)
    (history : List (Performed κ α)) : List β :=
  (history.filter fun entry => own entry.call).flatMap fun entry => view entry.exchanges

theorem shownOf_concat :
    shownOf own view (history ++ [entry]) =
      shownOf own view history ++ if own entry.call then view entry.exchanges else [] := by
  by_cases here : own entry.call
  · simp [shownOf, here]
  · simp [shownOf, here]

end Shown

/-- Calls of an operation that are made one after another, whatever each of them is answered. -/
inductive Session {σ κ α : Type} [RecordStore σ] (operation : κ → Flow α)
    (first : Surroundings σ) : List (Performed κ α) → Surroundings σ → Prop where
  | begin : Session operation first [] first
  | call {history : List (Performed κ α)} {world : Surroundings σ}
      (session : Session operation first history world) (call : κ) :
      Session operation first (history ++ [world.perform operation call])
        (world.afterCall operation call)

namespace Session

variable {σ κ α : Type} [RecordStore σ] {operation : κ → Flow α} {first world : Surroundings σ}
  {history : List (Performed κ α)}

theorem append {last : Surroundings σ} {later : List (Performed κ α)}
    (session : Session operation first history world)
    (rest : Session operation world later last) :
    Session operation first (history ++ later) last := by
  induction rest with
  | begin => simpa using session
  | call rest call ih =>
      rw [← List.append_assoc]
      exact ih.call call

theorem of_performAll (world : Surroundings σ) (operation : κ → Flow α) (calls : List κ) :
    Session operation world (world.performAll operation calls).1
      (world.performAll operation calls).2 := by
  induction calls generalizing world with
  | nil => exact .begin
  | cons call calls ih => exact append (.call .begin call) (ih _)

variable [FaithfulStore σ]

/-- What holds before the first call and is kept by every dialogue holds along every session. -/
theorem invariant (kept : List (Performed κ α) → Holdings → Prop)
    (session : Session operation first history world) (initial : kept [] first.holdings)
    (keeps : ∀ history before (entry : Performed κ α),
      (operation entry.call).Dialogue before entry.exchanges entry.result → kept history before →
        kept (history ++ [entry]) (before.afterAll entry.exchanges)) :
    kept history world.holdings := by
  induction session with
  | begin => exact initial
  | @call history world session call ih =>
      rcases world.perform_dialogue operation call with ⟨dialogue, held⟩
      have last := keeps history world.holdings (world.perform operation call) dialogue ih
      exact held.symm ▸ last

end Session

end ConversationBus
