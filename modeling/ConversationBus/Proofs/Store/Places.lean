import ConversationBus.Proofs.Store.Columns
import ConversationBus.Proofs.Store.Holdings
import Mathlib.Data.List.Perm.Basic
import Mathlib.Logic.Function.Basic

/-!
# The places of a store

A store keeps its records as rows of two tables, one for events and one for sends. Each identity has
a place of its own there: different identities have different keys. An effect that goes by what is
held in some places, and changes nothing in others, commutes with one that keeps to other places.
-/

namespace ConversationBus

namespace Table

variable {κ α : Type} [DecidableEq κ] {one other : Table κ α}

def rowsAt (table : Table κ α) (key : κ) : List (κ × α) :=
  table.rows.filter (·.1 = key)

/-- Putting a row changes what is under its key, and goes by nothing else. -/
theorem rowsAt_put (table : Table κ α) (key query : κ) (row : α) :
    (table.put key row).rowsAt query =
      if query = key then (key, row) :: (table.rowsAt key).tail else table.rowsAt query := by
  obtain ⟨rows⟩ := table
  simp only [rowsAt, put]
  induction rows with
  | nil =>
      by_cases same : query = key
      · simp [putRow, same]
      · simp [putRow, same, Ne.symm same]
  | cons entry rest ih =>
      obtain ⟨other, held⟩ := entry
      by_cases here : other = key
      · subst here
        by_cases same : query = other
        · simp [putRow, same]
        · simp [putRow, same, Ne.symm same]
      · by_cases same : query = key
        · subst same
          simpa [putRow, here] using ih
        · simp only [putRow, if_neg here, List.filter_cons, if_neg same] at ih ⊢
          rw [ih]

theorem find?_eq_head (table : Table κ α) (key : κ) :
    table.find? key = (table.rowsAt key).head?.map (·.2) := by
  obtain ⟨rows⟩ := table
  simp only [find?, rowsAt]
  induction rows with
  | nil => rfl
  | cons entry rest ih =>
      obtain ⟨other, held⟩ := entry
      rw [lookup_cons, ih]
      by_cases same : key = other
      · simp [same]
      · simp [same, Ne.symm same]

/-- Tables with the same rows under each key have the same rows. -/
theorem perm_of_rowsAt (same : ∀ key, one.rowsAt key = other.rowsAt key) :
    one.rows.Perm other.rows := by
  classical
  rw [List.perm_iff_count]
  intro entry
  have here : ∀ rows : List (κ × α),
      (rows.filter (·.1 = entry.1)).count entry = rows.count entry :=
    fun rows => List.count_filter (by simp)
  rw [← here one.rows, ← here other.rows]
  exact congrArg (List.count entry) (same entry.1)

end Table

/-! ## Identities and their places -/

/-- What a record is about. -/
inductive Identity where
  | event (channel : Channel) (id : String)
  | send (identity : SendIdentity)
  deriving DecidableEq, Repr

/-- A store whose calls read and write rows under keys. A look-up goes by the row that is found
under the key of its identity, and saving a record puts its row there and does not fail. -/
class TableStore (σ : Type) (κ ρ τ : outParam Type) [DecidableEq κ] [RecordStore σ] where
  inbox : σ → Table κ ρ
  outbox : σ → Table κ τ
  key : Channel → String → κ
  key_injective : Function.Injective2 key
  inboxRow : InboxRecord → ρ
  outboxRow : OutboxRecord → τ
  inboxRecord : Option ρ → Except StoreError (Option InboxRecord)
  outboxRecord : Option τ → Except StoreError (Option OutboxRecord)
  findInbox_eq : ∀ store channel id, RecordStore.findInbox store channel id =
    inboxRecord ((inbox store).find? (key channel id))
  findOutbox_eq : ∀ store channel id, RecordStore.findOutbox store channel id =
    outboxRecord ((outbox store).find? (key channel id))
  saveInbox_eq : ∀ store record, ∃ next, RecordStore.saveInbox store record = .ok next ∧
    inbox next =
      (inbox store).put (key record.channel record.platformMessageId) (inboxRow record) ∧
    outbox next = outbox store
  saveOutbox_eq : ∀ store record, ∃ next, RecordStore.saveOutbox store record = .ok next ∧
    inbox next = inbox store ∧
    outbox next =
      (outbox store).put (key record.channel record.idempotencyKey) (outboxRow record)

instance : TableStore MemoryStore (Channel × String) InboxRecord OutboxRecord where
  inbox := MemoryStore.inbox
  outbox := MemoryStore.outbox
  key := Prod.mk
  key_injective _ _ _ _ := Prod.mk.inj
  inboxRow := id
  outboxRow := id
  inboxRecord := .ok
  outboxRecord := .ok
  findInbox_eq _ _ _ := rfl
  findOutbox_eq _ _ _ := rfl
  saveInbox_eq _ _ := ⟨_, rfl, rfl, rfl⟩
  saveOutbox_eq _ _ := ⟨_, rfl, rfl, rfl⟩

instance : TableStore Database (String × String) InboxRow OutboxRow where
  inbox := Database.inbox
  outbox := Database.outbox
  key channel id := (channel.name, id)
  key_injective := by
    intro channel other id otherId same
    rw [Prod.mk.injEq] at same
    exact ⟨Channel.name_injective same.1, same.2⟩
  inboxRow := .ofRecord
  outboxRow := .ofRecord
  inboxRecord := Database.readRow InboxRow.record
  outboxRecord := Database.readRow OutboxRow.record
  findInbox_eq _ _ _ := rfl
  findOutbox_eq _ _ _ := rfl
  saveInbox_eq _ _ := ⟨_, rfl, rfl, rfl⟩
  saveOutbox_eq _ _ := ⟨_, rfl, rfl, rfl⟩

namespace TableStore

variable {σ κ ρ τ α β : Type} [DecidableEq κ] [RecordStore σ] [TableStore σ κ ρ τ]

variable (σ) in
/-- Where the record of an identity stands: in the table of events or in that of sends. -/
def place : Identity → κ ⊕ κ
  | .event channel id => .inl (key σ channel id)
  | .send identity => .inr (key σ identity.channel identity.idempotencyKey)

theorem place_injective : Function.Injective (place σ) := by
  intro one other same
  cases one with
  | event channel id =>
      cases other with
      | event channel id =>
          rcases key_injective (Sum.inl.inj same) with ⟨rfl, rfl⟩
          rfl
      | send identity => cases same
  | send identity =>
      cases other with
      | event channel id => cases same
      | send other =>
          rcases identity with ⟨channel, idempotencyKey⟩
          rcases other with ⟨otherChannel, otherKey⟩
          rcases key_injective (Sum.inr.inj same) with ⟨rfl, rfl⟩
          rfl

/-- What a store holds in each place. -/
def held (store : σ) : κ ⊕ κ → List (κ × ρ) ⊕ List (κ × τ)
  | .inl key => .inl ((inbox store).rowsAt key)
  | .inr key => .inr ((outbox store).rowsAt key)

/-- Two stores have the same rows, and look-ups find the same in both. -/
structure SameContents (one other : σ) : Prop where
  inbox : (inbox one).rows.Perm (inbox other).rows
  outbox : (outbox one).rows.Perm (outbox other).rows
  findInbox : ∀ channel id,
    RecordStore.findInbox one channel id = RecordStore.findInbox other channel id
  findOutbox : ∀ channel key,
    RecordStore.findOutbox one channel key = RecordStore.findOutbox other channel key

section Held

variable {one other : σ}

theorem findInbox_of_held {channel : Channel} {id : String}
    (same : held one (place σ (.event channel id)) = held other (place σ (.event channel id))) :
    RecordStore.findInbox one channel id = RecordStore.findInbox other channel id := by
  rw [findInbox_eq, findInbox_eq, Table.find?_eq_head, Table.find?_eq_head, Sum.inl.inj same]

theorem findOutbox_of_held {channel : Channel} {key : String}
    (same : held one (place σ (.send ⟨channel, key⟩)) =
      held other (place σ (.send ⟨channel, key⟩))) :
    RecordStore.findOutbox one channel key = RecordStore.findOutbox other channel key := by
  rw [findOutbox_eq, findOutbox_eq, Table.find?_eq_head, Table.find?_eq_head, Sum.inr.inj same]

theorem sameContents_of_held (same : held one = held other) : SameContents one other where
  inbox := Table.perm_of_rowsAt fun key => Sum.inl.inj (congrFun same (.inl key))
  outbox := Table.perm_of_rowsAt fun key => Sum.inr.inj (congrFun same (.inr key))
  findInbox _ _ := findInbox_of_held (congrFun same _)
  findOutbox _ _ := findOutbox_of_held (congrFun same _)

variable (σ) in
/-- Saving a record rewrites what is held in one place. -/
def Rewrites (identity : Identity) (save : σ → Except StoreError σ) : Prop :=
  ∃ rewrite : List (κ × ρ) ⊕ List (κ × τ) → List (κ × ρ) ⊕ List (κ × τ),
    ∀ store, ∃ next, save store = .ok next ∧ held next =
      Function.update (held store) (place σ identity) (rewrite (held store (place σ identity)))

theorem saveInbox_rewrites (record : InboxRecord) :
    Rewrites σ (.event record.channel record.platformMessageId)
      (RecordStore.saveInbox · record) := by
  let key := key σ record.channel record.platformMessageId
  refine ⟨Sum.map (fun rows => (key, inboxRow σ record) :: rows.tail) id, fun store => ?_⟩
  rcases saveInbox_eq store record with ⟨next, saved, written, kept⟩
  refine ⟨next, saved, funext fun spot => ?_⟩
  cases spot with
  | inl query =>
      simp only [held, written, Table.rowsAt_put, place, Function.update_apply, Sum.inl.injEq,
        Sum.map_inl]
      split
      next => rfl
      next => rfl
  | inr query => simp [held, kept, place]

theorem saveOutbox_rewrites (record : OutboxRecord) :
    Rewrites σ (.send record.identity) (RecordStore.saveOutbox · record) := by
  let key := key σ record.channel record.idempotencyKey
  refine ⟨Sum.map id (fun rows => (key, outboxRow σ record) :: rows.tail), fun store => ?_⟩
  rcases saveOutbox_eq store record with ⟨next, saved, kept, written⟩
  refine ⟨next, saved, funext fun spot => ?_⟩
  cases spot with
  | inr query =>
      simp only [held, written, Table.rowsAt_put, place, OutboxRecord.identity,
        Function.update_apply, Sum.inr.injEq, Sum.map_inr]
      split
      next => rfl
      next => rfl
  | inl query => simp [held, kept, place]

end Held

/-! ## Effects that keep to some places -/

/-- An effect on a store goes by what is held in the places of some identities, and changes nothing
in others. -/
structure Confined (own : Identity → Prop) (effect : σ → α × σ) : Prop where
  result : ∀ {one other : σ},
    (∀ identity, own identity → held one (place σ identity) = held other (place σ identity)) →
      (effect one).1 = (effect other).1
  written : ∀ {one other : σ},
    (∀ identity, own identity → held one (place σ identity) = held other (place σ identity)) →
      ∀ spot, held one spot = held other spot →
        held (effect one).2 spot = held (effect other).2 spot
  frame : ∀ (store : σ) spot, (∀ identity, own identity → spot ≠ place σ identity) →
    held (effect store).2 spot = held store spot

namespace Confined

variable {own others : Identity → Prop} {effect : σ → α × σ} {next : α → σ → β × σ}

theorem pure (own : Identity → Prop) (result : α) :
    Confined own fun store : σ => (result, store) where
  result _ := rfl
  written _ _ same := same
  frame _ _ _ := rfl

theorem bind (first : Confined own effect) (rest : ∀ result, Confined own (next result)) :
    Confined own fun store => next (effect store).1 (effect store).2 where
  result := by
    intro one other alike
    rw [first.result alike]
    exact (rest _).result fun identity mine => first.written alike _ (alike identity mine)
  written := by
    intro one other alike spot same
    rw [first.result alike]
    exact (rest _).written (fun identity mine => first.written alike _ (alike identity mine)) spot
      (first.written alike spot same)
  frame := by
    intro store spot apart
    rw [(rest _).frame _ spot apart, first.frame store spot apart]

/-- Stores that hold the same still do after an effect. -/
theorem congr (confined : Confined own effect) {one other : σ} (same : held one = held other) :
    (effect one).1 = (effect other).1 ∧ held (effect one).2 = held (effect other).2 :=
  ⟨confined.result fun _ _ => congrFun same _,
    funext fun spot => confined.written (fun _ _ => congrFun same _) spot (congrFun same spot)⟩

/-- Effects that keep to different places commute. -/
theorem commute {effect : σ → α × σ} {other : σ → β × σ} (mine : Confined own effect)
    (theirs : Confined others other) (disjoint : ∀ identity, own identity → ¬others identity)
    (store : σ) :
    (effect (other store).2).1 = (effect store).1 ∧
      (other (effect store).2).1 = (other store).1 ∧
      held (other (effect store).2).2 = held (effect (other store).2).2 := by
  have apartMine : ∀ identity, others identity → ∀ own', own own' →
      place σ identity ≠ place σ own' := by
    intro identity their own' my same
    rw [place_injective same] at their
    exact disjoint own' my their
  have mineKept : ∀ identity, own identity →
      held (other store).2 (place σ identity) = held store (place σ identity) :=
    fun identity my => theirs.frame store _ fun their isTheir same =>
      apartMine their isTheir identity my same.symm
  have theirsKept : ∀ identity, others identity →
      held (effect store).2 (place σ identity) = held store (place σ identity) :=
    fun identity their => mine.frame store _ fun my isMine same =>
      apartMine identity their my isMine same
  refine ⟨mine.result mineKept, theirs.result theirsKept, funext fun spot => ?_⟩
  -- Each place is left alone by one of the two effects, so the other one decides what it holds.
  by_cases here : ∃ identity, others identity ∧ spot = place σ identity
  · rcases here with ⟨identity, their, rfl⟩
    rw [mine.frame _ _ fun my isMine same => apartMine identity their my isMine same]
    exact theirs.written theirsKept _ (theirsKept identity their)
  · have free : ∀ identity, others identity → spot ≠ place σ identity :=
      fun identity their same => here ⟨identity, their, same⟩
    rw [theirs.frame _ _ free]
    exact (mine.written mineKept spot (theirs.frame store spot free)).symm

end Confined

end TableStore

end ConversationBus
