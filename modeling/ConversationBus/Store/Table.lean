/-!
# Tables

A table keeps at most one row under each key. Rows stay in the order in which their keys were
first put; putting a row under a key that has one replaces it.
-/

namespace ConversationBus

/-- Rows under keys. -/
structure Table (κ α : Type) where
  rows : List (κ × α)
  deriving DecidableEq, Repr

namespace Table

variable {κ α : Type}

def empty : Table κ α := ⟨[]⟩

instance : Inhabited (Table κ α) := ⟨empty⟩

def size (table : Table κ α) : Nat := table.rows.length

/-- The rows without their keys. -/
def values (table : Table κ α) : List α := table.rows.map (·.2)

variable [DecidableEq κ]

/-- The row under a key. -/
def find? (table : Table κ α) (key : κ) : Option α :=
  table.rows.lookup key

/-- Puts a row among others, in place of one under the same key. -/
def putRow (key : κ) (row : α) : List (κ × α) → List (κ × α)
  | [] => [(key, row)]
  | (other, held) :: rest =>
    if other = key then (key, row) :: rest else (other, held) :: putRow key row rest

/-- Puts a row under a key. -/
def put (table : Table κ α) (key : κ) (row : α) : Table κ α :=
  ⟨putRow key row table.rows⟩

theorem lookup_cons (key query : κ) (row : α) (rows : List (κ × α)) :
    ((key, row) :: rows).lookup query = if query = key then some row else rows.lookup query := by
  by_cases equal : query = key
  · simp [equal]
  · simp [List.lookup_cons, equal, beq_eq_false_iff_ne.2 equal]

theorem lookup_putRow (key query : κ) (row : α) (rows : List (κ × α)) :
    (putRow key row rows).lookup query = if query = key then some row else rows.lookup query := by
  induction rows with
  | nil => exact lookup_cons key query row []
  | cons head rest ih =>
    obtain ⟨other, held⟩ := head
    by_cases same : other = key
    · subst same
      rw [putRow, if_pos rfl, lookup_cons, lookup_cons]
      by_cases equal : query = other <;> simp [equal]
    · rw [putRow, if_neg same, lookup_cons, lookup_cons, ih]
      by_cases equal : query = other
      · simp [equal, same]
      · simp [equal]

/-- What was put under a key is found there, and nothing else changes. -/
theorem find?_put (table : Table κ α) (key query : κ) (row : α) :
    (table.put key row).find? query = if query = key then some row else table.find? query :=
  lookup_putRow key query row table.rows

end Table

end ConversationBus
