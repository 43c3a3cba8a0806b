import ConversationBus.Store.Table

/-!
# Tables of rows that name their keys

Where each row stands under a key of its own, the rows alone make up the table. A table can be put
into other terms, with other keys and other rows for the old ones; where different keys stay
different, this goes along with looking up and putting.
-/

namespace ConversationBus.Table

variable {κ ι α β : Type}

/-- Each row stands under the key that it names, and no key has two rows. -/
structure KeyedBy (key : α → κ) (table : Table κ α) : Prop where
  once : (table.rows.map (·.1)).Nodup
  own : ∀ entry ∈ table.rows, entry.1 = key entry.2

def map (key : κ → ι) (row : α → β) (table : Table κ α) : Table ι β :=
  ⟨table.rows.map fun entry => (key entry.1, row entry.2)⟩

@[simp] theorem values_map (key : κ → ι) (row : α → β) (table : Table κ α) :
    (table.map key row).values = table.values.map row := by
  simp [map, values]

theorem keyedBy_empty (key : α → κ) : (empty : Table κ α).KeyedBy key :=
  ⟨.nil, by simp [empty]⟩

theorem KeyedBy.map {key : α → κ} {other : β → ι} {rename : κ → ι} {change : α → β}
    {table : Table κ α} (keyed : table.KeyedBy key) (injective : Function.Injective rename)
    (follows : ∀ row, other (change row) = rename (key row)) :
    (table.map rename change).KeyedBy other where
  once := by
    have keys : (table.map rename change).rows.map (·.1) = (table.rows.map (·.1)).map rename := by
      simp [Table.map]
    rw [keys]
    exact List.Pairwise.map rename (fun _ _ => mt fun same => injective same) keyed.once
  own := by
    intro entry member
    rcases List.mem_map.mp member with ⟨held, present, rfl⟩
    simp only [follows, keyed.own held present]

variable [DecidableEq κ] [DecidableEq ι]

theorem keys_putRow (key : κ) (row : α) (rows : List (κ × α)) :
    (putRow key row rows).map (·.1) =
      if key ∈ rows.map (·.1) then rows.map (·.1) else rows.map (·.1) ++ [key] := by
  induction rows with
  | nil => rfl
  | cons entry rows ih =>
      obtain ⟨other, held⟩ := entry
      by_cases same : other = key
      · simp [putRow, same]
      · have different : key ≠ other := fun equal => same equal.symm
        simp only [putRow, if_neg same, List.map_cons, ih, List.mem_cons, different, false_or]
        split
        next => rfl
        next => rfl

theorem putRow_of_new {key : κ} {rows : List (κ × α)} (new : key ∉ rows.map (·.1)) (row : α) :
    putRow key row rows = rows ++ [(key, row)] := by
  induction rows with
  | nil => rfl
  | cons entry rows ih =>
      obtain ⟨other, held⟩ := entry
      rw [List.map_cons, List.mem_cons, not_or] at new
      rw [putRow, if_neg (Ne.symm new.1), ih new.2, List.cons_append]

theorem mem_putRow {key : κ} {row : α} {rows : List (κ × α)} {entry : κ × α}
    (member : entry ∈ putRow key row rows) : entry = (key, row) ∨ entry ∈ rows := by
  induction rows with
  | nil => exact .inl (List.mem_singleton.mp member)
  | cons first rows ih =>
      obtain ⟨other, held⟩ := first
      rw [putRow] at member
      split at member
      next => exact (List.mem_cons.mp member).imp_right (List.mem_cons_of_mem _)
      next =>
        rcases List.mem_cons.mp member with rfl | later
        · exact .inr List.mem_cons_self
        · exact (ih later).imp_right (List.mem_cons_of_mem _)

theorem mem_values_put {table : Table κ α} {key : κ} {row held : α}
    (member : held ∈ (table.put key row).values) : held = row ∨ held ∈ table.values := by
  rcases List.mem_map.mp member with ⟨entry, present, rfl⟩
  rcases mem_putRow present with rfl | before
  · exact .inl rfl
  · exact .inr (List.mem_map_of_mem before)

theorem mem_of_find? {table : Table κ α} {key : κ} {row : α} (found : table.find? key = some row) :
    row ∈ table.values := by
  have member : ∀ rows : List (κ × α), rows.lookup key = some row → row ∈ rows.map (·.2) := by
    intro rows found
    induction rows with
    | nil => cases found
    | cons entry rows ih =>
        obtain ⟨other, held⟩ := entry
        rw [lookup_cons] at found
        split at found
        next =>
          cases found
          exact List.mem_cons_self
        next => exact List.mem_cons_of_mem _ (ih found)
  exact member table.rows found

theorem find?_isSome_iff {table : Table κ α} {key : κ} :
    (table.find? key).isSome ↔ key ∈ table.rows.map (·.1) := by
  have looked : ∀ rows : List (κ × α), (rows.lookup key).isSome ↔ key ∈ rows.map (·.1) := by
    intro rows
    induction rows with
    | nil => simp
    | cons entry rows ih =>
        obtain ⟨other, held⟩ := entry
        rw [lookup_cons, List.map_cons, List.mem_cons]
        split
        next same => simp [same]
        next different => simp [different, ih]
  exact looked table.rows

theorem KeyedBy.put {key : α → κ} {table : Table κ α} (keyed : table.KeyedBy key) (row : α) :
    (table.put (key row) row).KeyedBy key where
  once := by
    rw [Table.put, keys_putRow]
    split
    next => exact keyed.once
    next new =>
      rw [List.nodup_append]
      refine ⟨keyed.once, List.pairwise_singleton _ _, ?_⟩
      rintro held present other single same
      rw [List.mem_singleton] at single
      exact new (single ▸ same ▸ present)
  own := by
    intro entry member
    rcases mem_putRow member with rfl | before
    · rfl
    · exact keyed.own entry before

/-- The rows of a table, put one after the other, make up the table. -/
theorem KeyedBy.refill {key : α → κ} {table : Table κ α} (keyed : table.KeyedBy key) :
    table.values.foldl (fun filled row => filled.put (key row) row) empty = table := by
  have fill : ∀ later earlier : List (κ × α), ((earlier ++ later).map (·.1)).Nodup →
      (∀ entry ∈ later, entry.1 = key entry.2) →
      (later.map (·.2)).foldl (fun filled row => filled.put (key row) row) (⟨earlier⟩ : Table κ α) =
        ⟨earlier ++ later⟩ := by
    intro later
    induction later with
    | nil => simp
    | cons entry later ih =>
        intro earlier once own
        obtain ⟨held, row⟩ := entry
        have named : held = key row := own (held, row) List.mem_cons_self
        have new : key row ∉ earlier.map (·.1) := by
          rw [List.map_append, List.nodup_append] at once
          intro present
          exact once.2.2 _ present _ (List.mem_cons_self) named.symm
        have next := ih (earlier ++ [(key row, row)]) (by simpa [named] using once)
          (fun other member => own other (List.mem_cons_of_mem _ member))
        rw [List.map_cons, List.foldl_cons, Table.put, putRow_of_new new row, next, named]
        simp
  exact fill table.rows [] keyed.once keyed.own

variable {rename : κ → ι} (injective : Function.Injective rename) (change : α → β)
  (table : Table κ α)

include injective

theorem find?_map (key : κ) :
    (table.map rename change).find? (rename key) = (table.find? key).map change := by
  have looked : ∀ rows : List (κ × α),
      (rows.map fun entry => (rename entry.1, change entry.2)).lookup (rename key) =
        (rows.lookup key).map change := by
    intro rows
    induction rows with
    | nil => rfl
    | cons entry rows ih =>
        obtain ⟨other, held⟩ := entry
        rw [List.map_cons, lookup_cons, lookup_cons, ih]
        by_cases same : key = other
        · simp [same]
        · simp [same, injective.ne same]
  exact looked table.rows

theorem put_map (key : κ) (row : α) :
    (table.map rename change).put (rename key) (change row) =
      (table.put key row).map rename change := by
  have put : ∀ rows : List (κ × α),
      putRow (rename key) (change row) (rows.map fun entry => (rename entry.1, change entry.2)) =
        (putRow key row rows).map fun entry => (rename entry.1, change entry.2) := by
    intro rows
    induction rows with
    | nil => rfl
    | cons entry rows ih =>
        obtain ⟨other, held⟩ := entry
        by_cases same : other = key
        · simp [putRow, same]
        · simp [putRow, same, injective.ne same, ih]
  exact congrArg Table.mk (put table.rows)

end ConversationBus.Table
