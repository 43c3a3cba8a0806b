import ConversationBus.Proofs.Store.Mirror
import Mathlib.Algebra.GroupWithZero.Nat

/-!
# Counts of stored statuses

The groups that are counted are ordered by their words, so each word is listed once, with the
number of rows that have it. In the mirror of a store in memory every word is the name of a
status, so the counts can be read, and they are those of the records in memory.
-/

namespace ConversationBus

namespace Database

/-- The groups of some words: each word once, in order, with how often it occurs. -/
structure Groups (words : List String) (groups : List (String × Nat)) : Prop where
  ordered : groups.Pairwise fun first second => first.1 < second.1
  exact : ∀ word count, (word, count) ∈ groups → count = words.count word
  listed : ∀ word ∈ groups.map (·.1), word ∈ words
  complete : ∀ word ∈ words, word ∈ groups.map (·.1)
  total : (groups.map (·.2)).sum = words.length

variable {words : List String} {groups : List (String × Nat)} {status : String}

theorem lt_of_not_lt {first second : String} (notBefore : ¬ first < second)
    (different : first ≠ second) : second < first := by
  by_cases after : second < first
  · exact after
  · exact absurd (String.le_antisymm (String.not_lt.mp after) (String.not_lt.mp notBefore)) different

/-- What is listed when one more is counted: the other groups, and that of the status. -/
theorem of_mem_countStatus (ordered : groups.Pairwise fun first second => first.1 < second.1)
    {word : String} {count : Nat} (member : (word, count) ∈ countStatus status groups) :
    (word ≠ status ∧ (word, count) ∈ groups) ∨
    (word = status ∧ (∃ before, (status, before) ∈ groups ∧ count = before + 1)) ∨
    (word = status ∧ status ∉ groups.map (·.1) ∧ count = 1) := by
  induction groups with
  | nil =>
      cases List.mem_singleton.mp member
      exact .inr (.inr ⟨rfl, List.not_mem_nil, rfl⟩)
  | cons group groups ih =>
      obtain ⟨other, held⟩ := group
      rcases List.pairwise_cons.mp ordered with ⟨first, orderedRest⟩
      rw [countStatus] at member
      split at member
      next before =>
        have absent : ∀ later ∈ (other, held) :: groups, later.1 ≠ status := by
          intro later present same
          rcases List.mem_cons.mp present with rfl | present
          · exact String.lt_irrefl status (same ▸ before)
          · exact String.lt_asymm before (same ▸ first later present)
        rcases List.mem_cons.mp member with same | later
        · cases same
          refine .inr (.inr ⟨rfl, ?_, rfl⟩)
          intro listed
          rcases List.mem_map.mp listed with ⟨later, present, same⟩
          exact absent later present same
        · exact .inl ⟨absent (word, count) later, later⟩
      next =>
        split at member
        next same =>
          subst same
          rcases List.mem_cons.mp member with same | later
          · cases same
            exact .inr (.inl ⟨rfl, held, List.mem_cons_self, rfl⟩)
          · refine .inl ⟨?_, List.mem_cons_of_mem _ later⟩
            rintro rfl
            exact String.lt_irrefl _ (first (_, count) later)
        next different =>
          rcases List.mem_cons.mp member with same | later
          · cases same
            exact .inl ⟨fun same => different same.symm, List.mem_cons_self⟩
          · rcases ih orderedRest later with
              ⟨elsewhere, present⟩ | ⟨same, before, present, more⟩ | ⟨same, absent, one⟩
            · exact .inl ⟨elsewhere, List.mem_cons_of_mem _ present⟩
            · exact .inr (.inl ⟨same, before, List.mem_cons_of_mem _ present, more⟩)
            · refine .inr (.inr ⟨same, ?_, one⟩)
              rw [List.map_cons, List.mem_cons, not_or]
              exact ⟨different, absent⟩

theorem mem_keys_countStatus (word : String) :
    word ∈ (countStatus status groups).map (·.1) ↔ word = status ∨ word ∈ groups.map (·.1) := by
  induction groups with
  | nil => simp [countStatus]
  | cons group groups ih =>
      obtain ⟨other, held⟩ := group
      rw [countStatus]
      split
      next => simp
      next =>
        split
        next same => simp [same]
        next =>
          rw [List.map_cons, List.map_cons, List.mem_cons, List.mem_cons, ih]
          exact or_left_comm

theorem ordered_countStatus (ordered : groups.Pairwise fun first second => first.1 < second.1) :
    (countStatus status groups).Pairwise fun first second => first.1 < second.1 := by
  induction groups with
  | nil => exact List.pairwise_singleton _ _
  | cons group groups ih =>
      obtain ⟨other, held⟩ := group
      rcases List.pairwise_cons.mp ordered with ⟨first, orderedRest⟩
      rw [countStatus]
      split
      next before =>
        refine List.pairwise_cons.mpr ⟨?_, ordered⟩
        intro later present
        rcases List.mem_cons.mp present with rfl | present
        · exact before
        · exact String.lt_trans before (first later present)
      next notBefore =>
        split
        next => exact List.pairwise_cons.mpr ⟨first, orderedRest⟩
        next different =>
          refine List.pairwise_cons.mpr ⟨?_, ih orderedRest⟩
          intro later present
          have key : later.1 ∈ (countStatus status groups).map (·.1) := List.mem_map_of_mem present
          rcases (mem_keys_countStatus later.1).mp key with same | listed
          · rw [same]
            exact lt_of_not_lt notBefore different
          · rcases List.mem_map.mp listed with ⟨held, member, same⟩
            rw [← same]
            exact first held member

theorem total_countStatus (status : String) (groups : List (String × Nat)) :
    ((countStatus status groups).map (·.2)).sum = (groups.map (·.2)).sum + 1 := by
  induction groups with
  | nil => rfl
  | cons group groups ih =>
      obtain ⟨other, held⟩ := group
      rw [countStatus]
      split
      next =>
        simp
        omega
      next =>
        split
        next =>
          simp
          omega
        next =>
          simp only [List.map_cons, List.sum_cons, ih]
          omega

/-- Counting one more word keeps the groups those of the words. -/
theorem Groups.countStatus (counted : Groups words groups) (status : String) :
    Groups (words ++ [status]) (countStatus status groups) where
  ordered := ordered_countStatus counted.ordered
  exact := by
    intro word count member
    rw [List.count_append, List.count_singleton]
    rcases of_mem_countStatus counted.ordered member with
      ⟨elsewhere, present⟩ | ⟨rfl, before, present, rfl⟩ | ⟨rfl, absent, rfl⟩
    · simp [counted.exact word count present, Ne.symm elsewhere]
    · simp [counted.exact _ before present]
    · have none : word ∉ words := fun present => absent (counted.complete word present)
      simp [List.count_eq_zero_of_not_mem none]
  listed := by
    intro word member
    rcases (mem_keys_countStatus word).mp member with rfl | before
    · exact List.mem_append_right _ List.mem_cons_self
    · exact List.mem_append_left _ (counted.listed word before)
  complete := by
    intro word member
    rw [mem_keys_countStatus]
    rcases List.mem_append.mp member with before | last
    · exact .inr (counted.complete word before)
    · exact .inl (List.mem_singleton.mp last)
  total := by
    rw [total_countStatus, counted.total, List.length_append, List.length_singleton]

/-- The groups of a database are those of the words in its status column. -/
theorem groups_statusGroups (database : Database) :
    Groups (database.outbox.values.map (·.status)) database.statusGroups := by
  have fold : ∀ (rows : List OutboxRow) {words : List String} {groups : List (String × Nat)},
      Groups words groups → Groups (words ++ rows.map (·.status))
        (rows.foldl (fun groups row => Database.countStatus row.status groups) groups) := by
    intro rows
    induction rows with
    | nil =>
        intro words groups counted
        rwa [List.map_nil, List.append_nil]
    | cons row rows ih =>
        intro words groups counted
        have later := ih (counted.countStatus row.status)
        rwa [List.append_assoc] at later
  exact fold database.outbox.values (⟨.nil, nofun, nofun, nofun, rfl⟩ : Groups [] [])

end Database

/-! ## Counts of records -/

/-- The numbers of some records by status: each status is listed once, with the number of records
in it, and none that a record is in is left out. -/
structure StatusCounts (records : List OutboxRecord) (counts : List (OutboxStatus × Nat)) :
    Prop where
  once : (counts.map (·.1)).Nodup
  exact : ∀ status count, (status, count) ∈ counts →
    count = records.countP fun record => record.status = status
  complete : ∀ record ∈ records, record.status ∈ counts.map (·.1)
  total : (counts.map (·.2)).sum = records.length

theorem OutboxStatus.name_injective : Function.Injective OutboxStatus.name := by
  intro first second same
  have parsed := congrArg OutboxStatus.parse same
  rw [OutboxStatus.parse_name, OutboxStatus.parse_name] at parsed
  exact Except.ok.inj parsed

/-- A group of a status, as it is counted. -/
def countColumns (entry : OutboxStatus × Nat) : String × Nat :=
  (entry.1.name, entry.2)

/-- Groups whose words are all names of statuses are groups of statuses. -/
theorem exists_counts {groups : List (String × Nat)}
    (named : ∀ word ∈ groups.map (·.1), ∃ status : OutboxStatus, word = status.name) :
    ∃ counts : List (OutboxStatus × Nat), groups = counts.map countColumns := by
  induction groups with
  | nil => exact ⟨[], rfl⟩
  | cons group groups ih =>
      rcases named group.1 List.mem_cons_self with ⟨status, same⟩
      rcases ih fun word member => named word (List.mem_cons_of_mem _ member) with ⟨counts, rest⟩
      exact ⟨(status, group.2) :: counts, by rw [rest, List.map_cons, countColumns, ← same]⟩

theorem StatusCounts.of_groups {records : List OutboxRecord} {counts : List (OutboxStatus × Nat)}
    (counted : Database.Groups (records.map fun record => record.status.name)
      (counts.map countColumns)) : StatusCounts records counts where
  once := by
    have names : ((counts.map (·.1)).map OutboxStatus.name).Pairwise (· < ·) := by
      have ordered := List.pairwise_map.mp counted.ordered
      rw [List.map_map]
      exact List.pairwise_map.mpr ordered
    refine (List.pairwise_map.mp names).imp ?_
    rintro first second before rfl
    exact String.lt_irrefl _ before
  exact := by
    intro status count member
    rw [counted.exact status.name count (List.mem_map_of_mem member), List.count,
      List.countP_map]
    refine List.countP_congr fun record _ => ?_
    simp [OutboxStatus.name_injective.eq_iff]
  complete := by
    intro record member
    have listed := counted.complete record.status.name (List.mem_map_of_mem member)
    simp only [List.map_map, List.mem_map, Function.comp_apply, countColumns] at listed ⊢
    rcases listed with ⟨entry, present, same⟩
    exact ⟨entry, present, OutboxStatus.name_injective same⟩
  total := by
    have total := counted.total
    rwa [List.length_map, List.map_map] at total

/-- The counts of a mirror are those of the records in memory. -/
theorem MemoryStore.countByStatus_mirror (store : MemoryStore) :
    ∃ counts, store.mirror.countByStatus = .ok counts ∧
      StatusCounts store.outbox.values counts := by
  have counted := Database.groups_statusGroups store.mirror
  have words : store.mirror.outbox.values.map (·.status) =
      store.outbox.values.map fun record => record.status.name := by
    rw [MemoryStore.mirror, Table.values_map, List.map_map]
    rfl
  rw [words] at counted
  have named : ∀ word ∈ store.mirror.statusGroups.map (·.1),
      ∃ status : OutboxStatus, word = status.name := by
    intro word member
    rcases List.mem_map.mp (counted.listed word member) with ⟨record, _, rfl⟩
    exact ⟨record.status, rfl⟩
  rcases exists_counts named with ⟨counts, groups⟩
  rw [groups] at counted
  refine ⟨counts, ?_, .of_groups counted⟩
  rw [Database.countByStatus, groups]
  exact mapM_restored fun entry _ => by simp [countColumns, bind, Except.bind, pure, Except.pure]

end ConversationBus
