import ConversationBus.Bus.Semaphore

/-!
# Semaphores keep their permits

A semaphore is looked at through two things: the number of its permits that nobody has taken up,
and the callers that stand in its row. Each operation changes the first by a fixed amount and the
second by the caller it is for.
-/

namespace ConversationBus.Semaphore

variable {semaphore next : Semaphore} {callers : List CallId} {who : CallId}

/-- The permits that nobody has taken up: those that are free and those put aside. -/
def permits (semaphore : Semaphore) : Nat :=
  semaphore.free + semaphore.granted.length

/-- The callers are those who wait and those who have a permit put aside, and a permit is free
only while nobody waits. -/
structure Serves (semaphore : Semaphore) (callers : List CallId) : Prop where
  row : (semaphore.waiting ++ semaphore.granted).Perm callers
  idle : 0 < semaphore.free → semaphore.waiting = []

theorem ofPermits_serves (count : Nat) : (ofPermits count).Serves [] :=
  ⟨.nil, fun _ => rfl⟩

@[simp] theorem permits_ofPermits (count : Nat) : (ofPermits count).permits = count := rfl

theorem Serves.perm {others : List CallId} (serves : semaphore.Serves callers)
    (same : callers.Perm others) : semaphore.Serves others :=
  ⟨serves.row.trans same, serves.idle⟩

theorem Serves.free_eq_permits (serves : semaphore.Serves []) :
    semaphore.free = semaphore.permits := by
  have empty := serves.row.eq_nil
  simp only [List.append_eq_nil_iff] at empty
  simp [permits, empty.2]

theorem request_taken (serves : semaphore.Serves callers)
    (taken : semaphore.request who = (next, true)) :
    next.Serves callers ∧ next.permits + 1 = semaphore.permits := by
  simp only [request] at taken
  split at taken
  next => simp at taken
  next free equal =>
    simp only [Prod.mk.injEq, and_true] at taken
    subst next
    have idle := serves.idle (by omega)
    constructor
    · exact ⟨serves.row, fun _ => idle⟩
    · simp only [permits]
      omega

theorem request_waits (serves : semaphore.Serves callers)
    (waits : semaphore.request who = (next, false)) :
    next.Serves (who :: callers) ∧ next.permits = semaphore.permits ∧ semaphore.free = 0 := by
  simp only [request] at waits
  split at waits
  next none =>
    simp only [Prod.mk.injEq, and_true] at waits
    subst next
    refine ⟨⟨?_, ?_⟩, rfl, none⟩
    · rw [List.append_assoc]
      exact List.perm_middle.trans (serves.row.cons who)
    · intro some
      simp only [none] at some
      omega
  next => simp at waits

/-- A permit that is given back is one more that nobody has taken up, whoever it goes to. -/
theorem release_serves (serves : semaphore.Serves callers) :
    semaphore.release.Serves callers ∧ semaphore.release.permits = semaphore.permits + 1 := by
  cases row : semaphore.waiting with
  | nil =>
      simp only [release, row, permits]
      constructor
      · exact ⟨by simpa [row] using serves.row, fun _ => rfl⟩
      · omega
  | cons first others =>
      have none : semaphore.free = 0 := by
        rcases Nat.eq_zero_or_pos semaphore.free with none | some
        · exact none
        · simp [serves.idle some] at row
      simp only [release, row, permits]
      constructor
      · refine ⟨?_, by simp [none]⟩
        rw [← List.append_assoc]
        have front : (others ++ semaphore.granted ++ [first]).Perm
            ([first] ++ (others ++ semaphore.granted)) := List.perm_append_comm
        exact front.trans (by simpa [row] using serves.row)
      · simp only [List.length_append, List.length_singleton]
        omega

/-- A permit that is given back goes to the head of the row, or is free. -/
theorem free_le_release (semaphore : Semaphore) : semaphore.free ≤ semaphore.release.free := by
  simp only [release]
  split
  next => exact Nat.le_succ _
  next => exact Nat.le_refl _

@[simp] theorem release_waiting (semaphore : Semaphore) :
    semaphore.release.waiting = semaphore.waiting.tail := by
  simp only [release]
  split
  next none => rw [none, List.tail_nil]
  next first => rw [first, List.tail_cons]

/-- Giving back several permits gives back each of them. -/
theorem repeat_release_serves (serves : semaphore.Serves callers) (count : Nat) :
    (Nat.repeat release count semaphore).Serves callers ∧
      (Nat.repeat release count semaphore).permits = semaphore.permits + count := by
  induction count with
  | zero => exact ⟨serves, rfl⟩
  | succ count ih =>
      rcases release_serves ih.1 with ⟨kept, grown⟩
      simp only [Nat.repeat]
      exact ⟨kept, by omega⟩

theorem collect?_serves (serves : semaphore.Serves (who :: callers))
    (collected : semaphore.collect? who = some next) :
    next.Serves callers ∧ next.permits + 1 = semaphore.permits := by
  simp only [collect?] at collected
  split at collected
  next member =>
    cases collected
    have taken := List.perm_cons_erase member
    constructor
    · refine ⟨?_, serves.idle⟩
      have front := (taken.append_left semaphore.waiting).trans List.perm_middle
      exact (front.symm.trans serves.row).cons_inv
    · simp only [permits]
      have length := taken.length_eq
      simp only [List.length_cons] at length
      omega
  next => simp at collected

/-- Whoever has a permit put aside can take it up. -/
theorem collect?_granted (granted : who ∈ semaphore.granted) :
    semaphore.collect? who = some { semaphore with granted := semaphore.granted.erase who } :=
  if_pos granted

/-- Whoever leaves a permit that was put aside leaves it to the head of the row. -/
theorem withdraw_waiting (granted : who ∈ semaphore.granted) :
    (semaphore.withdraw who).waiting = semaphore.waiting.tail := by
  simp only [withdraw, collect?_granted granted, release_waiting]

/-- Whoever waits and leaves the row takes no permit along. -/
theorem withdraw_serves_cons (serves : semaphore.Serves (who :: callers)) :
    (semaphore.withdraw who).Serves callers ∧
      (semaphore.withdraw who).permits = semaphore.permits := by
  cases collected : semaphore.collect? who with
  | some rest =>
      rcases collect?_serves serves collected with ⟨kept, fewer⟩
      rcases release_serves kept with ⟨kept, grown⟩
      simp only [withdraw, collected]
      exact ⟨kept, by omega⟩
  | none =>
      simp only [withdraw, collected]
      refine ⟨⟨?_, ?_⟩, rfl⟩
      · have absent : who ∉ semaphore.granted := by
          intro member
          simp [collect?, member] at collected
        have present : who ∈ semaphore.waiting := by
          have listed := serves.row.mem_iff.mpr List.mem_cons_self
          simpa [absent] using listed
        have taken := (List.perm_cons_erase present).append_right semaphore.granted
        exact (taken.symm.trans serves.row).cons_inv
      · intro some
        simp [serves.idle some]

/-- Leaving the row changes nothing for the others, and nothing at all if one does not stand in
it. -/
theorem withdraw_serves (serves : semaphore.Serves callers) (who : CallId) :
    (semaphore.withdraw who).Serves (callers.erase who) ∧
      (semaphore.withdraw who).permits = semaphore.permits := by
  by_cases member : who ∈ callers
  · exact withdraw_serves_cons (serves.perm (List.perm_cons_erase member))
  · have outside : who ∉ semaphore.waiting ++ semaphore.granted :=
      fun listed => member (serves.row.mem_iff.mp listed)
    simp only [List.mem_append, not_or] at outside
    have unchanged : semaphore.withdraw who = semaphore := by
      simp [withdraw, collect?, outside.2, List.erase_of_not_mem outside.1]
    rw [unchanged, List.erase_of_not_mem member]
    exact ⟨serves, rfl⟩

end ConversationBus.Semaphore
