import ConversationBus.Proofs.Flow.Dialogue

/-!
# Flows that overlap

Several flows are on their way in the same surroundings. One of them takes its next action, then
perhaps another one, in any order. The trace of such a run tells every action with its answer.
-/

namespace ConversationBus

/-- Some flows, each advanced by one action at a time in any order. -/
inductive Interleaved {σ α : Type} [RecordStore σ] (flows : List (Flow α))
    (first : Surroundings σ) : List Exchange → List (Flow α) → Surroundings σ → Prop where
  | begin : Interleaved flows first [] flows first
  | act {trace : List Exchange} {front back : List (Flow α)} {action : Action}
      {next : action.Answer → Flow α} {world : Surroundings σ}
      (run : Interleaved flows first trace (front ++ .act action next :: back) world) :
      Interleaved flows first (trace ++ [⟨action, (Surroundings.answer action world).1⟩])
        (front ++ ((Flow.act action next).advance Surroundings.answer world).1 :: back)
        ((Flow.act action next).advance Surroundings.answer world).2

namespace Surroundings

variable {σ α : Type} [RecordStore σ]

/-- Advances flows in the order in which a schedule names their places. -/
def interleave (world : Surroundings σ) (flows : List (Flow α)) :
    List Nat → List Exchange × List (Flow α) × Surroundings σ
  | [] => ([], flows, world)
  | place :: schedule =>
    match flows[place]? with
    | some (.act action next) =>
      let (flow, later) := (Flow.act action next).advance answer world
      let (trace, last) := later.interleave (flows.set place flow) schedule
      (⟨action, (answer action world).1⟩ :: trace, last)
    | _ => world.interleave flows schedule

end Surroundings

namespace Interleaved

variable {σ α : Type} [RecordStore σ] {flows between last : List (Flow α)}
  {first middle world : Surroundings σ} {trace later : List Exchange}

theorem append (run : Interleaved flows first trace between middle)
    (rest : Interleaved between middle later last world) :
    Interleaved flows first (trace ++ later) last world := by
  induction rest with
  | begin => simpa using run
  | act rest ih =>
      rw [← List.append_assoc]
      exact ih.act

theorem of_interleave (world : Surroundings σ) (flows : List (Flow α)) (schedule : List Nat) :
    Interleaved flows world (world.interleave flows schedule).1
      (world.interleave flows schedule).2.1 (world.interleave flows schedule).2.2 := by
  induction schedule generalizing world flows with
  | nil => exact .begin
  | cons place schedule ih =>
      simp only [Surroundings.interleave]
      split
      next action next here =>
        rcases List.getElem?_eq_some_iff.mp here with ⟨bound, there⟩
        have split : flows.take place ++ .act action next :: flows.drop (place + 1) = flows := by
          rw [← there, List.getElem_cons_drop, List.take_append_drop]
        have started : Interleaved flows world []
            (flows.take place ++ .act action next :: flows.drop (place + 1)) world := by
          rw [split]
          exact .begin
        rw [List.set_eq_take_append_cons_drop, if_pos bound]
        exact started.act.append (ih _ _)
      next => exact ih world flows

variable [FaithfulStore σ]

/-- What holds at first and is kept by every exchange of every flow holds along every run. -/
theorem invariant (kept : List Exchange → List (Flow α) → Holdings → Prop)
    (run : Interleaved flows first trace last world) (initial : kept [] flows first.holdings)
    (keeps : ∀ trace front action next back before answer,
      kept trace (front ++ .act action next :: back) before → before.Admits ⟨action, answer⟩ →
        kept (trace ++ [⟨action, answer⟩]) (front ++ next answer :: back)
          (before.after ⟨action, answer⟩)) :
    kept trace last world.holdings := by
  induction run with
  | begin => exact initial
  | @act trace front back action next world run ih =>
      rcases world.answer_admitted action with ⟨admitted, held⟩
      have later := keeps trace front action next back world.holdings _ ih admitted
      exact held.symm ▸ later

/-- Flows are what calls have still to do, each by the stage that its call has reached. As long as
the trace is one of those considered, every exchange leads one call on to another stage. -/
theorem stages {κ ς : Type} {flowOf : κ × ς → Flow α} {calls : List (κ × ς)}
    (considered : List Exchange → Prop)
    (kept : List Exchange → List (κ × ς) → Holdings → Prop)
    (run : Interleaved (calls.map flowOf) first trace last world) (whole : considered trace)
    (front : ∀ trace exchange, considered (trace ++ [exchange]) → considered trace)
    (initial : kept [] calls first.holdings)
    (keeps : ∀ trace front call stage action next back before answer,
      call ∈ calls.map (·.1) → kept trace (front ++ (call, stage) :: back) before →
        flowOf (call, stage) = .act action next → before.Admits ⟨action, answer⟩ →
          considered (trace ++ [⟨action, answer⟩]) →
            ∃ later, next answer = flowOf (call, later) ∧
              kept (trace ++ [⟨action, answer⟩]) (front ++ (call, later) :: back)
                (before.after ⟨action, answer⟩)) :
    ∃ reached : List (κ × ς), reached.map (·.1) = calls.map (·.1) ∧ last = reached.map flowOf ∧
      kept trace reached world.holdings := by
  refine run.invariant (fun trace flows held => considered trace →
    ∃ reached : List (κ × ς), reached.map (·.1) = calls.map (·.1) ∧ flows = reached.map flowOf ∧
      kept trace reached held) (fun _ => ⟨calls, rfl, rfl, initial⟩) ?_ whole
  intro trace earlier action next rest before answer known admitted whole
  rcases known (front _ _ whole) with ⟨reached, own, same, kept⟩
  -- The flow that moved is what one call has still to do. Only the stage of that call changes.
  rcases List.map_eq_append_iff.mp same.symm with ⟨earlier, tail, rfl, rfl, split⟩
  rcases List.map_eq_cons_iff.mp split with ⟨⟨call, stage⟩, rest, rfl, here, rfl⟩
  have member : call ∈ calls.map (·.1) := by simp [← own]
  rcases keeps trace earlier call stage action next rest before answer member kept here admitted
    whole with ⟨later, goesOn, kept⟩
  exact ⟨earlier ++ (call, later) :: rest, by simpa using own, by simp [goesOn], kept⟩

end Interleaved

/-- Of calls of which one goes on to another stage, those of a kind are as many as before, but for
this one. -/
theorem countP_goOn {κ ς : Type} (kind : ς → Bool) (front back : List (κ × ς)) (call : κ)
    (stage later : ς) :
    (front ++ (call, later) :: back).countP (kind ·.2) + (kind stage).toNat =
      (front ++ (call, stage) :: back).countP (kind ·.2) + (kind later).toNat := by
  have one : ∀ holds : Bool, (if holds = true then 1 else 0) = holds.toNat := by decide
  simp only [List.countP_append, List.countP_cons, one]
  omega

/-- Of calls of which one goes on to another stage, the others are as before. -/
theorem mem_goOn {κ ς : Type} {front back : List (κ × ς)} {call : κ} {later : ς} {one : κ × ς}
    (member : one ∈ front ++ (call, later) :: back) :
    one = (call, later) ∨ one ∈ front ++ back := by
  rw [List.mem_append, List.mem_cons] at member
  rw [List.mem_append]
  exact or_left_comm.mp member

theorem mem_of_others {κ ς : Type} {front back : List (κ × ς)} {call : κ} {stage : ς}
    {one : κ × ς} (member : one ∈ front ++ back) : one ∈ front ++ (call, stage) :: back := by
  rw [List.mem_append] at member
  rw [List.mem_append, List.mem_cons]
  exact member.imp_right .inr

theorem filterMap_concat {α : Type} (view : Exchange → Option α) (exchanges : List Exchange)
    (last : Exchange) :
    (exchanges ++ [last]).filterMap view = exchanges.filterMap view ++ (view last).toList := by
  rw [List.filterMap_append, List.filterMap_cons]
  cases view last with
  | none => rfl
  | some seen => rfl

end ConversationBus
