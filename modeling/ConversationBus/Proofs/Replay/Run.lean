import ConversationBus.Proofs.Replay.Standing

/-!
# Runs of a replay

The moves of a replay are made at any times, and its caller may give up between them. Calls of its
store may fail, or none does. Whatever the order of the moves is, their number is bounded by the
number of lines, and what the task of the replay is told leads its flow to where it is.
-/

namespace ConversationBus.Replay

variable {σ : Type} [RecordStore σ]

/-! ## Runs -/

namespace Progress

omit [RecordStore σ] in
/-- The replay when the clock shows another time. -/
def atTime (progress : Progress σ) (now : Instant) : Progress σ :=
  { progress with system := { progress.system with clock := now } }

/-- A call of the store that the replay is about to make does not fail. -/
def Answered (progress : Progress σ) : Prop :=
  ∀ task ∈ progress.system.tasks, ∀ action next result, task.flow = .act action next →
    progress.system.backing.ask action = some result →
      Exchange.storeFailed ⟨action, result.1⟩ = false

end Progress

/-- The runs of a replay on a store that does not fail, with what can be seen of the bus and the
number of moves. The caller may give up at any moment, or never does. -/
inductive Run (givesUp : Bool) (first : Progress σ) : List Event → Nat → Progress σ → Prop where
  | refl : Run givesUp first [] 0 first
  | move {trace : List Event} {count : Nat} {progress : Progress σ} {move : Move}
      {moved : System σ (Except ReplayError Summary) × List Event}
      (run : Run givesUp first trace count progress) (now : Instant)
      (offered : (progress.atTime now).Offered move) (answered : (progress.atTime now).Answered)
      (made : (progress.atTime now).system.move? move = some moved) :
      Run givesUp first (trace ++ moved.2) (count + 1) ((progress.atTime now).goOn moved)
  | giveUp {trace : List Event} {count : Nat} {progress : Progress σ}
      (run : Run givesUp first trace count progress) (may : givesUp = true) :
      Run givesUp first trace count progress.giveUp

/-- The runs of a replay on a store that may be faulty or never fails, with what can be seen of the
bus, what the task of the replay is told and the number of moves. -/
inductive Trial (faulty givesUp : Bool) (first : Progress σ) :
    List Event → List Exchange → Nat → Progress σ → Prop where
  | refl : Trial faulty givesUp first [] [] 0 first
  | move {trace : List Event} {exchanges : List Exchange} {count : Nat} {progress : Progress σ}
      {move : Move} {moved : System σ (Except ReplayError Summary) × List Event}
      (trial : Trial faulty givesUp first trace exchanges count progress) (now : Instant)
      (offered : (progress.atTime now).Offered move)
      (answered : faulty = false → (progress.atTime now).Answered)
      (made : (progress.atTime now).system.move? move = some moved) :
      Trial faulty givesUp first (trace ++ moved.2)
        (exchanges ++ (progress.atTime now).system.heard move moved.2) (count + 1)
        ((progress.atTime now).goOn moved)
  | giveUp {trace : List Event} {exchanges : List Exchange} {count : Nat} {progress : Progress σ}
      (trial : Trial faulty givesUp first trace exchanges count progress) (may : givesUp = true) :
      Trial faulty givesUp first trace exchanges count progress.giveUp

/-- A run on a store that does not fail is a trial on one. -/
theorem Run.trial {givesUp : Bool} {first progress : Progress σ} {trace : List Event} {count : Nat}
    (run : Run givesUp first trace count progress) :
    ∃ exchanges, Trial false givesUp first trace exchanges count progress := by
  induction run with
  | refl => exact ⟨[], .refl⟩
  | move run now offered answered made ih =>
      rcases ih with ⟨exchanges, trial⟩
      exact ⟨_, trial.move now offered (fun _ => answered) made⟩
  | giveUp run may ih =>
      rcases ih with ⟨exchanges, trial⟩
      exact ⟨exchanges, trial.giveUp may⟩

theorem Trial.run {givesUp : Bool} {first progress : Progress σ} {trace : List Event}
    {exchanges : List Exchange} {count : Nat}
    (trial : Trial false givesUp first trace exchanges count progress) :
    Run givesUp first trace count progress := by
  induction trial with
  | refl => exact .refl
  | move trial now offered answered made ih => exact ih.move now offered (answered rfl) made
  | giveUp trial may ih => exact ih.giveUp may

/-! ## From the first move on -/

variable {config : BusConfig} {channel : Channel} {lines : List (Option String)}
  {faulty givesUp : Bool} {trace : List Event} {count : Nat} {progress : Progress σ}
  {task : Task (Except ReplayError Summary)} {exchanges : List Exchange} {first : Progress σ}
  {bus : Bus} {backing : FaultyStore σ} {cancelled : Bool} {now : Instant}

theorem Trial.standing (started : Bus.start config = .ok bus)
    (may : cancelled = true → givesUp = true)
    (trial : Trial faulty givesUp (begin bus backing channel lines cancelled now) trace exchanges
      count progress) :
    ∃ task left, Standing config givesUp trace exchanges progress task left ∧
      count + left + progress.system.bus.work ≤ 14 * lines.length + 5 := by
  have same := Bus.start_ofConfig started
  subst same
  induction trial with
  | refl =>
      rcases Bus.outset started rfl with ⟨run, free, equipped, work⟩
      refine ⟨_, 14 * lines.length + 1 + 2, ⟨run, equipped, rfl, ?_, by simp, rfl, may, rfl, rfl⟩,
        ?_⟩
      · exact .reading (readLines_lasts (fun _ => Nat.le_refl 2) lines .zero) free
      · simp only [begin, work]
        omega
  | @move trace exchanges count progress move moved trial now offered answered made ih =>
      rcases ih with ⟨task, left, standing, bound⟩
      have standing : Standing config givesUp trace exchanges (progress.atTime now) task left :=
        { standing with }
      rcases standing.move started offered made with ⟨task, fewer, standing, less⟩
      refine ⟨task, fewer, standing, ?_⟩
      rw [goOn_system]
      simp only [Progress.atTime] at less
      omega
  | giveUp trial allowed ih =>
      rcases ih with ⟨task, left, standing, bound⟩
      rcases standing.giveUp allowed with ⟨task, standing, same⟩
      exact ⟨task, left, standing, same ▸ bound⟩

theorem Run.standing (started : Bus.start config = .ok bus)
    (may : cancelled = true → givesUp = true)
    (run : Run givesUp (begin bus backing channel lines cancelled now) trace count progress) :
    ∃ task exchanges left, Standing config givesUp trace exchanges progress task left ∧
      count + left + progress.system.bus.work ≤ 14 * lines.length + 5 := by
  rcases run.trial with ⟨exchanges, trial⟩
  rcases trial.standing started may with ⟨task, left, standing, bound⟩
  exact ⟨task, exchanges, left, standing, bound⟩

/-- What the only task of a replay is told leads its flow to where it is. -/
theorem Trial.leads (alone : first.system.tasks = [task])
    (trial : Trial faulty givesUp first trace exchanges count progress) :
    ∃ later, progress.system.tasks = [later] ∧ task.flow.Leads exchanges later.flow := by
  induction trial with
  | refl => exact ⟨task, alone, .refl _⟩
  | @move trace exchanges count progress move moved trial now offered answered made ih =>
      rcases ih with ⟨mid, alone, leads⟩
      have alone : (progress.atTime now).system.tasks = [mid] := alone
      rcases (System.move_alone alone made).1 with ⟨later, same, further⟩
      exact ⟨later, by rw [goOn_system, same], leads.append further⟩
  | giveUp trial allowed ih =>
      rcases ih with ⟨later, alone, leads⟩
      refine ⟨{ later with cancelled := true }, ?_, leads⟩
      simp only [Progress.giveUp, System.cancelTask, alone, System.putTask]
      split
      next none => cases none
      next task same =>
        cases same
        split
        next => rfl
        next => rfl

omit [RecordStore σ] in
theorem backing_giveUp (progress : Progress σ) :
    progress.giveUp.system.backing = progress.system.backing := by
  simp only [Progress.giveUp, System.cancelTask]
  repeat' split
  all_goals rfl

/-- What the task of a replay is told is admitted by what the store holds, and tells what the store
holds in the end. -/
theorem Trial.held [FaithfulStore σ] (alone : first.system.tasks = [task])
    (trial : Trial faulty givesUp first trace exchanges count progress) :
    (FaithfulStore.holdings first.system.backing.store).AdmitsAll exchanges ∧
      FaithfulStore.holdings progress.system.backing.store =
        (FaithfulStore.holdings first.system.backing.store).afterAll exchanges := by
  induction trial with
  | refl => exact ⟨trivial, rfl⟩
  | @move trace exchanges count progress move moved trial now offered answered made ih =>
      rcases ih with ⟨admitted, held⟩
      rcases trial.leads alone with ⟨mid, alone, _⟩
      have alone : (progress.atTime now).system.tasks = [mid] := alone
      rcases (System.move_alone alone made).2.held with ⟨next, later⟩
      have here : FaithfulStore.holdings (progress.atTime now).system.backing.store =
          (FaithfulStore.holdings first.system.backing.store).afterAll exchanges := held
      rw [here] at next later
      rw [goOn_system, Holdings.afterAll_append]
      exact ⟨Holdings.admitsAll_append.mpr ⟨admitted, next⟩, later⟩
  | giveUp trial allowed ih =>
      rw [backing_giveUp]
      exact ih

/-- A task is not told of a failure of the store where no call of it fails. -/
theorem Progress.Answered.sound (answered : progress.Answered) (move : Move)
    (events : List Event) : Sound (progress.system.heard move events) := by
  cases move with
  | bus step => simp [System.heard, Sound]
  | task index putOff =>
      cases found : progress.system.tasks[index]? with
      | none => simp [System.heard, found, Sound]
      | some task =>
          rw [System.heard_task found]
          rcases task with ⟨name, flow, pending, cancelled⟩
          have present := List.mem_of_getElem? found
          cases flow with
          | done => simp [System.told, Sound]
          | act action next =>
              cases asked : progress.system.backing.ask action with
              | some result =>
                  rw [System.told_ask asked]
                  exact List.forall_mem_singleton.mpr (answered _ present _ _ _ rfl asked)
              | none =>
                  cases action with
                  | findInbox | saveInbox | findOutbox | saveOutbox => cases asked
                  | send | now | cancelled => simp [System.told, Sound, Exchange.storeFailed]
                  | publish | close =>
                      simp only [System.told]
                      split
                      all_goals simp [Sound, Exchange.storeFailed]

/-- No call of the store fails in a run on a store that does not fail. -/
theorem Trial.sound (trial : Trial false givesUp first trace exchanges count progress) :
    Sound exchanges := by
  induction trial with
  | refl => simp [Sound]
  | move trial now offered answered made ih =>
      exact List.forall_mem_append.mpr ⟨ih, (answered rfl).sound _ _⟩
  | giveUp trial allowed ih => exact ih

omit [RecordStore σ] in
/-- A replay ends when it has read the lines and its close call has returned. -/
theorem flow_leads {ended : Except ReplayError Summary}
    (leads : (flow channel lines).Leads exchanges (.done ended))
    (expected : ∀ exchange ∈ exchanges, exchange.storeFailed = true ∨ exchange.Expected givesUp) :
    ∃ own reading, exchanges = own ++ [⟨.close, .ok ()⟩] ∧
      (readLines channel lines .zero).Leads own (.done reading) ∧ ended = conclusion reading := by
  rcases Flow.leads_bind.mp leads with ⟨own, last, reading, rfl, read, closes⟩
  rcases Flow.leads_act.mp closes with ⟨answer, last, rfl, done⟩
  have returned : answer = .ok () :=
    (expected _ (List.mem_append_right own List.mem_cons_self)).resolve_left Bool.false_ne_true
  subst returned
  rcases Flow.leads_done.mp done with ⟨rfl, rfl⟩
  exact ⟨own, reading, rfl, read, rfl⟩

/-! ## Replays that have returned -/

omit [RecordStore σ] in
/-- What a replay has returned, if it has. -/
def Progress.returned? (progress : Progress σ) : Option (Except ReplayError Summary) :=
  progress.system.tasks.head?.bind (·.flow.result?)

/-- A replay that has returned: its reading of the lines came to an end, the bus was closed and
drained, and the counts go with what was seen of it. -/
structure Returned (config : BusConfig) (channel : Channel) (lines : List (Option String))
    (trace : List Event) (exchanges : List Exchange) (progress : Progress σ) (own : List Exchange)
    (reading : Reading) : Prop where
  told : exchanges = own ++ [⟨.close, .ok ()⟩]
  read : (readLines channel lines .zero).Leads own (.done reading)
  taken : (queuedIn trace).map Admitted.message = takenIn own
  run : Bus.Run (.ofConfig config) trace progress.system.bus
  finished : progress.system.bus.dispatcher = .finished
  handled : progress.handled = (endedIn trace).length
  collected : progress.collected = 0

theorem Trial.returned (started : Bus.start config = .ok bus)
    (may : cancelled = true → givesUp = true)
    (trial : Trial faulty givesUp (begin bus backing channel lines cancelled now) trace exchanges
      count progress)
    {ended : Except ReplayError Summary} (done : progress.returned? = some ended) :
    ∃ own reading, ended = conclusion reading ∧
      Returned config channel lines trace exchanges progress own reading := by
  have same := Bus.start_ofConfig started
  subst same
  rcases trial.standing started may with ⟨⟨name, flow, pending, gone⟩, left, standing, _⟩
  rcases trial.leads rfl with ⟨_, alone, leads⟩
  cases standing.alone.symm.trans alone
  simp only [Progress.returned?, standing.alone, List.head?_cons, Option.bind_some] at done
  cases flow with
  | act action next => cases done
  | done result =>
      cases done
      rcases flow_leads leads standing.expected with ⟨own, reading, told, read, concluded⟩
      refine ⟨own, reading, concluded, told, read, ?_, standing.run, standing.finished rfl,
        standing.handled, standing.collected⟩
      rw [standing.taken, told, takenIn_append]
      exact List.append_nil _

/-- On a store that does not fail, the reading was a dialogue with what the store held, and its
answers were as expected. -/
theorem Run.returned [FaithfulStore σ] (started : Bus.start config = .ok bus)
    (may : cancelled = true → givesUp = true)
    (run : Run givesUp (begin bus backing channel lines cancelled now) trace count progress)
    {ended : Except ReplayError Summary} (done : progress.returned? = some ended) :
    ∃ exchanges own reading, ended = conclusion reading ∧
      Returned config channel lines trace exchanges progress own reading ∧
      (readLines channel lines .zero).Dialogue (FaithfulStore.holdings backing.store) own reading ∧
      (∀ exchange ∈ own, exchange.Expected givesUp) ∧
      FaithfulStore.holdings progress.system.backing.store =
        (FaithfulStore.holdings backing.store).afterAll own := by
  rcases run.trial with ⟨exchanges, trial⟩
  rcases trial.returned started may done with ⟨own, reading, concluded, returned⟩
  rcases trial.standing started may with ⟨_, _, standing, _⟩
  rcases trial.held rfl with ⟨admitted, held⟩
  have told := returned.told
  subst told
  refine ⟨_, own, reading, concluded, returned,
    returned.read.dialogue (Holdings.admitsAll_append.mp admitted).1, ?_, ?_⟩
  · intro exchange member
    have member := List.mem_append_left [⟨.close, .ok ()⟩] member
    exact (standing.expected exchange member).resolve_left (by simp [trial.sound exchange member])
  · rw [held, Holdings.afterAll_append]
    rfl

/-- A replay that cannot make a move has returned. -/
theorem Trial.returns (started : Bus.start config = .ok bus)
    (may : cancelled = true → givesUp = true)
    (trial : Trial faulty givesUp (begin bus backing channel lines cancelled now) trace exchanges
      count progress) (stuck : next? progress = none) :
    ∃ ended, progress.returned? = some ended := by
  have same := Bus.start_ofConfig started
  subst same
  rcases trial.standing started may with ⟨task, left, standing, _⟩
  rcases standing.ended started stuck with ⟨reading, flow⟩
  refine ⟨conclusion reading, ?_⟩
  simp only [Progress.returned?, standing.alone, List.head?_cons, Option.bind_some, flow]
  rfl

omit [RecordStore σ] in
/-- The result is what the replay has returned, with the counts of what was handled and
collected. -/
theorem result_eq (progress : Progress σ) :
    result progress = (progress.returned?.getD (.error .unreadable)).map fun read =>
      { read with delivered := progress.handled, failed := progress.collected } := by
  rw [result, Progress.returned?]
  cases progress.system.tasks with
  | nil => rfl
  | cons task others =>
      rcases task with ⟨name, flow, pending, gone⟩
      cases flow with
      | act action next => rfl
      | done ended =>
          cases ended with
          | error error => rfl
          | ok read => rfl

omit [RecordStore σ] in
theorem result_eq_ok_iff {summary : Summary} : result progress = .ok summary ↔
    ∃ read, progress.returned? = some (.ok read) ∧
      summary = { read with delivered := progress.handled, failed := progress.collected } := by
  rw [result_eq]
  cases progress.returned? with
  | none => simp [Except.map]
  | some ended =>
      cases ended with
      | error error => simp [Except.map]
      | ok read => simp [Except.map, eq_comm]

end ConversationBus.Replay
