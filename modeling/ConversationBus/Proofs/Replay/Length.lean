import ConversationBus.Replay.Basic

/-!
# How long a replay lasts

The flow of a replay asks for a few things on each line, whatever it is answered. So the number of
lines bounds the moves that it can lead to.
-/

namespace ConversationBus

/-- The number of moves that come of an action: those of the call itself, and those by which the
dispatcher and a worker deal with a message that it brings. -/
def Action.cost : Action → Nat
  | .publish _ => 9
  | _ => 1

namespace Flow

variable {α β : Type} {ends stops : α → Nat → Prop} {flow : Flow α} {moves more : Nat}

/-- A flow that sends nothing and closes nothing comes to its end within some moves, of which so
many are left there as its result asks for. -/
def Lasts (ends : α → Nat → Prop) : Flow α → Nat → Prop
  | .done result, moves => ∃ left ≤ moves, ends result left
  | .act action next, moves => action ≠ .send ∧ action ≠ .close ∧
      ∃ left, action.cost + left ≤ moves ∧ ∀ answer, (next answer).Lasts ends left

theorem Lasts.mono (lasts : flow.Lasts ends moves) (fewer : moves ≤ more) :
    flow.Lasts ends more := by
  cases flow with
  | done result =>
      rcases lasts with ⟨left, bound, ending⟩
      exact ⟨left, Nat.le_trans bound fewer, ending⟩
  | act action next =>
      rcases lasts with ⟨sends, closes, left, bound, rest⟩
      exact ⟨sends, closes, left, Nat.le_trans bound fewer, rest⟩

theorem Lasts.bind {rest : α → Flow β} {stops : β → Nat → Prop}
    (lasts : flow.Lasts (fun result => (rest result).Lasts stops) moves) :
    (flow.bind rest).Lasts stops moves := by
  induction flow generalizing moves with
  | done result =>
      rcases lasts with ⟨left, bound, ending⟩
      exact ending.mono bound
  | act action next ih =>
      rcases lasts with ⟨sends, closes, left, bound, last⟩
      exact ⟨sends, closes, left, bound, fun answer => ih answer (last answer)⟩

end Flow

namespace Replay

open ConversationBus.Flow (Lasts)

variable {channel : Channel}

theorem mark_lasts {ends : Except InboundError Bool → Nat → Prop} {left : Nat}
    (after : ∀ result, ends result left) (id conversationKey : String) :
    (Inbound.mark channel id conversationKey).Lasts ends (2 + left) := by
  refine ⟨by simp, by simp, 1 + left, by simp [Action.cost]; omega, fun seenAt => ?_⟩
  refine ⟨by simp, by simp, left, Nat.le_refl _, fun answer => ?_⟩
  rcases answer with error | ⟨⟨⟩⟩
  · exact ⟨left, Nat.le_refl _, after _⟩
  · exact ⟨left, Nat.le_refl _, after _⟩

/-- An event takes a look-up, a publish call and a mark. -/
theorem publish_lasts {ends : Except InboundError Bool → Nat → Prop} {left : Nat}
    (after : ∀ result, ends result left) (id : String) (message : Message) :
    (Inbound.publish channel id message).Lasts ends (12 + left) := by
  have early : ∀ result more, (Flow.done result).Lasts ends (more + left) :=
    fun result more => ⟨left, Nat.le_add_left _ _, after result⟩
  rw [Inbound.publish]
  split
  next => exact early ..
  next =>
    refine ⟨by simp, by simp, 11 + left, by simp [Action.cost]; omega, fun answer => ?_⟩
    rcases answer with error | _ | record
    · exact early ..
    · refine ⟨by simp, by simp, 2 + left, by simp [Action.cost]; omega, fun answer => ?_⟩
      rcases answer with error | ⟨⟨⟩⟩
      · exact early ..
      · exact mark_lasts after id message.conversationKey
    · exact early ..

/-- Each line takes at most fourteen moves. -/
theorem readLines_lasts {ends : Reading → Nat → Prop} {left : Nat}
    (after : ∀ reading, ends reading left) (lines : List (Option String)) (summary : Summary) :
    (readLines channel lines summary).Lasts ends (14 * lines.length + 1 + left) := by
  have early : ∀ reading more, (Flow.done reading).Lasts ends (more + left) :=
    fun reading more => ⟨left, Nat.le_add_left _ _, after reading⟩
  induction lines generalizing summary with
  | nil =>
      rw [readLines]
      refine ⟨by simp, by simp, left, by simp [Action.cost], fun told => ?_⟩
      cases told with
      | true | false => exact ⟨left, Nat.le_refl _, after _⟩
  | cons line rest ih =>
      have stop : ∀ reading, (Flow.done reading).Lasts ends (13 + (14 * rest.length + 1 + left)) :=
        fun reading => ⟨left, by omega, after reading⟩
      have later : ∀ summary more,
          (readLines channel rest summary).Lasts ends (more + (14 * rest.length + 1 + left)) :=
        fun summary more => (ih summary).mono (Nat.le_add_left _ _)
      cases line with
      | none =>
          rw [readLines]
          refine ⟨by simp, by simp, 13 + (14 * rest.length + 1 + left), by simp [Action.cost]; omega,
            fun told => ?_⟩
          cases told with
          | true | false => exact stop _
      | some text =>
          rw [readLines]
          refine ⟨by simp, by simp, 13 + (14 * rest.length + 1 + left), by simp [Action.cost]; omega,
            fun told => ?_⟩
          cases told with
          | true => exact stop _
          | false =>
              dsimp only
              split
              next => exact later ..
              next =>
                split
                next => exact later ..
                next event _ =>
                  refine ⟨by simp, by simp, 12 + (14 * rest.length + 1 + left),
                    by simp [Action.cost]; omega, fun now => (publish_lasts ?_ _ _).bind⟩
                  intro result
                  rcases result with error | published
                  · dsimp only
                    split
                    next => exact ⟨left, by omega, after _⟩
                    next => exact ih _
                  · cases published with
                    | true | false => exact ih _

end Replay

end ConversationBus
