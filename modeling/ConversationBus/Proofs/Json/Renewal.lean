import ConversationBus.Proofs.Json.Excerpts
import Mathlib.Data.List.Count
import Mathlib.Data.List.Induction
import Mathlib.Data.String.Basic

/-!
# Values that are written anew

A tree that is kept as a value and written anew is read as another tree: members are ordered by key,
the last one of a key stays, and numbers have another spelling. What a record is read from is the
same in both: its strings, and which of its fields are there or `null`.
-/

namespace ConversationBus.Json

/-! ## Ordered members -/

section Members

variable {key name : String} {value : Value} {members : List (String × Value)}

theorem lookup_insertMember_self (key : String) (value : Value) (members : List (String × Value)) :
    (insertMember key value members).lookup key = some value := by
  induction members with
  | nil => simp [insertMember]
  | cons member rest ih =>
      obtain ⟨other, held⟩ := member
      rw [insertMember]
      split
      next => simp
      next =>
        split
        next => simp
        next apart => simpa [List.lookup_cons, beq_eq_false_iff_ne.mpr apart] using ih

theorem lookup_insertMember_of_ne (apart : name ≠ key) :
    (insertMember key value members).lookup name = members.lookup name := by
  induction members with
  | nil => simp [insertMember, List.lookup_cons, beq_eq_false_iff_ne.mpr apart]
  | cons member rest ih =>
      obtain ⟨other, held⟩ := member
      rw [insertMember]
      split
      next => rw [List.lookup_cons, beq_eq_false_iff_ne.mpr apart]
      next =>
        split
        next same =>
          subst same
          rw [List.lookup_cons, List.lookup_cons, beq_eq_false_iff_ne.mpr apart]
        next => rw [List.lookup_cons, List.lookup_cons, ih]

theorem lookup_orderMembers (members : List (String × Value)) (name : String) :
    (orderMembers members).lookup name = members.reverse.lookup name := by
  induction members using List.reverseRecOn with
  | nil => rfl
  | append_singleton members member ih =>
      obtain ⟨key, value⟩ := member
      rw [orderMembers, List.foldl_append, List.foldl_cons, List.foldl_nil, ← orderMembers,
        List.reverse_append, List.reverse_singleton, List.singleton_append, List.lookup_cons]
      by_cases same : name = key
      · rw [same, lookup_insertMember_self, beq_self_eq_true]
      · rw [lookup_insertMember_of_ne same, ih, beq_eq_false_iff_ne.mpr same]

theorem mem_insertMember {member : String × Value}
    (present : member ∈ insertMember key value members) :
    member = (key, value) ∨ member ∈ members := by
  induction members with
  | nil => exact .inl (List.mem_singleton.mp present)
  | cons other rest ih =>
      rw [insertMember] at present
      split at present
      next => exact List.mem_cons.mp present
      next =>
        split at present
        next => exact (List.mem_cons.mp present).imp_right (List.mem_cons_of_mem _)
        next =>
          rcases List.mem_cons.mp present with same | later
          · exact .inr (List.mem_cons.mpr (.inl same))
          · exact (ih later).imp_right (List.mem_cons_of_mem _)

/-- Each key comes before those of the members after it. -/
def Ordered (members : List (String × Value)) : Prop :=
  members.Pairwise fun member later => member.1 < later.1

theorem ordered_insertMember (ordered : Ordered members) :
    Ordered (insertMember key value members) := by
  induction members with
  | nil => exact List.pairwise_singleton ..
  | cons member rest ih =>
      obtain ⟨other, held⟩ := member
      rcases List.pairwise_cons.mp ordered with ⟨first, others⟩
      rw [insertMember]
      split
      next before =>
        refine List.pairwise_cons.mpr ⟨?_, List.pairwise_cons.mpr ⟨first, others⟩⟩
        intro later present
        rcases List.mem_cons.mp present with rfl | present
        · exact before
        · exact before.trans (first later present)
      next notBefore =>
        split
        next same =>
          subst same
          exact List.pairwise_cons.mpr ⟨first, others⟩
        next apart =>
          refine List.pairwise_cons.mpr ⟨?_, ih others⟩
          intro later present
          rcases mem_insertMember present with rfl | present
          · exact lt_of_le_of_ne (not_lt.mp notBefore) (Ne.symm apart)
          · exact first later present

theorem ordered_orderMembers (members : List (String × Value)) :
    Ordered (orderMembers members) := by
  induction members using List.reverseRecOn with
  | nil => exact .nil
  | append_singleton members member ih =>
      rw [orderMembers, List.foldl_append, List.foldl_cons, List.foldl_nil]
      exact ordered_insertMember ih

/-- A name that is given at most once is found the same from both ends. -/
theorem lookup_reverse_of_count_le_one (once : (members.map Prod.fst).count name ≤ 1) :
    members.reverse.lookup name = members.lookup name := by
  induction members with
  | nil => rfl
  | cons member rest ih =>
      obtain ⟨key, value⟩ := member
      rw [List.map_cons, List.count_cons] at once
      rw [List.reverse_cons, List.lookup_append, List.lookup_cons, List.lookup_cons]
      by_cases same : name = key
      · subst same
        rw [beq_self_eq_true, if_pos rfl] at once
        have absent : rest.lookup name = none := by
          rw [List.lookup_eq_none_iff]
          intro other present
          have apart := List.count_eq_zero.mp (by omega : (rest.map Prod.fst).count name = 0)
          rw [bne_iff_ne]
          rintro rfl
          exact apart (List.mem_map_of_mem present)
        rw [beq_self_eq_true, ih (by omega), absent, Option.none_or]
      · rw [beq_eq_false_iff_ne.mpr same, ih (by omega), List.lookup_nil, Option.or_none]

theorem lookup_treesOfMembers (members : List (String × Value)) (name : String) :
    (treesOfMembers members).lookup (some name) = (members.lookup name).map Value.tree := by
  induction members with
  | nil => rfl
  | cons member rest ih =>
      obtain ⟨key, value⟩ := member
      rw [treesOfMembers, List.lookup_cons, List.lookup_cons, ih]
      by_cases same : name = key
      · simp [same]
      · simp [beq_eq_false_iff_ne.mpr same]

theorem keys_treesOfMembers (members : List (String × Value)) :
    (treesOfMembers members).map (·.1) = (members.map Prod.fst).map some := by
  rw [treesOfMembers_eq_map, List.map_map, List.map_map]
  rfl

/-- An object with its members in order is a record with any names. -/
theorem fields?_of_ordered (ordered : Ordered members) (names : List String) :
    (Tree.object (treesOfMembers members)).fields? names =
      some fun name => (members.lookup name).map Value.tree := by
  have distinct : (members.map Prod.fst).Nodup :=
    List.Pairwise.map Prod.fst (fun _ _ before => before.ne) ordered
  rw [fields?_of_nodup names, funext (lookup_treesOfMembers members)]
  · rw [keys_treesOfMembers]
    simp
  · rw [keys_treesOfMembers]
    exact List.Pairwise.map some (fun _ _ => mt Option.some.inj) distinct

end Members

/-! ## Trees that are written anew -/

/-- The second tree is read when the first one is kept as a value and written. -/
def Renews (tree other : Tree) : Prop :=
  ∃ depth value, tree.value? depth = some value ∧ value.tree = other

section Renews

variable {tree other : Tree} {depth : Nat}

theorem renews_value {value : Value} (kept : tree.value? depth = some value) :
    Renews tree value.tree :=
  ⟨depth, value, kept, rfl⟩

theorem renews_items {items : List Tree} {values : List Value}
    (kept : valuesOfItems depth items = some values) :
    List.Forall₂ Renews items (treesOfItems values) := by
  induction items generalizing values with
  | nil =>
      cases kept
      exact .nil
  | cons item rest ih =>
      rcases Option.bind_eq_some_iff.mp kept with ⟨value, one, kept⟩
      rcases Option.bind_eq_some_iff.mp kept with ⟨others, later, same⟩
      cases same
      exact .cons (renews_value one) (ih later)

theorem renews_members {members : List (Option String × Tree)} {values : List (String × Value)}
    (kept : valuesOfMembers depth members = some values) :
    Paired Renews members (treesOfMembers values) := by
  induction members generalizing values with
  | nil =>
      cases kept
      exact .nil
  | cons member rest ih =>
      rcases Option.bind_eq_some_iff.mp kept with ⟨key, named, kept⟩
      rcases Option.bind_eq_some_iff.mp kept with ⟨value, one, kept⟩
      rcases Option.bind_eq_some_iff.mp kept with ⟨others, later, same⟩
      cases same
      exact .cons ⟨named, renews_value one⟩ (ih later)

/-- The forms of a tree and of what is read when it is written anew. -/
inductive Renewed : Tree → Tree → Prop where
  | null : Renewed .null .null
  | bool (value : Bool) : Renewed (.bool value) (.bool value)
  | number (literal other : Literal) : Renewed (.number literal) (.number other)
  | string (text : String) : Renewed (.string (some text)) (.string (some text))
  | array {items others : List Tree} (renews : List.Forall₂ Renews items others) :
      Renewed (.array items) (.array others)
  | object {members : List (Option String × Tree)} {values : List (String × Value)}
      (renews : Paired Renews members (treesOfMembers values)) :
      Renewed (.object members) (.object (treesOfMembers (orderMembers values)))

theorem Renews.renewed (renews : Renews tree other) : Renewed tree other := by
  rcases renews with ⟨depth, value, kept, rfl⟩
  cases tree with
  | null =>
      cases kept
      exact .null
  | bool =>
      cases kept
      exact .bool _
  | number literal =>
      rcases Option.map_eq_some_iff.mp kept with ⟨number, _, rfl⟩
      exact .number _ _
  | string text =>
      rcases Option.map_eq_some_iff.mp kept with ⟨text, rfl, rfl⟩
      exact .string _
  | array items =>
      rw [Tree.value?] at kept
      split at kept
      next => cases kept
      next =>
        rcases Option.map_eq_some_iff.mp kept with ⟨values, found, rfl⟩
        exact .array (renews_items found)
  | object members =>
      rw [Tree.value?] at kept
      split at kept
      next => cases kept
      next =>
        rcases Option.map_eq_some_iff.mp kept with ⟨values, found, rfl⟩
        exact .object (renews_members found)

theorem Renews.text?_eq (renews : Renews tree other) : tree.text? = other.text? := by
  cases renews.renewed
  all_goals rfl

theorem Renews.null_iff (renews : Renews tree other) : tree = .null ↔ other = .null := by
  cases renews.renewed
  all_goals simp

/-- Fields of two records are both absent, or the second tree is the first one written anew. -/
def FieldsRenew (names : List String) (fields others : Fields) : Prop :=
  ∀ name ∈ names, Option.Rel Renews (fields name) (others name)

theorem Renews.fields? (renews : Renews tree other) {names : List String} {fields : Fields}
    (given : tree.fields? names = some fields) :
    ∃ others, other.fields? names = some others ∧ FieldsRenew names fields others := by
  cases renews.renewed with
  | null | bool | number | string => cases given
  | array parts =>
      rcases of_fields?_array given with ⟨short, rfl⟩
      rw [parts.length_eq] at short
      rw [Tree.fields?, if_neg short]
      exact ⟨_, rfl, fun name _ => (paired_zip names parts).lookup name⟩
  | @object members values parts =>
      rcases of_fields?_object given with ⟨single, rfl⟩
      refine ⟨_, fields?_of_ordered (ordered_orderMembers values) names, fun name listed => ?_⟩
      have once := single name listed
      rw [countKey_eq_count, parts.keys_eq, keys_treesOfMembers,
        List.count_map_of_injective _ _ (fun _ _ => Option.some.inj)] at once
      have related := parts.lookup (some name)
      rwa [lookup_treesOfMembers, ← lookup_reverse_of_count_le_one once, ← lookup_orderMembers]
        at related

end Renews

/-! ## Records -/

section Records

variable {α : Type} {read? : Tree → Option α} {names : List String} {fields others : Fields}
  {name : String}

/-- A reader that reads the same from what is written anew. -/
def Respects (read? : Tree → Option α) : Prop :=
  ∀ tree other, Renews tree other → read? tree = read? other

theorem respects_text : Respects Tree.text? :=
  fun _ _ renews => renews.text?_eq

theorem respects_of_text (read? : String → Option α) : Respects (·.text?.bind read?) :=
  fun _ _ renews => congrArg (·.bind read?) renews.text?_eq

theorem FieldsRenew.required_eq (renew : FieldsRenew names fields others) (listed : name ∈ names)
    (respects : Respects read?) : fields.required name read? = others.required name read? := by
  have related := renew name listed
  rw [Fields.required, Fields.required]
  generalize fields name = field, others name = held at related
  cases related with
  | none => rfl
  | some renews => exact respects _ _ renews

theorem FieldsRenew.optional_eq (renew : FieldsRenew names fields others) (listed : name ∈ names)
    (respects : Respects read?) : fields.optional name read? = others.optional name read? := by
  have related := renew name listed
  rw [Fields.optional, Fields.optional]
  generalize fields name = field, others name = held at related
  cases related with
  | none => rfl
  | @some tree other renews =>
      by_cases isNull : tree = .null
      · rw [renews.null_iff.mp isNull, isNull]
      · have notNull : other ≠ .null := mt renews.null_iff.mpr isNull
        simp [respects tree other renews]

/-- A record that is read from a tree is read from what it is written anew as. -/
theorem Renews.record {tree other : Tree} (renews : Renews tree other) {build : Fields → Option α}
    (builds : ∀ fields others, FieldsRenew names fields others → build fields = build others)
    {content : α} (read : (tree.fields? names).bind build = some content) :
    (other.fields? names).bind build = some content := by
  rcases Option.bind_eq_some_iff.mp read with ⟨fields, given, built⟩
  rcases renews.fields? given with ⟨others, anew, renew⟩
  rw [anew, Option.bind_some, ← builds fields others renew, built]

end Records

end ConversationBus.Json
