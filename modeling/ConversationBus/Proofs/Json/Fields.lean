import ConversationBus.Json.Fields
import ConversationBus.Proofs.Json.Reading

/-!
# Records that are read back from JSON

Something is restored when the tree of what was written is read as the thing itself. Lists and rows
of bytes are restored with their items, and records with their fields: each field is found under its
name, and one that was left out is read as the value for which it is left out.
-/

namespace ConversationBus.Json

variable {α : Type} {write : α → Value} {read? : Tree → Option α}

/-- What is written is read back. -/
def Restores (write : α → Value) (read? : Tree → Option α) (content : α) : Prop :=
  ∃ tree, (write content).tree? = some tree ∧ read? tree = some content

theorem restores_items {items : List α} (restores : ∀ item ∈ items, Restores write read? item) :
    ∃ trees, treesOfItems? (items.map write) = some trees ∧ trees.mapM read? = some items := by
  induction items with
  | nil => exact ⟨[], rfl, rfl⟩
  | cons item items ih =>
      rcases restores item List.mem_cons_self with ⟨tree, written, read⟩
      rcases ih fun other member => restores other (List.mem_cons_of_mem item member) with
        ⟨trees, writtenAll, readAll⟩
      refine ⟨tree :: trees, ?_, ?_⟩
      · simp [treesOfItems?, written, writtenAll]
      · simp [read, readAll]

theorem restores_list {items : List α} (restores : ∀ item ∈ items, Restores write read? item) :
    Restores (fun items => .array (items.map write)) (Tree.list? read?) items := by
  rcases restores_items restores with ⟨trees, written, read⟩
  exact ⟨.array trees, by simp [Value.tree?, written], read⟩

theorem restores_byte (byte : UInt8) :
    Restores (fun byte => .nat byte.toNat)
      (fun item => (item.natBelow? 256).map UInt8.ofNat) byte := by
  have small : byte.toNat < 256 := byte.toNat_lt
  refine ⟨.number (.ofInt byte.toNat), rfl, ?_⟩
  simp [Tree.natBelow?, small]

theorem restores_bytes (bytes : List UInt8) : Restores Value.ofBytes Tree.bytes? bytes :=
  restores_list fun byte _ => restores_byte byte

theorem countKey_eq_count (key : String) (members : List (Option String × Tree)) :
    countKey key members = (members.map (·.1)).count (some key) := by
  rw [countKey, List.count, List.countP_map]
  exact List.countP_congr fun member _ => by simp

/-- The fields of an object are its members, where no name is given twice. -/
theorem of_fields?_object {names : List String} {members : List (Option String × Tree)}
    {fields : Fields} (given : (Tree.object members).fields? names = some fields) :
    (∀ name ∈ names, countKey name members ≤ 1) ∧
      fields = fun name => members.lookup (some name) := by
  rw [Tree.fields?] at given
  split at given
  next => cases given
  next single =>
    cases given
    refine ⟨fun name listed => ?_, rfl⟩
    rw [Bool.or_eq_true, not_or, List.any_eq_true (l := names)] at single
    exact Nat.le_of_not_lt fun twice => single.2 ⟨name, listed, decide_eq_true twice⟩

/-- The fields of an array are its items, where there are not more of them than names. -/
theorem of_fields?_array {names : List String} {items : List Tree} {fields : Fields}
    (given : (Tree.array items).fields? names = some fields) :
    ¬names.length < items.length ∧ fields = fun name => (names.zip items).lookup name := by
  rw [Tree.fields?] at given
  split at given
  next => cases given
  next short =>
    cases given
    exact ⟨short, rfl⟩

/-- The fields of an object whose keys are texts, each given once. -/
theorem fields?_of_nodup {members : List (Option String × Tree)} (names : List String)
    (named : none ∉ members.map (·.1)) (distinct : (members.map (·.1)).Nodup) :
    (Tree.object members).fields? names = some fun name => members.lookup (some name) := by
  have texts : (members.any fun member => member.1.isNone) = false := by
    rw [List.any_eq_false]
    intro member present unnamed
    rw [Option.isNone_iff_eq_none] at unnamed
    exact named (unnamed ▸ List.mem_map_of_mem present)
  have single : (names.any fun name => decide (1 < countKey name members)) = false := by
    rw [List.any_eq_false]
    intro name _
    rw [countKey_eq_count, decide_eq_true_iff, Nat.not_lt]
    exact List.nodup_iff_count.mp distinct (some name)
  simp only [Tree.fields?, texts, single, Bool.or_self, Bool.false_eq_true, if_false]

/-- The fields of an object whose members have some of the names, each once. -/
theorem fields?_object {names : List String} {members : List (Option String × Tree)}
    (once : names.Nodup) (keys : (members.map (·.1)).Sublist (names.map some)) :
    (Tree.object members).fields? names = some fun name => members.lookup (some name) := by
  refine fields?_of_nodup names (fun unnamed => ?_) ?_
  · rcases List.mem_map.mp (keys.subset unnamed) with ⟨name, _, same⟩
    cases same
  · exact List.Nodup.sublist keys (List.Pairwise.map some (fun _ _ => mt Option.some.inj) once)

/-! ## Fields -/

/-- What is written as a string is read back. -/
def RestoresText (write : α → Value) (read? : Tree → Option α) (content : α) : Prop :=
  ∃ text, write content = .string text ∧ read? (.string (some text)) = some content

theorem restoresText_string (text : String) : RestoresText .string Tree.text? text :=
  ⟨text, rfl, rfl⟩

theorem RestoresText.restores {content : α} (restores : RestoresText write read? content) :
    Restores write read? content := by
  rcases restores with ⟨text, written, read⟩
  exact ⟨_, by rw [written, Value.tree?], read⟩

theorem restores_bool (value : Bool) : Restores .bool Tree.bool? value :=
  ⟨_, rfl, rfl⟩

/-- The member of an object with a name, if there is a tree for it. -/
def memberTree (name : String) (tree : Option Tree) : List (Option String × Tree) :=
  (tree.map fun tree => (some name, tree)).toList

/-- The members of an object with trees for some of the fields of a record. -/
def memberTrees (rows : List (String × Option Tree)) : List (Option String × Tree) :=
  rows.flatMap fun row => memberTree row.1 row.2

/-- A field is read back from the member that writes it, or from there being none. -/
def RestoresField (name : String) (members : List (String × Value)) (read : Fields → Option α)
    (content : α) : Prop :=
  ∃ tree, treesOfMembers? members = some (memberTree name tree) ∧
    ∀ fields : Fields, fields name = tree → read fields = some content

section Field

variable {name : String} {content : α}

theorem restores_required (restores : Restores write read? content) :
    RestoresField name (member name (write content)) (·.required name read?) content := by
  rcases restores with ⟨tree, written, read⟩
  refine ⟨some tree, by simp [member, treesOfMembers?, written, memberTree], ?_⟩
  intro fields found
  simp only [Fields.required, found, Option.bind_some, read]

theorem restores_optional {content : Option α}
    (restores : ∀ held ∈ content, RestoresText write read? held) :
    RestoresField name (optionalMember name write content) (·.optional name read?) content := by
  cases content with
  | none =>
      refine ⟨none, rfl, ?_⟩
      intro fields absent
      simp only [Fields.optional, absent]
  | some held =>
      rcases restores held rfl with ⟨text, written, read⟩
      refine ⟨some (.string (some text)), ?_, ?_⟩
      · simp [optionalMember, treesOfMembers?, written, Value.tree?, memberTree]
      · intro fields found
        simp [Fields.optional, found, read]

theorem restores_withDefault {default : α} (restores : Restores write read? content) :
    RestoresField name (member name (write content)) (·.withDefault name default read?)
      content := by
  rcases restores with ⟨tree, written, read⟩
  refine ⟨some tree, by simp [member, treesOfMembers?, written, memberTree], ?_⟩
  intro fields found
  simp only [Fields.withDefault, found, read]

/-- A list that is left out when it is empty. -/
theorem restores_listOrNone {items : List α} (restores : ∀ item, Restores write read? item) :
    RestoresField name (if items.isEmpty then [] else member name (.array (items.map write)))
      (·.withDefault name [] (Tree.list? read?)) items := by
  cases items with
  | nil =>
      refine ⟨none, rfl, ?_⟩
      intro fields absent
      simp only [Fields.withDefault, absent]
  | cons item items =>
      have whole : Restores (fun items => .array (items.map write)) (Tree.list? read?)
          (item :: items) := restores_list fun other _ => restores other
      exact restores_withDefault whole

end Field

/-! ## Records -/

/-- A record with the named fields is read back from the members that write them. -/
def RestoresFields (names : List String) (members : List (String × Value))
    (read : Fields → Option α) (content : α) : Prop :=
  ∃ rows, rows.map Prod.fst = names ∧ treesOfMembers? members = some (memberTrees rows) ∧
    ∀ fields : Fields, (∀ row ∈ rows, fields row.1 = row.2) → read fields = some content

theorem treesOfMembers?_append {front back : List (String × Value)}
    {first last : List (Option String × Tree)} (spelled : treesOfMembers? front = some first)
    (rest : treesOfMembers? back = some last) :
    treesOfMembers? (front ++ back) = some (first ++ last) := by
  induction front generalizing first with
  | nil =>
      cases spelled
      exact rest
  | cons member front ih =>
      obtain ⟨key, value⟩ := member
      simp only [treesOfMembers?, Option.bind_eq_bind, Option.bind_eq_some_iff] at spelled
      rcases spelled with ⟨tree, one, later, others, same⟩
      cases same
      simp [treesOfMembers?, one, ih others]

section Record

variable {β : Type} {name : String} {names : List String}
  {front back members : List (String × Value)} {read : Fields → Option α} {content : α}

theorem restoresFields_last {finish : α → β} {whole : β}
    (field : RestoresField name front read content) (same : finish content = whole) :
    RestoresFields [name] front (fun fields => do some (finish (← read fields))) whole := by
  rcases field with ⟨tree, spelled, found⟩
  refine ⟨[(name, tree)], rfl, by simpa [memberTrees] using spelled, ?_⟩
  intro fields agrees
  simp only [found fields (agrees (name, tree) List.mem_cons_self), Option.bind_eq_bind,
    Option.bind_some, same]

theorem restoresFields_cons {next : α → Fields → Option β} {whole : β}
    (field : RestoresField name front read content)
    (rest : RestoresFields names back (next content) whole) :
    RestoresFields (name :: names) (front ++ back)
      (fun fields => do next (← read fields) fields) whole := by
  rcases field with ⟨tree, spelled, found⟩
  rcases rest with ⟨rows, rfl, others, later⟩
  refine ⟨(name, tree) :: rows, rfl, treesOfMembers?_append spelled others, ?_⟩
  intro fields agrees
  simp only [found fields (agrees (name, tree) List.mem_cons_self), Option.bind_eq_bind,
    Option.bind_some]
  exact later fields fun row member => agrees row (List.mem_cons_of_mem _ member)

theorem memberTrees_keys (rows : List (String × Option Tree)) :
    ((memberTrees rows).map (·.1)).Sublist ((rows.map Prod.fst).map some) := by
  induction rows with
  | nil => exact .slnil
  | cons row rows ih =>
      obtain ⟨name, tree⟩ := row
      cases tree with
      | none => exact ih.cons _
      | some tree => exact ih.cons_cons _

theorem lookup_memberTrees_of_absent {rows : List (String × Option Tree)} {name : String}
    (absent : name ∉ rows.map Prod.fst) : (memberTrees rows).lookup (some name) = none := by
  rw [List.lookup_eq_none_iff]
  intro held present
  have key := (memberTrees_keys rows).subset (List.mem_map_of_mem present)
  rcases List.mem_map.mp key with ⟨other, listed, same⟩
  rw [← same, bne_iff_ne, ne_eq, Option.some.injEq]
  rintro rfl
  exact absent listed

theorem lookup_memberTrees {rows : List (String × Option Tree)} {name : String}
    {tree : Option Tree} (once : (rows.map Prod.fst).Nodup) (member : (name, tree) ∈ rows) :
    (memberTrees rows).lookup (some name) = tree := by
  induction rows with
  | nil => cases member
  | cons row rows ih =>
      obtain ⟨other, held⟩ := row
      rw [List.map_cons, List.nodup_cons] at once
      rcases List.mem_cons.mp member with same | later
      · cases same
        cases tree with
        | none =>
            have absent := lookup_memberTrees_of_absent once.1
            exact absent
        | some tree => simp [memberTrees, memberTree]
      · have apart : name ≠ other := by
          rintro rfl
          exact once.1 (List.mem_map.mpr ⟨(name, tree), later, rfl⟩)
        have found := ih once.2 later
        cases held with
        | none => exact found
        | some held =>
            have key : (some name == some other) = false := by simpa using apart
            change List.lookup (some name) ((some other, held) :: memberTrees rows) = _
            rw [List.lookup_cons, key]
            exact found

theorem RestoresFields.restored (once : names.Nodup)
    (record : RestoresFields names members read content) :
    ∃ tree, (Value.object members).tree? = some tree ∧
      (do read (← tree.fields? names)) = some content := by
  rcases record with ⟨rows, rfl, spelled, found⟩
  refine ⟨.object (memberTrees rows), by rw [Value.tree?, spelled, Option.map_some], ?_⟩
  rw [fields?_object once (memberTrees_keys rows)]
  apply found
  intro row member
  exact lookup_memberTrees once member

end Record

end ConversationBus.Json
