import ConversationBus.Cli.Disk
import ConversationBus.Config.Location
import ConversationBus.Proofs.Config.Address

/-!
# The store in the data directory

Where no address is set, the address of the store is made of the path of the data directory. It
leads to the file in that directory just if the path is one that an address carries unchanged.
Two directories with such paths share no store; a path with an escape leads to the store of
another directory.
-/

namespace ConversationBus

/-! ## Texts around a slash -/

section Slash

variable {word front tail : List Char}

theorem prefix_slash_iff (plain : '/' ∉ word) : word <+: front ++ '/' :: tail ↔ word <+: front := by
  refine ⟨fun begins => ?_, List.prefix_append_of_prefix⟩
  have slashed : front ++ ['/'] <+: front ++ '/' :: tail := ⟨tail, by simp⟩
  have slash : '/' ∈ front ++ ['/'] := List.mem_append_right front (List.mem_singleton_self '/')
  rcases List.prefix_or_prefix_of_prefix begins slashed with within | beyond
  · rcases List.prefix_concat_iff.mp within with rfl | within
    · exact absurd slash plain
    · exact within
  · exact absurd (beyond.mem slash) plain

theorem eq_nil_of_prefix_slash (plain : '/' ∉ word) (begins : word <+: '/' :: tail) :
    word = [] := by
  cases word with
  | nil => rfl
  | cons c word =>
      rw [(List.cons_prefix_cons.mp begins).1] at plain
      exact absurd List.mem_cons_self plain

theorem infix_slash_iff (plain : '/' ∉ word) :
    word <:+: front ++ '/' :: tail ↔ word <:+: front ∨ word <:+: tail := by
  constructor
  · intro part
    rcases List.infix_append_iff_ne_nil.mp part with
      part | part | ⟨first, last, _, more, rfl, _, begins⟩
    · exact .inl part
    · rcases List.infix_cons_iff.mp part with begins | part
      · rw [eq_nil_of_prefix_slash plain begins]
        exact .inl List.nil_infix
      · exact .inr part
    · have plain : '/' ∉ last := fun member => plain (List.mem_append_right first member)
      exact absurd (eq_nil_of_prefix_slash plain begins) more
  · rintro (part | part)
    · exact List.infix_append_of_infix_left part
    · exact List.infix_append_of_infix_right (part.trans (List.infix_cons (List.infix_refl tail)))

end Slash

/-! ## Something in a directory -/

/-- The path of something in a directory goes on after a slash, which may close the path of the
directory already. -/
theorem joinPath_cases (directory name : String) :
    (directory = "" ∧ joinPath directory name = name) ∨
      ∃ front, (joinPath directory name).toList = front ++ '/' :: name.toList ∧
        (directory.toList = front ∧ front ≠ [] ∨ directory.toList = front ++ ['/']) := by
  rw [joinPath]
  split
  next closed =>
    rcases closed with empty | closed
    · rw [String.isEmpty_iff] at empty
      exact .inl ⟨empty, by rw [empty, String.empty_append]⟩
    · rcases List.getLast?_eq_some_iff.mp closed with ⟨front, path⟩
      refine .inr ⟨front, ?_, .inr path⟩
      rw [String.toList_append, path, List.append_assoc]
      rfl
  next opened =>
    rw [not_or, String.isEmpty_iff] at opened
    refine .inr ⟨directory.toList, ?_, .inl ⟨rfl, mt String.toList_eq_nil_iff.mp opened.1⟩⟩
    rw [String.toList_append, String.toList_append, List.append_assoc]
    rfl

namespace StoreAddress

theorem not_escaped_of_plain {text : List Char} (plain : '%' ∉ text) : ¬ Escaped text := by
  rintro ⟨high, low, _, _, part⟩
  exact plain (part.mem List.mem_cons_self)

theorem escaped_slash_iff {front tail : List Char} (plain : '%' ∉ tail) :
    Escaped (front ++ '/' :: tail) ↔ Escaped front := by
  constructor
  · rintro ⟨high, low, isHigh, isLow, part⟩
    have other : '/' ∉ ['%', high, low] := by
      simp only [List.mem_cons, List.not_mem_nil, or_false, not_or]
      refine ⟨by decide, ?_, ?_⟩
      · rintro rfl
        exact absurd isHigh (by decide)
      · rintro rfl
        exact absurd isLow (by decide)
    rcases (infix_slash_iff other).mp part with part | part
    · exact ⟨high, low, isHigh, isLow, part⟩
    · exact absurd (part.mem List.mem_cons_self) plain
  · rintro ⟨high, low, isHigh, isLow, part⟩
    exact ⟨high, low, isHigh, isLow, List.infix_append_of_infix_left part⟩

theorem verbatim_of_plain {text : List Char} (noScheme : ¬ "sqlite:".toList <+: text)
    (noParameters : '?' ∉ text) (plain : '%' ∉ text) : Verbatim text :=
  ⟨noScheme, noParameters, not_escaped_of_plain plain⟩

theorem verbatim_slash_iff {front tail : List Char} (noParameters : '?' ∉ tail)
    (plain : '%' ∉ tail) : Verbatim (front ++ '/' :: tail) ↔ Verbatim front := by
  have scheme : "sqlite:".toList <+: front ++ '/' :: tail ↔ "sqlite:".toList <+: front :=
    prefix_slash_iff (by decide)
  have parameters : '?' ∈ front ++ '/' :: tail ↔ '?' ∈ front := by
    simp [noParameters]
  have escape : Escaped (front ++ '/' :: tail) ↔ Escaped front := escaped_slash_iff plain
  constructor
  · rintro ⟨noScheme, noParameters, noEscape⟩
    exact ⟨mt scheme.mpr noScheme, mt parameters.mpr noParameters, mt escape.mpr noEscape⟩
  · rintro ⟨noScheme, noParameters, noEscape⟩
    exact ⟨mt scheme.mp noScheme, mt parameters.mp noParameters, mt escape.mp noEscape⟩

theorem verbatim_joinPath_iff {directory : String} :
    Verbatim (joinPath directory databaseFileName).toList ↔ Verbatim directory.toList := by
  rcases joinPath_cases directory databaseFileName with ⟨rfl, path⟩ | ⟨front, path, opened | closed⟩
  · rw [path]
    exact iff_of_true (verbatim_of_plain (by decide) (by decide) (by decide))
      (verbatim_of_plain (by decide) (by decide) (by decide))
  · rw [path, opened.1, verbatim_slash_iff (by decide) (by decide)]
  · rw [path, closed, verbatim_slash_iff (by decide) (by decide),
      verbatim_slash_iff List.not_mem_nil List.not_mem_nil]

theorem joinPath_ne_memory (directory : String) :
    joinPath directory databaseFileName ≠ ":memory:" := by
  rcases joinPath_cases directory databaseFileName with ⟨rfl, path⟩ | ⟨front, path, _⟩
  · rw [path]
    decide
  · intro same
    have slash : '/' ∈ (joinPath directory databaseFileName).toList := by
      rw [path]
      exact List.mem_append_right front List.mem_cons_self
    rw [same] at slash
    exact absurd slash (by decide)

/-- The address of the store in a directory leads to the file there just if it carries the path of
the directory unchanged. -/
theorem ofUrl_storeUrl_iff {directory : String} :
    ofUrl (storeUrl directory) = .ok (.file (joinPath directory databaseFileName)) ↔
      Verbatim directory.toList := by
  rw [storeUrl, ofUrl_eq_file_iff, verbatim_joinPath_iff]
  exact and_iff_left (joinPath_ne_memory directory)

end StoreAddress

/-! ## Files in a directory -/

namespace Cli.Disk

variable {disk : Disk} {directory name : String} {place : Place}

/-- A path leads to a directory. The empty path stands for the working directory. -/
def Leads (disk : Disk) (path : String) (place : Place) : Prop :=
  disk.follow (disk.origin path) (steps path) = .ok place ∧ disk.entry? place = some .directory

structure IsName (name : String) : Prop where
  plain : '/' ∉ name.toList
  nonempty : name ≠ ""
  notHere : name ≠ "."
  notUp : name ≠ ".."

theorem stepsOf_slash (front tail : List Char) :
    stepsOf (front ++ '/' :: tail) = stepsOf front ++ stepsOf tail := by
  have split : (front ++ '/' :: tail).splitOn '/' = front.splitOn '/' ++ tail.splitOn '/' :=
    List.splitOnP_append_cons front tail (beq_self_eq_true '/')
  rw [stepsOf, split, List.map_append, List.filter_append]
  rfl

theorem stepsOf_name (isName : IsName name) : stepsOf name.toList = [name] := by
  have whole : name.toList.splitOn '/' = [name.toList] :=
    List.splitOnP_eq_singleton fun c member =>
      beq_false_of_ne fun slash => isName.plain (slash ▸ member)
  rw [stepsOf, whole, List.map_singleton, String.ofList_toList]
  exact List.filter_eq_self.mpr (by simp [isName.nonempty, isName.notHere])

theorem steps_joinPath (isName : IsName name) :
    steps (joinPath directory name) = steps directory ++ [name] := by
  rw [steps, steps]
  rcases joinPath_cases directory name with ⟨rfl, path⟩ | ⟨front, path, opened | closed⟩
  · rw [path, stepsOf_name isName]
    rfl
  · rw [path, opened.1, stepsOf_slash, stepsOf_name isName]
  · have closing : stepsOf [] = [] := rfl
    rw [path, closed, stepsOf_slash, stepsOf_slash, stepsOf_name isName, closing, List.append_nil]

theorem origin_joinPath (isName : IsName name) :
    disk.origin (joinPath directory name) = disk.origin directory := by
  have same : (joinPath directory name).startsWith "/" = directory.startsWith "/" := by
    rw [Bool.eq_iff_iff, String.startsWith_string_iff, String.startsWith_string_iff]
    change ['/'] <+: _ ↔ ['/'] <+: _
    rcases joinPath_cases directory name with ⟨rfl, path⟩ | ⟨front, path, opened | closed⟩
    · rw [path]
      refine iff_of_false (fun begins => ?_) (by decide)
      exact isName.plain (begins.mem (List.mem_singleton_self '/'))
    · rcases List.exists_cons_of_ne_nil opened.2 with ⟨first, rest, rfl⟩
      rw [path, opened.1, List.cons_append, List.singleton_prefix_cons_iff,
        List.singleton_prefix_cons_iff]
    · cases front with
      | nil => simp [path, closed]
      | cons first rest => simp [path, closed]
  rw [origin, origin, same]

theorem descend_name (isName : IsName name) : descend place name = name :: place :=
  if_neg isName.notUp

/-- One step more is taken from the directory that the other steps lead to. -/
theorem follow_concat {origin : Place} {steps : List String} (isName : IsName name)
    (followed : disk.follow origin steps = .ok place)
    (isDirectory : disk.entry? place = some .directory) :
    disk.follow origin (steps ++ [name]) = .ok (name :: place) := by
  induction steps generalizing origin with
  | nil =>
      cases followed
      rw [List.nil_append, follow, descend_name isName]
  | cons step steps ih =>
      cases steps with
      | nil =>
          cases followed
          simp only [List.cons_append, List.nil_append, follow, isDirectory, descend_name isName]
      | cons later steps =>
          simp only [follow] at followed
          simp only [List.cons_append, follow]
          split at followed
          next onward => exact ih followed
          next blocked => cases followed
          next missing => cases followed

theorem locate_joinPath (isName : IsName name) (leads : disk.Leads directory place) :
    disk.locate (joinPath directory name) = .ok (name :: place) := by
  have nonempty : ¬ (joinPath directory name).isEmpty := by
    rw [String.isEmpty_iff, ← String.toList_eq_nil_iff]
    rcases joinPath_cases directory name with ⟨_, path⟩ | ⟨front, path, _⟩
    · rw [path, String.toList_eq_nil_iff]
      exact isName.nonempty
    · rw [path]
      exact List.append_ne_nil_of_right_ne_nil front (List.cons_ne_nil _ _)
  rw [locate, if_neg nonempty, origin_joinPath isName, steps_joinPath isName]
  exact follow_concat isName leads.1 leads.2

/-- The place of the file that an address leads to, where the database takes every file name for a
plain path. One that reads names which begin with `file:` as URIs may go elsewhere for them. -/
def opened? (disk : Disk) (url : String) : Option Place :=
  match StoreAddress.ofUrl url with
  | .ok (.file path) => (disk.locate path).toOption
  | _ => none

theorem isName_databaseFileName : IsName databaseFileName where
  plain := by decide
  nonempty := by decide
  notHere := by decide
  notUp := by decide

theorem opened?_storeUrl (verbatim : StoreAddress.Verbatim directory.toList)
    (leads : disk.Leads directory place) :
    disk.opened? (storeUrl directory) = some (databaseFileName :: place) := by
  rw [opened?, StoreAddress.ofUrl_storeUrl_iff.mpr verbatim]
  simp only [locate_joinPath isName_databaseFileName leads, Except.toOption]

end Cli.Disk

/-! ## The store of a configuration without an address -/

theorem BusConfig.resolvedUrl_of_unset {config : BusConfig} (unset : config.databaseUrl = none)
    (directory : String) : config.resolvedUrl directory = storeUrl directory := by
  rw [resolvedUrl, unset, Option.getD_none]

/-- Without an address in the configuration, the store is the database file in the data directory
just if the path of the directory begins with no scheme, has no question mark and no escape. Two
such paths lead to one store just if they lead to one directory. -/
theorem store_in_directory_iff {config : BusConfig} (unset : config.databaseUrl = none) :
    (∀ directory, StoreAddress.ofUrl (config.resolvedUrl directory) =
        .ok (.file (joinPath directory databaseFileName)) ↔
          StoreAddress.Verbatim directory.toList) ∧
      ∀ (disk : Cli.Disk) (first second : String) (here there : Cli.Place),
        StoreAddress.Verbatim first.toList → StoreAddress.Verbatim second.toList →
        disk.Leads first here → disk.Leads second there →
          disk.opened? (config.resolvedUrl first) = some (databaseFileName :: here) ∧
            (disk.opened? (config.resolvedUrl first) = disk.opened? (config.resolvedUrl second) ↔
              here = there) := by
  simp only [config.resolvedUrl_of_unset unset]
  refine ⟨fun directory => StoreAddress.ofUrl_storeUrl_iff, ?_⟩
  intro disk first second here there firstVerbatim secondVerbatim firstLeads secondLeads
  rw [Cli.Disk.opened?_storeUrl firstVerbatim firstLeads,
    Cli.Disk.opened?_storeUrl secondVerbatim secondLeads]
  simp

/-- Of three directories, the one named data has a store of its own; the one named a%20b has not,
and what is opened for it is the store in the one named a b. -/
theorem store_in_directory_iff_escaped :
    StoreAddress.ofUrl (BusConfig.standard.resolvedUrl "a%20b") ≠
        .ok (.file (joinPath "a%20b" databaseFileName)) ∧
      StoreAddress.ofUrl (BusConfig.standard.resolvedUrl "a b") =
        .ok (.file (joinPath "a b" databaseFileName)) ∧
      ∃ disk : Cli.Disk, disk.Leads "a b" ["a b"] ∧ disk.Leads "a%20b" ["a%20b"] ∧
        disk.Leads "data" ["data"] ∧
        disk.opened? (BusConfig.standard.resolvedUrl "a%20b") =
          disk.opened? (BusConfig.standard.resolvedUrl "a b") ∧
        disk.opened? (BusConfig.standard.resolvedUrl "data") ≠
          disk.opened? (BusConfig.standard.resolvedUrl "a b") := by
  have law := @store_in_directory_iff .standard rfl
  have escaped : StoreAddress.Escaped "a%20b".toList :=
    ⟨'2', '0', by decide, by decide, ['a'], ['b'], by decide⟩
  have spaced : StoreAddress.Verbatim "a b".toList :=
    StoreAddress.verbatim_of_plain (by decide) (by decide) (by decide)
  have plain : StoreAddress.Verbatim "data".toList :=
    StoreAddress.verbatim_of_plain (by decide) (by decide) (by decide)
  let disk : Cli.Disk :=
    { entries := ⟨[(["a b"], .directory), (["a%20b"], .directory), (["data"], .directory)]⟩
      working := [] }
  have first : disk.Leads "a b" ["a b"] := ⟨by decide +kernel, by decide +kernel⟩
  have second : disk.Leads "a%20b" ["a%20b"] := ⟨by decide +kernel, by decide +kernel⟩
  have third : disk.Leads "data" ["data"] := ⟨by decide +kernel, by decide +kernel⟩
  refine ⟨fun same => ((law.1 _).mp same).noEscape escaped, (law.1 "a b").mpr spaced, disk, first,
    second, third, by decide +kernel, fun same => ?_⟩
  have one := (law.2 disk "data" "a b" _ _ plain spaced third first).2.mp same
  exact absurd one (by decide)

end ConversationBus
