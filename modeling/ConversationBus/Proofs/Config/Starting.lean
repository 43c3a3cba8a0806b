import ConversationBus.Bus.Basic
import ConversationBus.Cli.Disk
import ConversationBus.Config.File

/-!
# Starting a bus from its configuration file

Whatever the configuration file is, the settings that are read from it are never refused. What can
keep a bus from starting is a size in the file that no queue can be made with: a zero is replaced
when the settings are read, a size beyond the greatest is not.
-/

namespace ConversationBus

namespace BusConfig

variable {members : Toml.Members} {key : String} {standard size : Nat} {config : BusConfig}

def sizeKeys : List String :=
  ["max_in_flight", "error_buffer", "ingress_buffer"]

/-- An integer that a document gives for a setting. -/
def integerOf? (members : Toml.Members) (key : String) : Option Int :=
  match members.lookup key with
  | some (.integer value) => some value
  | _ => none

/-- The document of a file, if it is one in which each setting is of its type. -/
def document? (content : Option (List UInt8)) : Option Toml.Members :=
  ((content.bind Utf8.decodeText?).bind Toml.parse?).filter fun members =>
    (ofMembers? members).isSome

/-- The file gives a size that is beyond what a queue can be made with. -/
def Oversized (content : Option (List UInt8)) : Prop :=
  ∃ members ∈ document? content, ∃ key ∈ sizeKeys, ∃ size ∈ integerOf? members key,
    (greatestPermits : Int) < size

/-- A size is beyond the greatest just if the document gives one that is. -/
theorem sizeOf?_beyond (usual : standard ≤ greatestPermits)
    (given : sizeOf? members key standard = some size) :
    greatestPermits < size ↔
      ∃ value ∈ integerOf? members key, (greatestPermits : Int) < value := by
  simp only [sizeOf?] at given
  simp only [integerOf?]
  split at given
  next absent =>
    cases given
    simp only [absent, Option.mem_def, reduceCtorEq, false_and, exists_false, iff_false]
    omega
  next value found =>
    split at given
    next positive =>
      cases given
      simp only [found, Option.mem_def, Option.some.injEq, exists_eq_left']
      omega
    next => cases given
  next => cases given

/-- The sizes of the settings that a document gives. -/
theorem ofMembers?_some (given : ofMembers? members = some config) :
    sizeOf? members "max_in_flight" BusConfig.standard.maxInFlight = some config.maxInFlight ∧
      sizeOf? members "error_buffer" BusConfig.standard.errorBuffer = some config.errorBuffer ∧
      sizeOf? members "ingress_buffer" BusConfig.standard.ingressBuffer =
        some config.ingressBuffer := by
  simp only [ofMembers?, Option.bind_eq_bind, Option.bind_eq_some_iff] at given
  rcases given with ⟨budget, first, errors, second, ingress, third, url, _, given⟩
  cases given
  exact ⟨first, second, third⟩

/-- A size of the settings is beyond the greatest. -/
def Beyond (config : BusConfig) : Prop :=
  greatestPermits < config.maxInFlight ∨ greatestPermits < config.errorBuffer ∨
    greatestPermits < config.ingressBuffer

theorem ofMembers?_beyond (given : ofMembers? members = some config) :
    config.Beyond ↔ ∃ key ∈ sizeKeys, ∃ size ∈ integerOf? members key,
      (greatestPermits : Int) < size := by
  rcases ofMembers?_some given with ⟨budget, errors, ingress⟩
  simp only [Beyond, sizeKeys, List.mem_cons, List.not_mem_nil, or_false, exists_eq_or_imp,
    exists_eq_left, sizeOf?_beyond (by decide) budget, sizeOf?_beyond (by decide) errors,
    sizeOf?_beyond (by decide) ingress]

/-- Zeros are replaced by sizes that are not beyond the greatest. -/
theorem usable_beyond : config.usable.Beyond ↔ config.Beyond := by
  have budget : greatestPermits < config.usable.maxInFlight ↔
      greatestPermits < config.maxInFlight := by
    simp only [usable]
    split
    next zero => simp [zero, BusConfig.standard, greatestPermits]
    next => rfl
  have errors : greatestPermits < config.usable.errorBuffer ↔
      greatestPermits < config.errorBuffer := by
    simp only [usable]
    split
    next zero => simp [zero, BusConfig.standard, greatestPermits]
    next => rfl
  rw [Beyond, Beyond, budget, errors]
  rfl

/-- The settings that are read from a file. -/
theorem ofFile_cases (content : Option (List UInt8)) :
    (document? content = none ∧ ofFile content = .standard) ∨
      ∃ members config, document? content = some members ∧
        ofMembers? members = some config ∧ ofFile content = config.usable := by
  cases content with
  | none => exact .inl ⟨rfl, rfl⟩
  | some bytes =>
      simp only [ofFile, document?, Option.bind_some]
      cases (Utf8.decodeText? bytes).bind Toml.parse? with
      | none => exact .inl ⟨rfl, rfl⟩
      | some members =>
          simp only [Option.bind_some]
          cases given : ofMembers? members with
          | none => exact .inl ⟨by simp [given], rfl⟩
          | some config => exact .inr ⟨members, config, by simp [given], given, rfl⟩

theorem ofFile_beyond (content : Option (List UInt8)) :
    (ofFile content).Beyond ↔ Oversized content := by
  rcases ofFile_cases content with ⟨none, standard⟩ | ⟨members, config, found, given, equal⟩
  · rw [standard, Oversized, none]
    simp [Beyond, BusConfig.standard, greatestPermits]
  · rw [equal, usable_beyond, ofMembers?_beyond given, Oversized, found]
    simp

theorem usable_positive (config : BusConfig) :
    config.usable.maxInFlight ≠ 0 ∧ config.usable.errorBuffer ≠ 0 := by
  simp only [usable]
  constructor
  · split
    next => decide
    next some => exact some
  · split
    next => decide
    next some => exact some

/-- The budget and the error stream that are read from a file are never empty. -/
theorem ofFile_positive (content : Option (List UInt8)) :
    (ofFile content).maxInFlight ≠ 0 ∧ (ofFile content).errorBuffer ≠ 0 := by
  rcases ofFile_cases content with ⟨_, standard⟩ | ⟨_, config, _, _, equal⟩
  · rw [standard]
    decide
  · rw [equal]
    exact usable_positive config

/-- The ingress queue is beyond the greatest only together with the budget or its own setting. -/
theorem beyond_iff_capacity :
    config.Beyond ↔ greatestPermits < config.maxInFlight ∨
      greatestPermits < config.errorBuffer ∨ greatestPermits < config.ingressCapacity := by
  have least : 1 ≤ greatestPermits := by decide
  simp only [Beyond, ingressCapacity]
  split
  next zero =>
    rw [zero]
    omega
  next => rfl

end BusConfig

namespace Bus

variable {config : BusConfig}

/-- A bus starts with sizes that are not zero and not beyond the greatest. -/
theorem start_of_positive (positive : config.maxInFlight ≠ 0 ∧ config.errorBuffer ≠ 0) :
    Bus.start config =
      if greatestPermits < config.maxInFlight ∨ greatestPermits < config.errorBuffer ∨
          greatestPermits < config.ingressCapacity then .error .tooManyPermits
      else .ok (ofConfig config) := by
  rw [start, if_neg positive.1, if_neg positive.2]

/-- Whatever is found at the place of the configuration file, a bus starts with the settings that
are read from it, unless the file gives a size beyond the greatest. In that case, and in no other,
it stops the program. -/
theorem starts_iff_not_oversized (found : Except Cli.FileError (List UInt8)) :
    (Bus.start (.ofFile found.toOption) = .ok (ofConfig (.ofFile found.toOption)) ↔
        ¬ BusConfig.Oversized found.toOption) ∧
      (Bus.start (.ofFile found.toOption) = .error .tooManyPermits ↔
        BusConfig.Oversized found.toOption) := by
  rw [start_of_positive (BusConfig.ofFile_positive _), ← BusConfig.ofFile_beyond,
    BusConfig.beyond_iff_capacity]
  split
  next beyond => simp [beyond]
  next within => simp [within]

/-- A file with the greatest integer that a document can have as the budget. -/
theorem starts_iff_not_oversized_greatest :
    ∃ content : List UInt8, content = "max_in_flight = 9223372036854775807".toUTF8.toList ∧
      BusConfig.Oversized (some content) ∧
      Bus.start (.ofFile (some content)) = .error .tooManyPermits := by
  have given : (BusConfig.document? (some "max_in_flight = 9223372036854775807".toUTF8.toList)).any
      (fun members => (BusConfig.integerOf? members "max_in_flight").any
        fun size => (greatestPermits : Int) < size) = true := by
    decide +kernel
  simp only [Option.any_eq_true, decide_eq_true_eq] at given
  rcases given with ⟨members, found, size, present, beyond⟩
  have oversized : BusConfig.Oversized
      (some "max_in_flight = 9223372036854775807".toUTF8.toList) :=
    ⟨members, found, "max_in_flight", by decide, size, present, beyond⟩
  exact ⟨_, rfl, oversized, (starts_iff_not_oversized (.ok _)).2.mpr oversized⟩

end Bus

end ConversationBus
