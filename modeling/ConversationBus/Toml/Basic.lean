/-!
# TOML tables

The tree that a TOML document describes, and the rules on who may define a table: a header defines
a table once, dotted keys extend only tables that dotted keys began, and an inline table is closed
where it ends.
-/

namespace ConversationBus.Toml

/-- How a table came to be. -/
inductive Origin where
  /-- Written between braces. -/
  | inline
  /-- Opened by a header. -/
  | header
  /-- Passed through by the header of a table inside it. -/
  | implied
  /-- Begun by dotted keys. -/
  | dotted
  deriving DecidableEq, Repr

/-- A node of a document. Floats and times are kept as they are written. -/
inductive Node where
  | string (text : String)
  | integer (value : Int)
  | float (text : String)
  | boolean (value : Bool)
  | time (text : String)
  | array (items : List Node)
  | table (origin : Origin) (members : List (String × Node))
  /-- The tables of repeated headers, the current one last. -/
  | tables (earlier : List (List (String × Node))) (last : List (String × Node))
  deriving Repr, Inhabited

abbrev Members := List (String × Node)

namespace Members

/-- Puts a node under a key, in place of one that is there. -/
def set (key : String) (node : Node) : Members → Members
  | [] => [(key, node)]
  | (other, held) :: rest =>
    if other = key then (key, node) :: rest else (other, held) :: set key node rest

/-- Changes the table that a node stands for, if others may add to it. -/
def inside (change : Origin → Members → Option Members) : Node → Option Node
  | .table .inline _ => none
  | .table origin members => (change origin members).map (.table origin)
  | .tables earlier last => (change .header last).map (.tables earlier)
  | _ => none

/-- Defines the key at the end of a dotted path. The tables on the way are ones that dotted keys
began, or are begun now. -/
def define (node : Node) (nested : Bool) (origin : Origin) :
    List String → Members → Option Members
  | [], _ => none
  | [key], members =>
    if nested ≠ decide (origin = .dotted) then none
    else match members.lookup key with
      | some _ => none
      | none => some (set key node members)
  | key :: path, members =>
    match members.lookup key with
    | none =>
      (define node true .dotted path []).map fun inner => set key (.table .dotted inner) members
    | some (.table .header _) => none
    | some held =>
      (inside (fun origin inner => define node true origin path inner) held).map
        (set key · members)

/-- Opens the table of a header. -/
def openTable : List String → Members → Option Members
  | [], _ => none
  | [key], members =>
    match members.lookup key with
    | none => some (set key (.table .header []) members)
    | some (.table .implied inner) => some (set key (.table .header inner) members)
    | some _ => none
  | key :: path, members =>
    match members.lookup key with
    | none => (openTable path []).map fun inner => set key (.table .implied inner) members
    | some held => (inside (fun _ inner => openTable path inner) held).map (set key · members)

/-- Opens one more table under a repeated header. -/
def openRepeated : List String → Members → Option Members
  | [], _ => none
  | [key], members =>
    match members.lookup key with
    | none => some (set key (.tables [] []) members)
    | some (.tables earlier last) => some (set key (.tables (earlier ++ [last]) []) members)
    | some _ => none
  | key :: path, members =>
    match members.lookup key with
    | none => (openRepeated path []).map fun inner => set key (.table .implied inner) members
    | some held => (inside (fun _ inner => openRepeated path inner) held).map (set key · members)

/-- Changes the table of the last header. -/
def within (change : Members → Option Members) : List String → Members → Option Members
  | [], members => change members
  | key :: path, members =>
    match members.lookup key with
    | none => none
    | some held => (inside (fun _ inner => within change path inner) held).map (set key · members)

end Members

end ConversationBus.Toml
