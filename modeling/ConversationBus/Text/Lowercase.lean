import ConversationBus.Text.LetterCase

/-!
# Lowercasing

Full Unicode lowercasing of a string. Every character is lowercased by itself, with two
exceptions: U+0130 becomes two characters, and a capital sigma becomes the final form at the end
of a word. A sigma ends a word when the nearest character before it that is not ignorable is
cased, and the nearest such character after it is not.
-/

namespace ConversationBus.Text

/-- Whether a code point lies in one of the ranges. -/
def inRanges (ranges : Array (Nat × Nat)) (code : Nat) : Bool :=
  ranges.any fun range => range.1 ≤ code && code ≤ range.2

/-- Cased characters that are not ignored beside a sigma. -/
def isCased (c : Char) : Bool :=
  inRanges casedRanges c.toNat

/-- Characters that do not count when the neighbours of a sigma are inspected. -/
def isCaseIgnorable (c : Char) : Bool :=
  inRanges caseIgnorableRanges c.toNat

/-- The lowercase code point that a run of the case data gives to a code point. -/
def CaseRun.lower? (run : CaseRun) (code : Nat) : Option Nat :=
  if run.first ≤ code && code ≤ run.last && (code - run.first) % run.step == 0 then
    some (run.lower + (code - run.first))
  else none

/-- The lowercase form of one character, out of context. -/
def lowercaseChar (c : Char) : List Char :=
  if c.toNat < 0x80 then [c.toLower]
  else if c.toNat = 0x130 then ['i', Char.ofNat 0x307]
  else match lowercaseRuns.findSome? (·.lower? c.toNat) with
    | some code => [Char.ofNat code]
    | none => [c]

/-- Whether the first character that is not ignorable is cased. -/
def startsCased (text : List Char) : Bool :=
  match text.dropWhile isCaseIgnorable with
  | c :: _ => isCased c
  | [] => false

/-- Lowercases `text`, given what stands before it in reverse order. -/
def lowercaseFrom (before : List Char) : List Char → List Char
  | [] => []
  | c :: rest =>
    let lower :=
      if c = 'Σ' then
        if startsCased before && !startsCased rest then ['ς'] else ['σ']
      else lowercaseChar c
    lower ++ lowercaseFrom (c :: before) rest

/-- The full lowercase form of a string. -/
def lowercase (text : String) : String :=
  String.ofList (lowercaseFrom [] text.toList)

end ConversationBus.Text
