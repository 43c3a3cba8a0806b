import ConversationBus.Text.Utf8

/-!
# Lines

Bytes cut into lines. A line ends with a line feed, which may follow a carriage return; neither is
part of the line. A last line may go without an end.
-/

namespace ConversationBus.Lines

/-- Splits bytes at line feeds. The last part is what follows the last line feed. -/
def split : List UInt8 → List (List UInt8) × List UInt8
  | [] => ([], [])
  | byte :: rest =>
    let (lines, last) := split rest
    if byte = 10 then ([] :: lines, last)
    else match lines with
      | [] => ([], byte :: last)
      | line :: lines => ((byte :: line) :: lines, last)

/-- Leaves out a carriage return at the end of a line. -/
def dropReturn : List UInt8 → List UInt8
  | [] => []
  | [13] => []
  | byte :: rest => byte :: dropReturn rest

def ofBytes (bytes : List UInt8) : List (List UInt8) :=
  let (lines, last) := split bytes
  lines.map dropReturn ++ if last.isEmpty then [] else [last]

/-- The lines of some bytes as texts, with nothing for a line that is not UTF-8. -/
def texts (bytes : List UInt8) : List (Option String) :=
  (ofBytes bytes).map Utf8.decodeText?

end ConversationBus.Lines
