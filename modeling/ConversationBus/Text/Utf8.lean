/-!
# UTF-8

Bytes to characters and back. Reading never fails: a byte that belongs to no well-formed sequence
is kept as it is, so that a format may skip over ill-formed text where its content does not
matter. Every ASCII byte is read as its character whatever stands before it.
-/

namespace ConversationBus.Utf8

/-- One unit of a text read from bytes: a character, or a byte that belongs to none. -/
inductive Glyph where
  | char (c : Char)
  | junk (byte : UInt8)
  deriving DecidableEq, Repr

/-- The bytes of a text. -/
def encode (text : List Char) : List UInt8 :=
  text.flatMap String.utf8EncodeChar

/-- The character whose encoding begins the bytes. A sequence has at most four bytes. -/
def decodeChar? (bytes : List UInt8) : Option Char :=
  (bytes.take 4).toByteArray.utf8DecodeChar? 0

/-- Reads a text, keeping the bytes that belong to no character. -/
def decode (bytes : List UInt8) : List Glyph :=
  match bytes with
  | [] => []
  | byte :: rest =>
    match decodeChar? (byte :: rest) with
    | some c => .char c :: decode (rest.drop (c.utf8Size - 1))
    | none => .junk byte :: decode rest
termination_by bytes.length
decreasing_by all_goals simp only [List.length_drop, List.length_cons]; omega

/-- The characters of a text that has no ill-formed part. -/
def Glyph.chars? : List Glyph → Option (List Char)
  | [] => some []
  | .char c :: rest => (chars? rest).map (c :: ·)
  | .junk _ :: _ => none

/-- The text whose encoding the bytes are. -/
def decodeText? (bytes : List UInt8) : Option String :=
  (Glyph.chars? (decode bytes)).map String.ofList

def encodeText (text : String) : List UInt8 :=
  encode text.toList

end ConversationBus.Utf8
