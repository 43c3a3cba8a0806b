import ConversationBus.Json.Binary64
import ConversationBus.Text.Decimal
import ConversationBus.Text.Hex
import ConversationBus.Time.Instant
import ConversationBus.Toml.Basic

/-!
# TOML scalars

Strings in their four forms, integers, floats and times. A reader returns what it read together
with the text that follows.
-/

namespace ConversationBus.Toml

/-- A blank within a line. -/
def isSpace (c : Char) : Bool :=
  c = ' ' || c = '\t'

/-- A character that may stand in comments and strings: any but the controls, of which the tab is
allowed. -/
def isPrintable (c : Char) : Bool :=
  c = '\t' || (0x20 ≤ c.toNat && c.toNat ≠ 0x7F)

/-- Leaves out blanks within a line. -/
def skipSpaces (text : List Char) : List Char :=
  text.dropWhile isSpace

def readNewline : List Char → Option (List Char)
  | '\n' :: rest => some rest
  | '\r' :: '\n' :: rest => some rest
  | _ => none

def readWord : List Char → List Char → Option (List Char)
  | [], text => some text
  | c :: word, d :: rest => if c = d then readWord word rest else none
  | _ :: _, [] => none

/-! ## Strings -/

def readHex : Nat → Nat → List Char → Option (Nat × List Char)
  | 0, value, text => some (value, text)
  | _ + 1, _, [] => none
  | digits + 1, value, c :: rest =>
    (Hex.value? c).bind fun digit => readHex digits (value * 16 + digit) rest

/-- Reads an escaped code of so many digits, which has to be one of a character. -/
def readCode (digits : Nat) (text : List Char) : Option (Char × List Char) := do
  let (code, rest) ← readHex digits 0 text
  if code.isValidChar then some (Char.ofNat code, rest) else none

/-- Reads what follows a backslash. -/
def readEscape : List Char → Option (Char × List Char)
  | 'b' :: rest => some ('\x08', rest)
  | 't' :: rest => some ('\t', rest)
  | 'n' :: rest => some ('\n', rest)
  | 'f' :: rest => some ('\x0c', rest)
  | 'r' :: rest => some ('\r', rest)
  | '"' :: rest => some ('"', rest)
  | '\\' :: rest => some ('\\', rest)
  | 'u' :: rest => readCode 4 rest
  | 'U' :: rest => readCode 8 rest
  | _ => none

/-- Reads the blanks and line breaks after a backslash that ends a line. -/
def skipBreaks : Nat → List Char → List Char
  | 0, text => text
  | fuel + 1, text =>
    match readNewline (skipSpaces text) with
    | some rest => skipBreaks fuel rest
    | none => skipSpaces text

/-- Reads the backslash at the end of a line, after which blanks do not count. -/
def readLineEnd (text : List Char) : Option (List Char) :=
  (readNewline (skipSpaces text)).map fun rest => skipBreaks rest.length rest

/-- The number of times that a quote begins the text, up to five. -/
def countQuotes (quote : Char) (text : List Char) : Nat :=
  ((text.take 5).takeWhile (· = quote)).length

/-- Reads a string of one line up to its closing quote. A string between double quotes has
escapes. -/
def readLineString (quote : Char) : Nat → List Char → Option (List Char × List Char)
  | 0, _ => none
  | _ + 1, [] => none
  | fuel + 1, c :: rest =>
    if c = quote then some ([], rest)
    else if c = '\\' ∧ quote = '"' then do
      let (d, rest) ← readEscape rest
      let (content, rest) ← readLineString quote fuel rest
      some (d :: content, rest)
    else if isPrintable c then
      (readLineString quote fuel rest).map fun (content, rest) => (c :: content, rest)
    else none

/-- Reads a string of several lines up to its three closing quotes, before which there may be two
more that belong to the string. -/
def readBlockString (quote : Char) : Nat → List Char → Option (List Char × List Char)
  | 0, _ => none
  | _ + 1, [] => none
  | fuel + 1, c :: rest =>
    if c = quote then
      let quotes := countQuotes quote (c :: rest)
      if 3 ≤ quotes then
        some (List.replicate (quotes - 3) quote, (c :: rest).drop quotes)
      else (readBlockString quote fuel rest).map fun (content, rest) => (c :: content, rest)
    else if c = '\\' ∧ quote = '"' then
      match readLineEnd rest with
      | some rest => readBlockString quote fuel rest
      | none => do
        let (d, rest) ← readEscape rest
        let (content, rest) ← readBlockString quote fuel rest
        some (d :: content, rest)
    else match readNewline (c :: rest) with
      | some rest => (readBlockString quote fuel rest).map fun (content, rest) =>
        ('\n' :: content, rest)
      | none =>
        if isPrintable c then
          (readBlockString quote fuel rest).map fun (content, rest) => (c :: content, rest)
        else none

/-- Reads a string after the quote that begins it. Three quotes begin a string of several lines,
whose first line break does not count if it comes at once. -/
def readString (quote : Char) (text : List Char) : Option (String × List Char) :=
  let content := match readWord [quote, quote] text with
    | some rest =>
      let rest := (readNewline rest).getD rest
      readBlockString quote (rest.length + 1) rest
    | none => readLineString quote (text.length + 1) text
  content.map fun (content, rest) => (String.ofList content, rest)

/-! ## Numbers -/

/-- Reads digits with single underscores between them. -/
def readDigits (isDigit : Char → Bool) : List Char → Option (List Char × List Char)
  | [] => none
  | [c] => if isDigit c then some ([c], []) else none
  | c :: '_' :: rest =>
    if isDigit c then (readDigits isDigit rest).map fun (row, rest) => (c :: row, rest) else none
  | c :: d :: rest =>
    if isDigit c then
      if isDigit d then
        (readDigits isDigit (d :: rest)).map fun (row, rest) => (c :: row, rest)
      else some ([c], d :: rest)
    else none

/-- Reads an optional sign, which is negative or not. -/
def readSign : List Char → Bool × List Char
  | '-' :: rest => (true, rest)
  | '+' :: rest => (false, rest)
  | text => (false, text)

/-- Reads digits of a decimal number, which begin with zero only if that is all. -/
def readWhole : List Char → Option (List Char × List Char)
  | '0' :: rest => some (['0'], rest)
  | text => readDigits Text.isDigit text

/-- The least and the greatest integer. -/
def leastInteger : Int := -0x8000000000000000

@[inherit_doc leastInteger]
def greatestInteger : Int := 0x7FFFFFFFFFFFFFFF

/-- An integer in range as a node. -/
def integer? (value : Int) : Option Node :=
  if leastInteger ≤ value ∧ value ≤ greatestInteger then some (.integer value) else none

/-- Reads a number with a base other than ten after its two leading characters. -/
def readBased (base : Nat) (text : List Char) : Option (Node × List Char) := do
  let digit? (c : Char) : Option (Fin 16) := (Hex.value? c).filter (·.val < base)
  let (row, rest) ← readDigits (fun c => (digit? c).isSome) text
  let value := row.foldl (fun value c => value * base + ((digit? c).map (·.val)).getD 0) 0
  (integer? value).map (·, rest)

/-- Reads the point of a float and the digits after it. -/
def readFraction : List Char → Option (List Char × List Char)
  | '.' :: rest => readDigits Text.isDigit rest
  | _ => none

def readExponent : List Char → Option (Int × List Char)
  | c :: rest =>
    if c = 'e' ∨ c = 'E' then
      let (negative, rest) := readSign rest
      (readDigits Text.isDigit rest).map fun (row, rest) =>
        (if negative then -(Decimal.value row : Int) else Decimal.value row, rest)
    else none
  | [] => none

/-- The text that a reader has taken. -/
def taken (before after : List Char) : String :=
  String.ofList (before.take (before.length - after.length))

/-- A float as a node. A number that is too great is refused; one that is too small is not. -/
def float? (negative : Bool) (whole fraction : List Char) (exponent : Int) (text : String) :
    Option Node :=
  let value := Binary64.ofDecimal? false (Decimal.value (whole ++ fraction))
    (exponent - fraction.length)
  if value.isNone ∧ ¬ negative then none else some (.float text)

/-- Reads a decimal number. -/
def readDecimal (text : List Char) : Option (Node × List Char) := do
  let (negative, unsigned) := readSign text
  let (whole, rest) ← readWhole unsigned
  match readFraction rest with
  | some (fraction, rest) =>
    let (exponent, rest) := (readExponent rest).getD (0, rest)
    (float? negative whole fraction exponent (taken text rest)).map (·, rest)
  | none =>
    match readExponent rest with
    | some (exponent, rest) =>
      (float? negative whole [] exponent (taken text rest)).map (·, rest)
    | none =>
      let magnitude : Int := Decimal.value whole
      (integer? (if negative then -magnitude else magnitude)).map (·, rest)

/-- Reads one of the floats that are named. -/
def readNamedFloat (text : List Char) : Option (Node × List Char) :=
  let rest := (readSign text).2
  match readWord "inf".toList rest, readWord "nan".toList rest with
  | some rest, _ | none, some rest => some (.float (taken text rest), rest)
  | none, none => none

def readNumber : List Char → Option (Node × List Char)
  | '0' :: 'x' :: rest => readBased 16 rest
  | '0' :: 'o' :: rest => readBased 8 rest
  | '0' :: 'b' :: rest => readBased 2 rest
  | text => (readNamedFloat text).or (readDecimal text)

/-! ## Times -/

/-- Reads a number of so many digits within bounds. -/
def readPart (width least most : Nat) (text : List Char) : Option (Nat × List Char) := do
  let (value, rest) ← Decimal.read width width text
  if least ≤ value ∧ value ≤ most then some (value, rest) else none

/-- Reads a date that exists. -/
def readDate (text : List Char) : Option (List Char) := do
  let (year, text) ← readPart 4 0 9999 text
  let text ← readWord ['-'] text
  let (month, text) ← readPart 2 1 12 text
  let text ← readWord ['-'] text
  let (_, text) ← readPart 2 1 (Date.daysInMonth year month) text
  some text

/-- Reads the digits after the seconds, if there are any. -/
def skipSecondFraction (text : List Char) : List Char :=
  match text with
  | '.' :: rest =>
    match Decimal.splitRow rest.length rest with
    | ([], _) => text
    | (_, rest) => rest
  | _ => text

def readClock (text : List Char) : Option (List Char) := do
  let (_, text) ← readPart 2 0 23 text
  let text ← readWord [':'] text
  let (_, text) ← readPart 2 0 59 text
  let text ← readWord [':'] text
  let (_, text) ← readPart 2 0 60 text
  some (skipSecondFraction text)

def readOffset : List Char → Option (List Char)
  | [] => none
  | c :: rest =>
    if c = 'Z' ∨ c = 'z' then some rest
    else if c = '+' ∨ c = '-' then do
      let (_, text) ← readPart 2 0 23 rest
      let text ← readWord [':'] text
      let (_, text) ← readPart 2 0 59 text
      some text
    else none

/-- Reads the time of day that may follow a date. -/
def readAfterDate : List Char → Option (List Char)
  | [] => none
  | c :: rest =>
    if c = 'T' ∨ c = 't' ∨ c = ' ' then
      (readClock rest).map fun rest => (readOffset rest).getD rest
    else none

/-- Reads a date, a time of day, or both. -/
def readTime (text : List Char) : Option (Node × List Char) :=
  let rest := match readDate text with
    | some rest => some ((readAfterDate rest).getD rest)
    | none => readClock text
  rest.map fun rest => (.time (taken text rest), rest)

end ConversationBus.Toml
