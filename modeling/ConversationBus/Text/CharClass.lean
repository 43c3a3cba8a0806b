/-!
# Character classes

The two classes that identifiers are checked against, and trimming by the first of them. Both are
Unicode properties, so a no-break space counts as blank and U+0085 belongs to both classes.
-/

namespace ConversationBus.Text

/-- The characters with the Unicode property `White_Space`. -/
def isBlank (c : Char) : Bool :=
  let code := c.toNat
  (9 ≤ code && code ≤ 13) || code == 0x20 || code == 0x85 || code == 0xA0 || code == 0x1680 ||
    (0x2000 ≤ code && code ≤ 0x200A) || code == 0x2028 || code == 0x2029 || code == 0x202F ||
    code == 0x205F || code == 0x3000

/-- The characters of the Unicode general category `Cc`. -/
def isControl (c : Char) : Bool :=
  let code := c.toNat
  code < 0x20 || (0x7F ≤ code && code ≤ 0x9F)

/-- A decimal digit of ASCII. -/
def isDigit (c : Char) : Bool :=
  '0' ≤ c && c ≤ '9'

/-- The text without its leading blanks. -/
def trimStart (text : List Char) : List Char :=
  text.dropWhile isBlank

/-- The text without its trailing blanks. -/
def trimEnd (text : List Char) : List Char :=
  (text.reverse.dropWhile isBlank).reverse

def trim (text : List Char) : List Char :=
  trimEnd (trimStart text)

/-- Whether a string has nothing but blanks in it. -/
def allBlank (text : String) : Bool :=
  (trim text.toList).isEmpty

end ConversationBus.Text
