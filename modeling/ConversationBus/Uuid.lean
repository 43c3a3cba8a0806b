import ConversationBus.Text.Hex

/-!
# UUIDs

A UUID is a row of 32 hexadecimal digits. It is written in lower case with hyphens, and read from
any of its four usual spellings. Its version is one digit; only the versions that order UUIDs by
time are of interest here, but each has a name.
-/

namespace ConversationBus

/-- The named versions of UUIDs, with the two special values. -/
inductive UuidVersion where
  | nil
  | macAddress
  | dceSecurity
  | md5Name
  | random
  | sha1Name
  | sortedMacAddress
  | sortedRandom
  | custom
  | max
  deriving DecidableEq, Repr

/-- The short name that messages use for a version. -/
def UuidVersion.label : UuidVersion → String
  | .nil => "Nil"
  | .macAddress => "Mac"
  | .dceSecurity => "Dce"
  | .md5Name => "Md5"
  | .random => "Random"
  | .sha1Name => "Sha1"
  | .sortedMacAddress => "SortMac"
  | .sortedRandom => "SortRand"
  | .custom => "Custom"
  | .max => "Max"

/-- A UUID, as its 32 hexadecimal digits. -/
structure Uuid where
  digits : List (Fin 16)
  length_digits : digits.length = 32
  deriving DecidableEq

namespace Uuid

/-- The UUID with the given digits, if there are 32 of them. -/
def ofDigits? (digits : List (Fin 16)) : Option Uuid :=
  if h : digits.length = 32 then some ⟨digits, h⟩ else none

/-- The version digit, the thirteenth. The digit of the variant plays no part. -/
def versionDigit (uuid : Uuid) : Fin 16 :=
  uuid.digits.get ⟨12, by simp [uuid.length_digits]⟩

/-- The version of a UUID. Digits 0 and 15 name one UUID each, that of all zeros and that of all
ones. -/
def version? (uuid : Uuid) : Option UuidVersion :=
  match uuid.versionDigit with
  | 0 => if uuid.digits.all (· == 0) then some .nil else none
  | 1 => some .macAddress
  | 2 => some .dceSecurity
  | 3 => some .md5Name
  | 4 => some .random
  | 5 => some .sha1Name
  | 6 => some .sortedMacAddress
  | 7 => some .sortedRandom
  | 8 => some .custom
  | 15 => if uuid.digits.all (· == 15) then some .max else none
  | _ => none

/-- The lengths of the groups that hyphens set apart. -/
def groups : List Nat := [8, 4, 4, 4, 12]

/-- Writes groups of digits with hyphens between them. -/
def writeGroups : List Nat → List (Fin 16) → List Char
  | [], _ => []
  | [width], digits => (digits.take width).map Hex.digit
  | width :: more, digits =>
    (digits.take width).map Hex.digit ++ '-' :: writeGroups more (digits.drop width)

/-- The hyphenated form in lower case. -/
def text (uuid : Uuid) : String :=
  String.ofList (writeGroups groups uuid.digits)

/-- Removes the hyphens from a text whose groups have the given lengths. -/
def joinGroups? : List Nat → List Char → Option (List Char)
  | [], text => if text.isEmpty then some [] else none
  | [width], text => if text.length = width then some text else none
  | width :: more, text =>
    match text.drop width with
    | '-' :: rest => (joinGroups? more rest).map (text.take width ++ ·)
    | _ => none

def ofHyphenated? (text : List Char) : Option Uuid := do
  let row ← joinGroups? groups text
  ofDigits? (← row.mapM Hex.value?)

/-- What stands before the hyphenated form in a UUID that is written as a URN. -/
def urnStart : List Char := "urn:uuid:".toList

/-- Reads any of the four spellings: plain digits, hyphenated, in braces, or as a URN. -/
def parse? (text : String) : Option Uuid :=
  let chars := text.toList
  if chars.length = 32 then do ofDigits? (← chars.mapM Hex.value?)
  else if (chars.take 9).map Char.toLower = urnStart then ofHyphenated? (chars.drop 9)
  else match chars with
    | '{' :: rest =>
      if rest.getLast? = some '}' then ofHyphenated? rest.dropLast else none
    | _ => ofHyphenated? chars

end Uuid

end ConversationBus
