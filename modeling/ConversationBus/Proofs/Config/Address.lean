import ConversationBus.Config.Address
import ConversationBus.Proofs.Text.Utf8
import Mathlib.Data.List.TakeWhile

/-!
# Paths that an address carries unchanged

An address is made of a path by putting the scheme in front of it, and nothing in the path is
escaped. Reading the address takes away every scheme, cuts at the first question mark and puts
bytes for the escapes. Each of these steps makes the text shorter or leaves it as it is, so the
path comes back only if none of them finds anything to do.
-/

namespace ConversationBus.StoreAddress

/-! ## Escapes -/

/-- A percent sign with two hexadecimal digits after it stands in a text. -/
def Escaped (text : List Char) : Prop :=
  ∃ high low, (Hex.value? high).isSome ∧ (Hex.value? low).isSome ∧ ['%', high, low] <:+: text

/-- A byte that stands for a hexadecimal digit. -/
def IsHexByte (byte : UInt8) : Prop :=
  (Hex.value? (Char.ofNat byte.toNat)).isSome

/-- The same of bytes. -/
def EscapedBytes (bytes : List UInt8) : Prop :=
  ∃ high low, IsHexByte high ∧ IsHexByte low ∧ [37, high, low] <:+: bytes

theorem not_escapedBytes_nil : ¬ EscapedBytes [] := by
  rintro ⟨high, low, _, _, part⟩
  cases List.infix_nil.mp part

theorem escapedBytes_cons_iff {byte : UInt8} {rest : List UInt8} :
    EscapedBytes (byte :: rest) ↔
      (∃ high low later, IsHexByte high ∧ IsHexByte low ∧ byte = 37 ∧
        rest = high :: low :: later) ∨ EscapedBytes rest := by
  constructor
  · rintro ⟨high, low, isHigh, isLow, part⟩
    rcases List.infix_cons_iff.mp part with ⟨later, front⟩ | part
    · cases front
      exact .inl ⟨high, low, later, isHigh, isLow, rfl, rfl⟩
    · exact .inr ⟨high, low, isHigh, isLow, part⟩
  · rintro (⟨high, low, later, isHigh, isLow, rfl, rfl⟩ | ⟨high, low, isHigh, isLow, part⟩)
    · exact ⟨high, low, isHigh, isLow, List.prefix_append [37, high, low] later |>.isInfix⟩
    · exact ⟨high, low, isHigh, isLow, part.trans (List.infix_cons (List.infix_refl rest))⟩

theorem length_unescape_le (bytes : List UInt8) : (unescape bytes).length ≤ bytes.length := by
  fun_induction unescape bytes with
  | case1 => exact Nat.le_refl 0
  | case2 high low rest h l _ _ ih =>
      simp only [List.length_cons]
      omega
  | case3 high low rest _ ih => exact Nat.succ_le_succ ih
  | case4 byte rest _ ih => exact Nat.succ_le_succ ih

/-- What becomes of bytes: they are fewer where there was an escape, and the same where none was. -/
def Settled (bytes result : List UInt8) : Prop :=
  (EscapedBytes bytes ∧ result.length < bytes.length) ∨ (¬ EscapedBytes bytes ∧ result = bytes)

/-- A byte in front that begins no escape stays. -/
theorem Settled.cons {byte : UInt8} {rest result : List UInt8} (settled : Settled rest result)
    (plain : ∀ high low later, byte = 37 → rest = high :: low :: later →
      ¬ (IsHexByte high ∧ IsHexByte low)) : Settled (byte :: rest) (byte :: result) := by
  have later : EscapedBytes (byte :: rest) ↔ EscapedBytes rest := by
    refine escapedBytes_cons_iff.trans (or_iff_right ?_)
    rintro ⟨high, low, later, isHigh, isLow, percent, same⟩
    exact plain high low later percent same ⟨isHigh, isLow⟩
  rcases settled with ⟨escaped, shorter⟩ | ⟨unescaped, same⟩
  · exact .inl ⟨later.mpr escaped, Nat.succ_lt_succ shorter⟩
  · exact .inr ⟨mt later.mp unescaped, congrArg _ same⟩

theorem settled_unescape (bytes : List UInt8) : Settled bytes (unescape bytes) := by
  fun_induction unescape bytes with
  | case1 => exact .inr ⟨not_escapedBytes_nil, rfl⟩
  | case2 high low rest h l isLow isHigh _ =>
      refine .inl ⟨escapedBytes_cons_iff.mpr (.inl ⟨high, low, rest, ?_, ?_, rfl, rfl⟩), ?_⟩
      · rw [IsHexByte, isHigh, Option.isSome_some]
      · rw [IsHexByte, isLow, Option.isSome_some]
      · have fits := length_unescape_le rest
        simp only [List.length_cons]
        omega
  | case3 high low rest plain ih =>
      refine ih.cons ?_
      rintro _ _ _ _ same ⟨isHigh, isLow⟩
      cases same
      rcases Option.isSome_iff_exists.mp isHigh with ⟨h, isHigh⟩
      rcases Option.isSome_iff_exists.mp isLow with ⟨l, isLow⟩
      exact plain h l isHigh isLow
  | case4 byte rest other ih =>
      exact ih.cons fun high low later percent same _ => other high low later percent same

theorem toNat_lt_of_isHex {c : Char} (hex : (Hex.value? c).isSome) : c.toNat < 128 := by
  by_contra beyond
  rw [Hex.value?, dif_neg (by omega), dif_neg (by omega), dif_neg (by omega)] at hex
  cases hex

theorem IsHexByte.ascii {byte : UInt8} (hex : IsHexByte byte) : byte.toNat < 128 := by
  have ascii := toNat_lt_of_isHex hex
  rwa [Utf8.toNat_charOfNat] at ascii

/-- The bytes of a text have an escape where the text has one. -/
theorem escapedBytes_encode_iff {text : List Char} :
    EscapedBytes (Utf8.encode text) ↔ Escaped text := by
  constructor
  · rintro ⟨high, low, isHigh, isLow, before, after, split⟩
    rw [List.append_assoc] at split
    rcases Utf8.split_of_encode_eq (by decide) split.symm with ⟨front, rest, rfl, _, first⟩
    rcases Utf8.cons_of_encode_eq_cons isHigh.ascii first with ⟨rest, rfl, second⟩
    rcases Utf8.cons_of_encode_eq_cons isLow.ascii second with ⟨rest, rfl, _⟩
    refine ⟨_, _, isHigh, isLow, front, rest, ?_⟩
    rw [List.append_assoc]
    rfl
  · rintro ⟨high, low, isHigh, isLow, part⟩
    have first := toNat_lt_of_isHex isHigh
    have second := toNat_lt_of_isHex isLow
    refine ⟨UInt8.ofNat high.toNat, UInt8.ofNat low.toNat, ?_, ?_, ?_⟩
    · rwa [IsHexByte, Utf8.toNat_ofNat_ascii first, Char.ofNat_toNat]
    · rwa [IsHexByte, Utf8.toNat_ofNat_ascii second, Char.ofNat_toNat]
    · have bytes : Utf8.encode ['%', high, low] =
          [37, UInt8.ofNat high.toNat, UInt8.ofNat low.toNat] := by
        simp only [Utf8.encode, List.flatMap_cons, List.flatMap_nil,
          Utf8.utf8EncodeChar_ascii first, Utf8.utf8EncodeChar_ascii second]
        rfl
      rcases part with ⟨front, rest, rfl⟩
      refine ⟨Utf8.encode front, Utf8.encode rest, ?_⟩
      rw [← bytes, Utf8.encode, Utf8.encode, Utf8.encode, Utf8.encode, List.flatMap_append,
        List.flatMap_append]

/-! ## The path of an address -/

theorem path?_eq_self {text : List Char} (plain : ¬ Escaped text) :
    path? text = some (String.ofList text) := by
  have same : unescape (Utf8.encode text) = Utf8.encode text := by
    rcases settled_unescape (Utf8.encode text) with ⟨escaped, _⟩ | ⟨_, same⟩
    · exact absurd (escapedBytes_encode_iff.mp escaped) plain
    · exact same
  rw [path?, same, Utf8.decodeText?_encode]

/-- A path has no more bytes than what it is read from, and fewer if there is an escape. -/
theorem path?_eq_some {text : List Char} {path : String} (read : path? text = some path) :
    (Escaped text ∧ path.utf8ByteSize < (Utf8.encode text).length) ∨
      (¬ Escaped text ∧ path = String.ofList text) := by
  have bytes := Utf8.encodeText_of_decodeText? read
  rcases settled_unescape (Utf8.encode text) with ⟨escaped, shorter⟩ | ⟨plain, _⟩
  · refine .inl ⟨escapedBytes_encode_iff.mp escaped, ?_⟩
    rwa [← bytes, Utf8.encodeText, Utf8.length_encode_toList] at shorter
  · have unescaped := mt escapedBytes_encode_iff.mpr plain
    rw [path?_eq_self unescaped] at read
    exact .inr ⟨unescaped, (Option.some.inj read).symm⟩

/-! ## The scheme -/

variable {word text : List Char} {fuel : Nat}

theorem dropWord_suffix (word : List Char) (fuel : Nat) (text : List Char) :
    dropWord word fuel text <:+ text := by
  induction fuel generalizing text with
  | zero => exact List.suffix_refl text
  | succ fuel ih =>
      rw [dropWord]
      split
      next => exact (ih _).trans (List.drop_suffix _ _)
      next => exact List.suffix_refl text

theorem dropWord_of_absent (absent : ¬ word <+: text) : dropWord word fuel text = text := by
  cases fuel with
  | zero => rfl
  | succ fuel => rw [dropWord, if_neg (by rwa [List.isPrefixOf_iff_prefix])]

theorem dropWord_append : dropWord word (fuel + 1) (word ++ text) = dropWord word fuel text := by
  rw [dropWord, if_pos (List.isPrefixOf_iff_prefix.mpr (List.prefix_append word text)),
    List.drop_left]

/-- With enough fuel nothing is left out just if the word is not there. -/
theorem dropWord_length_eq_self_iff (nonempty : word ≠ []) :
    dropWord word text.length text = text ↔ ¬ word <+: text := by
  refine ⟨?_, dropWord_of_absent⟩
  rintro same ⟨rest, rfl⟩
  have positive := List.length_pos_iff.mpr nonempty
  have enough : (word ++ rest).length = word.length - 1 + rest.length + 1 := by
    rw [List.length_append]
    omega
  rw [enough, dropWord_append] at same
  have fits := (dropWord_suffix word (word.length - 1 + rest.length) rest).length_le
  rw [same] at fits
  omega

/-- What is left of an address without its scheme is an end of the path, and the whole of it just
if the path does not begin with a scheme. -/
theorem withoutScheme_cases (path : List Char) :
    withoutScheme ("sqlite://".toList ++ path) <:+ path ∧
      (withoutScheme ("sqlite://".toList ++ path) = path ↔ ¬ "sqlite:".toList <+: path) := by
  have long : ("sqlite://".toList ++ path).length = path.length + 8 + 1 := by
    rw [List.length_append, Nat.add_comm]
    rfl
  rw [withoutScheme, long, dropWord_append]
  generalize bare_eq : dropWord "sqlite://".toList (path.length + 8) path = bare
  have first : bare <:+ path := bare_eq ▸ dropWord_suffix _ _ path
  have second : dropWord "sqlite:".toList bare.length bare <:+ bare := dropWord_suffix _ _ bare
  refine ⟨second.trans first, fun same => ?_, fun absent => ?_⟩
  · have whole : bare = path := first.eq_of_length_le (by rw [← same]; exact second.length_le)
    rw [whole] at same
    exact (dropWord_length_eq_self_iff (by decide)).mp same
  · -- the longer word is there only if the shorter one is
    have longer : "sqlite:".toList <+: "sqlite://".toList := by decide
    rw [dropWord_of_absent fun present => absent (longer.trans present)] at bare_eq
    rw [← bare_eq]
    exact dropWord_of_absent absent

/-! ## Parameters -/

/-- No parameter makes an address the one of a file if it is not that already. -/
theorem apply_eq_file {address : StoreAddress} {parameter : String × String} {path : String}
    (applied : address.apply parameter = .ok (.file path)) : address = .file path := by
  unfold apply at applied
  split at applied <;> cases applied
  all_goals rfl

theorem foldlM_apply_eq_file {parameters : List (String × String)} {address : StoreAddress}
    {path : String} (applied : parameters.foldlM apply address = .ok (.file path)) :
    address = .file path := by
  induction parameters generalizing address with
  | nil => exact Except.ok.inj applied
  | cons parameter parameters ih =>
      rw [List.foldlM_cons] at applied
      cases first : address.apply parameter with
      | error error =>
          rw [first] at applied
          cases applied
      | ok next =>
          rw [first] at applied
          cases ih applied
          exact apply_eq_file first

/-! ## Addresses made of paths -/

/-- The paths that an address made of them carries unchanged. -/
structure Verbatim (path : List Char) : Prop where
  noScheme : ¬ "sqlite:".toList <+: path
  noParameters : '?' ∉ path
  noEscape : ¬ Escaped path

/-- What names the database in an address, up to the parameters. -/
def nameOf (url : String) : List Char :=
  (withoutScheme url.toList).takeWhile (· ≠ '?')

theorem named_of_ofUrl {url path : String} (read : ofUrl url = .ok (.file path)) :
    nameOf url ≠ ":memory:".toList ∧ path? (nameOf url) = some path := by
  simp only [ofUrl, pure_bind] at read
  split at read
  next =>
    have same : StoreAddress.memory = .file path := foldlM_apply_eq_file read
    cases same
  next other =>
    split at read
    next found named =>
      have same : StoreAddress.file found = .file path := foldlM_apply_eq_file read
      rw [StoreAddress.file.inj same] at named
      exact ⟨other, named⟩
    next => cases read

/-- An address without parameters leads to the file that it names. -/
theorem ofUrl_of_named {url path : String} (plain : '?' ∉ withoutScheme url.toList)
    (other : withoutScheme url.toList ≠ ":memory:".toList)
    (named : path? (withoutScheme url.toList) = some path) : ofUrl url = .ok (.file path) := by
  have whole : (withoutScheme url.toList).takeWhile (· ≠ '?') = withoutScheme url.toList := by
    rw [List.takeWhile_eq_self_iff]
    exact fun c member => decide_eq_true fun mark => plain (mark ▸ member)
  rw [ofUrl]
  simp only [whole, if_neg other, named, List.drop_length]
  rfl

/-- An address made of a path leads to that path just if it carries it unchanged and the path is not
the word for a database in memory. -/
theorem ofUrl_eq_file_iff {path : String} :
    ofUrl ("sqlite://" ++ path) = .ok (.file path) ↔ Verbatim path.toList ∧ path ≠ ":memory:" := by
  have cut := withoutScheme_cases path.toList
  rw [← String.toList_append] at cut
  constructor
  · intro read
    rcases named_of_ofUrl read with ⟨other, named⟩
    have front : nameOf ("sqlite://" ++ path) <+: withoutScheme ("sqlite://" ++ path).toList :=
      List.takeWhile_prefix _
    have part : (nameOf ("sqlite://" ++ path)).Sublist path.toList :=
      front.sublist.trans cut.1.sublist
    rcases path?_eq_some named with ⟨_, shorter⟩ | ⟨plain, same⟩
    · -- bytes that an escape has cost cannot come back
      have fits := (part.flatMap String.utf8EncodeChar).length_le
      rw [← Utf8.length_encode_toList] at shorter
      exact absurd shorter (Nat.not_lt.mpr fits)
    · have name : nameOf ("sqlite://" ++ path) = path.toList := by
        rw [← String.toList_ofList (l := nameOf ("sqlite://" ++ path)), ← same]
      rw [name] at other plain front
      have whole : withoutScheme ("sqlite://" ++ path).toList = path.toList :=
        cut.1.eq_of_length_le front.length_le
      rw [nameOf, whole, List.takeWhile_eq_self_iff] at name
      refine ⟨⟨cut.2.mp whole, fun mark => ?_, plain⟩, fun memory => other (by rw [memory])⟩
      exact of_decide_eq_true (name _ mark) rfl
  · rintro ⟨verbatim, onDisk⟩
    have whole := cut.2.mpr verbatim.noScheme
    refine ofUrl_of_named ?_ ?_ ?_ <;> rw [whole]
    · exact verbatim.noParameters
    · exact fun same => onDisk (String.toList_injective same)
    · rw [path?_eq_self verbatim.noEscape, String.ofList_toList]

end ConversationBus.StoreAddress
