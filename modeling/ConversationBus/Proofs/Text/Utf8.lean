import ConversationBus.Text.Utf8
import Mathlib.Data.List.Flatten

/-!
# Texts and their bytes

The bytes of a character begin with no other character, so a text is read back from its bytes
one character at a time, and bytes that are read as a text are those of the text. A byte of ASCII
is a character of its own wherever it stands.
-/

namespace ConversationBus.Utf8

/-- A text as it is read, with no ill-formed part. -/
def glyphs (text : List Char) : List Glyph :=
  text.map .char

theorem encode_cons (c : Char) (text : List Char) :
    encode (c :: text) = String.utf8EncodeChar c ++ encode text := rfl

/-! ## Lengths -/

/-- Every character has a byte, so a part of a text with as many bytes is all of it. -/
theorem eq_of_sublist_of_length_encode {part text : List Char} (sublist : part.Sublist text)
    (same : (encode part).length = (encode text).length) : part = text := by
  induction sublist with
  | slnil => rfl
  | cons c sublist _ =>
      have fits := (sublist.flatMap String.utf8EncodeChar).length_le
      have positive := Char.utf8Size_pos c
      rw [encode_cons, List.length_append, String.length_utf8EncodeChar] at same
      simp only [encode] at same
      omega
  | cons_cons c sublist ih =>
      rw [encode_cons, encode_cons, List.length_append, List.length_append] at same
      rw [ih (Nat.add_left_cancel same)]

theorem length_encode_toList (text : String) : (encode text.toList).length = text.utf8ByteSize := by
  have bytes : (String.ofList text.toList).toByteArray = (encode text.toList).toByteArray :=
    String.toByteArray_ofList
  rw [String.ofList_toList] at bytes
  rw [String.utf8ByteSize, bytes, List.size_toByteArray]

/-! ## Bytes of ASCII -/

/-- Every byte of a character beyond ASCII is beyond ASCII. -/
theorem le_toNat_of_mem {c : Char} {byte : UInt8} (long : ¬ c.toNat < 128)
    (member : byte ∈ String.utf8EncodeChar c) : 128 ≤ byte.toNat := by
  have beyond : ¬ c.val.toNat ≤ 127 := fun short => long (Nat.lt_succ_of_le short)
  have high {value : Nat} (low : 128 ≤ value) (fits : value < 256) :
      128 ≤ (UInt8.ofNat value).toNat := by
    rwa [UInt8.toNat_ofNat', Nat.mod_eq_of_lt fits]
  simp only [String.utf8EncodeChar, if_neg beyond] at member
  split at member
  next =>
    simp only [List.mem_cons, List.not_mem_nil, or_false] at member
    rcases member with rfl | rfl <;> exact high (by omega) (by omega)
  next =>
    split at member <;> simp only [List.mem_cons, List.not_mem_nil, or_false] at member
    · rcases member with rfl | rfl | rfl <;> exact high (by omega) (by omega)
    · rcases member with rfl | rfl | rfl | rfl <;> exact high (by omega) (by omega)

theorem utf8EncodeChar_ascii {c : Char} (ascii : c.toNat < 128) :
    String.utf8EncodeChar c = [UInt8.ofNat c.toNat] :=
  if_pos (Nat.le_of_lt_succ ascii)

theorem toNat_ofNat_ascii {c : Char} (ascii : c.toNat < 128) :
    (UInt8.ofNat c.toNat).toNat = c.toNat := by
  rw [UInt8.toNat_ofNat', Nat.mod_eq_of_lt (by omega)]

theorem toNat_charOfNat (byte : UInt8) : (Char.ofNat byte.toNat).toNat = byte.toNat := by
  have valid : byte.toNat.isValidChar := .inl (Nat.lt_trans byte.toNat_lt (by decide))
  rw [Char.ofNat, dif_pos valid]
  rfl

/-- A byte of ASCII stands for its character, and is no part of another one. -/
theorem eq_ofNat_of_mem_of_ascii {c : Char} {byte : UInt8} (member : byte ∈ String.utf8EncodeChar c)
    (ascii : byte.toNat < 128) :
    c = Char.ofNat byte.toNat ∧ String.utf8EncodeChar c = [byte] := by
  by_cases short : c.toNat < 128
  · rw [utf8EncodeChar_ascii short, List.mem_singleton] at member
    rw [utf8EncodeChar_ascii short, member, toNat_ofNat_ascii short, Char.ofNat_toNat]
    exact ⟨rfl, rfl⟩
  · exact absurd (le_toNat_of_mem short member) (Nat.not_le.mpr ascii)

/-- A byte of ASCII in the bytes of a text is where a character of the text is. -/
theorem split_of_encode_eq {text : List Char} {before after : List UInt8} {byte : UInt8}
    (ascii : byte.toNat < 128) (bytes : encode text = before ++ byte :: after) :
    ∃ front rest, text = front ++ Char.ofNat byte.toNat :: rest ∧ encode front = before ∧
      encode rest = after := by
  induction text generalizing before with
  | nil =>
      rw [encode, List.flatMap_nil] at bytes
      cases before <;> cases bytes
  | cons c text ih =>
      rw [encode_cons, List.append_eq_append_iff] at bytes
      rcases bytes with ⟨later, rfl, bytes⟩ | ⟨inner, bytes, later⟩
      · rcases ih bytes with ⟨front, rest, rfl, rfl, equal⟩
        exact ⟨c :: front, rest, rfl, rfl, equal⟩
      · cases inner with
        | nil =>
            rw [List.append_nil] at bytes
            have bare : encode text = [] ++ byte :: after := later.symm
            rcases ih bare with ⟨front, rest, rfl, none, equal⟩
            exact ⟨c :: front, rest, rfl, by rw [encode_cons, none, List.append_nil, bytes], equal⟩
        | cons first inner =>
            rw [List.cons_append, List.cons.injEq] at later
            rcases later with ⟨rfl, equal⟩
            have member : byte ∈ String.utf8EncodeChar c := by
              rw [bytes]
              exact List.mem_append_right _ List.mem_cons_self
            rcases eq_ofNat_of_mem_of_ascii member ascii with ⟨rfl, single⟩
            rw [single, List.singleton_eq_append_iff] at bytes
            rcases bytes with ⟨rfl, alone⟩ | ⟨_, alone⟩
            · rw [List.cons.injEq] at alone
              rcases alone with ⟨_, rfl⟩
              exact ⟨[], text, rfl, rfl, equal.symm⟩
            · cases alone

theorem cons_of_encode_eq_cons {text : List Char} {byte : UInt8} {after : List UInt8}
    (ascii : byte.toNat < 128) (bytes : encode text = byte :: after) :
    ∃ rest, text = Char.ofNat byte.toNat :: rest ∧ encode rest = after := by
  rcases split_of_encode_eq ascii (bytes.trans (List.nil_append _).symm) with
    ⟨front, rest, rfl, none, equal⟩
  cases front with
  | nil => exact ⟨rest, rfl, equal⟩
  | cons c front =>
      rw [encode_cons, List.append_eq_nil_iff] at none
      exact absurd none.1 (String.utf8EncodeChar_ne_nil)

/-! ## Reading back -/

theorem decodeChar?_append (c : Char) (rest : List UInt8) :
    decodeChar? (String.utf8EncodeChar c ++ rest) = some c := by
  have short : (String.utf8EncodeChar c).length ≤ 4 := by
    rw [String.length_utf8EncodeChar]
    exact Char.utf8Size_le_four c
  have front : (String.utf8EncodeChar c ++ rest).take 4 =
      String.utf8EncodeChar c ++ rest.take (4 - (String.utf8EncodeChar c).length) := by
    rw [List.take_append, List.take_of_length_le short]
  rw [decodeChar?, front, List.toByteArray_append]
  exact ByteArray.utf8DecodeChar?_utf8EncodeChar_append

@[simp] theorem decode_encode (text : List Char) : decode (encode text) = glyphs text := by
  induction text with
  | nil => simp [encode, decode, glyphs]
  | cons c text ih =>
      have length := String.length_utf8EncodeChar c
      have positive := Char.utf8Size_pos c
      have found := decodeChar?_append c (encode text)
      rw [encode_cons]
      cases bytes : String.utf8EncodeChar c with
      | nil =>
          rw [bytes, List.length_nil] at length
          omega
      | cons byte later =>
          rw [bytes, List.length_cons] at length
          rw [bytes] at found
          have rest : (later ++ encode text).drop (c.utf8Size - 1) = encode text := by
            rw [← length, Nat.add_sub_cancel, List.drop_left]
          rw [List.cons_append] at found ⊢
          rw [decode, found]
          simp only [rest, ih, glyphs, List.map_cons]

theorem Glyph.chars?_glyphs (text : List Char) : Glyph.chars? (glyphs text) = some text := by
  induction text with
  | nil => rfl
  | cons c text ih =>
      change (Glyph.chars? (glyphs text)).map (c :: ·) = _
      rw [ih, Option.map_some]

theorem decodeText?_encode (text : List Char) :
    decodeText? (encode text) = some (String.ofList text) := by
  rw [decodeText?, decode_encode, Glyph.chars?_glyphs, Option.map_some]

/-- The character that is read has its bytes in front. -/
theorem eq_append_of_decodeChar? {c : Char} {bytes : List UInt8}
    (found : decodeChar? bytes = some c) : ∃ rest, bytes = String.utf8EncodeChar c ++ rest := by
  rcases ByteArray.exists_of_utf8DecodeChar?_eq_some found with ⟨later, equal⟩
  have asList : later = later.data.toList.toByteArray := ByteArray.ext (by simp)
  rw [asList, ← List.toByteArray_append, List.toByteArray_inj] at equal
  refine ⟨later.data.toList ++ bytes.drop 4, ?_⟩
  rw [← List.append_assoc, ← equal, List.take_append_drop]

/-- Bytes that are read as characters, with no ill-formed part, are the bytes of the characters. -/
theorem encode_of_chars?_decode {bytes : List UInt8} {text : List Char}
    (read : Glyph.chars? (decode bytes) = some text) : encode text = bytes := by
  induction bytes using decode.induct generalizing text with
  | case1 =>
      simp only [decode, Glyph.chars?, Option.some.injEq] at read
      rw [← read, encode, List.flatMap_nil]
  | case2 byte rest c found ih =>
      rcases eq_append_of_decodeChar? found with ⟨later, equal⟩
      have length := String.length_utf8EncodeChar c
      have positive := Char.utf8Size_pos c
      have after : rest.drop (c.utf8Size - 1) = later := by
        have whole : (byte :: rest).drop c.utf8Size = later := by
          rw [equal, ← length, List.drop_left]
        rwa [← Nat.sub_add_cancel positive, List.drop_succ_cons] at whole
      rw [decode, found] at read
      simp only [Glyph.chars?, Option.map_eq_some_iff] at read
      rcases read with ⟨text, read, rfl⟩
      rw [encode_cons, ih read, after, equal]
  | case3 byte rest junk ih =>
      rw [decode, junk] at read
      cases read

theorem encodeText_of_decodeText? {bytes : List UInt8} {text : String}
    (read : decodeText? bytes = some text) : encodeText text = bytes := by
  simp only [decodeText?, Option.map_eq_some_iff] at read
  rcases read with ⟨chars, read, rfl⟩
  rw [encodeText, String.toList_ofList, encode_of_chars?_decode read]

end ConversationBus.Utf8
