import DialectLoader.Text.Search
import DialectLoader.Text.Utf8

/-!
# Characters among bytes

In the UTF-8 form of a text an ASCII character is one byte, its own code, and all bytes of another
character are greater than any such code. So counting an ASCII character, or looking for a text of
ASCII characters, comes to the same on the characters of a text and on its bytes.

The encoding is the one of the standard library, and nothing is assumed about texts. What becomes of
bytes that are no UTF-8 is a matter of `Text.Utf8` and is used here for well-formed ones only.
-/

namespace DialectLoader.Text

open String (utf8EncodeChar)

/-- The bytes of a text are those of its characters, one after the other. Everything here is proved
through this form, which the library has for lists. -/
theorem utf8_eq_flatMap (text : String) : utf8 text = text.toList.flatMap utf8EncodeChar := by
  rw [utf8, ← String.ofList_toList (s := text), String.toByteArray_ofList, String.toList_ofList]
  simp only [List.utf8Encode, List.data_toByteArray]

theorem utf8_ofList (text : List Char) :
    utf8 (String.ofList text) = text.flatMap utf8EncodeChar := by
  rw [utf8_eq_flatMap, String.toList_ofList]

/-- Only an empty text has no bytes, since every character takes at least one. -/
theorem flatMap_encode_eq_nil_iff {text : List Char} :
    text.flatMap utf8EncodeChar = [] ↔ text = [] := by
  cases text with
  | nil => simp
  | cons c rest => simp [String.utf8EncodeChar_ne_nil]

/-- The UTF-8 form of a text is read as that text: what was written by the program can always be
read again. -/
theorem ofUtf8?_utf8 (text : String) : ofUtf8? (utf8 text) = some text := by
  rw [ofUtf8?, utf8, Array.toArray_toList, String.fromUTF8?, dif_pos text.isValidUTF8]
  rfl

/-- The UTF-8 form of a text is read as that text also where wrong bytes are replaced, since it has
none. -/
theorem ofUtf8Lenient_utf8 (text : String) : ofUtf8Lenient (utf8 text) = text := by
  rw [ofUtf8Lenient, ofUtf8?_utf8, Option.getD_some]

/-- The length in bytes, which is counted over the characters, is the length of the bytes. -/
theorem length_flatMap_encode (text : List Char) :
    (text.flatMap utf8EncodeChar).length = byteLength text := by
  induction text with
  | nil => rfl
  | cons c rest ih =>
    rw [List.flatMap_cons, List.length_append, String.length_utf8EncodeChar, ih,
      byteLength]

theorem byteLength_append (left right : List Char) :
    byteLength (left ++ right) = byteLength left + byteLength right := by
  rw [← length_flatMap_encode, List.flatMap_append, List.length_append, length_flatMap_encode,
    length_flatMap_encode]

/-- A character takes at most four bytes, so the number of characters bounds the number of bytes. -/
theorem utf8_ofList_length_le (text : List Char) :
    (utf8 (String.ofList text)).length ≤ 4 * text.length := by
  rw [utf8_ofList, length_flatMap_encode]
  induction text with
  | nil => exact Nat.le_refl 0
  | cons c rest ih =>
    have size := c.utf8Size_le_four
    rw [byteLength, List.length_cons]
    omega

/-- A character is one byte with its code, or several bytes that no ASCII character has. All that
follows about bytes of characters comes from these two cases. -/
theorem encode_cases (c : Char) :
    (c.toNat < 0x80 ∧ utf8EncodeChar c = [UInt8.ofNat c.toNat]) ∨
      (0x80 ≤ c.toNat ∧ ∀ byte ∈ utf8EncodeChar c, 0x80 ≤ byte.toNat) := by
  have code : c.val.toNat = c.toNat := rfl
  unfold utf8EncodeChar
  simp only [code]
  split
  · exact .inl ⟨by omega, rfl⟩
  · right
    refine ⟨by omega, ?_⟩
    split
    · simp
      omega
    · split
      · simp
        omega
      · simp
        omega

theorem encode_ascii {c : Char} (ascii : c.toNat < 0x80) :
    utf8EncodeChar c = [UInt8.ofNat c.toNat] := by
  rcases encode_cases c with ⟨_, single⟩ | ⟨beyond, _⟩
  · exact single
  · omega

/-- ASCII characters with the same byte are the same. Their codes are below 128, so nothing is lost
when they become bytes. -/
theorem eq_of_byte {c d : Char} (ascii : c.toNat < 0x80) (other : d.toNat < 0x80)
    (same : UInt8.ofNat c.toNat = UInt8.ofNat d.toNat) : c = d := by
  apply Char.toNat_inj.mp
  have codes := congrArg UInt8.toNat same
  simp only [UInt8.toNat_ofNat'] at codes
  omega

/-- The byte of an ASCII character is no byte of a character outside ASCII, whose bytes are all
greater. -/
theorem byte_not_mem {c : Char} (ascii : c.toNat < 0x80) {bytes : Bytes}
    (greater : ∀ byte ∈ bytes, 0x80 ≤ byte.toNat) :
    UInt8.ofNat c.toNat ∉ bytes := by
  intro member
  have code := greater _ member
  simp only [UInt8.toNat_ofNat'] at code
  omega

/-- The byte of an ASCII character is no byte of another character, be that an ASCII character or
not. -/
theorem byte_not_mem_encode {c d : Char} (ascii : c.toNat < 0x80) (other : d ≠ c) :
    UInt8.ofNat c.toNat ∉ utf8EncodeChar d := by
  rcases encode_cases d with ⟨single, byte⟩ | ⟨_, several⟩
  · rw [byte, List.mem_singleton]
    exact fun same => other (eq_of_byte ascii single same).symm
  · exact byte_not_mem ascii several

/-- The byte of an ASCII character occurs in the bytes of a text as often as the character in the
text. So lines can be counted in either form. -/
theorem count_flatMap_encode {c : Char} (ascii : c.toNat < 0x80) (text : List Char) :
    (text.flatMap utf8EncodeChar).count (UInt8.ofNat c.toNat) = text.count c := by
  induction text with
  | nil => rfl
  | cons d rest ih =>
    rw [List.flatMap_cons, List.count_append, ih]
    by_cases same : d = c
    · rw [same, encode_ascii ascii, List.count_singleton_self, List.count_cons_self, Nat.add_comm]
    · rw [List.count_eq_zero.mpr (byte_not_mem_encode ascii same), List.count_cons_of_ne same,
        Nat.zero_add]

/-- The bytes of a text end in that of an ASCII character exactly if the text ends in the
character. -/
theorem getLast?_flatMap_encode_iff {c : Char} (ascii : c.toNat < 0x80) {text : List Char} :
    (text.flatMap utf8EncodeChar).getLast? = some (UInt8.ofNat c.toNat) ↔
      text.getLast? = some c := by
  rcases List.eq_nil_or_concat text with rfl | ⟨front, d, rfl⟩
  · simp
  · rw [List.concat_eq_append, List.flatMap_append, List.flatMap_singleton, List.getLast?_concat,
      List.getLast?_append,
      Option.or_of_isSome (List.getLast?_isSome.mpr String.utf8EncodeChar_ne_nil), Option.some_inj]
    constructor
    · intro last
      exact Decidable.byContradiction fun other =>
        byte_not_mem_encode ascii other (List.mem_of_getLast? last)
    · rintro rfl
      rw [encode_ascii ascii]
      rfl

/-- An occurrence does not begin in a stretch that lacks its first element, so it lies whole behind
that stretch. -/
theorem infix_of_not_mem {α : Type} {first : α} {needle front rest : List α}
    (absent : first ∉ front) (found : first :: needle <:+: front ++ rest) :
    first :: needle <:+: rest := by
  induction front with
  | nil => exact found
  | cons item front ih =>
    obtain ⟨other, later⟩ := not_or.mp (mt List.mem_cons.mpr absent)
    rcases List.infix_cons_iff.mp found with starts | inside
    · exact absurd (List.cons_prefix_cons.mp starts).1 other
    · exact ih later inside

section Ascii

variable {needle text : List Char} (ascii : ∀ c ∈ needle, c.toNat < 0x80)

include ascii

/-- A text begins with ASCII characters if its bytes begin with theirs. Characters that are not
ASCII cannot come in between, as their bytes are different. -/
theorem prefix_of_encode (starts : needle.flatMap utf8EncodeChar <+: text.flatMap utf8EncodeChar) :
    needle <+: text := by
  induction needle generalizing text with
  | nil => exact List.nil_prefix
  | cons c needle ih =>
    obtain ⟨here, later⟩ := List.forall_mem_cons.mp ascii
    rw [List.flatMap_cons, encode_ascii here, List.singleton_append] at starts
    cases text with
    | nil => simp at starts
    | cons d text =>
      rw [List.flatMap_cons] at starts
      rcases encode_cases d with ⟨other, byte⟩ | ⟨_, several⟩
      · rw [byte, List.singleton_append, List.cons_prefix_cons] at starts
        obtain rfl := eq_of_byte here other starts.1
        exact List.cons_prefix_cons.mpr ⟨rfl, ih later starts.2⟩
      · -- The bytes of a character outside ASCII do not begin with the byte.
        obtain ⟨byte, bytes, spelled⟩ :=
          List.exists_cons_of_ne_nil (@String.utf8EncodeChar_ne_nil d)
        rw [spelled, List.cons_append, List.cons_prefix_cons] at starts
        refine absurd ?_ (byte_not_mem here several)
        rw [spelled, starts.1]
        exact List.mem_cons_self

/-- ASCII characters occur in a text if their bytes occur in its bytes. An occurrence among the
bytes cannot begin within a character. -/
theorem infix_of_encode (found : needle.flatMap utf8EncodeChar <:+: text.flatMap utf8EncodeChar) :
    needle <:+: text := by
  cases needle with
  | nil => exact List.nil_infix
  | cons c needle =>
    induction text with
    | nil => simp [String.utf8EncodeChar_ne_nil] at found
    | cons d text ih =>
      obtain ⟨here, _⟩ := List.forall_mem_cons.mp ascii
      have cut : (d :: text).flatMap utf8EncodeChar =
          utf8EncodeChar d ++ text.flatMap utf8EncodeChar :=
        List.flatMap_cons
      rcases encode_cases d with ⟨_, byte⟩ | ⟨_, several⟩
      · rw [byte, List.singleton_append] at cut
        rw [cut, List.infix_cons_iff, ← cut] at found
        rcases found with starts | inside
        · exact (prefix_of_encode ascii starts).isInfix
        · exact List.infix_cons (ih inside)
      · rw [cut, List.flatMap_cons, encode_ascii here, List.singleton_append] at found
        have later := infix_of_not_mem (byte_not_mem here several) found
        exact List.infix_cons (ih (by rwa [List.flatMap_cons, encode_ascii here]))

end Ascii

/-- A text is found exactly if it occurs, so searching can be replaced by a statement about the two
texts. -/
theorem isSome_indexOf?_iff {α : Type} [BEq α] [LawfulBEq α] {needle text : List α} :
    (indexOf? needle text).isSome = true ↔ needle <:+: text := by
  induction text with
  | nil => cases needle <;> simp [indexOf?]
  | cons item rest ih =>
    rw [indexOf?, List.infix_cons_iff, ← List.isPrefixOf_iff_prefix, ← ih]
    split <;> simp_all

end DialectLoader.Text
