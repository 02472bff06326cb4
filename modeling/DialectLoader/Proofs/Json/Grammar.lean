import Mathlib.Tactic.SplitIfs
import DialectLoader.Json.Quoted
import DialectLoader.Json.Value
import DialectLoader.Proofs.Text.Decimal
import DialectLoader.Proofs.Text.Pieces

/-!
# The grammar of JSON

`Spelled` says which texts spell a value, the items of an array or the members of an object, in the
words of the grammar: blanks may stand between parts, numbers are decimal and strings have escapes.
The reader goes along a text with fuel and without going back. It accepts every text of the grammar:
fuel that grows with the length of a text lasts to its end, and a number, the one value without an
end of its own, ends where no character follows that could continue it.

Compact texts have no blanks between their parts. Names and strings in them are quoted, so they are
texts of the grammar whatever characters they stand for.

Only this direction is proved, since it is what replies and their echoes need. That the reader
refuses every other text is not said. Of a number that is not a natural one the value is not kept.
-/

namespace DialectLoader.Json

variable {c : Char}

/-- Characters that may stand between the parts of a text; there need be none. -/
def Space (text : List Char) : Prop :=
  ∀ c ∈ text, isSpace c = true

theorem space_nil : Space [] :=
  fun _ member => nomatch member

/-- The characters between the quotes of a string, with the code units that they stand for. An
escape stands for one unit, and a character that needs no escape for itself. -/
inductive Content : List Char → List Unit16 → Prop where
  | empty : Content [] []
  | plain {c : Char} {rest : List Char} {units : List Unit16} (printable : 0x20 ≤ c.toNat)
    (unquoted : c ≠ '"')
    (unescaped : c ≠ '\\') (more : Content rest units) : Content (c :: rest) (.char c :: units)
  | letter {letter c : Char} {rest : List Char} {units : List Unit16}
    (escaped : shortEscape? letter = some c)
    (more : Content rest units) : Content ('\\' :: letter :: rest) (.char c :: units)
  | code {a b c d : Char} {unit : Nat} {rest : List Char} {units : List Unit16}
    (digits : readUnit? [a, b, c, d] = some (unit, [])) (more : Content rest units) :
    Content ('\\' :: 'u' :: a :: b :: c :: d :: rest) (.ofNat unit :: units)

/-- At least one digit, as a fraction and an exponent need. -/
def Digits (text : List Char) : Prop :=
  text ≠ [] ∧ ∀ c ∈ text, isDigit c = true

/-- A point and digits, or nothing, since a number need not have a fraction. -/
def Fraction (text : List Char) : Prop :=
  text = [] ∨ ∃ digits, Digits digits ∧ text = '.' :: digits

/-- A letter, a sign if there is one, and digits, or nothing at all. -/
def Exponent (text : List Char) : Prop :=
  text = [] ∨ ∃ mark sign digits, (mark = 'e' ∨ mark = 'E') ∧
    (sign = [] ∨ sign = ['+'] ∨ sign = ['-']) ∧ Digits digits ∧ text = mark :: (sign ++ digits)

/-- What a text may spell: a value, or what stands between the brackets of an array or an object. -/
inductive Part where
  | value (json : Json)
  | items (items : List Json)
  | members (members : List (Option String × Json))

/-- The text of a string, if its code units are those of a text. Half of a surrogate pair alone is
none. -/
def stringText (units : List Unit16) : Option String :=
  (pairUnits? units).map String.ofList

/-- The texts of the grammar. Those of items and members are without the brackets around them. -/
inductive Spelled : Part → List Char → Prop where
  | nullWord : Spelled (.value .null) ['n', 'u', 'l', 'l']
  | trueWord : Spelled (.value (.bool true)) ['t', 'r', 'u', 'e']
  | falseWord : Spelled (.value (.bool false)) ['f', 'a', 'l', 's', 'e']
  | natural (value : Nat) : Spelled (.value (.natural value)) (Text.decimal value)
  | number (value : Nat) {sign fraction exponent : List Char} (signed : sign = [] ∨ sign = ['-'])
    (isFraction : Fraction fraction) (isExponent : Exponent exponent)
    (unnatural : ¬ (sign = [] ∧ fraction = [] ∧ exponent = [])) :
    Spelled (.value .number) (sign ++ (Text.decimal value ++ (fraction ++ exponent)))
  | text {content : List Char} {units : List Unit16} {value : String}
    (spelled : Content content units) (paired : stringText units = some value) :
    Spelled (.value (.text value)) ('"' :: (content ++ ['"']))
  | brokenText {content : List Char} {units : List Unit16} (spelled : Content content units)
    (unpaired : stringText units = none) :
    Spelled (.value .brokenText) ('"' :: (content ++ ['"']))
  | noItems {space : List Char} (blank : Space space) :
    Spelled (.value (.array [])) ('[' :: (space ++ [']']))
  | array {items : List Json} {text : List Char} (inner : Spelled (.items items) text) :
    Spelled (.value (.array items)) ('[' :: (text ++ [']']))
  | noMembers {space : List Char} (blank : Space space) :
    Spelled (.value (.object [])) ('{' :: (space ++ ['}']))
  | object {members : List (Option String × Json)} {text : List Char}
    (inner : Spelled (.members members) text) :
    Spelled (.value (.object members)) ('{' :: (text ++ ['}']))
  | lastItem {item : Json} {before text after : List Char} (blankBefore : Space before)
    (blankAfter : Space after) (spelled : Spelled (.value item) text) :
    Spelled (.items [item]) (before ++ (text ++ after))
  | item {item : Json} {items : List Json} {before text after more : List Char}
    (blankBefore : Space before) (blankAfter : Space after) (spelled : Spelled (.value item) text)
    (others : Spelled (.items items) more) :
    Spelled (.items (item :: items)) (before ++ (text ++ (after ++ ',' :: more)))
  | lastMember {units : List Unit16} {value : Json}
    {before content gap start text after : List Char} (blankBefore : Space before)
    (named : Content content units) (blankGap : Space gap) (blankStart : Space start)
    (blankAfter : Space after) (spelled : Spelled (.value value) text) :
    Spelled (.members [(stringText units, value)])
      (before ++ '"' :: (content ++ '"' :: (gap ++ ':' :: (start ++ (text ++ after)))))
  | member {units : List Unit16} {value : Json} {members : List (Option String × Json)}
    {before content gap start text after more : List Char} (blankBefore : Space before)
    (named : Content content units) (blankGap : Space gap) (blankStart : Space start)
    (blankAfter : Space after) (spelled : Spelled (.value value) text)
    (others : Spelled (.members members) more) :
    Spelled (.members ((stringText units, value) :: members))
      (before ++ '"' ::
        (content ++ '"' :: (gap ++ ':' :: (start ++ (text ++ (after ++ ',' :: more))))))

section Strings

/-- The units of a string are read up to its closing quote, whatever follows. A quote within the
string has a backslash before it. -/
theorem Content.readUnits {content : List Char} {units : List Unit16}
    (spelled : Content content units) (rest : List Char) :
    readUnits (content ++ '"' :: rest) = some (units, rest) := by
  induction spelled with
  | empty => rfl
  | plain printable unquoted unescaped more ih =>
    rw [List.cons_append, Json.readUnits, ih]
    · simp [unescaped, Nat.not_lt.mpr printable]
    · exact unquoted
    · rintro _ _ _ _ _ same _
      exact unescaped same
    · rintro _ _ same _
      exact unescaped same
  | letter escaped more ih =>
    rw [List.cons_append, List.cons_append, Json.readUnits, escaped, ih]
    · rfl
    · rintro _ _ _ _ _ rfl _
      cases escaped
  | code digits more ih =>
    simp only [List.cons_append]
    rw [Json.readUnits, digits, ih]
    rfl

theorem Content.readString {content : List Char} {units : List Unit16}
    (spelled : Content content units) (rest : List Char) :
    readString (content ++ '"' :: rest) = some (stringText units, rest) := by
  rw [Json.readString, spelled.readUnits]
  rfl

/-- The quoted form of a character stands for it, be it one that needs an escape or not. -/
theorem Content.escape (c : Char) {rest : List Char} {units : List Unit16}
    (more : Content rest units) : Content (escape c ++ rest) (.char c :: units) := by
  unfold Json.escape
  split_ifs with quote backslash back tab newline feed returned control
  · exact .letter (by rw [quote]; rfl) more
  · exact .letter (by rw [backslash]; rfl) more
  · exact .letter (by rw [back]; rfl) more
  · exact .letter (by rw [tab]; rfl) more
  · exact .letter (by rw [newline]; rfl) more
  · exact .letter (by rw [feed]; rfl) more
  · exact .letter (by rw [returned]; rfl) more
  · have read : ∀ unit < 0x20, readUnit? ['0', '0', hexDigit (unit / 16), hexDigit unit] =
        some (unit, []) := by decide
    have unit : Unit16.ofNat c.toNat = .char c := by
      rw [Unit16.ofNat, if_neg (by omega), if_neg (by omega), Char.ofNat_toNat]
    rw [← unit]
    exact .code (read c.toNat control) more
  · exact .plain (Nat.not_lt.mp control) quote backslash more

/-- The quoted form of a text stands for its characters. Nothing is assumed about the text. -/
theorem content_quoted (text : List Char) :
    Content (text.flatMap Json.escape) (text.map .char) := by
  induction text with
  | nil => exact .empty
  | cons c rest ih => exact ih.escape c

theorem stringText_map_char (text : List Char) :
    stringText (text.map .char) = some (String.ofList text) := by
  have paired : pairUnits? (text.map .char) = some text := by
    induction text with
    | nil => rfl
    | cons c rest ih => simp [pairUnits?, ih]
  rw [stringText, paired]
  rfl

end Strings

section Numbers

theorem isDigit_of_mem_decimal {value : Nat} (member : c ∈ Text.decimal value) :
    isDigit c = true := by
  have digit : c.isDigit = true := Nat.isDigit_of_mem_toDigits (by decide) (by decide) member
  simp only [Char.isDigit, Bool.and_eq_true, decide_eq_true_eq] at digit
  simp only [isDigit, Bool.and_eq_true, decide_eq_true_eq]
  exact digit

/-- A written number starts with a digit, so a value that starts with another character is none. -/
theorem exists_decimal_cons (value : Nat) :
    ∃ digit more, Text.decimal value = digit :: more ∧ isDigit digit = true := by
  have visible : Text.decimal value ≠ [] := Nat.toDigits_ne_nil
  obtain ⟨digit, more, cut⟩ := List.exists_cons_of_ne_nil visible
  have first : digit ∈ Text.decimal value := by rw [cut]; exact List.mem_cons_self
  exact ⟨digit, more, cut, isDigit_of_mem_decimal first⟩

/-- A written number with more than one digit does not start with a zero, which the grammar does not
allow. -/
theorem decimal_ne_zero_cons {value : Nat} {digit : Char} {rest : List Char} :
    Text.decimal value ≠ '0' :: digit :: rest := by
  intro written
  have same : Text.decimal value = Text.dropNeedlessZeros (Text.decimal value) :=
    Text.decimal_of_readDecimal? (Text.readDecimal?_decimal (Nat.lt_succ_self value))
  have shorter := (Text.dropNeedlessZeros_length (digit :: rest)).1
  rw [written, Text.dropNeedlessZeros_zero] at same
  rw [← same] at shorter
  simp only [List.length_cons] at shorter
  omega

/-- A whole number is read up to the first character that is no digit, or to the end of the text. -/
theorem readWhole?_decimal (value : Nat) {rest : List Char}
    (stops : ∀ c ∈ rest.head?, isDigit c = false) :
    readWhole? (Text.decimal value ++ rest) = some (Text.decimal value, rest) := by
  obtain ⟨taken, left⟩ :=
    Text.takeWhile_run (fun c (member : c ∈ Text.decimal value) => isDigit_of_mem_decimal member)
    stops
  rw [readWhole?, taken, left]
  split
  · exact absurd ‹_› Nat.toDigits_ne_nil
  · simp [*]
  · rename_i tail single written
    cases tail with
    | nil => exact absurd rfl single
    | cons digit rest => exact absurd written decimal_ne_zero_cons
  · rfl

theorem digitsValue_decimal (value : Nat) : digitsValue (Text.decimal value) = value := by
  have folded {digits : List Char} {start number : Nat}
      (read : Text.readDigitsFrom start digits = some number) :
      digits.foldl (fun value c => 10 * value + (c.toNat - '0'.toNat)) start = number := by
    induction digits generalizing start with
    | nil => exact Option.some.inj read
    | cons c rest ih =>
      obtain ⟨digit, single, behind⟩ := Option.bind_eq_some_iff.mp read
      simp only [Text.digitValue?, Option.ite_none_right_eq_some, Option.some.injEq] at single
      rw [List.foldl_cons, single.2]
      exact ih behind
  exact folded (Text.readDigitsFrom_decimal value)

/-- Where a number ends: no character follows that could be a part of it. -/
def Ended (rest : List Char) : Prop :=
  ∀ c ∈ rest.head?, isDigit c = false ∧ c ≠ '.' ∧ c ≠ 'e' ∧ c ≠ 'E'

/-- A fraction is read if no digits follow behind it, and no second point. Without a fraction
nothing is read. -/
theorem Fraction.readFraction? {fraction rest : List Char} (isFraction : Fraction fraction)
    (stops : ∀ c ∈ rest.head?, isDigit c = false ∧ c ≠ '.') :
    readFraction? (fraction ++ rest) = some (!fraction.isEmpty, rest) := by
  rcases isFraction with rfl | ⟨digits, ⟨some, each⟩, rfl⟩
  · cases rest with
    | nil => rfl
    | cons c rest =>
      have other := (stops c rfl).2
      rw [List.nil_append, Json.readFraction?]
      · rfl
      · rintro _ same
        exact other (List.cons.inj same).1
  · obtain ⟨taken, left⟩ := Text.takeWhile_run each fun c member => (stops c member).1
    simp [Json.readFraction?, taken, left, some]

/-- An exponent is read if the number ends behind it. Without an exponent nothing is read. -/
theorem Exponent.readExponent? {exponent rest : List Char} (isExponent : Exponent exponent)
    (ended : Ended rest) : readExponent? (exponent ++ rest) = some (!exponent.isEmpty, rest) := by
  rcases isExponent with rfl | ⟨mark, sign, digits, marked, signed, ⟨some, each⟩, rfl⟩
  · cases rest with
    | nil => rfl
    | cons c rest =>
      obtain ⟨_, _, lower, upper⟩ := ended c rfl
      simp [Json.readExponent?, lower, upper]
  · obtain ⟨taken, left⟩ := Text.takeWhile_run each fun c member => (ended c member).1
    have isMark : (mark == 'e' || mark == 'E') = true := by simpa using marked
    rcases signed with rfl | rfl | rfl
    · obtain ⟨digit, more, rfl⟩ := List.exists_cons_of_ne_nil some
      have unsigned : (digit == '+' || digit == '-') = false := by
        rw [← Bool.not_eq_true, Bool.or_eq_true, beq_iff_eq, beq_iff_eq]
        rintro (rfl | rfl) <;> exact absurd (each _ List.mem_cons_self) (by decide)
      simp only [List.cons_append] at taken left
      simp [Json.readExponent?, isMark, unsigned, taken, left]
    · simp [Json.readExponent?, isMark, taken, left, some]
    · simp [Json.readExponent?, isMark, taken, left, some]

/-- Neither digits nor a fraction go on at an exponent, or at the end of the number if there is no
exponent. -/
theorem Exponent.stops {exponent rest : List Char} (isExponent : Exponent exponent)
    (ended : Ended rest) : ∀ c ∈ (exponent ++ rest).head?, isDigit c = false ∧ c ≠ '.' := by
  rcases isExponent with rfl | ⟨mark, sign, digits, marked, _, _, rfl⟩
  · exact fun c member => ⟨(ended c member).1, (ended c member).2.1⟩
  · rintro c member
    obtain rfl : mark = c := Option.some.inj member
    rcases marked with rfl | rfl <;> decide

/-- Digits do not go on at a fraction, or at what stands behind it if there is none. -/
theorem Fraction.stops {fraction rest : List Char} (isFraction : Fraction fraction)
    (behind : ∀ c ∈ rest.head?, isDigit c = false) :
    ∀ c ∈ (fraction ++ rest).head?, isDigit c = false := by
  rcases isFraction with rfl | ⟨digits, _, rfl⟩
  · exact behind
  · rintro c member
    obtain rfl : '.' = c := Option.some.inj member
    decide

/-- A number is read up to its end; it is a natural number if it is written with digits alone. -/
theorem readNumber?_spelled (value : Nat) {sign fraction exponent rest : List Char}
    (signed : sign = [] ∨ sign = ['-']) (isFraction : Fraction fraction)
    (isExponent : Exponent exponent) (ended : Ended rest) :
    readNumber? (sign ++ (Text.decimal value ++ (fraction ++ (exponent ++ rest)))) =
      some (if sign = [] ∧ fraction = [] ∧ exponent = [] then .natural value else .number,
        rest) := by
  have afterWhole := isExponent.stops ended
  have whole := readWhole?_decimal value (isFraction.stops fun c member => (afterWhole c member).1)
  have read := isFraction.readFraction? afterWhole
  have exponentRead := isExponent.readExponent? ended
  rcases signed with rfl | rfl
  · obtain ⟨digit, more, cut, isFirst⟩ := exists_decimal_cons value
    have unsigned : digit ≠ '-' := by
      rintro rfl
      exact absurd isFirst (by decide)
    have number := digitsValue_decimal value
    rw [cut] at whole number ⊢
    rw [List.cons_append] at whole
    have kind : (if ¬ fraction = [] ∨ ¬ exponent = [] then Json.number else .natural value) =
        if fraction = [] ∧ exponent = [] then .natural value else .number := by
      cases fraction <;> cases exponent <;> rfl
    simp [readNumber?, whole, read, exponentRead, number, unsigned, kind]
  · simp [readNumber?, whole, read, exponentRead]

end Numbers

section Values

variable {space rest : List Char} {json : Json} {text : List Char}

theorem skipSpace_append (blank : Space space) (visible : isSpace c = false) (rest : List Char) :
    skipSpace (space ++ c :: rest) = c :: rest := by
  rw [skipSpace, List.dropWhile_append_of_pos blank, List.dropWhile_cons_of_neg (by simp [visible])]

/-- A number ends at a blank, and without a blank where it would have ended anyway. -/
theorem ended_append (blank : Space space) (ended : Ended rest) : Ended (space ++ rest) := by
  cases space with
  | nil => exact ended
  | cons c space =>
    intro d member
    obtain rfl : c = d := Option.some.inj member
    have first := blank c List.mem_cons_self
    simp only [isSpace, Bool.or_eq_true, beq_iff_eq] at first
    rcases first with ((rfl | rfl) | rfl) | rfl <;> decide

/-- A number ends at a comma and at a closing bracket, which are all that can follow a value within
another. -/
theorem ended_cons (closing : c = ',' ∨ c = ']' ∨ c = '}') (rest : List Char) :
    Ended (c :: rest) := by
  intro d member
  obtain rfl : c = d := Option.some.inj member
  rcases closing with rfl | rfl | rfl <;> decide

theorem ne_of_isDigit {c other : Char} (digit : isDigit c = true) (unlike : isDigit other = false) :
    c ≠ other := by
  rintro rfl
  rw [digit] at unlike
  cases unlike

theorem isSpace_of_isDigit (digit : isDigit c = true) : isSpace c = false := by
  have blank : c ≠ ' ' := ne_of_isDigit digit (by decide)
  have newline : c ≠ '\n' := ne_of_isDigit digit (by decide)
  have tab : c ≠ '\t' := ne_of_isDigit digit (by decide)
  have returned : c ≠ '\r' := ne_of_isDigit digit (by decide)
  simp [isSpace, blank, newline, tab, returned]

/-- The text of a value starts with a character that is neither blank nor the end of an array. So an
array with items is not taken for an empty one. -/
theorem Spelled.exists_cons (spelled : Spelled (.value json) text) :
    ∃ c tail, text = c :: tail ∧ isSpace c = false ∧ c ≠ ']' := by
  have digit {c : Char} (first : isDigit c = true) : isSpace c = false ∧ c ≠ ']' :=
    ⟨isSpace_of_isDigit first, ne_of_isDigit first (by decide)⟩
  cases spelled with
  | natural value =>
    obtain ⟨c, more, cut, first⟩ := exists_decimal_cons value
    exact ⟨c, more, cut, digit first⟩
  | number value signed =>
    rcases signed with rfl | rfl
    · obtain ⟨c, more, cut, first⟩ := exists_decimal_cons value
      exact ⟨c, _, by rw [cut]; rfl, digit first⟩
    · exact ⟨'-', _, rfl, by decide, by decide⟩
  | _ => exact ⟨_, _, rfl, by decide, by decide⟩

/-- A value that starts with another character than a string, an array or an object is a number or a
word, and its first character tells which. -/
theorem readValue_scalar (blank : Space space) (visible : isSpace c = false)
    (plain : c ≠ '{' ∧ c ≠ '[' ∧ c ≠ '"') (fuel : Nat) :
    readValue (fuel + 1) (space ++ c :: rest) =
      if c == '-' || isDigit c then readNumber? (c :: rest) else readWord? (c :: rest) := by
  rw [readValue, skipSpace_append blank visible]
  split
  · exact absurd (List.cons.inj ‹_›).1 plain.1
  · exact absurd (List.cons.inj ‹_›).1 plain.2.1
  · exact absurd (List.cons.inj ‹_›).1 plain.2.2
  · simp

/-- What reading a text of the grammar comes to, with enough fuel and with blanks in front of a
value. This is the invariant of the induction over the grammar. -/
def Part.Reads : Part → List Char → Prop
  | .value json, text => ∀ fuel before rest, 2 * text.length + 1 ≤ fuel → Space before →
    Ended rest → readValue fuel (before ++ (text ++ rest)) = some (json, rest)
  | .items listed, text => ∀ fuel rest, 2 * text.length + 2 ≤ fuel →
    readItems fuel (text ++ ']' :: rest) = some (listed, rest)
  | .members listed, text => ∀ fuel rest, 2 * text.length + 2 ≤ fuel →
    readMembers fuel (text ++ '}' :: rest) = some (listed, rest)

/-- A number is read as a value, whichever of its optional parts it has. -/
theorem reads_number (value : Nat) {sign fraction exponent : List Char}
    (signed : sign = [] ∨ sign = ['-']) (isFraction : Fraction fraction)
    (isExponent : Exponent exponent) :
    Part.Reads
      (.value (if sign = [] ∧ fraction = [] ∧ exponent = [] then .natural value else .number))
      (sign ++ (Text.decimal value ++ (fraction ++ exponent))) := by
  rintro (_ | fuel) before rest enough blank ended
  · omega
  have read := readNumber?_spelled value signed isFraction isExponent ended
  obtain ⟨c, tail, cut, visible, plain, first⟩ : ∃ c tail,
      sign ++ (Text.decimal value ++ (fraction ++ (exponent ++ rest))) = c :: tail ∧
        isSpace c = false ∧ (c ≠ '{' ∧ c ≠ '[' ∧ c ≠ '"') ∧ (c == '-' || isDigit c) = true := by
    rcases signed with rfl | rfl
    · obtain ⟨c, more, cut, first⟩ := exists_decimal_cons value
      have unlike {other : Char} (unlike : isDigit other = false) : c ≠ other :=
        ne_of_isDigit first unlike
      exact ⟨c, _, by rw [cut]; rfl, isSpace_of_isDigit first,
        ⟨unlike (by decide), unlike (by decide), unlike (by decide)⟩, by simp [first]⟩
    · exact ⟨'-', _, rfl, by decide, by decide, rfl⟩
  rw [List.append_assoc, List.append_assoc, List.append_assoc, cut,
    readValue_scalar blank visible plain, if_pos first, ← cut, read]

/-- A word is read as a value. Its first letter tells it from all other values. -/
theorem reads_word {tail : List Char} (visible : isSpace c = false)
    (plain : c ≠ '{' ∧ c ≠ '[' ∧ c ≠ '"' ∧ c ≠ '-' ∧ isDigit c = false)
    (word : ∀ rest, readWord? (c :: (tail ++ rest)) = some (json, rest)) :
    Part.Reads (.value json) (c :: tail) := by
  rintro (_ | fuel) before rest enough blank _
  · omega
  obtain ⟨brace, bracket, quote, minus, digit⟩ := plain
  rw [List.cons_append, readValue_scalar blank visible ⟨brace, bracket, quote⟩, ← word rest]
  simp [minus, digit]

/-- A string is read as a value, and as a broken one if its units are no text. -/
theorem reads_string {content : List Char} {units : List Unit16} (spelled : Content content units) :
    Part.Reads (.value ((stringText units).elim .brokenText .text))
      ('"' :: (content ++ ['"'])) := by
  rintro (_ | fuel) before rest enough blank ended
  · omega
  rw [readValue, List.cons_append, skipSpace_append blank (by decide), List.append_assoc,
    List.singleton_append]
  simp [spelled.readString]

/-- An array without items is read as a value, with or without blanks between its brackets. -/
theorem reads_noItems (blank : Space space) :
    Part.Reads (.value (.array [])) ('[' :: (space ++ [']'])) := by
  rintro (_ | fuel) before rest enough blankBefore ended
  · omega
  rw [readValue, List.cons_append, skipSpace_append blankBefore (by decide), List.append_assoc,
    List.singleton_append]
  simp only [skipSpace_append blank (by decide : isSpace ']' = false)]

/-- An object without members is read as a value, with or without blanks between its braces. -/
theorem reads_noMembers (blank : Space space) :
    Part.Reads (.value (.object [])) ('{' :: (space ++ ['}'])) := by
  rintro (_ | fuel) before rest enough blankBefore ended
  · omega
  rw [readValue, List.cons_append, skipSpace_append blankBefore (by decide), List.append_assoc,
    List.singleton_append]
  simp only [skipSpace_append blank (by decide : isSpace '}' = false)]

/-- An array with items is read as a value: behind its bracket it is not closed at once. -/
theorem reads_array {listed : List Json} (inner : Spelled (.items listed) text)
    (reads : Part.Reads (.items listed) text) :
    Part.Reads (.value (.array listed)) ('[' :: (text ++ [']'])) := by
  rintro (_ | fuel) before rest enough blank ended
  · omega
  simp only [List.length_cons, List.length_append, List.length_nil] at enough
  have read := reads fuel rest (by omega)
  obtain ⟨c, tail, opened, unclosed⟩ : ∃ c tail, skipSpace (text ++ ']' :: rest) = c :: tail ∧
      c ≠ ']' := by
    cases inner with
    | lastItem blankBefore blankAfter spelled =>
      obtain ⟨c, tail, rfl, visible, unclosed⟩ := spelled.exists_cons
      exact ⟨c, _, by rw [List.cons_append, List.append_assoc, List.cons_append,
        skipSpace_append blankBefore visible], unclosed⟩
    | item blankBefore blankAfter spelled others =>
      obtain ⟨c, tail, rfl, visible, unclosed⟩ := spelled.exists_cons
      exact ⟨c, _, by rw [List.cons_append, List.append_assoc, List.cons_append,
        skipSpace_append blankBefore visible], unclosed⟩
  rw [readValue, List.cons_append, skipSpace_append blank (by decide), List.append_assoc,
    List.singleton_append]
  simp [opened, unclosed, read]

/-- An object with members is read as a value: behind its brace stands the quote of a name. -/
theorem reads_object {listed : List (Option String × Json)} (inner : Spelled (.members listed) text)
    (reads : Part.Reads (.members listed) text) :
    Part.Reads (.value (.object listed)) ('{' :: (text ++ ['}'])) := by
  rintro (_ | fuel) before rest enough blank ended
  · omega
  simp only [List.length_cons, List.length_append, List.length_nil] at enough
  have read := reads fuel rest (by omega)
  obtain ⟨tail, opened⟩ : ∃ tail, skipSpace (text ++ '}' :: rest) = '"' :: tail := by
    cases inner with
    | lastMember blankBefore =>
      exact ⟨_, by
        rw [List.append_assoc, List.cons_append, skipSpace_append blankBefore (by decide)]⟩
    | member blankBefore =>
      exact ⟨_, by
        rw [List.append_assoc, List.cons_append, skipSpace_append blankBefore (by decide)]⟩
  rw [readValue, List.cons_append, skipSpace_append blank (by decide), List.append_assoc,
    List.singleton_append]
  simp [opened, read]

/-- The last item is read up to the bracket behind it, over the blanks on both sides. -/
theorem reads_lastItem {before after : List Char} (blankBefore : Space before)
    (blankAfter : Space after) (reads : Part.Reads (.value json) text) :
    Part.Reads (.items [json]) (before ++ (text ++ after)) := by
  rintro (_ | fuel) rest enough
  · omega
  simp only [List.length_append] at enough
  have read := reads fuel before (after ++ ']' :: rest) (by omega) blankBefore
    (ended_append blankAfter (ended_cons (.inr (.inl rfl)) rest))
  simp [readItems, read, skipSpace_append blankAfter (by decide : isSpace ']' = false)]

/-- Another item is read up to the comma behind it, and then those behind the comma. -/
theorem reads_item {before after more : List Char} {listed : List Json} (blankBefore : Space before)
    (blankAfter : Space after) (reads : Part.Reads (.value json) text)
    (others : Part.Reads (.items listed) more) :
    Part.Reads (.items (json :: listed)) (before ++ (text ++ (after ++ ',' :: more))) := by
  rintro (_ | fuel) rest enough
  · omega
  simp only [List.length_append, List.length_cons] at enough
  have read := reads fuel before (after ++ ',' :: (more ++ ']' :: rest)) (by omega) blankBefore
    (ended_append blankAfter (ended_cons (.inl rfl) _))
  have readOthers := others fuel rest (by omega)
  simp [readItems, read, readOthers, skipSpace_append blankAfter (by decide : isSpace ',' = false)]

section Members

variable {before content gap start after : List Char} {units : List Unit16}

/-- The last member is read up to the brace behind it: its name, the colon and its value, with
blanks between any two of them. -/
theorem reads_lastMember (blankBefore : Space before) (named : Content content units)
    (blankGap : Space gap) (blankStart : Space start) (blankAfter : Space after)
    (reads : Part.Reads (.value json) text) :
    Part.Reads (.members [(stringText units, json)])
      (before ++ '"' :: (content ++ '"' :: (gap ++ ':' :: (start ++ (text ++ after))))) := by
  rintro (_ | fuel) rest enough
  · omega
  simp only [List.length_append, List.length_cons] at enough
  have read := reads fuel start (after ++ '}' :: rest) (by omega) blankStart
    (ended_append blankAfter (ended_cons (.inr (.inr rfl)) rest))
  simp [readMembers, read, named.readString,
    skipSpace_append blankBefore (by decide : isSpace '"' = false),
    skipSpace_append blankGap (by decide : isSpace ':' = false),
    skipSpace_append blankAfter (by decide : isSpace '}' = false)]

/-- Another member is read up to the comma behind it, and then those behind the comma. -/
theorem reads_member {more : List Char} {listed : List (Option String × Json)}
    (blankBefore : Space before) (named : Content content units) (blankGap : Space gap)
    (blankStart : Space start) (blankAfter : Space after) (reads : Part.Reads (.value json) text)
    (others : Part.Reads (.members listed) more) :
    Part.Reads (.members ((stringText units, json) :: listed))
      (before ++ '"' ::
        (content ++ '"' :: (gap ++ ':' :: (start ++ (text ++ (after ++ ',' :: more)))))) := by
  rintro (_ | fuel) rest enough
  · omega
  simp only [List.length_append, List.length_cons] at enough
  have read := reads fuel start (after ++ ',' :: (more ++ '}' :: rest)) (by omega) blankStart
    (ended_append blankAfter (ended_cons (.inl rfl) _))
  have readOthers := others fuel rest (by omega)
  simp [readMembers, read, readOthers, named.readString,
    skipSpace_append blankBefore (by decide : isSpace '"' = false),
    skipSpace_append blankGap (by decide : isSpace ':' = false),
    skipSpace_append blankAfter (by decide : isSpace ',' = false)]

end Members

/-- Texts of the grammar are read as what they spell. The induction is over the grammar, one lemma
for each of its rules. -/
theorem Spelled.reads {part : Part} (spelled : Spelled part text) : part.Reads text := by
  induction spelled with
  | nullWord => exact reads_word (by decide) (by decide) fun _ => rfl
  | trueWord => exact reads_word (by decide) (by decide) fun _ => rfl
  | falseWord => exact reads_word (by decide) (by decide) fun _ => rfl
  | natural value => simpa using reads_number value (.inl rfl) (.inl rfl) (.inl rfl)
  | number value signed isFraction isExponent unnatural =>
    have read := reads_number value signed isFraction isExponent
    rwa [if_neg unnatural] at read
  | text spelled paired =>
    have read := reads_string spelled
    rwa [paired] at read
  | brokenText spelled unpaired =>
    have read := reads_string spelled
    rwa [unpaired] at read
  | noItems blank => exact reads_noItems blank
  | array inner ih => exact reads_array inner ih
  | noMembers blank => exact reads_noMembers blank
  | object inner ih => exact reads_object inner ih
  | lastItem blankBefore blankAfter _ reads => exact reads_lastItem blankBefore blankAfter reads
  | item blankBefore blankAfter _ _ reads others =>
    exact reads_item blankBefore blankAfter reads others
  | lastMember blankBefore named blankGap blankStart blankAfter _ reads =>
    exact reads_lastMember blankBefore named blankGap blankStart blankAfter reads
  | member blankBefore named blankGap blankStart blankAfter _ _ reads others =>
    exact reads_member blankBefore named blankGap blankStart blankAfter reads others

/-- A text that spells a value is read as that value. The reader takes as much fuel as the length of
the text asks for. -/
theorem Spelled.parse? (spelled : Spelled (.value json) text) :
    parse? (String.ofList text) = some json := by
  have read := spelled.reads (2 * text.length + 1) [] [] (Nat.le_refl _) space_nil (by simp [Ended])
  rw [List.append_nil, List.nil_append] at read
  have done : (skipSpace []).isEmpty = true := rfl
  simp only [Json.parse?, String.toList_ofList, read, Option.bind_eq_bind, Option.bind_some, done,
    if_true]

end Values

section Compact

/-- A member of a compact object, up to the end of its value: the quoted name, a colon and the
value. -/
def memberText (name : String) (value : List Char) : List Char :=
  '"' :: (name.toList.flatMap escape ++ '"' :: ':' :: value)

/-- The quoted form of a text spells it, so texts survive being written and read whatever is in
them. -/
theorem spelled_text (text : String) : Spelled (.value (.text text)) (quote text.toList) := by
  have paired := stringText_map_char text.toList
  rw [String.ofList_toList] at paired
  exact .text (content_quoted text.toList) paired

theorem spelled_lastMember (name : String) {json : Json} {value : List Char}
    (spelled : Spelled (.value json) value) :
    Spelled (.members [(some name, json)]) (memberText name value) := by
  have paired := stringText_map_char name.toList
  have member := Spelled.lastMember space_nil (content_quoted name.toList) space_nil space_nil
    space_nil spelled
  rwa [paired, String.ofList_toList, List.append_nil] at member

/-- A member of a compact object is spelled if its value is and the members behind it are. -/
theorem spelled_member (name : String) {json : Json} {value more : List Char}
    {listed : List (Option String × Json)} (spelled : Spelled (.value json) value)
    (others : Spelled (.members listed) more) :
    Spelled (.members ((some name, json) :: listed)) (memberText name (value ++ ',' :: more)) := by
  have paired := stringText_map_char name.toList
  have member := Spelled.member space_nil (content_quoted name.toList) space_nil space_nil space_nil
    spelled others
  rwa [paired, String.ofList_toList] at member

end Compact

end DialectLoader.Json
