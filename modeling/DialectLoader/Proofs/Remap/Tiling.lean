import DialectLoader.Remap

/-!
# The locations of a message

A message is read from left to right. Where an embedded location starts it is taken whole, and
reading goes on behind its terminator; every other character stands for itself. `Tiles` states this
as a relation between a text and its stretches, without saying how locations are searched for. Every
text has exactly one tiling, and remapping the embedded locations of a text rewrites its stretches
one by one.

The leading location is described in the same way: the shortest start of the first line that a line
number and a colon follow.

What a location looks like is fixed by patterns that the program hands to a library of regular
expressions. Here it is what these patterns mean; how the library searches is not modelled.
-/

namespace DialectLoader.Remap

/-- A part of a message: a character that belongs to no location, or an embedded location with its
parts. -/
inductive Stretch where
  | plain (c : Char)
  | location (token digits : List Char) (terminator : Char)
deriving DecidableEq, Repr

def Stretch.text : Stretch → List Char
  | plain c => [c]
  | location token digits terminator => token ++ ':' :: digits ++ [terminator]

/-- What becomes of a stretch when locations are remapped: a location is remapped, and another
character stays. -/
def View.stretch (view : View) : Stretch → List Char
  | .plain c => [c]
  | .location token digits terminator => view.location token digits terminator

/-- The parts of an embedded location: a token, a line number behind a colon, and a terminator. -/
structure IsLocation (token digits : List Char) (terminator : Char) : Prop where
  token_ne_nil : token ≠ []
  token_chars : ∀ c ∈ token, isTokenChar c = true
  digits_ne_nil : digits ≠ []
  digits_digits : ∀ c ∈ digits, Text.isDigit c = true
  terminator_mem : terminator ∈ [':', '>']

instance (token digits : List Char) (terminator : Char) :
    Decidable (IsLocation token digits terminator) :=
  decidable_of_iff
    ((token ≠ [] ∧ token.all isTokenChar = true) ∧ (digits ≠ [] ∧ digits.all Text.isDigit = true) ∧
      terminator ∈ [':', '>']) (by
    simp only [List.all_eq_true]
    exact ⟨fun ⟨⟨visible, chars⟩, ⟨present, digits⟩, ends⟩ =>
      ⟨visible, chars, present, digits, ends⟩,
      fun location => ⟨⟨location.token_ne_nil, location.token_chars⟩,
        ⟨location.digits_ne_nil, location.digits_digits⟩, location.terminator_mem⟩⟩)

def StartsLocation (text : List Char) : Prop :=
  ∃ token digits terminator rest,
    IsLocation token digits terminator ∧ text = token ++ ':' :: digits ++ terminator :: rest

/-- The stretches of a text: a location wherever one starts, else a single character. There is no
choice, so a text has one tiling. -/
inductive Tiles : List Char → List Stretch → Prop where
  | done : Tiles [] []
  | skip {c : Char} {rest : List Char} {stretches : List Stretch}
    (clear : ¬ StartsLocation (c :: rest))
      (tail : Tiles rest stretches) : Tiles (c :: rest) (.plain c :: stretches)
  | found {text token digits rest : List Char} {terminator : Char} {stretches : List Stretch}
      (location : IsLocation token digits terminator)
      (split : text = token ++ ':' :: digits ++ terminator :: rest) (tail : Tiles rest stretches) :
      Tiles text (.location token digits terminator :: stretches)

theorem isTokenChar_colon : isTokenChar ':' = false := by decide

theorem isDigit_terminator {terminator : Char} (member : terminator ∈ [':', '>']) :
    Text.isDigit terminator = false := by
  simp only [List.mem_cons, List.not_mem_nil, or_false] at member
  rcases member with rfl | rfl <;> decide

/-- A line number is a colon, the longest run of digits behind it, and one of the terminators. -/
theorem lineNumber?_eq_some_iff {terminators text digits after : List Char} {terminator : Char}
    (known : ∀ c ∈ terminators, c ∈ [':', '>']) :
    lineNumber? terminators text = some (digits, terminator, after) ↔
      text = ':' :: digits ++ terminator :: after ∧ digits ≠ [] ∧
        (∀ c ∈ digits, Text.isDigit c = true) ∧ terminator ∈ terminators := by
  constructor
  · intro read
    unfold lineNumber? at read
    split at read
    · rename_i rest
      have whole : rest.takeWhile Text.isDigit ++ rest.dropWhile Text.isDigit = rest :=
        List.takeWhile_append_dropWhile
      split at read
      · rename_i first behind remaining
        split at read
        · rename_i accepted
          simp only [Bool.and_eq_true, List.contains_iff_mem, Bool.not_eq_true',
            List.isEmpty_eq_false_iff]
            at accepted
          simp only [Option.some.injEq, Prod.mk.injEq] at read
          obtain ⟨rfl, rfl, rfl⟩ := read
          rw [remaining] at whole
          refine ⟨by rw [List.cons_append, whole], accepted.2, ?_, accepted.1⟩
          intro c member
          exact List.all_eq_true.mp List.all_takeWhile c member
        · cases read
      · cases read
    · cases read
  · rintro ⟨rfl, visible, allDigits, member⟩
    have stops : Text.isDigit terminator = false := isDigit_terminator (known terminator member)
    have taken : (digits ++ terminator :: after).takeWhile Text.isDigit = digits := by
      rw [List.takeWhile_append_of_pos allDigits]
      simp [stops]
    have dropped : (digits ++ terminator :: after).dropWhile Text.isDigit =
        terminator :: after := by
      rw [List.dropWhile_append_of_pos allDigits]
      simp [stops]
    simp only [lineNumber?, List.cons_append, dropped, taken]
    simp [member, visible]

theorem IsLocation.lineNumber? {token digits : List Char} {terminator : Char}
    (location : IsLocation token digits terminator) (rest : List Char) :
    Remap.lineNumber? [':', '>'] (':' :: digits ++ terminator :: rest) =
      some (digits, terminator, rest) :=
  (lineNumber?_eq_some_iff fun _ member => member).mpr
    ⟨rfl, location.digits_ne_nil, location.digits_digits, location.terminator_mem⟩

/-- A text starts with a location exactly when its first character is a token character and a line
number follows the token. -/
theorem startsLocation_cons_iff {c : Char} {rest : List Char} :
    StartsLocation (c :: rest) ↔
      isTokenChar c = true ∧ (lineNumber? [':', '>'] (rest.dropWhile isTokenChar)).isSome := by
  constructor
  · rintro ⟨token, digits, terminator, after, location, text⟩
    obtain ⟨first, token, rfl⟩ := List.exists_cons_of_ne_nil location.token_ne_nil
    simp only [List.cons_append, List.append_assoc, List.cons.injEq] at text
    obtain ⟨rfl, rfl⟩ := text
    have tokens : ∀ c ∈ token, isTokenChar c = true :=
      fun c member => location.token_chars c (List.mem_cons_of_mem _ member)
    refine ⟨location.token_chars c List.mem_cons_self, ?_⟩
    rw [List.dropWhile_append_of_pos tokens]
    simp only [List.dropWhile_cons, isTokenChar_colon, Bool.false_eq_true, if_false]
    rw [← List.cons_append, location.lineNumber? after]
    rfl
  · rintro ⟨starts, followed⟩
    obtain ⟨⟨digits, terminator, after⟩, read⟩ := Option.isSome_iff_exists.mp followed
    obtain ⟨behind, visible, allDigits, member⟩ :=
      (lineNumber?_eq_some_iff fun _ member => member).mp read
    refine ⟨c :: rest.takeWhile isTokenChar, digits, terminator, after,
      ⟨by simp, ?_, visible, allDigits, member⟩, ?_⟩
    · intro d inside
      rcases List.mem_cons.mp inside with rfl | inside
      · exact starts
      · exact List.all_eq_true.mp List.all_takeWhile d inside
    · have whole : rest.takeWhile isTokenChar ++ rest.dropWhile isTokenChar = rest :=
        List.takeWhile_append_dropWhile
      rw [behind] at whole
      simpa using whole.symm

/-- The parts of a location at the start of a text are fixed by the text: the token is the longest
run of token characters, and the digits are the longest run of digits behind its colon. -/
theorem location_parts_unique {token digits rest token' digits' rest' : List Char}
    {terminator terminator' : Char} (left : IsLocation token digits terminator)
    (right : IsLocation token' digits' terminator')
    (same : token ++ ':' :: digits ++ terminator :: rest =
      token' ++ ':' :: digits' ++ terminator' :: rest') :
    token = token' ∧ digits = digits' ∧ terminator = terminator' ∧ rest = rest' := by
  simp only [List.append_assoc] at same
  have tokens := congrArg (List.takeWhile isTokenChar) same
  rw [List.takeWhile_append_of_pos left.token_chars, List.takeWhile_append_of_pos right.token_chars]
    at tokens
  simp only [List.cons_append, List.takeWhile_cons, isTokenChar_colon, Bool.false_eq_true, if_false,
    List.append_nil] at tokens
  subst tokens
  have behind := congrArg (lineNumber? [':', '>']) (List.append_cancel_left same)
  rw [left.lineNumber? rest, right.lineNumber? rest'] at behind
  simpa using behind

/-- Every text has a tiling. The text gets shorter with every stretch, so the induction is on its
length. -/
theorem exists_tiles (text : List Char) : ∃ stretches, Tiles text stretches := by
  induction measure : text.length using Nat.strongRecOn generalizing text with
  | ind length ih =>
    subst measure
    cases text with
    | nil => exact ⟨[], .done⟩
    | cons c rest =>
      by_cases starts : StartsLocation (c :: rest)
      · obtain ⟨token, digits, terminator, after, location, split⟩ := starts
        have shorter : after.length < (c :: rest).length := by
          simp only [split, List.length_append, List.length_cons]
          omega
        obtain ⟨stretches, tail⟩ := ih after.length shorter after rfl
        exact ⟨_, .found location split tail⟩
      · obtain ⟨stretches, tail⟩ := ih rest.length (by simp) rest rfl
        exact ⟨_, .skip starts tail⟩

/-- No text has two tilings: where a location starts it has to be taken, and its parts are fixed. -/
theorem Tiles.unique {text : List Char} {left right : List Stretch} (leftTiles : Tiles text left)
    (rightTiles : Tiles text right) : left = right := by
  induction leftTiles generalizing right with
  | done =>
    cases rightTiles with
    | done => rfl
    | found location split tail => simp at split
  | skip clear _ ih =>
    cases rightTiles with
    | skip _ tail => rw [ih tail]
    | found location split tail => exact absurd ⟨_, _, _, _, location, split⟩ clear
  | found location split _ ih =>
    cases rightTiles with
    | done => simp at split
    | skip clear tail => exact absurd ⟨_, _, _, _, location, split⟩ clear
    | found other splitOther tail =>
      obtain ⟨rfl, rfl, rfl, rfl⟩ :=
        location_parts_unique location other (split.symm.trans splitOther)
      rw [ih tail]

/-- The stretches of a text make up the text, so nothing is lost by looking at stretches. -/
theorem Tiles.text_eq {text : List Char} {stretches : List Stretch} (tiles : Tiles text stretches) :
    stretches.flatMap Stretch.text = text := by
  induction tiles with
  | done => rfl
  | skip _ _ ih => simp [Stretch.text, ih]
  | found _ split _ ih => simp [Stretch.text, ih, split]

/-- A location at the start of a text is remapped, and so are those behind it. -/
theorem embedded_location (view : View) {token digits : List Char} {terminator : Char}
    (location : IsLocation token digits terminator) (rest : List Char) :
    view.embedded (token ++ ':' :: digits ++ terminator :: rest) =
      view.location token digits terminator ++ view.embedded rest := by
  obtain ⟨first, token, rfl⟩ := List.exists_cons_of_ne_nil location.token_ne_nil
  have starts : isTokenChar first = true := location.token_chars first List.mem_cons_self
  have tokens : ∀ c ∈ token, isTokenChar c = true :=
    fun c member => location.token_chars c (List.mem_cons_of_mem _ member)
  have taken : (token ++ ':' :: (digits ++ terminator :: rest)).takeWhile isTokenChar = token := by
    rw [List.takeWhile_append_of_pos tokens]
    simp [isTokenChar_colon]
  have dropped : (token ++ ':' :: (digits ++ terminator :: rest)).dropWhile isTokenChar =
      ':' :: digits ++ terminator :: rest := by
    rw [List.dropWhile_append_of_pos tokens]
    simp [isTokenChar_colon]
  have read := location.lineNumber? rest
  rw [← dropped] at read
  simp only [List.cons_append, List.append_assoc]
  rw [View.embedded]
  simp only [starts, if_true, taken]
  split
  · rename_i found
    rw [read] at found
    simp only [Option.some.injEq, Prod.mk.injEq] at found
    obtain ⟨rfl, rfl, rfl⟩ := found
    rfl
  · rename_i missing
    rw [read] at missing
    cases missing

/-- A run of token characters that no line number follows is kept whole. The search takes it in one
step. -/
theorem embedded_run (view : View) {c : Char} {rest : List Char} (starts : isTokenChar c = true)
    (missing : lineNumber? [':', '>'] (rest.dropWhile isTokenChar) = none) :
    view.embedded (c :: rest) =
      c :: rest.takeWhile isTokenChar ++ view.embedded (rest.dropWhile isTokenChar) := by
  rw [View.embedded]
  simp only [starts, if_true]
  split
  · rename_i found
    rw [missing] at found
    cases found
  · rfl

/-- A character at which no location starts is kept. The search leaves a whole run of token
characters behind at once, which comes to the same as leaving its first character behind: no
location starts later in the run either. -/
theorem embedded_plain (view : View) {c : Char} {rest : List Char}
    (clear : ¬ StartsLocation (c :: rest)) :
    view.embedded (c :: rest) = c :: view.embedded rest := by
  by_cases starts : isTokenChar c = true
  · have missing : lineNumber? [':', '>'] (rest.dropWhile isTokenChar) = none := by
      refine Option.not_isSome_iff_eq_none.mp fun found => ?_
      exact clear (startsLocation_cons_iff.mpr ⟨starts, found⟩)
    rw [embedded_run view starts missing, List.cons_append]
    congr 1
    cases rest with
    | nil => rfl
    | cons next rest =>
      by_cases continues : isTokenChar next = true
      · simp only [List.dropWhile_cons, continues, if_true] at missing ⊢
        rw [embedded_run view continues missing]
        simp [continues]
      · simp [continues]
  · rw [View.embedded]
    simp [starts]

/-- Remapping the embedded locations of a text remaps its stretches one by one. From here on
messages are handled by their tilings. -/
theorem Tiles.embedded (view : View) {text : List Char} {stretches : List Stretch}
    (tiles : Tiles text stretches) : view.embedded text = stretches.flatMap view.stretch := by
  induction tiles with
  | done => rw [View.embedded]; rfl
  | skip clear _ ih =>
    rw [embedded_plain view clear, ih]
    rfl
  | found location split _ ih =>
    rw [split, embedded_location view location, ih]
    rfl

/-- A start of the first line that a line number and a colon follow, and no shorter start is. Its
characters may be any. -/
structure IsLeading (text source digits after : List Char) : Prop where
  split : text = source ++ ':' :: digits ++ ':' :: after
  one_line : '\n' ∉ source
  digits_ne_nil : digits ≠ []
  digits_digits : ∀ c ∈ digits, Text.isDigit c = true
  shortest : ∀ source' digits' after', text = source' ++ ':' :: digits' ++ ':' :: after' →
    digits' ≠ [] → (∀ c ∈ digits', Text.isDigit c = true) → source.length ≤ source'.length

/-- The leading location that is found is the shortest one. One character of the text is left behind
at a time, so every shorter start has been tried before. -/
theorem leading?_isLeading {text : List Char} {found : Leading}
    (read : leading? text = some found) :
    IsLeading text found.source found.digits (found.separator ++ found.rest) := by
  induction text generalizing found with
  | nil => cases read
  | cons c text ih =>
    have colons : ∀ c ∈ [':'], c ∈ [':', '>'] := by simp
    unfold leading? at read
    split at read
    · rename_i digits terminator after here
      obtain ⟨split, visible, allDigits, member⟩ := (lineNumber?_eq_some_iff colons).mp here
      obtain rfl : terminator = ':' := by simpa using member
      obtain rfl := Option.some.inj read
      refine ⟨?_, by simp, visible, allDigits, fun _ _ _ _ _ _ => Nat.zero_le _⟩
      simpa [List.takeWhile_append_dropWhile] using split
    · rename_i missing
      split at read
      · cases read
      · rename_i sameLine
        obtain ⟨later, laterRead, rfl⟩ := Option.map_eq_some_iff.mp read
        have tail := ih laterRead
        refine ⟨by simpa using tail.split, ?_, tail.digits_ne_nil, tail.digits_digits, ?_⟩
        · simp only [List.mem_cons, not_or]
          exact ⟨Ne.symm sameLine, tail.one_line⟩
        · intro source' digits' after' split visible allDigits
          cases source' with
          | nil =>
            have here : lineNumber? [':'] (c :: text) = some (digits', ':', after') :=
              (lineNumber?_eq_some_iff colons).mpr
                ⟨split, visible, allDigits, List.mem_singleton_self _⟩
            rw [missing] at here
            cases here
          | cons first source' =>
            simp only [List.cons_append, List.cons.injEq] at split
            exact Nat.succ_le_succ
              (tail.shortest source' digits' after' (by simpa using split.2) visible allDigits)

end DialectLoader.Remap
