import DialectLoader.Proofs.Remap.Frames

/-!
# Rewriting locations in place

A message is remapped location by location, but where a location starts depends on what comes after:
a run of token characters is a location if a line number follows it. Rewriting could therefore make
a location out of what stood before, and what is put before a text could swallow its start. Neither
happens, for one reason. Whatever is rewritten starts with the token of a location, and a token can
only be taken for the line number of what stands before it if it consists of digits. The paths of
scripts and of generated code do not.

So a location of generated code is rewritten wherever it stands behind a delimiter, and what
surrounds it is remapped as if it stood alone. And a message that has been remapped falls into the
same locations as before, none of which changes any more.

Both need paths of token characters: a blank or a bracket in a path ends the token, and no more than
its end is then recognised.
-/

namespace DialectLoader.Remap

/-- Whether a line number starts a text, but for its colon: digits and a terminator. -/
def StartsNumber (text : List Char) : Prop :=
  ∃ (digits : List Char) (terminator : Char) (rest : List Char), digits ≠ [] ∧
    (∀ c ∈ digits, Text.isDigit c = true) ∧ terminator ∈ [':', '>'] ∧
      text = digits ++ terminator :: rest

/-- Whether a text starts with the rest of a location: what is left of the token, and the line
number. -/
def ContinuesLocation (text : List Char) : Prop :=
  (lineNumber? [':', '>'] (text.dropWhile isTokenChar)).isSome = true

theorem isTokenChar_terminator {terminator : Char} (member : terminator ∈ [':', '>']) :
    isTokenChar terminator = false := by
  simp only [List.mem_cons, List.not_mem_nil, or_false] at member
  rcases member with rfl | rfl <;> decide

/-- Digits are token characters: none of them is blank, and none is a delimiter of another kind. -/
theorem isTokenChar_of_isDigit {c : Char} (digit : Text.isDigit c = true) :
    isTokenChar c = true := by
  by_contra delimiter
  simp only [isTokenChar, Bool.not_eq_true, Bool.not_eq_false', Bool.or_eq_true,
    List.contains_iff_mem] at delimiter
  rcases delimiter with blank | listed
  · rw [Text.isBlank_of_isDigit digit] at blank
    cases blank
  · simp only [List.mem_cons, List.not_mem_nil, or_false] at listed
    rcases listed with rfl | rfl | rfl | rfl | rfl | rfl | rfl | rfl | rfl <;>
      exact absurd digit (by decide)

/-- A line number starts with a digit, which the terminator or more of the number follows. The
induction over tokens goes by this. -/
theorem startsNumber_cons_iff {c : Char} {rest : List Char} :
    StartsNumber (c :: rest) ↔
      Text.isDigit c = true ∧
      ((∃ terminator ∈ [':', '>'], rest.head? = some terminator) ∨ StartsNumber rest) := by
  constructor
  · rintro ⟨digits, terminator, behind, visible, allDigits, ends, split⟩
    obtain ⟨first, digits, rfl⟩ := List.exists_cons_of_ne_nil visible
    simp only [List.cons_append, List.cons.injEq] at split
    obtain ⟨rfl, rfl⟩ := split
    refine ⟨allDigits c List.mem_cons_self, ?_⟩
    cases digits with
    | nil => exact .inl ⟨terminator, ends, rfl⟩
    | cons next digits =>
      have later : ∀ d ∈ next :: digits, Text.isDigit d = true :=
        fun d member => allDigits d (List.mem_cons_of_mem _ member)
      exact .inr ⟨next :: digits, terminator, behind, by simp, later, ends, rfl⟩
  · rintro ⟨digit,
      ⟨terminator, ends, first⟩ | ⟨digits, terminator, behind, _, allDigits, ends, rfl⟩⟩
    · obtain ⟨behind, rfl⟩ := List.head?_eq_some_iff.mp first
      exact ⟨[c], terminator, behind, by simp, by simpa using digit, ends, rfl⟩
    · refine ⟨c :: digits, terminator, behind, by simp, fun d member => ?_, ends, rfl⟩
      rcases List.mem_cons.mp member with rfl | inside
      · exact digit
      · exact allDigits d inside

theorem lineNumber?_cons_isSome_iff {c : Char} {rest : List Char} :
    (lineNumber? [':', '>'] (c :: rest)).isSome = true ↔ c = ':' ∧ StartsNumber rest := by
  rw [Option.isSome_iff_exists]
  constructor
  · rintro ⟨⟨digits, terminator, after⟩, read⟩
    obtain ⟨split, visible, allDigits, ends⟩ :=
      (lineNumber?_eq_some_iff fun _ member => member).mp read
    simp only [List.cons_append, List.cons.injEq] at split
    exact ⟨split.1, digits, terminator, after, visible, allDigits, ends, split.2⟩
  · rintro ⟨rfl, digits, terminator, after, visible, allDigits, ends, rfl⟩
    exact ⟨(digits, terminator, after),
      (lineNumber?_eq_some_iff fun _ member => member).mpr ⟨rfl, visible, allDigits, ends⟩⟩

/-- The rest of a location goes on with a token character, or with the colon of its line number. -/
theorem continuesLocation_cons_iff {c : Char} {rest : List Char} :
    ContinuesLocation (c :: rest) ↔
      (isTokenChar c = true ∧ ContinuesLocation rest) ∨ (c = ':' ∧ StartsNumber rest) := by
  unfold ContinuesLocation
  by_cases token : isTokenChar c = true
  · have other : c ≠ ':' := by
      rintro rfl
      cases token
    simp [token, other]
  · rw [List.dropWhile_cons_of_neg token, lineNumber?_cons_isSome_iff]
    simp [token]

/-- The token of a location is taken for a line number only if it consists of digits. This is where
names of scripts and code are safe. -/
theorem isDigit_of_startsNumber {token rest : List Char}
    (tokens : ∀ c ∈ token, isTokenChar c = true) (starts : StartsNumber (token ++ ':' :: rest)) :
    ∀ c ∈ token, Text.isDigit c = true := by
  induction token with
  | nil => simp
  | cons c token ih =>
    obtain ⟨digit, behind⟩ := startsNumber_cons_iff.mp starts
    intro d member
    rcases List.mem_cons.mp member with rfl | inside
    · exact digit
    · rcases behind with ⟨terminator, ends, first⟩ | further
      · -- More of the token follows, so no terminator comes next.
        cases token with
        | nil => cases inside
        | cons next token =>
          obtain rfl : next = terminator := by simpa using first
          have continues := tokens next (by simp)
          rw [isTokenChar_terminator ends] at continues
          cases continues
      · exact ih (fun e later => tokens e (List.mem_cons_of_mem _ later)) further
          d inside

/-- A text is changed without starting a location that reaches over from before it: what the changed
text could contribute to such a location was there already. -/
structure KeepsClear (text changed : List Char) : Prop where
  terminator : ∀ c ∈ [':', '>'], changed.head? = some c → text.head? = some c
  number : StartsNumber changed → StartsNumber text
  location : ContinuesLocation changed → ContinuesLocation text

namespace KeepsClear

variable {text changed : List Char} (keeps : KeepsClear text changed)

include keeps

theorem cons (c : Char) : KeepsClear (c :: text) (c :: changed) where
  terminator := fun _ _ first => first
  number := by
    rw [startsNumber_cons_iff, startsNumber_cons_iff]
    rintro ⟨digit, ⟨terminator, ends, first⟩ | further⟩
    · exact ⟨digit, .inl ⟨terminator, ends, keeps.terminator terminator ends first⟩⟩
    · exact ⟨digit, .inr (keeps.number further)⟩
  location := by
    rw [continuesLocation_cons_iff, continuesLocation_cons_iff]
    rintro (⟨token, further⟩ | ⟨colon, starts⟩)
    · exact .inl ⟨token, keeps.location further⟩
    · exact .inr ⟨colon, keeps.number starts⟩

theorem append (front : List Char) : KeepsClear (front ++ text) (front ++ changed) := by
  induction front with
  | nil => exact keeps
  | cons c front ih => exact ih.cons c

/-- No location starts before the changed text if none did before, since the change offers nothing
to continue one. -/
theorem not_startsLocation {c : Char} (clear : ¬ StartsLocation (c :: text)) :
    ¬ StartsLocation (c :: changed) := by
  rw [startsLocation_cons_iff] at clear ⊢
  rintro ⟨token, further⟩
  exact clear ⟨token, keeps.location further⟩

end KeepsClear

/-- Behind a delimiter anything may be added that is not taken for a line number. -/
theorem keepsClear_delimiter {delimiter : Char} (ends : isTokenChar delimiter = false)
    {after : List Char} (clear : ¬ StartsNumber after) :
    KeepsClear [delimiter] (delimiter :: after) where
  terminator := fun _ _ first => first
  number := by
    intro starts
    have token := isTokenChar_of_isDigit (startsNumber_cons_iff.mp starts).1
    rw [ends] at token
    cases token
  location := by
    intro continues
    rcases continuesLocation_cons_iff.mp continues with ⟨token, _⟩ | ⟨_, starts⟩
    · rw [ends] at token
      cases token
    · exact absurd starts clear

/-- A text is empty or ends in a character that is part of no token, so that a token may start
behind it. -/
def Delimited (text : List Char) : Prop :=
  ∀ last, text.getLast? = some last → isTokenChar last = false

/-- Behind a delimiter a text keeps its stretches, and so does what stands before, unless the text
is taken for a line number. -/
theorem Tiles.append {before after : List Char} {stretches others : List Stretch}
    (tiles : Tiles before stretches) (later : Tiles after others) (clear : ¬ StartsNumber after)
    (delimited : Delimited before) : Tiles (before ++ after) (stretches ++ others) := by
  induction tiles with
  | done => exact later
  | @skip c rest _ unstarted _ ih =>
    have tail : Delimited rest := fun last ends =>
      delimited last (by simp [List.getLast?_cons, ends])
    refine .skip ?_ (ih tail)
    rcases List.eq_nil_or_concat' rest with rfl | ⟨front, last, rfl⟩
    · rw [startsLocation_cons_iff]
      simp [delimited c rfl]
    · have keeps := (keepsClear_delimiter (tail last (by simp)) clear).append front
      simpa using keeps.not_startsLocation unstarted
  | @found _ _ _ rest _ _ location split _ ih =>
    have tail : Delimited rest := fun last ends =>
      delimited last (by simp [split, List.getLast?_append, List.getLast?_cons, ends])
    exact .found location (by simp [split]) (ih tail)

/-- A location whose token does not consist of digits is remapped behind every delimiter, and what
surrounds it as if it stood alone. -/
theorem embedded_between (view : View) {before token digits : List Char} {terminator : Char}
    (location : IsLocation token digits terminator) (named : ¬ ∀ c ∈ token, Text.isDigit c = true)
    (delimited : Delimited before) (after : List Char) :
    view.embedded (before ++ (token ++ ':' :: digits ++ terminator :: after)) =
      view.embedded before ++ (view.location token digits terminator ++ view.embedded after) := by
  obtain ⟨stretches, tiles⟩ := exists_tiles before
  obtain ⟨others, later⟩ := exists_tiles after
  have clear : ¬ StartsNumber (token ++ ':' :: digits ++ terminator :: after) := by
    intro starts
    rw [List.append_assoc] at starts
    exact named (isDigit_of_startsNumber location.token_chars starts)
  have whole := tiles.append (.found location rfl later) clear delimited
  rw [whole.embedded view, tiles.embedded view, later.embedded view, List.flatMap_append,
    List.flatMap_cons]
  rfl

theorem lineText_eq_toString (line : Int) : String.ofList (lineText line) = toString line := by
  cases line with
  | ofNat line =>
    have positive : ¬ (Int.ofNat line) < 0 := by simp
    rw [lineText, if_neg positive]
    rfl
  | negSucc line =>
    rw [lineText, if_pos (Int.negSucc_lt_zero line), String.ofList_cons]
    rfl

theorem isLocation_of_readDecimal? {path : String} {digits : List Char} {line : Nat}
    {terminator : Char} (visible : path.toList ≠ []) (tokens : IsToken path)
    (read : Text.readDecimal? Text.signedBound digits = some line)
    (ends : terminator ∈ [':', '>']) : IsLocation path.toList digits terminator := by
  obtain ⟨present, allDigits⟩ := Text.isDigit_of_readDecimal? read
  exact ⟨visible, tokens, present, allDigits, ends⟩

/-- A path with an extension does not consist of digits, as it has a dot in it. -/
theorem not_isDigit_of_extension? {path ext : String} (named : Path.extension? path = some ext) :
    ¬ ∀ c ∈ path.toList, Text.isDigit c = true := by
  obtain ⟨_, _, front, spelled⟩ := Path.extension?_eq_some_iff.mp named
  intro digits
  exact absurd (digits '.' (by simp [spelled])) (by decide)

/-- A cache whose paths can be told apart and can be tokens, those of the code as well as those of
the scripts. -/
structure Legible (cache : Cache) : Prop extends ToldApart cache where
  code_token : ∀ artifact ∈ cache.artifacts, IsToken artifact.fullOutputPath
  source_token : ∀ artifact ∈ cache.artifacts, IsToken artifact.fullSourcePath

theorem legible_mappedView : Legible mappedView.cache := by
  constructor
  · constructor <;> (intro artifact live; rw [mem_mappedView live]; decide)
  · intro artifact live
    rw [mem_mappedView live]
    decide
  · intro artifact live
    rw [mem_mappedView live]
    decide

/-- A location of generated code is rewritten wherever it stands at the start or behind a delimiter,
whatever surrounds it: the remapped message is what stands before, remapped by itself, then the
remapped frame with its terminator, and then what stands behind, remapped by itself. -/
theorem code_location_rewritten_in_place {view : View} (reachable : view.cache.Reachable)
    (lua : ∀ artifact ∈ view.cache.artifacts, Path.endsWith artifact.fullOutputPath ".lua" = true)
    (tokens : ∀ artifact ∈ view.cache.artifacts, IsToken artifact.fullOutputPath)
    {artifact : Artifact} (live : artifact ∈ view.cache.artifacts) {digits : String} {line : Nat}
    (read : Text.readDecimal? Text.signedBound digits.toList = some line) {terminator : Char}
    (ends : terminator ∈ [':', '>']) {before : String} (delimited : Delimited before.toList)
    (after : String) :
    (view.message (before ++ artifact.fullOutputPath ++ ":" ++ digits ++
        String.singleton terminator ++ after)).1 =
      (view.message before).1 ++ (view.frame artifact.fullOutputPath line).1 ++ ":" ++
        toString (view.frame artifact.fullOutputPath line).2 ++ String.singleton terminator ++
          (view.message after).1 := by
  obtain ⟨ext, named, _⟩ :=
    Path.exists_extension_of_endsWith Path.isExtension_lua (lua artifact live)
  obtain ⟨_, _, front, spelled⟩ := Path.extension?_eq_some_iff.mp named
  have location : IsLocation artifact.fullOutputPath.toList digits.toList terminator :=
    isLocation_of_readDecimal? (by simp [spelled]) (tokens artifact live) read ends
  have rewritten :=
    embedded_between view location (not_isDigit_of_extension? named) delimited after.toList
  have text := View.message_text reachable.consistent tokens
  rw [text, text, text, ← lineText_eq_toString, ← String.toList_inj]
  simp only [String.toList_append, String.toList_ofList, String.toList_singleton, List.append_assoc]
  have joined : (":" : String).toList = [':'] := rfl
  rw [joined]
  simp only [List.append_assoc, List.cons_append, List.nil_append] at rewritten ⊢
  rw [rewritten, View.location, read]
  simp

/-- A location between two others, in a message that starts like a line number: only the frame at
its place depends on it, and the terminator stays. -/
theorem code_location_rewritten_between :
    Delimited "7:c/a/5.lua:5:(".toList ∧
      (mappedView.message "7:c/a/5.lua:5:(c/a/5.lua:07>c/a/5.lua:9: y").1 =
        "7:lua/a/5.moon:3:(" ++ "lua/a/5.moon" ++ ":" ++ "4" ++ ">" ++ "lua/a/5.moon:6: y" := by
  have delimited : Delimited "7:c/a/5.lua:5:(".toList := by
    intro last ends
    obtain rfl := Option.some.inj ends
    decide
  have live : mappedScript ∈ mappedView.cache.artifacts :=
    Cache.consistent_empty.mem_insert mappedScript
  have read : Text.readDecimal? Text.signedBound "07".toList = some 7 := by decide
  have ends : '>' ∈ [':', '>'] := by decide
  have rewritten := code_location_rewritten_in_place reachable_mappedView
    legible_mappedView.code legible_mappedView.code_token live read ends delimited "c/a/5.lua:9: y"
  have before : (mappedView.message "7:c/a/5.lua:5:(").1 = "7:lua/a/5.moon:3:(" := by decide +kernel
  have after : (mappedView.message "c/a/5.lua:9: y").1 = "lua/a/5.moon:6: y" := by decide +kernel
  refine ⟨delimited, ?_⟩
  rw [before, after] at rewritten
  refine Eq.trans rewritten ?_
  decide +kernel

/-- The stretch that takes the place of a stretch: the same character, or the location of the
remapped frame. -/
def View.relocated (view : View) : Stretch → Stretch
  | .plain c => .plain c
  | .location token digits terminator =>
    match Text.readDecimal? Text.signedBound digits with
    | none => .location token digits terminator
    | some line =>
      let (source, shown) := view.frame (String.ofList token) line
      .location source.toList (lineText shown) terminator

theorem View.stretch_eq_relocated (view : View) (stretch : Stretch) :
    view.stretch stretch = (view.relocated stretch).text := by
  cases stretch with
  | plain c => rfl
  | location token digits terminator =>
    rw [View.stretch, View.location, View.relocated]
    cases Text.readDecimal? Text.signedBound digits <;> rfl

/-- The line of a frame stays a number that can be read, so a remapped location is a location
again. -/
theorem View.frame_line (view : View) (chunk : String) {line : Nat}
    (small : line < Text.signedBound) :
    ∃ shown : Nat, (view.frame chunk line).2 = shown ∧ shown < Text.signedBound := by
  cases found : view.managed? chunk with
  | none => exact ⟨line, by rw [View.frame, found], small⟩
  | some managed =>
    have remapped : (view.frame chunk line).2 = (sourceLine? managed.artifact line).getD line := by
      rw [View.frame, found]
    rw [remapped]
    cases mapped : sourceLine? managed.artifact line with
    | none => exact ⟨line, rfl, small⟩
    | some shown =>
      obtain ⟨source, isSource, rfl⟩ := sourceLine?_eq_some_iff.mp mapped
      exact ⟨source, rfl, isSource.2.2⟩

theorem readDecimal?_lineText {line : Nat} (small : line < Text.signedBound) :
    Text.readDecimal? Text.signedBound (lineText line) = some line := by
  have positive : ¬ (line : Int) < 0 := by omega
  rw [lineText, if_neg positive]
  exact Text.readDecimal?_decimal small

section Repeated

variable {view : View} (consistent : view.cache.Consistent) (legible : Legible view.cache)

include consistent legible

/-- What is shown for a chunk that is a token is a token, and it consists of digits only if the
chunk does. -/
theorem frame_token {chunk : String} (visible : chunk.toList ≠ []) (tokens : IsToken chunk)
    (line : Int) :
    (view.frame chunk line).1.toList ≠ [] ∧ IsToken (view.frame chunk line).1 ∧
      ((∀ c ∈ (view.frame chunk line).1.toList, Text.isDigit c = true) →
        ∀ c ∈ chunk.toList, Text.isDigit c = true) := by
  cases found : view.managed? chunk with
  | none =>
    rw [frame_of_unmanaged found]
    exact ⟨visible, tokens, id⟩
  | some managed =>
    have live := ((View.managed?_eq_some_iff consistent).mp found).live
    have shown : (view.frame chunk line).1 = managed.display := by rw [View.frame, found]
    obtain ⟨ext, named⟩ :=
      Dialect.exists_extension (managed.ofPath?_display ▸ legible.source _ live)
    have digits := not_isDigit_of_extension? named
    rw [shown]
    refine ⟨?_, ?_, fun all => absurd all digits⟩
    · intro empty
      exact digits (by simp [empty])
    · have inner := legible.source_token _ live
      unfold Managed.display
      split
      · intro c member
        rw [String.toList_append] at member
        rcases List.mem_append.mp member with mark | inside
        · rw [List.mem_singleton.mp mark]
          decide
        · exact inner c inside
      · exact inner

/-- The location that takes the place of another one is a location too, it consists of digits only
if that one does, and remapping keeps it. -/
theorem relocated_location {token digits : List Char} {terminator : Char}
    (location : IsLocation token digits terminator) :
    ∃ token' digits', view.relocated (.location token digits terminator) =
      .location token' digits' terminator ∧
      IsLocation token' digits' terminator ∧
      ((∀ c ∈ token', Text.isDigit c = true) → ∀ c ∈ token, Text.isDigit c = true) ∧
      view.location token' digits' terminator = token' ++ ':' :: digits' ++ [terminator] := by
  cases read : Text.readDecimal? Text.signedBound digits with
  | none =>
    refine ⟨token, digits, by rw [View.relocated, read], location, id, ?_⟩
    rw [View.location, read]
  | some line =>
    have visible : (String.ofList token).toList ≠ [] := by simpa using location.token_ne_nil
    have tokens : IsToken (String.ofList token) := fun c member =>
      location.token_chars c (by simpa using member)
    obtain ⟨shownVisible, shownTokens, onlyDigits⟩ :=
      frame_token consistent legible visible tokens (line : Int)
    obtain ⟨shown, isShown, small⟩ :=
      view.frame_line (String.ofList token) (Text.lt_of_readDecimal? read)
    have settled := View.frame_frame consistent legible.toToldApart (String.ofList token) line
    have again := readDecimal?_lineText small
    rw [isShown] at settled
    refine ⟨(view.frame (String.ofList token) line).1.toList, lineText shown, ?_,
      ?_, by simpa using onlyDigits, ?_⟩
    · rw [View.relocated, read, ← isShown]
    · exact isLocation_of_readDecimal? shownVisible shownTokens again location.terminator_mem
    · rw [View.location, again, String.ofList_toList]
      simp only [settled, isShown]

/-- A remapped text falls into the stretches that took the place of the former ones, and remapping
keeps them all. What stood before the text starts no new location: the induction goes from the end
of the text to its start. -/
theorem Tiles.relocated {text : List Char} {stretches : List Stretch}
    (tiles : Tiles text stretches) :
    KeepsClear text (stretches.flatMap view.stretch) ∧
      Tiles (stretches.flatMap view.stretch) (stretches.map view.relocated) ∧
      (stretches.map view.relocated).flatMap view.stretch = stretches.flatMap view.stretch := by
  induction tiles with
  | done => exact ⟨⟨fun _ _ first => first, id, id⟩, .done, rfl⟩
  | @skip c rest _ clear _ ih =>
    obtain ⟨keeps, tail, fixed⟩ := ih
    refine ⟨keeps.cons c, .skip (keeps.not_startsLocation clear) tail, ?_⟩
    rw [List.map_cons, List.flatMap_cons, List.flatMap_cons, fixed]
    rfl
  | @found text token digits rest terminator stretches location split _ ih =>
    obtain ⟨_, tail, fixed⟩ := ih
    obtain ⟨token', digits', replaced, relocation, onlyDigits, kept⟩ :=
      relocated_location consistent legible location
    have rewritten : view.stretch (.location token digits terminator) =
        token' ++ ':' :: digits' ++ [terminator] := by
      rw [View.stretch_eq_relocated, replaced]
      rfl
    rw [List.flatMap_cons, List.map_cons, List.flatMap_cons, replaced, rewritten, fixed]
    refine ⟨?_, .found relocation (by simp) tail, by rw [View.stretch, kept]⟩
    constructor
    · -- The rewritten text starts with a token, so with no terminator.
      intro c ends first
      obtain ⟨d, token', rfl⟩ := List.exists_cons_of_ne_nil relocation.token_ne_nil
      obtain rfl : d = c := by simpa using first
      have token := relocation.token_chars d List.mem_cons_self
      rw [isTokenChar_terminator ends] at token
      cases token
    · intro starts
      simp only [List.append_assoc, List.cons_append, List.nil_append] at starts
      have numeric := onlyDigits (isDigit_of_startsNumber relocation.token_chars starts)
      exact ⟨token, ':', digits ++ terminator :: rest, location.token_ne_nil,
        numeric, by simp, by simp [split]⟩
    · intro _
      have found := location.lineNumber? rest
      rw [ContinuesLocation, split, List.append_assoc,
        List.dropWhile_append_of_pos location.token_chars]
      simp only [List.cons_append, List.dropWhile_cons, isTokenChar_colon, Bool.false_eq_true,
        if_false]
      rw [← List.cons_append, found]
      rfl

/-- Remapping the locations of a text a second time changes nothing, for they name scripts now. -/
theorem View.embedded_embedded (text : List Char) :
    view.embedded (view.embedded text) = view.embedded text := by
  obtain ⟨stretches, tiles⟩ := exists_tiles text
  obtain ⟨_, again, fixed⟩ := tiles.relocated consistent legible
  rw [tiles.embedded view, again.embedded view, fixed]

/-- No location is told by a message that remapping keeps: a leading one that stands for code would
be rewritten. -/
theorem not_locates_of_embedded {message : String}
    (kept : view.embedded message.toList = message.toList) (location : Location) :
    ¬ view.Locates message location := by
  rintro ⟨source, digits, after, managed, line, leading, manages, read, _⟩
  obtain ⟨visible, tokens⟩ := manages.isToken (legible.code_token _ manages.live)
  have found := (View.managed?_eq_some_iff consistent).mpr manages
  have ends : ':' ∈ [':', '>'] := by decide
  have here : IsLocation source digits ':' := by
    simpa using isLocation_of_readDecimal? visible tokens read ends
  obtain ⟨shownVisible, shownTokens, _⟩ :=
    frame_token consistent legible visible tokens (line : Int)
  obtain ⟨shown, isShown, small⟩ :=
    view.frame_line (String.ofList source) (Text.lt_of_readDecimal? read)
  have there : IsLocation (view.frame (String.ofList source) line).1.toList (lineText shown) ':' :=
    isLocation_of_readDecimal? shownVisible shownTokens (readDecimal?_lineText small) ends
  rw [leading.split, embedded_location view here, View.location, read] at kept
  simp only [isShown] at kept
  obtain ⟨same, _⟩ := location_parts_unique there here (by simpa using kept)
  have unmanaged := managed?_frame consistent legible.toToldApart (String.ofList source) line
  rw [← String.ofList_toList (s := (view.frame (String.ofList source) line).1), same, found]
    at unmanaged
  cases unmanaged

end Repeated

/-- Remapping a message twice changes nothing more, and a message that was remapped tells no
location. -/
theorem message_remapped_once {view : View} (reachable : view.cache.Reachable)
    (legible : Legible view.cache) (message : String) :
    view.message (view.message message).1 = ((view.message message).1, none) := by
  have consistent := reachable.consistent
  have text := View.message_text consistent legible.code_token
  have kept : view.embedded (view.message message).1.toList = (view.message message).1.toList := by
    rw [text, String.toList_ofList, View.embedded_embedded consistent legible]
  refine Prod.ext ?_ ?_
  · rw [text, kept, String.ofList_toList]
  · refine Option.eq_none_iff_forall_ne_some.mpr fun location told => ?_
    exact not_locates_of_embedded consistent legible kept location
      ((View.message_location_iff consistent).mp told)

/-- A message that is remapped at its start, where a location is told, and further inside stays as
it is from then on, and tells no location any more. -/
theorem message_remapped_once_nested :
    let message := "@C//a\\5.lua:07:  call (c/a/5.lua:9> b)"
    let once := "@lua/a/5.moon:4:  call (lua/a/5.moon:6> b)"
    mappedView.message message =
      (once, some ⟨"lua/a/5.moon", "a/5.moon", 4, "call (lua/a/5.moon:6> b)"⟩) ∧
      Legible mappedView.cache ∧ mappedView.message once = (once, none) := by
  intro message once
  have first : mappedView.message message =
      (once, some ⟨"lua/a/5.moon", "a/5.moon", 4, "call (lua/a/5.moon:6> b)"⟩) := by
    decide +kernel
  have second := message_remapped_once reachable_mappedView legible_mappedView message
  rw [first] at second
  exact ⟨first, legible_mappedView, second⟩

end DialectLoader.Remap
