import DialectLoader.Proofs.Path.Spelling

/-!
# Extensions in every spelling

The extension of a path is the end of the path behind its last dot, if no separator comes later.
Said in this way, it is found again in every spelling that a path takes: the common spelling has it
in lower case, and the spelling below a directory has it as it was. So the dialect of a script can
be told from any spelling of its path, and no spelling of a script is one of generated code.

Dots are cut in the last name only, and a name may start with one: `.moon` has the extension `moon`
and no stem.
-/

namespace DialectLoader

/-- What follows the last separator of a text grows with the text, as long as no separator is added.
The pieces before it stay as they are. -/
theorem Text.pieces_append_clear {α : Type} (isSeparator : α → Bool) (front : List α) :
    ∃ before last, ∀ back, (∀ c ∈ back, isSeparator c = false) →
      Text.pieces isSeparator (front ++ back) = before ++ [last ++ back] := by
  induction front with
  | nil => exact ⟨[], [], fun back clear => by simpa using Text.pieces_of_clear clear⟩
  | cons c rest ih =>
    obtain ⟨before, last, cut⟩ := ih
    cases separated : isSeparator c with
    | true =>
      exact ⟨[] :: before, last, fun back clear => by simp [Text.pieces, separated, cut back clear]⟩
    | false =>
      cases before with
      | nil => exact ⟨[], c :: last,
        fun back clear => by simp [Text.pieces, separated, cut back clear]⟩
      | cons piece before =>
        exact ⟨(c :: piece) :: before, last,
          fun back clear => by simp [Text.pieces, separated, cut back clear]⟩

namespace Path

variable {path ext : String}

/-- An extension is a visible end of a path behind a dot, with neither dots nor separators in it.
All that follows uses this form and not the cutting. -/
theorem extension?_eq_some_iff :
    extension? path = some ext ↔
      ext ≠ "" ∧ (∀ c ∈ ext.toList, isSeparator c = false ∧ c ≠ '.') ∧
        ∃ front, path.toList = front ++ '.' :: ext.toList := by
  constructor
  · intro found
    obtain ⟨letters, kept, rfl⟩ := Option.map_eq_some_iff.mp found
    obtain ⟨cut, visible⟩ := Option.filter_eq_some_iff.mp kept
    have whole := cutName_parts path.toList
    have clear := cutName_clear path.toList
    generalize (cutName path.toList).2 = name at cut whole clear
    have named : (name.reverse.takeWhile (· != '.')).reverse = letters ∧ '.' ∈ name := by
      unfold cutStem at cut
      split at cut
      · rename_i dotted
        exact ⟨Option.some.inj cut, List.contains_iff_mem.mp dotted⟩
      · cases cut
    obtain ⟨stem, behind⟩ : ∃ stem, name = stem ++ '.' :: letters := by
      have parts : name.reverse.takeWhile (· != '.') ++ name.reverse.dropWhile (· != '.') =
          name.reverse :=
        List.takeWhile_append_dropWhile
      cases rest : name.reverse.dropWhile (· != '.') with
      | nil =>
        have undotted := List.dropWhile_eq_nil_iff.mp rest '.' (List.mem_reverse.mpr named.2)
        simp at undotted
      | cons dot stem =>
        have stops := List.head?_dropWhile_not (· != '.') name.reverse
        rw [rest] at stops parts
        obtain rfl : dot = '.' := by simpa using stops
        refine ⟨stem.reverse, ?_⟩
        rw [← List.reverse_reverse name, ← parts, ← named.1]
        simp
    refine ⟨?_, ?_, (cutName path.toList).1 ++ stem, ?_⟩
    · simpa [← String.toList_eq_nil_iff] using visible
    · intro c member
      rw [String.toList_ofList] at member
      refine ⟨clear c (by rw [behind]; simp [member]), ?_⟩
      have taken := List.mem_takeWhile_imp (List.mem_reverse.mp (named.1 ▸ member))
      simpa using taken
    · rw [String.toList_ofList, List.append_assoc, ← behind, whole]
  · rintro ⟨visible, plain, front, spelled⟩
    have letters : ∀ c ∈ ext.toList.reverse, (!isSeparator c) = true := by
      intro c member
      simp [(plain c (List.mem_reverse.mp member)).1]
    have undotted : '.' ∉ ext.toList := fun member => (plain '.' member).2 rfl
    have dot : (!isSeparator '.') = true := by decide
    obtain ⟨stem, named⟩ : ∃ stem, (cutName path.toList).2 = stem ++ '.' :: ext.toList := by
      refine ⟨(front.reverse.takeWhile (!isSeparator ·)).reverse, ?_⟩
      rw [cutName, spelled, List.reverse_append, List.reverse_cons, List.append_assoc,
        List.takeWhile_append_of_pos letters]
      simp [dot]
    have cut : (cutStem (cutName path.toList).2).2 = some ext.toList := by
      rw [named, cutStem_append stem undotted]
    have shown : ext.toList ≠ [] := mt String.toList_eq_nil_iff.mp visible
    rw [extension?, cut, Option.filter_some, if_pos (by simpa using shown), Option.map_some,
      String.ofList_toList]

/-- A path that ends like another one has its extension, whatever comes before. So nothing in front
of a name can change the dialect. -/
theorem extension?_of_suffix {path longer ext : String} (named : extension? path = some ext)
    (suffix : path.toList <:+ longer.toList) : extension? longer = some ext := by
  obtain ⟨visible, plain, front, spelled⟩ := extension?_eq_some_iff.mp named
  obtain ⟨before, continued⟩ := suffix
  refine extension?_eq_some_iff.mpr ⟨visible, plain, before ++ front, ?_⟩
  rw [← continued, spelled, List.append_assoc]

/-- A path keeps its extension without its first character, unless that is the dot in front of the
extension. -/
theorem extension?_of_cons {c : Char} (other : c ≠ '.')
    (named : extension? (String.ofList (c :: path.toList)) = some ext) :
    extension? path = some ext := by
  obtain ⟨visible, plain, front, spelled⟩ := extension?_eq_some_iff.mp named
  refine extension?_eq_some_iff.mpr ⟨visible, plain, ?_⟩
  rw [String.toList_ofList] at spelled
  cases front with
  | nil => exact absurd (List.cons.inj spelled).1 other
  | cons first front => exact ⟨front, (List.cons.inj spelled).2⟩

theorem intercalate_concat (before : List (List Char)) (last : List Char) :
    last <:+ ['/'].intercalate (before ++ [last]) := by
  cases before with
  | nil => simp
  | cons name rest =>
    rw [intercalate_append (by simp) (by simp)]
    exact ⟨['/'].intercalate (name :: rest) ++ ['/'], by simp⟩

/-- The name that has the extension is the last piece, however the path is cut, as long as the dot
is no separator and no other character separates. -/
theorem exists_name_of_extension? {isSeparator : Char → Bool} (named : extension? path = some ext)
    (dot : isSeparator '.' = false)
    (clear : ∀ c, Path.isSeparator c = false → isSeparator c = false) :
    ∃ before name, Text.pieces isSeparator path.toList = before ++ [name] ∧ 2 ≤ name.length ∧
      extension? (String.ofList name) = some ext := by
  obtain ⟨visible, plain, front, spelled⟩ := extension?_eq_some_iff.mp named
  have whole : ∀ c ∈ '.' :: ext.toList, isSeparator c = false := by
    intro c member
    rcases List.mem_cons.mp member with rfl | inside
    · exact dot
    · exact clear c (plain c inside).1
  obtain ⟨before, last, cut⟩ := Text.pieces_append_clear isSeparator front
  refine ⟨before, last ++ '.' :: ext.toList, by rw [spelled, cut _ whole], ?_, ?_⟩
  · have shown : 0 < ext.toList.length :=
      List.length_pos_iff.mpr (mt String.toList_eq_nil_iff.mp visible)
    simp only [List.length_append, List.length_cons]
    omega
  · exact extension?_eq_some_iff.mpr ⟨visible, plain, last, String.toList_ofList⟩

/-- An extension in lower case is the extension of the path in lower case: dots and separators have
no case. -/
theorem extension?_toLower (named : extension? path = some ext) :
    extension? (String.ofList (path.toList.map Char.toLower)) =
      some (String.ofList (ext.toList.map Char.toLower)) := by
  obtain ⟨visible, plain, front, spelled⟩ := extension?_eq_some_iff.mp named
  have dot : Char.toLower '.' = '.' := by decide
  refine extension?_eq_some_iff.mpr ⟨?_, ?_, front.map Char.toLower, ?_⟩
  · simpa [← String.toList_eq_nil_iff] using mt String.toList_eq_nil_iff.mp visible
  · intro c member
    rw [String.toList_ofList] at member
    obtain ⟨d, inside, rfl⟩ := List.mem_map.mp member
    refine ⟨by rw [isSeparator_toLower]; exact (plain d inside).1, fun dotted => ?_⟩
    exact (plain d inside).2 (eq_of_toLower_eq dotted (by decide))
  · simp [spelled, dot]

theorem isMeaningful_of_length {name : List Char} (long : 2 ≤ name.length) :
    isMeaningful name = true := by
  have longer : name ≠ [] ∧ name ≠ ['.'] := by
    constructor <;> rintro rfl <;> simp at long
  simpa [isMeaningful] using longer

/-- The common spelling of a path has its extension, in lower case. The name that ends in it counts,
so it is not dropped. -/
theorem extension?_normalize (named : extension? path = some ext) :
    extension? (normalize path) = some (String.ofList (ext.toList.map Char.toLower)) := by
  obtain ⟨before, name, cut, long, ending⟩ :=
    exists_name_of_extension? named (by decide) fun _ clear => clear
  have counted : segments path.toList = before.filter isMeaningful ++ [name] := by
    rw [segments, cut, List.filter_append, List.filter_cons_of_pos (isMeaningful_of_length long),
      List.filter_nil]
  have suffix : name <:+ assemble (isRooted path.toList) (segments path.toList) := by
    rw [counted, assemble]
    exact (intercalate_concat _ name).trans (List.suffix_append _ _)
  have whole : extension? (String.ofList (assemble (isRooted path.toList) (segments path.toList))) =
      some ext :=
    extension?_of_suffix ending (by simpa using suffix)
  have lower := extension?_toLower whole
  rwa [String.toList_ofList, ← normalize] at lower

/-- A new extension takes the place of the old one, and all in front of the dot stays, in whatever
spelling. -/
theorem setExtension_of_extension? (named : extension? path = some ext) {front : List Char}
    (spelled : path.toList = front ++ '.' :: ext.toList) {other : String}
    (isExtension : IsExtension other) :
    (setExtension path other).toList = front ++ '.' :: other.toList := by
  obtain ⟨_, plain, _⟩ := extension?_eq_some_iff.mp named
  have clear : ∀ c ∈ ('.' :: ext.toList).reverse, (!isSeparator c) = true := by
    intro c member
    rcases List.mem_cons.mp (List.mem_reverse.mp member) with rfl | inside
    · decide
    · simp [(plain c inside).1]
  have undotted : '.' ∉ ext.toList := fun member => (plain '.' member).2 rfl
  have cut : cutName path.toList = ((cutName front).1, (cutName front).2 ++ '.' :: ext.toList) := by
    rw [cutName, spelled, List.reverse_append, List.takeWhile_append_of_pos clear,
      List.dropWhile_append_of_pos clear, List.reverse_append, List.reverse_reverse, cutName]
  rw [setExtension_toList isExtension, cut, cutStem_append _ undotted, ← List.append_assoc,
    cutName_parts]

/-- The segments of a path that ends in a dot and letters are settled by what is in front of the
dot, up to these letters. -/
theorem exists_segments_append (front : List Char) :
    ∃ before last, ∀ letters, letters ≠ [] → (∀ c ∈ letters, isSeparator c = false) →
      segments (front ++ '.' :: letters) = before ++ [last ++ '.' :: letters] := by
  obtain ⟨before, last, cut⟩ := Text.pieces_append_clear isSeparator front
  refine ⟨before.filter isMeaningful, last, fun letters visible clear => ?_⟩
  have ending : ∀ c ∈ '.' :: letters, isSeparator c = false := by
    intro c member
    rcases List.mem_cons.mp member with rfl | inside
    · decide
    · exact clear c inside
  have meaningful : isMeaningful (last ++ '.' :: letters) = true := by
    have shown : 0 < letters.length := List.length_pos_iff.mpr visible
    apply isMeaningful_of_length
    simp only [List.length_append, List.length_cons]
    omega
  rw [segments, cut _ ending, List.filter_append, List.filter_cons_of_pos meaningful,
    List.filter_nil]

/-- The common spelling of a path that ends in a dot and letters is settled by what is in front of
the dot, up to these letters. -/
theorem exists_normalize_append (front : List Char) :
    ∃ start, ∀ letters, letters ≠ [] → (∀ c ∈ letters, isSeparator c = false) →
      (normalize (String.ofList (front ++ '.' :: letters))).toList = start ++ '.' ::
      letters.map Char.toLower := by
  obtain ⟨before, last, counted⟩ := exists_segments_append front
  obtain ⟨outer, joined⟩ : ∃ outer, ∀ name,
      ['/'].intercalate (before ++ [name]) = outer ++ name := by
    cases before with
    | nil => exact ⟨[], fun name => by simp⟩
    | cons first rest =>
      refine ⟨['/'].intercalate (first :: rest) ++ ['/'], fun name => ?_⟩
      rw [intercalate_append (by simp) (by simp)]
      simp
  have dot : Char.toLower '.' = '.' := by decide
  refine ⟨((if isRooted front then ['/'] else []) ++ outer ++ last).map Char.toLower,
    fun letters visible clear => ?_⟩
  have rooted : isRooted (front ++ '.' :: letters) = isRooted front := by
    cases front <;> rfl
  rw [normalize, String.toList_ofList, String.toList_ofList, rooted, counted letters visible clear,
    assemble, joined]
  simp [dot]

/-- The code of a script in its common spelling is the common spelling of the code. So a cache may
be keyed by either. -/
theorem output_normalize (named : extension? path = some ext) :
    output (normalize path) = normalize (output path) := by
  obtain ⟨visible, plain, front, spelled⟩ := extension?_eq_some_iff.mp named
  obtain ⟨start, grows⟩ := exists_normalize_append front
  have script := grows ext.toList (mt String.toList_eq_nil_iff.mp visible) fun c member =>
    (plain c member).1
  have code := grows luaExtension.toList (by decide) isExtension_lua.isName.clear
  rw [← spelled, String.ofList_toList] at script
  rw [← setExtension_of_extension? named spelled isExtension_lua, String.ofList_toList] at code
  apply String.toList_inj.mp
  have lower : luaExtension.toList.map Char.toLower = luaExtension.toList := by decide
  rw [output, output, code,
    setExtension_of_extension? (extension?_normalize named) (by rw [script, String.toList_ofList])
    isExtension_lua, lower]

/-- A path that ends in a dot and an extension has that extension, in some letter case, as the end
is compared without regard to case. -/
theorem exists_extension_of_endsWith (isExtension : IsExtension ext)
    (ends : endsWith path ("." ++ ext) = true) :
    ∃ letters, extension? path = some letters ∧ letters.toList.map Char.toLower = ext.toList := by
  have wanted : ("." ++ ext).toList = '.' :: ext.toList := by
    rw [String.toList_append]
    rfl
  have lower : ext.toList.map Char.toLower = ext.toList := by
    conv => rhs; rw [← List.map_id ext.toList]
    exact List.map_congr_left isExtension.isName.lower
  have dot : Char.toLower '.' = '.' := by decide
  rw [endsWith, wanted, sameLetters, beq_iff_eq, List.map_cons, lower, dot] at ends
  obtain ⟨first, letters, behind, dotted, same⟩ := List.map_eq_cons_iff.mp ends
  obtain rfl : first = '.' := eq_of_toLower_eq dotted (by decide)
  refine ⟨String.ofList letters, extension?_eq_some_iff.mpr ⟨?_, ?_,
    path.toList.take (path.toList.length - ('.' :: ext.toList).length), ?_⟩, by simpa using same⟩
  · intro empty
    rw [← String.toList_eq_nil_iff, String.toList_ofList] at empty
    rw [empty, List.map_nil] at same
    exact isExtension.isName.ne_nil same.symm
  · intro c member
    rw [String.toList_ofList] at member
    have inside : c.toLower ∈ ext.toList := same ▸ List.mem_map_of_mem member
    refine ⟨?_, ?_⟩
    · rw [← isSeparator_toLower]
      exact isExtension.isName.clear _ inside
    · rintro rfl
      exact isExtension.dotless inside
  · rw [String.toList_ofList, ← behind, List.take_append_drop]

theorem endsWith_of_extension? (named : extension? path = some ext) :
    endsWith path ("." ++ ext) = true := by
  obtain ⟨_, _, front, spelled⟩ := extension?_eq_some_iff.mp named
  have wanted : ("." ++ ext).toList = '.' :: ext.toList := by
    rw [String.toList_append]
    rfl
  rw [endsWith, wanted, spelled, List.length_append, Nat.add_sub_cancel, List.drop_left]
  simp [sameLetters]

end Path

namespace HostPath

theorem isName_of_length {name : List Char} (long : 2 ≤ name.length) : isName name = true := by
  have longer : name ≠ [] ∧ name ≠ ['.'] := by
    constructor <;> rintro rfl <;> simp at long
  simpa [isName] using longer

/-- The last name is left if fewer names are dropped than there are. Names that do not count are not
counted here either. -/
theorem dropNames_concat {count : Nat} {before : List (List Char)} {last : List Char}
    (fewer : count < ((before ++ [last]).filter isName).length) :
    ∃ kept, dropNames count (before ++ [last]) = kept ++ [last] := by
  induction before generalizing count with
  | nil =>
    cases count with
    | zero => exact ⟨[], rfl⟩
    | succ count =>
      have most := List.length_filter_le isName [last]
      simp only [List.nil_append, List.length_singleton] at fewer most
      omega
  | cons name rest ih =>
    cases count with
    | zero => exact ⟨name :: rest, rfl⟩
    | succ count =>
      rw [List.cons_append, dropNames]
      apply ih
      rw [List.cons_append, List.filter_cons] at fewer
      split at fewer
      · rename_i counted
        rw [if_pos counted]
        simpa using fewer
      · rename_i uncounted
        rw [if_neg uncounted]
        exact fewer

theorem trimNames_concat (before : List (List Char)) {last : List Char}
    (counted : isName last = true) : ∃ kept, trimNames (before ++ [last]) = kept ++ [last] := by
  obtain ⟨kept, front⟩ : ∃ kept, (before ++ [last]).dropWhile (!isName ·) = kept ++ [last] := by
    rw [List.dropWhile_append]
    split
    · exact ⟨[], by simp [counted]⟩
    · exact ⟨_, rfl⟩
  exact ⟨kept, by rw [trimNames, front]; simp [counted]⟩

theorem extension?_forwardSlashes {path ext : String} (named : Path.extension? path = some ext) :
    Path.extension? (forwardSlashes path) = some ext := by
  obtain ⟨visible, plain, front, spelled⟩ := Path.extension?_eq_some_iff.mp named
  refine Path.extension?_eq_some_iff.mpr ⟨visible, plain, front.map fun c =>
    if c = '\\' then '/' else c, ?_⟩
  have kept : ext.toList.map (fun c => if c = '\\' then '/' else c) = ext.toList := by
    conv => rhs; rw [← List.map_id ext.toList]
    refine List.map_congr_left fun c member => if_neg ?_
    rintro rfl
    exact absurd (plain _ member).1 (by decide)
  simp [forwardSlashes, spelled, kept]

/-- The names of a path with an extension end with the one that has it, also where the host cuts at
slashes only. -/
theorem exists_name_of_extension? {path ext : String} (named : Path.extension? path = some ext) :
    ∃ before name, rawNames path = before ++ [name] ∧ 2 ≤ name.length ∧
      Path.extension? (String.ofList name) = some ext := by
  refine Path.exists_name_of_extension? named (by decide) fun c clear => ?_
  simp only [Path.isSeparator, Bool.or_eq_false_iff] at clear
  exact clear.1

/-- The part of a path below a directory has the extension of the path, if it is not the directory
itself. The path must have more names than the directory. -/
theorem extension?_below? {directory path lower ext : String}
    (below : below? directory path = some lower)
    (deeper : (names directory).length < (names path).length)
    (named : Path.extension? path = some ext) :
    Path.extension? lower = some ext := by
  unfold below? at below
  split at below
  · cases below
    exact named
  · split at below
    · obtain ⟨before, name, cut, long, ending⟩ := exists_name_of_extension? named
      have fewer : (names directory).length < ((before ++ [name]).filter isName).length := by
        rw [← cut]
        simpa [names] using deeper
      obtain ⟨left, dropped⟩ := dropNames_concat fewer
      obtain ⟨kept, trimmed⟩ := trimNames_concat left (isName_of_length long)
      obtain rfl := Option.some.inj below
      refine Path.extension?_of_suffix ending ?_
      rw [cut, dropped, trimmed, String.toList_ofList, String.toList_ofList]
      exact Path.intercalate_concat kept name
    · cases below

/-- A path that is appended to a directory leads on from it by its own names, unless it is absolute
and takes its place. -/
theorem steps_append {directory path : String} (visible : directory ≠ "")
    (relative : isAbsolute path = false) :
    steps (append directory path) = steps directory ++ names path ∧
      names (append directory path) = names directory ++ names path := by
  -- A slash at the end of the directory is the one that divides it from the path.
  obtain ⟨front, slashes, slash, spelled, appended⟩ : ∃ front slashes,
      (slashes = [] ∨ slashes = ['/']) ∧
      directory.toList = front ++ slashes ∧
        (append directory path).toList = front ++ '/' :: path.toList := by
    rw [append, relative, Bool.false_or, if_neg (by simpa using visible)]
    split
    · rename_i ends
      obtain ⟨front, spelled⟩ := List.getLast?_eq_some_iff.mp ends
      exact ⟨front, ['/'], .inr rfl, spelled, by simp [spelled]⟩
    · exact ⟨directory.toList, [], .inl rfl, by simp, by simp⟩
  have raw : rawNames (append directory path) = Path.names front ++ rawNames path := by
    rw [rawNames, appended]
    exact Path.names_append front path.toList
  have rawDirectory : ∃ rest, rawNames directory = Path.names front ++ rest ∧
      rest.filter isName = [] := by
    rw [rawNames, spelled]
    rcases slash with rfl | rfl
    · exact ⟨[], by simp [Path.names], rfl⟩
    · exact ⟨[[]], Path.names_append front [], by decide⟩
  obtain ⟨rest, rawDirectory, uncounted⟩ := rawDirectory
  have first : (rawNames (append directory path)).head? = (rawNames directory).head? := by
    obtain ⟨name, behind, cut⟩ := List.exists_cons_of_ne_nil (Text.pieces_ne_nil (· == '/') front)
    rw [raw, rawDirectory, Path.names, cut]
    rfl
  have absolute : isAbsolute (append directory path) = isAbsolute directory := by
    rw [isAbsolute, isAbsolute, appended, spelled]
    cases front with
    | cons c front => rfl
    | nil =>
      rcases slash with rfl | rfl
      · exact absurd (String.toList_eq_nil_iff.mp spelled) visible
      · rfl
  have counted : names (append directory path) = names directory ++ names path := by
    rw [names, raw, List.filter_append, List.map_append, names, rawDirectory, List.filter_append,
      uncounted, List.append_nil, names]
  refine ⟨?_, counted⟩
  rw [steps, absolute, first, counted, steps]
  split
  · rfl
  · split <;> rfl

/-- A path is below every directory that it is appended to, unless it is absolute. So a script is
always found again below the root it was sought in. -/
theorem exists_below?_append (directory : String) {path : String}
    (relative : isAbsolute path = false) :
    (∃ lower, below? directory (append directory path) = some lower) ∧
      names (append directory path) = names directory ++ names path := by
  by_cases empty : directory = ""
  · subst empty
    have appended : append "" path = path := by simp [append]
    have start : steps "" = [] ∧ names "" = [] := by decide
    rw [appended, below?, start.1, start.2]
    exact ⟨⟨path, rfl⟩, rfl⟩
  · obtain ⟨leads, counted⟩ := steps_append empty relative
    refine ⟨?_, counted⟩
    rw [below?, leads]
    split
    · exact ⟨_, rfl⟩
    · rw [if_pos (List.isPrefixOf_iff_prefix.mpr (List.prefix_append _ _))]
      exact ⟨_, rfl⟩

/-- The names that count end with the one that has the extension, since it is too long to be a
single dot. -/
theorem names_of_extension? {path ext : String} (named : Path.extension? path = some ext) :
    ∃ before name, names path = before ++ [name] ∧ Path.extension? name = some ext := by
  obtain ⟨before, name, cut, long, ending⟩ := exists_name_of_extension? named
  refine ⟨(before.filter isName).map String.ofList, String.ofList name, ?_, ending⟩
  rw [names, cut, List.filter_append, List.filter_cons_of_pos (isName_of_length long)]
  simp

theorem extension?_append (base : String) {path ext : String}
    (named : Path.extension? path = some ext) :
    Path.extension? (append base path) = some ext := by
  refine Path.extension?_of_suffix named ?_
  unfold append
  split
  · exact List.suffix_refl _
  · split
    · simp
    · exact ⟨base.toList ++ ['/'], by simp⟩

end HostPath

namespace Dialect

theorem ofExtension?_toLower (ext : String) :
    ofExtension? (String.ofList (ext.toList.map Char.toLower)) = ofExtension? ext := by
  have lower : (ext.toList.map Char.toLower).map Char.toLower = ext.toList.map Char.toLower := by
    rw [List.map_map]
    exact List.map_congr_left fun c _ => Path.toLower_toLower c
  simp only [ofExtension?, Path.sameLetters, String.toList_ofList, lower]

/-- The common spelling of a path with an extension is of the dialect of the path. Without an
extension there is no dialect in either. -/
theorem ofPath?_normalize {path ext : String} (named : Path.extension? path = some ext) :
    ofPath? (Path.normalize path) = ofPath? path := by
  rw [ofPath?, ofPath?, Path.extension?_normalize named, named, Option.bind_some, Option.bind_some,
    ofExtension?_toLower]

theorem exists_extension {path : String} (script : (ofPath? path).isSome = true) :
    ∃ ext, Path.extension? path = some ext := by
  obtain ⟨dialect, known⟩ := Option.isSome_iff_exists.mp script
  obtain ⟨ext, named, _⟩ := Option.bind_eq_some_iff.mp known
  exact ⟨ext, named⟩

/-- No spelling of a script is one of generated code. So writing code never overwrites a script,
even with regard to the letters of a path only. -/
theorem normalize_ne_of_endsWith {script code : String} (known : (ofPath? script).isSome = true)
    (lua : Path.endsWith code ("." ++ Path.luaExtension) = true) :
    Path.normalize script ≠ Path.normalize code := by
  intro same
  obtain ⟨ext, named⟩ := exists_extension known
  obtain ⟨letters, ending, lower⟩ := Path.exists_extension_of_endsWith Path.isExtension_lua lua
  have foreign : ofPath? code = none := by
    rw [ofPath?, ending, Option.bind_some, ← ofExtension?_toLower, lower]
    decide
  rw [← ofPath?_normalize named, same, ofPath?_normalize ending, foreign] at known
  cases known

end Dialect

end DialectLoader
