import DialectLoader.Dialect

/-!
# Normal paths

A path is normal when it is relative, not empty, and its own common spelling. Cut at its slashes, a
normal path falls into names: none of them is empty or a single dot, none holds a separator of
either kind, and none holds an upper-case letter. This is also sufficient, so joining normal paths,
cutting them apart and exchanging the extension of one give normal paths again.

Upper and lower case are those of ASCII. Two dots are a name like others: no path is resolved here,
and whether a file is where a path leads is a question for the store.
-/

namespace DialectLoader

namespace Text

variable {α : Type} {isSeparator : α → Bool}

theorem pieces_of_clear {text : List α} (clear : ∀ c ∈ text, isSeparator c = false) :
    pieces isSeparator text = [text] := by
  induction text with
  | nil => rfl
  | cons c rest ih =>
    have tail := ih fun d member => clear d (List.mem_cons_of_mem _ member)
    simp [pieces, clear c List.mem_cons_self, tail]

/-- There is always a first piece, even in the empty text, where it is empty. -/
theorem pieces_ne_nil (isSeparator : α → Bool) (text : List α) : pieces isSeparator text ≠ [] := by
  cases text with
  | nil => simp [pieces]
  | cons c rest =>
    unfold pieces
    split <;> simp

/-- A separator divides the pieces before it from those behind it. This is how paths that were
joined are taken apart again. -/
theorem pieces_append_separator {separator : α} (separates : isSeparator separator = true)
    (left right : List α) :
    pieces isSeparator (left ++ separator :: right) =
      pieces isSeparator left ++ pieces isSeparator right := by
  induction left with
  | nil => simp [pieces, separates]
  | cons c rest ih =>
    obtain ⟨piece, found, cut⟩ := List.exists_cons_of_ne_nil (pieces_ne_nil isSeparator rest)
    cases separated : isSeparator c <;> simp [pieces, separated, ih, cut]

theorem pieces_clear (text : List α) :
    ∀ piece ∈ pieces isSeparator text, ∀ c ∈ piece, isSeparator c = false := by
  induction text with
  | nil => simp [pieces]
  | cons c rest ih =>
    obtain ⟨piece, found, cut⟩ := List.exists_cons_of_ne_nil (pieces_ne_nil isSeparator rest)
    rw [cut] at ih
    cases separated : isSeparator c with
    | true => simpa [pieces, separated, cut] using ih
    | false => simpa [pieces, separated, cut] using ih

/-- The characters in the pieces of a text are those that separate nothing. Cutting loses the
separators only, and it adds no character. -/
theorem mem_pieces_iff {text : List α} {c : α} :
    (∃ piece ∈ pieces isSeparator text, c ∈ piece) ↔ c ∈ text ∧ isSeparator c = false := by
  induction text with
  | nil => simp [pieces]
  | cons first rest ih =>
    obtain ⟨piece, found, cut⟩ := List.exists_cons_of_ne_nil (pieces_ne_nil isSeparator rest)
    rw [cut] at ih
    cases separated : isSeparator first with
    | true =>
      simp only [pieces, separated, cut, List.mem_cons, exists_eq_or_imp, List.not_mem_nil,
        false_or] at ih ⊢
      rw [ih]
      constructor
      · exact fun ⟨later, clear⟩ => ⟨.inr later, clear⟩
      · rintro ⟨rfl | later, clear⟩
        · rw [separated] at clear
          cases clear
        · exact ⟨later, clear⟩
    | false =>
      simp only [pieces, separated, cut, List.mem_cons, exists_eq_or_imp] at ih ⊢
      rw [or_assoc, ih]
      constructor
      · rintro (rfl | ⟨later, clear⟩)
        · exact ⟨.inl rfl, separated⟩
        · exact ⟨.inr later, clear⟩
      · rintro ⟨rfl | later, clear⟩
        · exact .inl rfl
        · exact .inr ⟨later, clear⟩

/-- Pieces without separators are found again between the separators that joined them. The list must
not be empty, since the empty text has one piece. -/
theorem pieces_intercalate {separator : α} (separates : isSeparator separator = true)
    {names : List (List α)} (some : names ≠ [])
    (clear : ∀ name ∈ names, ∀ c ∈ name, isSeparator c = false) :
    pieces isSeparator ([separator].intercalate names) = names := by
  induction names with
  | nil => exact absurd rfl some
  | cons name rest ih =>
    have first := pieces_of_clear (clear name List.mem_cons_self)
    cases rest with
    | nil => simpa using first
    | cons next rest =>
      have tail := ih (by simp) fun other member =>
        clear other (List.mem_cons_of_mem _ member)
      rw [List.intercalate_cons_cons, List.append_assoc, List.singleton_append,
        pieces_append_separator separates, first, tail]
      rfl

/-- A text is its pieces with the separator between them, if there is only one separator. With two,
cutting forgets which one it was. -/
theorem intercalate_pieces {separator : α} (only : ∀ c, isSeparator c = true → c = separator)
    (text : List α) : [separator].intercalate (pieces isSeparator text) = text := by
  induction text with
  | nil => simp [pieces]
  | cons c rest ih =>
    obtain ⟨piece, found, cut⟩ := List.exists_cons_of_ne_nil (pieces_ne_nil isSeparator rest)
    rw [cut] at ih
    cases separated : isSeparator c with
    | true =>
      simp only [pieces, separated, cut]
      rw [List.intercalate_cons_cons, ih, only c separated]
      rfl
    | false => simp [pieces, separated, cut, ih, List.intercalate_cons_cons_left]

end Text

namespace Path

/-- Lower case leaves a character alone or makes an upper-case letter a lower-case one, 32 places
further. Only the 26 letters of ASCII have a case here. -/
theorem toLower_cases (c : Char) :
    c.toLower = c ∨ (65 ≤ c.toNat ∧ c.toNat ≤ 90 ∧ c.toLower.toNat = c.toNat + 32) := by
  by_cases upper : c.val ≥ 'A'.val ∧ c.val ≤ 'Z'.val
  · right
    have lower : 65 ≤ c.toNat := upper.1
    have bound : c.toNat ≤ 90 := upper.2
    refine ⟨lower, bound, ?_⟩
    have moved : c.toLower.val = c.val + ('a'.val - 'A'.val) := by
      have unfolded : c.toLower = _ := dif_pos upper
      rw [unfolded]
    change c.toLower.val.toNat = c.val.toNat + 32
    have small : c.val.toNat ≤ 90 := bound
    have difference : ('a'.val - 'A'.val).toNat = 32 := by decide
    rw [moved, UInt32.toNat_add]
    omega
  · exact .inl (dif_neg upper)

/-- A character that comes before the lower-case letters is reached only from itself. Slashes,
backslashes and dots are such characters. -/
theorem eq_of_toLower_eq {c d : Char} (lower : c.toLower = d) (other : d.toNat < 97) : c = d := by
  rcases toLower_cases c with same | ⟨least, _, moved⟩
  · exact same.symm.trans lower
  · rw [lower] at moved
    omega

theorem toLower_toLower (c : Char) : c.toLower.toLower = c.toLower := by
  rcases toLower_cases c with same | ⟨least, _, moved⟩
  · rw [same, same]
  · rcases toLower_cases c.toLower with same | ⟨_, bound, _⟩
    · exact same
    · omega

/-- Lower case neither makes nor removes separators, so it may be taken before a path is cut or
afterwards. -/
theorem isSeparator_toLower (c : Char) : isSeparator c.toLower = isSeparator c := by
  rcases toLower_cases c with same | ⟨least, bound, moved⟩
  · rw [same]
  · have clear (d : Char) (least : 65 ≤ d.toNat) (other : d.toNat ≠ 92) :
        isSeparator d = false := by
      simp only [isSeparator, Bool.or_eq_false_iff, beq_eq_false_iff_ne]
      constructor
      · rintro rfl
        exact absurd least (by decide)
      · rintro rfl
        exact other rfl
    rw [clear c least (by omega), clear c.toLower (by omega) (by omega)]

/-- A name between two slashes in its common spelling: it counts as a segment, holds no separator of
either kind, and is in lower case. -/
structure IsName (name : List Char) : Prop where
  ne_nil : name ≠ []
  ne_dot : name ≠ ['.']
  clear : ∀ c ∈ name, isSeparator c = false
  lower : ∀ c ∈ name, c.toLower = c

instance : DecidablePred IsName := fun name =>
  decidable_of_iff
    (name ≠ [] ∧ name ≠ ['.'] ∧ (name.all fun c => !isSeparator c && c.toLower == c) = true) (by
      simp only [List.all_eq_true, Bool.and_eq_true, Bool.not_eq_true', beq_iff_eq]
      exact ⟨fun ⟨visible, other, each⟩ => ⟨visible, other, fun c member => (each c member).1,
          fun c member => (each c member).2⟩,
        fun isName => ⟨isName.ne_nil, isName.ne_dot,
          fun c member => ⟨isName.clear c member, isName.lower c member⟩⟩⟩)

/-- A relative path that is not empty and is its own common spelling. The keys of the cache and of
the manifest are of this kind. -/
structure Normal (path : String) : Prop where
  fixed : normalize path = path
  relative : isRooted path.toList = false
  ne_empty : path ≠ ""

instance : DecidablePred Normal := fun path =>
  decidable_of_iff (normalize path = path ∧ isRooted path.toList = false ∧ path ≠ "")
    ⟨fun ⟨fixed, relative, visible⟩ => ⟨fixed, relative, visible⟩,
      fun normal => ⟨normal.fixed, normal.relative, normal.ne_empty⟩⟩

/-- The names of a path, cut at slashes only. A backslash stays within a name, which is what
distinguishes these from segments. -/
def names (path : List Char) : List (List Char) :=
  Text.pieces (· == '/') path

/-- A path is its names with slashes between them, so nothing is lost by looking at the names. -/
theorem intercalate_names (path : List Char) : ['/'].intercalate (names path) = path :=
  Text.intercalate_pieces (by simp) path

/-- The names of a path below a directory are those of the directory and those of the path, because
a slash is between them. -/
theorem names_append (directory path : List Char) :
    names (directory ++ '/' :: path) = names directory ++ names path :=
  Text.pieces_append_separator (by simp) directory path

/-- The segments that count are names when they are in lower case: they are cut at both separators,
and empty ones and single dots were dropped. -/
theorem isName_of_mem_segments {path segment : List Char} (member : segment ∈ segments path) :
    IsName (segment.map Char.toLower) := by
  obtain ⟨piece, meaningful⟩ := List.mem_filter.mp member
  simp only [isMeaningful, Bool.and_eq_true, bne_iff_ne] at meaningful
  refine ⟨by simpa using meaningful.1, ?_, ?_, ?_⟩
  · intro dot
    obtain ⟨c, rfl, lower⟩ := List.map_eq_singleton_iff.mp dot
    exact meaningful.2 (by rw [eq_of_toLower_eq lower (by decide)])
  · intro c inside
    obtain ⟨d, original, rfl⟩ := List.mem_map.mp inside
    rw [isSeparator_toLower]
    exact Text.pieces_clear path segment piece d original
  · intro c inside
    obtain ⟨d, _, rfl⟩ := List.mem_map.mp inside
    exact toLower_toLower d

theorem IsName.slashless {name : List Char} (isName : IsName name) :
    ∀ c ∈ name, (c == '/') = false := by
  intro c member
  have clear := isName.clear c member
  simp only [isSeparator, Bool.or_eq_false_iff] at clear
  exact clear.1

theorem map_toLower_intercalate (names : List (List Char)) :
    (['/'].intercalate names).map Char.toLower =
      ['/'].intercalate (names.map (·.map Char.toLower)) := by
  induction names with
  | nil => rfl
  | cons name rest ih =>
    cases rest with
    | nil => simp
    | cons next rest =>
      have slash : Char.toLower '/' = '/' := by decide
      simp only [List.intercalate_cons_cons, List.map_cons, List.map_append, List.map_nil, slash]
      rw [ih]
      simp

/-- The common spelling of a relative path is its segments in lower case, with slashes in between.
For a rooted path a slash comes first. -/
theorem normalize_toList {path : String} (relative : isRooted path.toList = false) :
    (normalize path).toList =
      ['/'].intercalate ((segments path.toList).map (·.map Char.toLower)) := by
  rw [normalize, String.toList_ofList, relative, assemble, if_neg (by simp), List.nil_append,
    map_toLower_intercalate]

/-- The common spelling of a relative path with segments consists of names. Without segments it is
empty, and its only piece is no name. -/
theorem isName_of_mem_normalize {path : String} (relative : isRooted path.toList = false)
    (meaningful : segments path.toList ≠ []) :
    ∀ name ∈ names (normalize path).toList, IsName name := by
  have allNames : ∀ name ∈ (segments path.toList).map (·.map Char.toLower), IsName name := by
    intro name member
    obtain ⟨segment, counted, rfl⟩ := List.mem_map.mp member
    exact isName_of_mem_segments counted
  rw [normalize_toList relative, names,
    Text.pieces_intercalate (by simp) (by simpa using meaningful)
    fun name member => (allNames name member).slashless]
  exact allNames

theorem Normal.isName_of_mem {path : String} (normal : Normal path) :
    ∀ name ∈ names path.toList, IsName name := by
  have meaningful : segments path.toList ≠ [] := by
    intro none
    have spelled := normalize_toList normal.relative
    rw [normal.fixed, none] at spelled
    exact normal.ne_empty (String.toList_eq_nil_iff.mp spelled)
  have allNames := isName_of_mem_normalize normal.relative meaningful
  rwa [normal.fixed] at allNames

section Names

variable {path : List Char} (allNames : ∀ name ∈ names path, IsName name)

include allNames

/-- Of a path that consists of names all pieces count, so they are its segments and no backslash
cuts it further. -/
theorem segments_of_names : segments path = names path := by
  have pieces : Text.pieces isSeparator path = names path := by
    have joined := Text.pieces_intercalate (show isSeparator '/' = true by decide)
      (Text.pieces_ne_nil (· == '/') path) (fun name member => (allNames name member).clear)
    exact (congrArg (Text.pieces isSeparator) (intercalate_names path)).symm.trans joined
  rw [segments, pieces]
  apply List.filter_eq_self.mpr
  intro name member
  simp [isMeaningful, (allNames name member).ne_nil, (allNames name member).ne_dot]

/-- A path that consists of names starts with a character that separates nothing, which is the first
of its first name. -/
theorem exists_cons_of_names : ∃ c rest, path = c :: rest ∧ isSeparator c = false := by
  obtain ⟨first, rest, cut⟩ := List.exists_cons_of_ne_nil (Text.pieces_ne_nil (· == '/') path)
  have firstName : IsName first := allNames first (by rw [names, cut]; exact List.mem_cons_self)
  obtain ⟨c, firstRest, rfl⟩ := List.exists_cons_of_ne_nil firstName.ne_nil
  refine ⟨c, ['/'].intercalate (firstRest :: rest), ?_, firstName.clear c List.mem_cons_self⟩
  rw [← List.intercalate_cons_cons_left, ← cut]
  exact (intercalate_names path).symm

theorem map_toLower_of_names : (names path).map (·.map Char.toLower) = names path := by
  conv => rhs; rw [← List.map_id (names path)]
  apply List.map_congr_left
  intro name member
  conv => rhs; rw [id, ← List.map_id name]
  exact List.map_congr_left (allNames name member).lower

end Names

/-- A path is normal exactly when it consists of names. From here on normal paths are handled by
their names and the common spelling is not computed any more. -/
theorem normal_iff {path : String} : Normal path ↔ ∀ name ∈ names path.toList, IsName name := by
  refine ⟨Normal.isName_of_mem, fun allNames => ?_⟩
  obtain ⟨c, rest, starts, visible⟩ := exists_cons_of_names allNames
  have relative : isRooted path.toList = false := by
    rw [starts]
    exact visible
  refine ⟨?_, relative, ?_⟩
  · rw [normalize, relative, segments_of_names allNames, assemble, if_neg (by simp),
      List.nil_append, map_toLower_intercalate, map_toLower_of_names allNames, intercalate_names,
      String.ofList_toList]
  · rintro rfl
    simp at starts

end Path

end DialectLoader
