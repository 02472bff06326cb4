import DialectLoader.Proofs.Path.Parts

/-!
# Spellings of one path

The common spelling of a path depends on its meaningful segments and on whether it is rooted. The
segments do not depend on which separators are written, on how many there are or on names that do
not count, so they are found again in every spelling that a path takes on its way below a root.
Whether it is rooted may change: a backslash behind names that do not count becomes the first
character when these are dropped.

Nothing here follows links or asks the store what is there; two spellings are compared as texts.
-/

namespace DialectLoader.Path

variable {path : String}

/-- Segments do not reach across a separator, be it a slash or a backslash. -/
theorem segments_append {separator : Char} (separates : isSeparator separator = true)
    (left right : List Char) :
    segments (left ++ separator :: right) = segments left ++ segments right := by
  rw [segments, Text.pieces_append_separator separates, List.filter_append, ← segments, ← segments]

theorem segments_nil : segments [] = [] := by decide

/-- A path that is joined from parts has the segments of the parts. The parts may hold backslashes
and need not be names. -/
theorem segments_intercalate (parts : List (List Char)) :
    segments (['/'].intercalate parts) = parts.flatMap segments := by
  induction parts with
  | nil => exact segments_nil
  | cons part rest ih =>
    cases rest with
    | nil => simp
    | cons next rest =>
      rw [List.intercalate_cons_cons, List.append_assoc, List.singleton_append,
        segments_append (by decide), ih]
      simp

/-- A path has the segments of its names, because a cut at slashes only makes later cuts
unnecessary. -/
theorem flatMap_segments_names (path : List Char) :
    (names path).flatMap segments = segments path := by
  rw [← segments_intercalate, intercalate_names]

theorem segments_concat (path : List Char) : segments (path ++ ['/']) = segments path := by
  rw [segments_append (by decide), segments_nil, List.append_nil]

/-- What a slash at the end makes no difference to is the same without slashes at the end. It is
used for segments and for first names alike. -/
theorem apply_dropTrailingSlashes {α : Type} {f : List Char → α}
    (same : ∀ path, f (path ++ ['/']) = f path) (path : List Char) :
    f (dropTrailingSlashes path) = f path := by
  rw [← path.reverse_reverse, dropTrailingSlashes, List.reverse_reverse]
  induction path.reverse with
  | nil => rfl
  | cons c rest ih =>
    by_cases slash : c = '/'
    · rw [slash, List.dropWhile_cons_of_pos (by simp), ih, List.reverse_cons, same]
    · rw [List.dropWhile_cons_of_neg (by simpa using slash)]

/-- Slashes at the start make no difference to the segments, though they decide whether a path is
rooted. -/
theorem segments_dropLeadingSlashes (path : List Char) :
    segments (dropLeadingSlashes path) = segments path := by
  induction path with
  | nil => rfl
  | cons c rest ih =>
    by_cases slash : c = '/'
    · have dropped : dropLeadingSlashes ('/' :: rest) = dropLeadingSlashes rest := by
        simp [dropLeadingSlashes]
      have cut := segments_append (show isSeparator '/' = true by decide) [] rest
      rw [slash, dropped, ih]
      rw [List.nil_append, segments_nil, List.nil_append] at cut
      exact cut.symm
    · simp [dropLeadingSlashes, slash]

/-- It makes no difference to the segments which of the two separators are written. -/
theorem segments_forwardSlashes (path : String) :
    segments (HostPath.forwardSlashes path).toList = segments path.toList := by
  have pieces (text : List Char) : Text.pieces isSeparator
      (text.map fun c => if c = '\\' then '/' else c) = Text.pieces isSeparator text := by
    induction text with
    | nil => rfl
    | cons c rest ih =>
      by_cases backslash : c = '\\'
      · subst backslash
        simp [Text.pieces, isSeparator, ih]
      · simp [Text.pieces, backslash, ih]
  rw [HostPath.forwardSlashes, String.toList_ofList, segments, pieces, ← segments]

/-- A name that does not count has no segments: it is empty or a single dot. -/
theorem segments_of_not_isName {name : List Char} (uncounted : HostPath.isName name = false) :
    segments name = [] := by
  have cases : name = [] ∨ name = ['.'] := by
    by_cases empty : name = []
    · exact .inl empty
    · exact .inr (by simpa [HostPath.isName, empty] using uncounted)
  rcases cases with rfl | rfl <;> decide

theorem flatMap_segments_filter (raw : List (List Char)) :
    (raw.filter HostPath.isName).flatMap segments = raw.flatMap segments := by
  induction raw with
  | nil => rfl
  | cons name rest ih =>
    cases counted : HostPath.isName name with
    | true =>
      rw [List.filter_cons_of_pos counted, List.flatMap_cons, List.flatMap_cons,
        ih]
    | false =>
      rw [List.filter_cons_of_neg (by simp [counted]), List.flatMap_cons,
        segments_of_not_isName counted, List.nil_append, ih]

theorem filter_trimNames (raw : List (List Char)) :
    (HostPath.trimNames raw).filter HostPath.isName = raw.filter HostPath.isName := by
  have front (raw : List (List Char)) :
      (raw.dropWhile (!HostPath.isName ·)).filter HostPath.isName = raw.filter HostPath.isName := by
    induction raw with
    | nil => rfl
    | cons name rest ih =>
      cases counted : HostPath.isName name with
      | true => rw [List.dropWhile_cons_of_neg (by simp [counted])]
      | false =>
        rw [List.dropWhile_cons_of_pos (by simp [counted]), ih,
          List.filter_cons_of_neg (by simp [counted])]
  rw [HostPath.trimNames, List.filter_reverse, front, List.filter_reverse, List.reverse_reverse,
    front]

/-- After trimming the first name is the first one that counts, so the path starts with its first
character. -/
theorem head?_trimNames (raw : List (List Char)) :
    (HostPath.trimNames raw).head? = raw.find? HostPath.isName := by
  rw [← List.head?_filter, ← filter_trimNames]
  cases trimmed : HostPath.trimNames raw with
  | nil => rfl
  | cons name rest =>
    have start : HostPath.trimNames raw <+: raw.dropWhile (!HostPath.isName ·) := by
      rw [HostPath.trimNames, ← List.reverse_suffix, List.reverse_reverse]
      exact List.dropWhile_suffix _
    rw [trimmed] at start
    obtain ⟨behind, spelled⟩ := start
    have counted := List.head?_dropWhile_not (!HostPath.isName ·) raw
    rw [← spelled] at counted
    rw [List.filter_cons_of_pos (by simpa using counted)]
    rfl

/-- The spelling of a relative path from the root: names that do not count are dropped at its ends,
and slashes are written for backslashes. -/
def fromRoot (path : String) : String :=
  HostPath.forwardSlashes
    (String.ofList (['/'].intercalate (HostPath.trimNames (names path.toList))))

/-- The spelling from the root has the same segments, since only names that do not count were
dropped. -/
theorem segments_fromRoot (path : String) :
    segments (fromRoot path).toList = segments path.toList := by
  rw [fromRoot, segments_forwardSlashes, String.toList_ofList, segments_intercalate,
    ← flatMap_segments_filter, filter_trimNames, flatMap_segments_filter, flatMap_segments_names]

/-- Whether the first name that counts starts with a backslash. Such a path is relative as it is
written, and is no longer when the names in front are dropped. -/
def HidesSeparator (path : String) : Prop :=
  ((names path.toList).find? HostPath.isName).bind List.head? = some '\\'

instance : DecidablePred HidesSeparator := fun _ =>
  inferInstanceAs (Decidable (_ = _))

/-- The spelling from the root is rooted exactly if a backslash comes first in it. Most paths are
not of this kind, and for them the spelling from the root is harmless. -/
theorem isRooted_fromRoot_iff :
    isRooted (fromRoot path).toList = true ↔ HidesSeparator path := by
  rw [HidesSeparator, ← head?_trimNames, fromRoot, HostPath.forwardSlashes, String.toList_ofList,
    String.toList_ofList]
  have first := head?_trimNames (names path.toList)
  cases trimmed : HostPath.trimNames (names path.toList) with
  | nil => simp [isRooted]
  | cons name rest =>
    rw [trimmed] at first
    have counted := List.find?_some first.symm
    have slashless := Text.pieces_clear path.toList name (List.mem_of_find?_eq_some first.symm)
    cases name with
    | nil => simp [HostPath.isName] at counted
    | cons c behind =>
      have other : c ≠ '/' := by simpa using slashless c List.mem_cons_self
      rw [List.intercalate_cons_cons_left]
      by_cases backslash : c = '\\'
      · simp [isRooted, backslash, isSeparator]
      · simp [isRooted, backslash, isSeparator, other]

/-- A path below a directory has the segments of both, whether or not they are normal. -/
theorem segments_join (directory lower : String) :
    segments (join directory lower).toList =
      segments directory.toList ++ segments lower.toList := by
  rw [← segments_dropLeadingSlashes lower.toList, join]
  split
  · rename_i empty
    rw [String.isEmpty_iff.mp empty, String.toList_ofList]
    rfl
  · split
    · rename_i ends
      obtain ⟨front, spelled⟩ := List.getLast?_eq_some_iff.mp ends
      rw [String.toList_ofList, spelled, List.append_assoc, List.singleton_append,
        segments_append (by decide), segments_concat]
    · rw [String.toList_ofList, segments_append (by decide)]

theorem find?_names_concat (path : List Char) :
    (names (path ++ ['/'])).find? HostPath.isName = (names path).find? HostPath.isName := by
  have last : (names []).find? HostPath.isName = none := by decide
  rw [names_append, List.find?_append, last, Option.or_none]

/-- The first name that counts in a path below a directory is that of the directory, if it has one.
What is joined to it makes no difference then. -/
theorem hidesSeparator_join_iff {directory : String} (meaningful : segments directory.toList ≠ [])
    (lower : String) : HidesSeparator (join directory lower) ↔ HidesSeparator directory := by
  have counts : ((names directory.toList).find? HostPath.isName).isSome = true := by
    rw [Option.isSome_iff_ne_none]
    intro none
    apply meaningful
    rw [← flatMap_segments_names, ← flatMap_segments_filter,
      List.filter_eq_nil_iff.mpr (List.find?_eq_none.mp none)]
    rfl
  have visible : directory.isEmpty = false := by
    rw [Bool.eq_false_iff]
    intro empty
    rw [String.isEmpty_iff.mp empty] at meaningful
    exact meaningful segments_nil
  have first : (names (join directory lower).toList).find? HostPath.isName =
      (names directory.toList).find? HostPath.isName := by
    rw [join, if_neg (by simp [visible])]
    split
    · rename_i ends
      obtain ⟨front, spelled⟩ := List.getLast?_eq_some_iff.mp ends
      rw [spelled, find?_names_concat] at counts
      rw [String.toList_ofList, spelled, List.append_assoc, List.singleton_append, names_append,
        List.find?_append, find?_names_concat, Option.or_of_isSome counts]
    · rw [String.toList_ofList, names_append, List.find?_append, Option.or_of_isSome counts]
  rw [HidesSeparator, HidesSeparator, first]

/-- The part before the last name of a path is empty or ends in a separator, at which segments are
cut anyway. -/
theorem cutName_front (path : List Char) :
    (cutName path).1 = [] ∨
      ∃ front separator, (cutName path).1 = front ++ [separator] ∧
      isSeparator separator = true := by
  rw [cutName]
  have stops := List.head?_dropWhile_not (!isSeparator ·) path.reverse
  cases rest : path.reverse.dropWhile (!isSeparator ·) with
  | nil => exact .inl rfl
  | cons separator front =>
    rw [rest] at stops
    exact .inr ⟨front.reverse, separator, List.reverse_cons, by simpa using stops⟩

/-- The path of generated code has a segment, whatever the path of the script was: the name that
ends in the extension. -/
theorem segments_output_ne_nil (path : String) : segments (output path).toList ≠ [] := by
  obtain ⟨stem, spelled, clear⟩ : ∃ stem : List Char, (output path).toList =
      (cutName path.toList).1 ++ (stem ++ '.' :: luaExtension.toList) ∧ ∀ c ∈ stem,
        isSeparator c = false :=
    ⟨_, setExtension_toList isExtension_lua path, fun c member =>
      cutName_clear _ c ((cutStem_isPrefix _).subset member)⟩
  have whole : ∀ c ∈ stem ++ '.' :: luaExtension.toList, isSeparator c = false := by
    intro c member
    simp only [List.mem_append, List.mem_cons] at member
    rcases member with inside | rfl | behind
    · exact clear c inside
    · decide
    · exact isExtension_lua.isName.clear c behind
  have meaningful : isMeaningful (stem ++ '.' :: luaExtension.toList) = true := by
    have extension : luaExtension.toList.length = 3 := by decide
    have longer : (stem ++ '.' :: luaExtension.toList).length ≠ ['.'].length := by
      simp [extension]
    simpa [isMeaningful] using fun same => longer (congrArg List.length same)
  have name : segments (stem ++ '.' :: luaExtension.toList) =
      [stem ++ '.' :: luaExtension.toList] := by
    rw [segments, Text.pieces_of_clear whole, List.filter_cons_of_pos meaningful, List.filter_nil]
  rw [spelled]
  rcases cutName_front path.toList with empty | ⟨front, separator, cut, separates⟩
  · simp [empty, name]
  · rw [cut, List.append_assoc, List.singleton_append, segments_append separates, name]
    simp

theorem segments_trimEnd (path : String) :
    segments (trimEnd path).toList = segments path.toList := by
  rw [trimEnd, String.toList_ofList]
  exact apply_dropTrailingSlashes segments_concat path.toList

theorem hidesSeparator_trimEnd_iff :
    HidesSeparator (trimEnd path) ↔ HidesSeparator path := by
  have first := apply_dropTrailingSlashes (f := fun path => (names path).find? HostPath.isName)
    find?_names_concat
    path.toList
  rw [HidesSeparator, trimEnd, String.toList_ofList, first, ← HidesSeparator]

/-- What is not rooted is relative for the host too, which takes only a slash at the start for a
root. -/
theorem isAbsolute_of_isRooted (relative : isRooted path.toList = false) :
    HostPath.isAbsolute path = false := by
  cases spelled : path.toList with
  | nil => simp [HostPath.isAbsolute, spelled]
  | cons c rest =>
    rw [spelled] at relative
    have other : c ≠ '/' := by
      rintro rfl
      cases relative
    simp [HostPath.isAbsolute, spelled, other]

/-- Trimming a relative path does not make it absolute: its first character is kept, if anything is
left. -/
theorem isAbsolute_trimEnd (relative : HostPath.isAbsolute path = false) :
    HostPath.isAbsolute (trimEnd path) = false := by
  have start : (trimEnd path).toList <+: path.toList := by
    rw [trimEnd, String.toList_ofList, dropTrailingSlashes, ← List.reverse_suffix,
      List.reverse_reverse]
    exact List.dropWhile_suffix _
  obtain ⟨behind, spelled⟩ := start
  rw [HostPath.isAbsolute] at relative ⊢
  cases kept : (trimEnd path).toList with
  | nil => rfl
  | cons c rest =>
    rw [← spelled, kept] at relative
    exact relative

/-- What is put below a relative directory is relative, since leading slashes of the lower path are
dropped. -/
theorem isAbsolute_join {directory : String} (relative : HostPath.isAbsolute directory = false)
    (lower : String) : HostPath.isAbsolute (join directory lower) = false := by
  unfold join
  dsimp only
  split
  · have stops := List.head?_dropWhile_not (· == '/') lower.toList
    rw [HostPath.isAbsolute, String.toList_ofList, dropLeadingSlashes]
    cases first : (lower.toList.dropWhile (· == '/')).head? with
    | none => rfl
    | some c =>
      rw [first] at stops
      simpa using stops
  · rename_i visible
    have first (rest : List Char) : (directory.toList ++ rest).head? = directory.toList.head? := by
      rw [List.head?_append]
      cases spelled : directory.toList with
      | nil => exact absurd (String.toList_eq_nil_iff.mp spelled) (by simpa using visible)
      | cons c front => rfl
    split <;> rw [HostPath.isAbsolute, String.toList_ofList, first] <;> exact relative

/-- Lower case does not hide the slash of a rooted path, so it can be seen in the common spelling
whether a path is rooted. -/
theorem isRooted_of_normalize (relative : (normalize path).toList.head? ≠ some '/') :
    isRooted path.toList = false := by
  rw [Bool.eq_false_iff]
  intro rooted
  apply relative
  have slash : Char.toLower '/' = '/' := by decide
  rw [normalize, String.toList_ofList, rooted, assemble, if_pos rfl]
  simp [slash]

/-- The common spelling of a relative path with segments is normal. Without segments it would be
empty. -/
theorem normal_normalize (relative : isRooted path.toList = false)
    (meaningful : segments path.toList ≠ []) : Normal (normalize path) :=
  normal_iff.mpr (isName_of_mem_normalize relative meaningful)

/-- The segments of the common spelling are those of the path, in lower case; this holds of rooted
paths as well. -/
theorem segments_normalize (path : String) :
    segments (normalize path).toList = (segments path.toList).map (·.map Char.toLower) := by
  have single {name : List Char} (isName : IsName name) : segments name = [name] := by
    have counted : isMeaningful name = true := by simp [isMeaningful, isName.ne_nil, isName.ne_dot]
    rw [segments, Text.pieces_of_clear isName.clear, List.filter_cons_of_pos counted,
      List.filter_nil]
  have joined (parts : List (List Char)) (named : ∀ part ∈ parts, IsName part) :
      parts.flatMap segments = parts := by
    induction parts with
    | nil => rfl
    | cons part rest ih =>
      rw [List.flatMap_cons, single (named part List.mem_cons_self),
        ih fun other member => named other (List.mem_cons_of_mem _ member)]
      rfl
  have lower : ∀ part ∈ (segments path.toList).map (·.map Char.toLower), IsName part := by
    intro part member
    obtain ⟨segment, counted, rfl⟩ := List.mem_map.mp member
    exact isName_of_mem_segments counted
  have slash (rest : List Char) : segments ('/' :: rest) = segments rest := by
    rw [← List.nil_append ('/' :: rest), segments_append (by decide), segments_nil, List.nil_append]
  rw [normalize, String.toList_ofList, assemble, List.map_append, map_toLower_intercalate]
  split
  · rw [List.map_singleton, List.singleton_append, show Char.toLower '/' = '/' by decide, slash,
      segments_intercalate, joined _ lower]
  · rw [List.map_nil, List.nil_append, segments_intercalate, joined _ lower]

/-- Normal paths are told apart by their segments. So it is enough to compare these when two paths
are to be shown equal. -/
theorem Normal.eq_of_segments {path other : String} (left : Normal path) (right : Normal other)
    (same : segments path.toList = segments other.toList) : path = other := by
  rw [segments_of_names left.isName_of_mem, segments_of_names right.isName_of_mem] at same
  apply String.toList_inj.mp
  rw [← intercalate_names path.toList, same, intercalate_names]

theorem intercalate_append {left right : List (List Char)} (first : left ≠ [])
    (second : right ≠ []) :
    ['/'].intercalate (left ++ right) =
      ['/'].intercalate left ++ '/' :: ['/'].intercalate right := by
  induction left with
  | nil => exact absurd rfl first
  | cons name rest ih =>
    cases rest with
    | nil =>
      obtain ⟨next, behind, rfl⟩ := List.exists_cons_of_ne_nil second
      simp [List.intercalate_cons_cons]
    | cons next rest =>
      rw [List.cons_append, List.cons_append, List.intercalate_cons_cons, ← List.cons_append,
        ih (by simp), List.intercalate_cons_cons]
      simp

/-- The common spelling of a path whose segments continue those of another one starts with the
spelling of that one and a slash. Nothing is asked of how the two are written. -/
theorem normalize_isPrefix {path lower : String} {more : List (List Char)}
    (outer : isRooted path.toList = false) (inner : isRooted lower.toList = false)
    (first : segments path.toList ≠ []) (second : more ≠ [])
    (continued : segments lower.toList = segments path.toList ++ more) :
    (normalize path).toList ++ ['/'] <+: (normalize lower).toList := by
  rw [normalize_toList outer, normalize_toList inner, continued, List.map_append,
    intercalate_append (by simpa using first) (by simpa using second)]
  exact ⟨_, List.append_assoc _ _ _⟩

/-- A slash at the end does not change the common spelling, unless it is all there is: then it makes
the path rooted. -/
theorem normalize_concat (visible : path ≠ "") :
    normalize (path ++ "/") = normalize path := by
  obtain ⟨c, rest, starts⟩ := List.exists_cons_of_ne_nil (mt String.toList_eq_nil_iff.mp visible)
  have spelled : (path ++ "/").toList = path.toList ++ ['/'] := by
    rw [String.toList_append]
    rfl
  have rooted : isRooted (path.toList ++ ['/']) = isRooted path.toList := by
    simp [isRooted, starts]
  rw [normalize, normalize, spelled, segments_concat, rooted]

theorem IsName.hostName {name : List Char} (isName : IsName name) :
    HostPath.isName name = true := by
  simp [HostPath.isName, isName.ne_nil, isName.ne_dot]

theorem Normal.forwardSlashes (normal : Normal path) :
    HostPath.forwardSlashes path = path := by
  have kept : path.toList.map (fun c => if c = '\\' then '/' else c) = path.toList := by
    conv => rhs; rw [← List.map_id path.toList]
    refine List.map_congr_left fun c member => ?_
    split
    · rename_i backslash
      have slash := normal.eq_slash member (by rw [backslash]; decide)
      exact slash.symm
    · rfl
  rw [HostPath.forwardSlashes, kept, String.ofList_toList]

/-- A normal path is spelled from the root as it is, since all its names count and none holds a
backslash. -/
theorem Normal.fromRoot (normal : Normal path) : Path.fromRoot path = path := by
  have counted : ∀ name ∈ names path.toList, HostPath.isName name = true := fun name member =>
    (normal.isName_of_mem name member).hostName
  have trimmed : HostPath.trimNames (names path.toList) = names path.toList := by
    have kept {raw : List (List Char)} (all : ∀ name ∈ raw, HostPath.isName name = true) :
        raw.dropWhile (!HostPath.isName ·) = raw := by
      cases raw with
      | nil => rfl
      | cons name rest => simp [all name List.mem_cons_self]
    rw [HostPath.trimNames, kept counted,
      kept (fun name member => counted name (List.mem_reverse.mp member)), List.reverse_reverse]
  rw [Path.fromRoot, trimmed, intercalate_names, String.ofList_toList, normal.forwardSlashes]

theorem mem_intercalate_iff {names : List (List Char)} {c : Char} (other : c ≠ '/') :
    c ∈ ['/'].intercalate names ↔ ∃ name ∈ names, c ∈ name := by
  induction names with
  | nil => simp
  | cons name rest ih =>
    cases rest with
    | nil => simp
    | cons next rest =>
      rw [List.intercalate_cons_cons, List.mem_append, List.mem_append, ih]
      simp [other]

/-- The common spelling of a path has the characters of its segments, in lower case, and slashes.
Slashes are left out, as they may also come from the joining. -/
theorem mem_normalize_iff {c : Char} (other : c ≠ '/') :
    c ∈ (normalize path).toList ↔ ∃ segment ∈ segments path.toList, ∃ d ∈ segment,
    d.toLower = c := by
  have slash : Char.toLower '/' = '/' := by decide
  rw [normalize, String.toList_ofList, assemble, List.map_append, List.mem_append,
    map_toLower_intercalate, mem_intercalate_iff other]
  have unrooted : c ∉ (if isRooted path.toList = true then ['/'] else []).map Char.toLower := by
    split <;> simp [slash, other]
  simp [unrooted]

/-- A character of a path that is no separator and no dot is in the common spelling, in lower case.
Dots may be dropped with the segment they make up. -/
theorem toLower_mem_normalize {c : Char} (member : c ∈ path.toList) (clear : isSeparator c = false)
    (other : c ≠ '.') : c.toLower ∈ (normalize path).toList := by
  obtain ⟨piece, cut, inside⟩ := Text.mem_pieces_iff.mpr ⟨member, clear⟩
  have meaningful : isMeaningful piece = true := by
    have counts : piece ≠ [] ∧ piece ≠ ['.'] := by
      constructor
      · rintro rfl
        cases inside
      · rintro rfl
        exact other (List.mem_singleton.mp inside)
    simpa [isMeaningful] using counts
  have unslashed : c.toLower ≠ '/' := by
    intro slash
    rw [← isSeparator_toLower, slash] at clear
    cases clear
  exact (mem_normalize_iff unslashed).mpr
    ⟨piece, List.mem_filter.mpr ⟨cut, meaningful⟩, c, inside, rfl⟩

/-- A character of the common spelling is a slash or one of the path in lower case, so no other
character is ever brought in. -/
theorem mem_of_mem_normalize {c : Char} (member : c ∈ (normalize path).toList) :
    c = '/' ∨ ∃ d ∈ path.toList, d.toLower = c := by
  by_cases slash : c = '/'
  · exact .inl slash
  · obtain ⟨segment, counted, d, inside, lower⟩ := (mem_normalize_iff slash).mp member
    exact .inr
      ⟨d, (Text.mem_pieces_iff.mp ⟨segment, (List.mem_filter.mp counted).1, inside⟩).1, lower⟩

end DialectLoader.Path
