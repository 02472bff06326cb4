import DialectLoader.Proofs.Path.Extension

/-!
# Scripts that share their code

A common spelling says two things of a path and nothing else: whether it is rooted, and what its
segments are in lower case. Below a cache root the first is the same for all code. So two scripts
have their code in one place exactly if their segments agree up to the extension of the last one,
which is the only part that is exchanged. Scripts of one dialect agree in that extension too, so
what they share their code with is another spelling of themselves.

What happens to the code of two such scripts when both are compiled is a matter of the pipeline and
is not said here.
-/

namespace DialectLoader.Path

/-- The segments of a path in lower case, which are all that a common spelling keeps of it beside
its start. -/
def folded (path : String) : List (List Char) :=
  (segments path.toList).map (·.map Char.toLower)

/-- Segments of which the last one has lost its extension. This is what scripts have in common that
share their code. -/
def withoutExtension (names : List (List Char)) : List (List Char) :=
  names.dropLast ++ (names.getLast?.map fun name => (cutStem name).1).toList

theorem normalize_toList_assemble (path : String) :
    (normalize path).toList = assemble (isRooted path.toList) (folded path) := by
  have slash : Char.toLower '/' = '/' := by decide
  rw [normalize, String.toList_ofList, assemble, List.map_append, map_toLower_intercalate, assemble,
    folded]
  cases isRooted path.toList <;> simp [slash]

/-- The common spelling of a path is rooted exactly if the path is, since a separator is no
segment. -/
theorem isRooted_normalize (path : String) :
    isRooted (normalize path).toList = isRooted path.toList := by
  cases rooted : isRooted path.toList with
  | true =>
    rw [normalize_toList_assemble, rooted]
    rfl
  | false =>
    by_cases meaningful : segments path.toList = []
    · rw [normalize_toList_assemble, rooted, folded, meaningful]
      rfl
    · exact (normal_normalize rooted meaningful).relative

/-- Two paths have one common spelling exactly if both or neither are rooted and their segments
agree in lower case. Both can be read back from the spelling. -/
theorem normalize_eq_iff {left right : String} :
    normalize left = normalize right ↔ isRooted left.toList = isRooted right.toList ∧
    folded left = folded right := by
  constructor
  · intro same
    constructor
    · rw [← isRooted_normalize, same, isRooted_normalize]
    · rw [folded, folded, ← segments_normalize, same, segments_normalize]
  · rintro ⟨rooted, names⟩
    apply String.toList_inj.mp
    rw [normalize_toList_assemble, normalize_toList_assemble, rooted, names]

/-- What is put below a directory starts as the directory does. The empty directory is excluded,
since the lower path would be the whole. -/
theorem isRooted_join {directory : String} (visible : directory ≠ "") (lower : String) :
    isRooted (join directory lower).toList = isRooted directory.toList := by
  obtain ⟨c, rest, starts⟩ := List.exists_cons_of_ne_nil (mt String.toList_eq_nil_iff.mp visible)
  rw [join, if_neg (by simpa using visible)]
  split <;> simp [isRooted, starts]

theorem folded_join (directory lower : String) :
    folded (join directory lower) = folded directory ++ folded lower := by
  rw [folded, segments_join, List.map_append, folded, folded]

/-- Paths below one directory have one common spelling exactly if their segments agree in lower
case. How they start makes no difference there. -/
theorem normalize_join_eq_iff {directory left right : String} (visible : directory ≠ "") :
    normalize (join directory left) = normalize (join directory right) ↔
      folded left = folded right := by
  rw [normalize_eq_iff, isRooted_join visible, isRooted_join visible, folded_join, folded_join]
  simp

/-- The segments of a path with an extension, whichever extension it is given: the same names and
the same stem. Nothing else of the path depends on the extension. -/
theorem exists_folded_setExtension {path ext : String} (named : extension? path = some ext) :
    ∃ before stem, folded path = before ++ [stem ++ '.' :: ext.toList.map Char.toLower] ∧
      ∀ {other : String}, IsExtension other →
        folded (setExtension path other) = before ++ [stem ++ '.' :: other.toList] := by
  obtain ⟨visible, plain, front, spelled⟩ := extension?_eq_some_iff.mp named
  obtain ⟨before, last, grows⟩ := exists_segments_append front
  have dot : Char.toLower '.' = '.' := by decide
  refine ⟨before.map (·.map Char.toLower), last.map Char.toLower, ?_, fun isExtension => ?_⟩
  · rw [folded, spelled,
      grows _ (mt String.toList_eq_nil_iff.mp visible) fun c member => (plain c member).1]
    simp [dot]
  · have lower := List.map_congr_left isExtension.isName.lower
    rw [List.map_id'] at lower
    rw [folded, setExtension_of_extension? named spelled isExtension,
      grows _ isExtension.isName.ne_nil isExtension.isName.clear]
    simp [dot, lower]

/-- Without its extension the last segment is its stem, as long as the cut is at the last dot. -/
theorem withoutExtension_concat (before : List (List Char)) (stem : List Char) {letters : List Char}
    (dotless : '.' ∉ letters) :
    withoutExtension (before ++ [stem ++ '.' :: letters]) = before ++ [stem] := by
  simp [withoutExtension, cutStem_append stem dotless]

/-- The extension of a script is that of its dialect, in some letter case: dialects are recognised
without regard to case. -/
theorem exists_extension_of_ofPath? {path : String} {dialect : Dialect}
    (script : Dialect.ofPath? path = some dialect) :
    ∃ ext, extension? path = some ext ∧ ext.toList.map Char.toLower = dialect.extension.toList := by
  obtain ⟨ext, named, known⟩ := Option.bind_eq_some_iff.mp script
  have same := List.find?_some known
  rw [sameLetters, beq_iff_eq] at same
  have lower := List.map_congr_left (isExtension_dialect dialect).isName.lower
  rw [List.map_id'] at lower
  exact ⟨ext, named, by rw [← same, lower]⟩

/-- A script is divided into what it shares with its siblings and the extension of its dialect. Its
code has the same part in front of another extension. -/
theorem exists_folded_script {path : String} {dialect : Dialect}
    (script : Dialect.ofPath? path = some dialect) :
    ∃ before stem, folded path = before ++ [stem ++ '.' :: dialect.extension.toList] ∧
      withoutExtension (folded path) = before ++ [stem] ∧
      folded (output path) = before ++ [stem ++ '.' :: luaExtension.toList] := by
  obtain ⟨ext, named, lower⟩ := exists_extension_of_ofPath? script
  obtain ⟨before, stem, whole, exchanged⟩ := exists_folded_setExtension named
  rw [lower] at whole
  refine ⟨before, stem, whole, ?_, exchanged isExtension_lua⟩
  rw [whole, withoutExtension_concat before stem (isExtension_dialect dialect).dotless]

/-- Last segments with one extension agree behind names that agree exactly if their stems do. -/
theorem concat_extension_inj {before behind : List (List Char)} {stem other ext : List Char} :
    before ++ [stem ++ '.' :: ext] = behind ++ [other ++ '.' :: ext] ↔
      before ++ [stem] = behind ++ [other] := by
  simp only [← List.concat_eq_append, List.concat_inj, List.append_cancel_right_eq]

/-- Below a cache root the code of two scripts is in one place exactly if the segments of the
scripts, in lower case, are the same without the extension of the last one. For scripts of one
dialect this means that their segments are the same, so they differ in nothing but separators,
segments that do not count, and letter case. -/
theorem outputs_collide_iff_siblings {root left right : String} (visible : root ≠ "")
    (first : (Dialect.ofPath? left).isSome = true)
    (second : (Dialect.ofPath? right).isSome = true) :
    (normalize (join root (output left)) = normalize (join root (output right)) ↔
      withoutExtension (folded left) = withoutExtension (folded right)) ∧
    (Dialect.ofPath? left = Dialect.ofPath? right →
      (normalize (join root (output left)) = normalize (join root (output right)) ↔
        folded left = folded right)) := by
  obtain ⟨dialect, script⟩ := Option.isSome_iff_exists.mp first
  obtain ⟨sibling, otherScript⟩ := Option.isSome_iff_exists.mp second
  obtain ⟨before, stem, whole, bare, code⟩ := exists_folded_script script
  obtain ⟨behind, other, otherWhole, otherBare, otherCode⟩ := exists_folded_script otherScript
  have shared : normalize (join root (output left)) = normalize (join root (output right)) ↔
      before ++ [stem] = behind ++ [other] := by
    rw [normalize_join_eq_iff visible, code, otherCode, concat_extension_inj]
  constructor
  · rw [shared, bare, otherBare]
  · intro same
    obtain rfl : dialect = sibling := by
      rw [script, otherScript] at same
      exact Option.some.inj same
    rw [shared, whole, otherWhole, concat_extension_inj]

/-- Scripts with several dots, other separators and other letters share their code across the
dialects. A script without a stem does not share it with the one that is named like its
directory. -/
theorem outputs_collide_iff_siblings_mixed :
    let mixed := "\\A/.//B.c.Moon"
    let plain := "a/b.C.yue"
    let hidden := "a/.moon"
    let named := "a.moon"
    normalize (join "c" (output mixed)) = normalize (join "c" (output plain)) ∧
      folded mixed ≠ folded plain ∧
      normalize (join "c" (output hidden)) ≠ normalize (join "c" (output named)) := by
  intro mixed plain hidden named
  have crossing := @outputs_collide_iff_siblings "c" mixed plain (by decide) (by decide) (by decide)
  have alike := @outputs_collide_iff_siblings "c" hidden named (by decide) (by decide) (by decide)
  refine ⟨crossing.1.mpr (by decide), by decide, fun same => ?_⟩
  exact absurd ((alike.2 (by decide)).mp same) (by decide)

end DialectLoader.Path
