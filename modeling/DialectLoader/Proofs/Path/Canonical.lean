import DialectLoader.Proofs.Path.Siblings

/-!
# The common spelling is canonical

All that a common spelling keeps of a path can be read from the path by cutting it at its
separators: whether there is one at the start, and which segments in lower case are left when the
empty ones and the single dots are dropped. Spelling a path does not change either, so the common
spelling is its own, and two paths share it exactly if they agree in both. Both are also easy to
follow through joining. A separator is put between the two parts, or one that is there is used, and
the slashes that the lower part loses at its start delimit nothing but empty segments. Only an empty
directory is different, since the start of the lower part becomes that of the whole.

The result is about texts. That the host finds one file under all spellings of a path is its own
doing; the store of this program is looked up by the common spelling.
-/

namespace DialectLoader

/-- Cutting a text at its separators is splitting a list, so segments can be described without a
definition of this program. -/
theorem Text.pieces_eq_splitOnP {α : Type} (isSeparator : α → Bool) (text : List α) :
    pieces isSeparator text = text.splitOnP isSeparator := by
  induction text with
  | nil => rfl
  | cons c rest ih =>
    obtain ⟨piece, found, cut⟩ := List.exists_cons_of_ne_nil (pieces_ne_nil isSeparator rest)
    rw [List.splitOnP_cons_eq_if_modifyHead, ← ih, cut]
    cases separated : isSeparator c <;> simp [pieces, separated, cut]

namespace Path

theorem isRooted_iff {path : List Char} :
    isRooted path = true ↔ ∃ c rest, path = c :: rest ∧ (c = '/' ∨ c = '\\') := by
  cases path with
  | nil => simp [isRooted]
  | cons c rest => simp [isRooted, isSeparator]

/-- Whether a segment counts does not depend on the case of its letters, so dropping segments and
taking lower case may change places. -/
theorem isMeaningful_map_toLower (segment : List Char) :
    isMeaningful (segment.map Char.toLower) = isMeaningful segment := by
  have dot : segment.map Char.toLower = ['.'] ↔ segment = ['.'] := by
    constructor
    · intro lower
      obtain ⟨c, rfl, same⟩ := List.map_eq_singleton_iff.mp lower
      rw [eq_of_toLower_eq same (by decide)]
    · rintro rfl
      decide
  rw [Bool.eq_iff_iff]
  simp [isMeaningful, dot]

/-- The segments in lower case are those of a split at both separators, less the empty ones and the
single dots. -/
theorem folded_eq_splitOnP (path : String) :
    folded path =
      ((path.toList.splitOnP fun c => c == '/' || c == '\\').map (·.map Char.toLower)).filter
      fun segment => segment != [] && segment != ['.'] := by
  have counted : isMeaningful ∘ (·.map Char.toLower) = isMeaningful :=
    funext isMeaningful_map_toLower
  have split : Text.pieces isSeparator path.toList = path.toList.splitOnP fun c =>
      c == '/' || c == '\\' :=
    Text.pieces_eq_splitOnP _ _
  rw [folded, segments, ← split]
  change _ = ((Text.pieces isSeparator path.toList).map (·.map Char.toLower)).filter isMeaningful
  rw [List.filter_map, counted]

/-- Spelling a path keeps its segments in lower case, which is why the common spelling is its
own. -/
theorem folded_normalize (path : String) : folded (normalize path) = folded path := by
  rw [folded, segments_normalize, List.map_map, folded]
  apply List.map_congr_left
  intro segment _
  rw [Function.comp_apply, List.map_map]
  exact List.map_congr_left fun c _ => toLower_toLower c

/-- The common spelling is a canonical form that respects joining. Whether a path is rooted is
decided by its first character, and its segments in lower case are those of a split at `/` and `\`
without the empty ones and the single dots. The common spelling of a common spelling is that
spelling. Two paths have one common spelling exactly if both or neither are rooted and their
segments agree. What is put below a directory that is not empty is spelled rooted if the directory
is, with the segments of the directory followed by its own. -/
theorem normalize_canonical_under_join :
    (∀ path : String,
      (isRooted path.toList = true ↔ ∃ c rest, path.toList = c :: rest ∧ (c = '/' ∨ c = '\\')) ∧
      folded path =
        ((path.toList.splitOnP fun c => c == '/' || c == '\\').map (·.map Char.toLower)).filter
        fun segment => segment != [] && segment != ['.']) ∧
    (∀ path : String, normalize (normalize path) = normalize path) ∧
    (∀ left right : String, normalize left = normalize right ↔
      (isRooted left.toList = true ↔ isRooted right.toList = true) ∧ folded left = folded right) ∧
    ∀ directory lower : String, directory ≠ "" →
      isRooted (normalize (join directory lower)).toList = isRooted directory.toList ∧
        folded (normalize (join directory lower)) = folded directory ++ folded lower := by
  refine ⟨fun path => ⟨isRooted_iff, folded_eq_splitOnP path⟩, fun path => ?_,
    fun left right => ?_, ?_⟩
  · exact normalize_eq_iff.mpr ⟨isRooted_normalize path, folded_normalize path⟩
  · rw [normalize_eq_iff, Bool.eq_iff_iff]
  · intro directory lower visible
    rw [isRooted_normalize, isRooted_join visible, folded_normalize, folded_join]
    exact ⟨rfl, rfl⟩

/-- A directory that is a single separator, with a dot behind it, roots what is put below it, and
the separators and dots of the lower path do not show. -/
theorem normalize_canonical_under_join_rooted :
    let joined := normalize (join "\\." "//.\\B/./.c//")
    isRooted joined.toList = true ∧ folded joined = [['b'], ['.', 'c']] ∧
      joined = normalize "/b\\.C" := by
  obtain ⟨_, _, same, joins⟩ := normalize_canonical_under_join
  obtain ⟨rooted, names⟩ := joins "\\." "//.\\B/./.c//" (by decide)
  exact ⟨rooted.trans (by decide), names.trans (by decide), (same _ _).mpr ⟨by decide, by decide⟩⟩

end Path

end DialectLoader
