import DialectLoader.Backend.Echo
import DialectLoader.Proofs.LineMap.Nearest
import DialectLoader.Proofs.Pipeline.Built
import DialectLoader.Remap

/-!
# Recognising generated code

Errors at run time name generated code in many spellings. The pipeline spells the path of the code
from the cache root in one way, by trimming, joining and cutting off the root of the files;
remapping spells the start of managed paths in another, from the common spelling of the cache root.
Both come to the same segments. They differ in one case: if the cache root starts with names that do
not count and then a backslash, the path of the code comes out rooted, and no managed path is.

The cache root is relative and names at least one segment. The files are those in memory, where the
path of code is known from its spelling; on a disk it may be looked up.
-/

namespace DialectLoader

namespace Remap

/-- A source line that can be shown for a generated line: that of the nearest mapped line, if it
fits a signed word. -/
def IsSourceLine (map : LineMap) (line : Int) (source : Nat) : Prop :=
  0 < line ∧ (∃ generated, map.IsNearest line.toNat generated source) ∧ source < Text.signedBound

/-- The line to show for a generated line: its source line if there is one, and else the line
itself. Lines are signed, as the host counts them. -/
def IsShown (map : LineMap) (line shown : Int) : Prop :=
  (∃ source : Nat, IsSourceLine map line source ∧ shown = source) ∨
    (¬ ∃ source, IsSourceLine map line source) ∧ shown = line

/-- A view recognises an artifact: every chunk name that spells the path of its code is shown as the
path of its source, with a mark in front if there was one, and with the line that belongs to it. -/
def View.Recognises (view : View) (artifact : Artifact) : Prop :=
  ∀ (chunk : String) (line : Int), Path.normalize chunk = artifact.outputKey →
    chunk.toList.head? ≠ some '@' → ∃ shown, IsShown artifact.lineMap line shown ∧
      view.frame chunk line = (artifact.fullSourcePath, shown) ∧
      view.frame ("@" ++ chunk) line = ("@" ++ artifact.fullSourcePath, shown)

/-- The source line that is looked up is the one that can be shown. A generated line that is not
positive has none. -/
theorem sourceLine?_eq_some_iff {artifact : Artifact} {line shown : Int} :
    sourceLine? artifact line = some shown ↔
      ∃ source : Nat, IsSourceLine artifact.lineMap line source ∧ shown = source := by
  by_cases positive : 0 < line
  · rw [sourceLine?, if_neg (by omega), Option.map_eq_some_iff]
    refine exists_congr fun source => and_congr ?_ eq_comm
    rw [Option.filter_eq_some_iff, Artifact.sourceLine?, LineMap.nearest?_eq_some_iff,
      decide_eq_true_iff, IsSourceLine, and_iff_right positive]
  · rw [sourceLine?, if_pos (by omega)]
    constructor
    · intro found
      cases found
    · rintro ⟨_, isSource, _⟩
      exact absurd isSource.1 positive

theorem isShown_sourceLine? (artifact : Artifact) (line : Int) :
    IsShown artifact.lineMap line ((sourceLine? artifact line).getD line) := by
  cases found : sourceLine? artifact line with
  | some shown => exact .inl (sourceLine?_eq_some_iff.mp found)
  | none =>
    refine .inr ⟨?_, rfl⟩
    rintro ⟨source, isSource⟩
    rw [sourceLine?_eq_some_iff.mpr ⟨source, isSource, rfl⟩] at found
    cases found

theorem splitMark_marked (chunk : String) : splitMark ("@" ++ chunk) = (true, chunk) := by
  have spelled : ("@" ++ chunk).toList = '@' :: chunk.toList := by
    rw [String.toList_append]
    rfl
  simp only [splitMark, spelled, String.ofList_toList]

theorem splitMark_unmarked {chunk : String} (unmarked : chunk.toList.head? ≠ some '@') :
    splitMark chunk = (false, chunk) := by
  unfold splitMark
  split
  · rename_i rest starts
    rw [starts] at unmarked
    exact absurd rfl unmarked
  · rfl

/-- An artifact in the cache is recognised if the common spelling of the path of its code has the
start that all managed paths have. -/
theorem View.recognises_of_start {view : View} (consistent : view.cache.Consistent)
    {artifact : Artifact} (live : artifact ∈ view.cache.artifacts)
    (start : view.managedStart <+: artifact.outputKey.toList) :
    view.Recognises artifact := by
  intro chunk line spelled unmarked
  have managed (source : String) (marked : Bool) (cut : splitMark source = (marked, chunk)) :
      view.managed? source = some ⟨marked, artifact⟩ := by
    rw [View.managed?, cut]
    dsimp only
    rw [if_pos (List.isPrefixOf_iff_prefix.mpr (spelled ▸ start)),
      consistent.lookupOutput_of_mem live spelled]
    rfl
  refine ⟨_, isShown_sourceLine? artifact line, ?_, ?_⟩
  · rw [View.frame, managed chunk false (splitMark_unmarked unmarked)]
    rfl
  · rw [View.frame, managed _ true (splitMark_marked chunk)]
    rfl

/-- The path of the code of an artifact that is recognised starts as managed paths do, in its common
spelling. Otherwise none of its spellings is managed, and the path itself and the path with a slash
behind it are shown as they are, which cannot both be the path of the source. -/
theorem View.Recognises.start {view : View} {artifact : Artifact}
    (recognises : view.Recognises artifact)
    (unmarked : artifact.fullOutputPath.toList.head? ≠ some '@')
    (visible : artifact.fullOutputPath ≠ "") :
    view.managedStart <+: artifact.outputKey.toList := by
  by_contra other
  have unchanged (chunk : String) (spelled : Path.normalize chunk = artifact.outputKey)
      (plain : chunk.toList.head? ≠ some '@') : view.frame chunk 0 = (chunk, 0) := by
    have foreign : view.managed? chunk = none := by
      rw [View.managed?, splitMark_unmarked plain]
      dsimp only
      rw [if_neg (by rw [List.isPrefixOf_iff_prefix, spelled]; exact other)]
    rw [View.frame, foreign]
  have same (chunk : String) (spelled : Path.normalize chunk = artifact.outputKey)
      (plain : chunk.toList.head? ≠ some '@') : chunk = artifact.fullSourcePath := by
    obtain ⟨_, _, shown, _⟩ := recognises chunk 0 spelled plain
    rw [unchanged chunk spelled plain] at shown
    exact (Prod.mk.inj shown).1
  have spelled : (artifact.fullOutputPath ++ "/").toList =
      artifact.fullOutputPath.toList ++ ['/'] := by
    rw [String.toList_append]
    rfl
  obtain ⟨c, rest, starts⟩ := List.exists_cons_of_ne_nil (mt String.toList_eq_nil_iff.mp visible)
  have plain := same artifact.fullOutputPath rfl unmarked
  have slashed := same (artifact.fullOutputPath ++ "/") (Path.normalize_concat visible) (by
    rw [spelled, starts]
    rw [starts] at unmarked
    exact unmarked)
  have lengths := congrArg (fun path => path.toList.length) (slashed.trans plain.symm)
  simp [spelled] at lengths

end Remap

namespace Pipeline

variable {config : Config}

section Root

variable (visible : Path.normalize config.cacheRoot ≠ "")
  (relative : (Path.normalize config.cacheRoot).toList.head? ≠ some '/')

include visible relative

/-- A relative cache root whose common spelling is not empty has segments, so code below it is not
at the root of the files. -/
theorem segments_cacheRoot : Path.segments config.cacheRoot.toList ≠ [] := by
  intro none
  apply visible
  rw [← String.toList_eq_nil_iff, Path.normalize_toList (Path.isRooted_of_normalize relative), none]
  rfl

/-- The path of code is rooted exactly if the cache root hides a separator. What is below the root
makes no difference. -/
theorem isRooted_codePath_iff (logical : String) :
    Path.isRooted (codePath config logical).toList = true ↔
      Path.HidesSeparator config.cacheRoot := by
  have meaningful : Path.segments config.outputRoot.toList ≠ [] := by
    rw [Config.outputRoot, Path.segments_trimEnd]
    exact segments_cacheRoot visible relative
  have unrooted := Path.isAbsolute_of_isRooted (Path.isRooted_of_normalize relative)
  rw [codePath_eq unrooted, Path.isRooted_fromRoot_iff, Path.hidesSeparator_join_iff meaningful,
    Config.outputRoot, Path.hidesSeparator_trimEnd_iff]

/-- The path of code starts as managed paths do exactly if the cache root hides no separator: the
segments agree in any case. -/
theorem managedStart_isPrefix_iff (cache : Cache) (logical : String) :
    (Remap.View.managedStart ⟨config.cacheRoot, cache⟩ <+:
      (Path.normalize (codePath config logical)).toList) ↔
      ¬ Path.HidesSeparator config.cacheRoot := by
  have outer := Path.isRooted_of_normalize relative
  have meaningful := segments_cacheRoot visible relative
  have normal := Path.normal_normalize outer meaningful
  have start : Remap.View.managedStart ⟨config.cacheRoot, cache⟩ =
      (Path.normalize config.cacheRoot).toList ++ ['/'] := by
    have trimmed := congrArg String.toList normal.trimEnd
    rw [Path.trimEnd, String.toList_ofList] at trimmed
    rw [Remap.View.managedStart, trimmed]
  rw [← isRooted_codePath_iff visible relative logical, start]
  constructor
  · rintro ⟨behind, spelled⟩ rooted
    have first : (Path.normalize (codePath config logical)).toList.head? ≠ some '/' := by
      obtain ⟨c, rest, starts⟩ :=
        List.exists_cons_of_ne_nil (mt String.toList_eq_nil_iff.mp visible)
      rw [starts] at relative spelled
      rw [← spelled]
      exact relative
    have unrooted := Path.isRooted_of_normalize first
    rw [rooted] at unrooted
    cases unrooted
  · intro unrooted
    exact Path.normalize_isPrefix outer (by simpa using unrooted) meaningful
      (Path.segments_output_ne_nil logical)
      (segments_codePath (Path.isAbsolute_of_isRooted outer) logical)

end Root

end Pipeline

namespace Remap

variable {config : Config}

/-- Whatever is compiled is recognised, exactly if the cache root hides no separator: for every
relative cache root, every cache that was built with the configuration, and every compiler. -/
theorem recognises_compiled_iff (visible : Path.normalize config.cacheRoot ≠ "")
    (relative : (Path.normalize config.cacheRoot).toList.head? ≠ some '/')
    {workspace changed : Workspace MemoryFiles} (built : Pipeline.Built config workspace.cache)
    (compiler : Compiler MemoryFiles) {logical : String} {force : Bool} {artifact : Artifact}
    (compiled : (⟨config, compiler⟩ : Pipeline MemoryFiles).compile workspace logical force =
      (.ok artifact, changed)) :
    View.Recognises ⟨config.cacheRoot, changed.cache⟩ artifact ↔
      ¬ Path.HidesSeparator config.cacheRoot := by
  obtain ⟨result, caching, returned⟩ :=
    Pipeline.compile_caching ⟨config, compiler⟩ workspace logical force
  rw [compiled] at caching returned
  have placed := built.placed.caching caching
  have live : artifact ∈ changed.cache.artifacts := by
    cases result with
    | error error => cases returned
    | ok pair =>
      obtain ⟨made, flag⟩ := pair
      cases returned
      exact built.placed.mem_of_caching caching
  have code := placed.code artifact live
  have start :=
    Pipeline.managedStart_isPrefix_iff visible relative changed.cache artifact.sourcePath
  rw [← code] at start
  constructor
  · intro recognises hidden
    have rooted := (Pipeline.isRooted_codePath_iff visible relative artifact.sourcePath).mpr hidden
    rw [← code] at rooted
    have unmarked : artifact.fullOutputPath.toList.head? ≠ some '@' := by
      intro marked
      simp [Path.isRooted, marked, Path.isSeparator] at rooted
    have named : artifact.fullOutputPath ≠ "" := by
      intro empty
      rw [empty] at rooted
      cases rooted
    exact start.mp (recognises.start unmarked named) hidden
  · exact fun plain => View.recognises_of_start placed.consistent live (start.mpr plain)

def echoing (cacheRoot : String) : Pipeline MemoryFiles :=
  ⟨{ cacheRoot, searchPath := "p", searchPaths := .ofList [("p", ["l"])] },
    .ofBackends ⟨Backend.moonEcho, Backend.yueEcho⟩⟩

def oneScript : Workspace MemoryFiles :=
  { store := ({} : MemoryFiles).addFile "l/a.moon" (Text.utf8 "x"), watch := { debounceMs := 0 } }

/-- A script that is compiled and then served is recognised, with a cache root that is spelled with
both separators, with letters of both cases and with needless names. -/
theorem recognises_mixed_spelling :
    let pipeline := echoing ".\\C//d/"
    ∃ artifact changed,
      pipeline.compile (pipeline.compile oneScript "/a.moon" false).2 "/a.moon" false =
        (.ok artifact, changed) ∧
      artifact.fullOutputPath = "./C//d/a.lua" ∧
      View.Recognises ⟨pipeline.config.cacheRoot, changed.cache⟩ artifact := by
  intro pipeline
  have served :
      (pipeline.compile (pipeline.compile oneScript "/a.moon" false).2 "/a.moon" false).1.map
      (·.fullOutputPath) = .ok "./C//d/a.lua" := by
    decide +kernel
  have visible : Path.normalize pipeline.config.cacheRoot ≠ "" := by decide +kernel
  have relative : (Path.normalize pipeline.config.cacheRoot).toList.head? ≠ some '/' := by
    decide +kernel
  have plain : ¬ Path.HidesSeparator pipeline.config.cacheRoot := by decide +kernel
  have built : Pipeline.Built pipeline.config
      (pipeline.compile oneScript "/a.moon" false).2.cache :=
    Pipeline.Built.empty.compile pipeline.compiler "/a.moon" false
  rcases compiled : pipeline.compile (pipeline.compile oneScript "/a.moon" false).2 "/a.moon"
    false with
    ⟨_ | artifact, changed⟩
  · rw [compiled] at served
    cases served
  · rw [compiled] at served
    exact ⟨artifact, changed, rfl, Except.ok.inj served,
      (recognises_compiled_iff visible relative built pipeline.compiler compiled).mpr plain⟩

/-- With a cache root that hides a separator the path of the code comes out rooted, and its lines
are not remapped. -/
theorem hidden_separator_unrecognised :
    let pipeline := echoing "./\\c"
    let done := pipeline.compile oneScript "a.moon" false
    done.1.map (fun artifact =>
        (artifact.fullOutputPath, artifact.fullSourcePath, artifact.sourceLine? 2)) =
          .ok ("/c/a.lua", "l/a.moon", some 1) ∧
      View.frame ⟨pipeline.config.cacheRoot, done.2.cache⟩ "/c/a.lua" 2 = ("/c/a.lua", 2) := by
  decide +kernel

end Remap

end DialectLoader
