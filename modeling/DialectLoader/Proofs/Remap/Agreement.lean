import DialectLoader.Proofs.Cache.Listing
import DialectLoader.Proofs.Remap.Recognition
import DialectLoader.Proofs.Remap.Tiling

/-!
# Two readings of a message

The leading location of a message is what stands before its first line number, whatever characters
it has. Embedded locations are found by reading the message from left to right in tokens. If the
code of every artifact is at a path of token characters, both readings come to the same text: a
leading location that is managed spells such a path, so it is a token itself, and the reading in
tokens meets it first and remaps it in the same way.

The leading reading alone tells where an error happened. The location that it gives is described
here without the search for it.

Messages are texts of any kind. That they come from errors of the host, and what the host does with
the location it is told, is not modelled.
-/

namespace DialectLoader.Remap

/-- A path that can be the token of an embedded location, as far as its characters go. The empty
path is one too. -/
def IsToken (path : String) : Prop :=
  ∀ c ∈ path.toList, isTokenChar c = true

instance : DecidablePred IsToken := fun _ =>
  decidable_of_iff _ List.all_eq_true

/-- A chunk name that stands for managed code: behind at most one mark it spells the path of the
code of an artifact in the cache, and that path starts as managed paths do. -/
structure View.Manages (view : View) (chunk : String) (managed : Managed) : Prop where
  live : managed.artifact ∈ view.cache.artifacts
  start : view.managedStart <+: managed.artifact.outputKey.toList
  spelled : ∃ path, chunk = (if managed.marked then "@" ++ path else path) ∧
    (managed.marked = false → path.toList.head? ≠ some '@') ∧
      Path.normalize path = managed.artifact.outputKey

/-- Where a message tells that the error happened: its leading location stands for managed code, and
the line there belongs to a source line. The message behind the location is remapped too. -/
def View.Locates (view : View) (message : String) (location : Location) : Prop :=
  ∃ (source digits after : List Char) (managed : Managed) (line : Nat),
    IsLeading message.toList source digits after ∧ view.Manages (String.ofList source) managed ∧
      Text.readDecimal? Text.signedBound digits = some line ∧
      IsSourceLine managed.artifact.lineMap line location.line ∧
      location.source = managed.artifact.fullSourcePath ∧
        location.sourcePath = managed.artifact.sourcePath ∧
      location.message = String.ofList (view.embedded (after.dropWhile Text.isBlank))

/-- A chunk name is its mark, if it has one, and its path. Of several marks one is split off. -/
theorem splitMark_eq_iff {chunk path : String} {marked : Bool} :
    splitMark chunk = (marked, path) ↔
      chunk = (if marked then "@" ++ path else path) ∧
      (marked = false → path.toList.head? ≠ some '@') := by
  constructor
  · intro cut
    unfold splitMark at cut
    split at cut
    · rename_i rest starts
      cases cut
      refine ⟨String.toList_inj.mp ?_, by simp⟩
      simp [starts]
    · rename_i unmarked
      cases cut
      refine ⟨rfl, fun _ starts => ?_⟩
      obtain ⟨rest, spelled⟩ := List.head?_eq_some_iff.mp starts
      exact unmarked rest spelled
  · rintro ⟨rfl, unmarked⟩
    cases marked with
    | true => exact splitMark_marked path
    | false => exact splitMark_unmarked (unmarked rfl)

/-- The artifact that is found behind a chunk name is the one that the name stands for. Consistency
makes it the only one. -/
theorem View.managed?_eq_some_iff {view : View} (consistent : view.cache.Consistent)
    {chunk : String} {managed : Managed} :
    view.managed? chunk = some managed ↔ view.Manages chunk managed := by
  obtain ⟨marked, artifact⟩ := managed
  rcases cut : splitMark chunk with ⟨mark, path⟩
  rw [View.managed?, cut]
  dsimp only
  constructor
  · intro found
    split at found
    · rename_i start
      obtain ⟨known, there, same⟩ := Option.map_eq_some_iff.mp found
      cases same
      obtain ⟨live, named⟩ := consistent.lookupOutput_eq_some_iff.mp there
      obtain ⟨spelled, unmarked⟩ := splitMark_eq_iff.mp cut
      exact ⟨live, named ▸ List.isPrefixOf_iff_prefix.mp start, path, spelled, unmarked, named.symm⟩
    · cases found
  · rintro ⟨live, start, path', spelled, unmarked, named⟩
    cases cut.symm.trans (splitMark_eq_iff.mpr ⟨spelled, unmarked⟩)
    rw [if_pos (List.isPrefixOf_iff_prefix.mpr (named ▸ start)),
      consistent.lookupOutput_of_mem live named]
    rfl

section Tokens

theorem isTokenChar_toLower (c : Char) : isTokenChar c.toLower = isTokenChar c := by
  have letter (d : Char) (least : 65 ≤ d.toNat) (most : d.toNat ≤ 122) (inner : d.toNat ≠ 91)
      (outer : d.toNat ≠ 93) :
      isTokenChar d = true := by
    have visible : Text.isBlank d = false := by
      simp only [Text.isBlank, Text.blankRanges, List.any_cons, List.any_nil, Bool.or_eq_false_iff,
        Bool.and_eq_false_iff, decide_eq_false_iff_not, and_true]
      omega
    have plain (e : Char) (differs : e.toNat ≠ d.toNat) : d ≠ e := fun same =>
      differs (by rw [same])
    simp only [isTokenChar, visible, Bool.false_or, Bool.not_eq_true', List.contains_eq_mem,
      decide_eq_false_iff_not, List.mem_cons, List.not_mem_nil, or_false, not_or]
    refine ⟨plain _ ?_, plain _ ?_, plain _ ?_, plain _ ?_, plain _ ?_, plain _ ?_, plain _ ?_,
      plain _ ?_, plain _ ?_⟩ <;>
      simp only [Char.reduceToNat] <;> omega
  rcases Path.toLower_cases c with same | ⟨least, most, moved⟩
  · rw [same]
  · rw [letter c least (by omega) (by omega) (by omega),
      letter c.toLower (by omega) (by omega) (by omega) (by omega)]

/-- What has the same common spelling as a path of token characters has only such characters too:
the separators and the dots that do not count are among them. -/
theorem IsToken.of_normalize {path other : String} (tokens : IsToken other)
    (same : Path.normalize path = Path.normalize other) : IsToken path := by
  intro c member
  by_cases separates : Path.isSeparator c = true
  · have separators : c = '/' ∨ c = '\\' := by simpa [Path.isSeparator] using separates
    rcases separators with rfl | rfl <;> decide
  · by_cases dot : c = '.'
    · rw [dot]
      decide
    · have clear : Path.isSeparator c = false := by simpa using separates
      have lower := Path.toLower_mem_normalize member clear dot
      rw [same] at lower
      rcases Path.mem_of_mem_normalize lower with slash | ⟨d, inside, equal⟩
      · rw [← Path.isSeparator_toLower, slash] at clear
        cases clear
      · rw [← isTokenChar_toLower, ← equal, isTokenChar_toLower]
        exact tokens d inside

/-- A chunk name that stands for code at a path of token characters is a token, in whatever spelling
and with a mark or without. -/
theorem View.Manages.isToken {view : View} {chunk : String} {managed : Managed}
    (manages : view.Manages chunk managed) (tokens : IsToken managed.artifact.fullOutputPath) :
    chunk.toList ≠ [] ∧ IsToken chunk := by
  obtain ⟨path, spelled, _, named⟩ := manages.spelled
  have inner : IsToken path := tokens.of_normalize named
  have visible : path.toList ≠ [] := by
    intro empty
    have start := manages.start
    rw [← named, String.toList_eq_nil_iff.mp empty, View.managedStart] at start
    have short := start.length_le
    have none : (Path.normalize "").toList.length = 0 := by decide
    rw [none, List.length_append, List.length_singleton] at short
    omega
  rw [spelled]
  split
  · have marked : ("@" ++ path).toList = '@' :: path.toList := by
      rw [String.toList_append]
      rfl
    refine ⟨by simp [marked], fun c member => ?_⟩
    rw [marked] at member
    rcases List.mem_cons.mp member with rfl | inside
    · decide
    · exact inner c inside
  · exact ⟨visible, inner⟩

end Tokens

theorem embedded_blanks (view : View) {blanks : List Char}
    (blank : ∀ c ∈ blanks, Text.isBlank c = true) (rest : List Char) :
    view.embedded (blanks ++ rest) = blanks ++ view.embedded rest := by
  induction blanks with
  | nil => rfl
  | cons c blanks ih =>
    have clear : ¬ StartsLocation (c :: (blanks ++ rest)) := by
      rw [startsLocation_cons_iff]
      simp [isTokenChar, blank c List.mem_cons_self]
    rw [List.cons_append, embedded_plain view clear,
      ih fun d member => blank d (List.mem_cons_of_mem _ member), List.cons_append]

/-- The leading location of a text is found. The search leaves one character behind at a time and
does not stop early, since no shorter start is followed by a line number. -/
theorem IsLeading.leading? {text source digits after : List Char}
    (leading : IsLeading text source digits after) :
    Remap.leading? text =
      some ⟨source, digits, after.takeWhile Text.isBlank, after.dropWhile Text.isBlank⟩ := by
  have colons : ∀ c ∈ [':'], c ∈ [':', '>'] := by simp
  induction text generalizing source with
  | nil =>
    have split := leading.split
    simp at split
  | cons c text ih =>
    unfold Remap.leading?
    split
    · rename_i digits' terminator after' here
      obtain ⟨split, visible, allDigits, member⟩ := (lineNumber?_eq_some_iff colons).mp here
      obtain rfl : terminator = ':' := by simpa using member
      have shortest := leading.shortest [] digits' after' split visible allDigits
      obtain rfl : source = [] := by simpa using shortest
      have own : Remap.lineNumber? [':'] (c :: text) = some (digits, ':', after) :=
        (lineNumber?_eq_some_iff colons).mpr
          ⟨leading.split, leading.digits_ne_nil, leading.digits_digits, List.mem_singleton_self _⟩
      rw [here] at own
      cases own
      rfl
    · rename_i missing
      cases source with
      | nil =>
        have own : Remap.lineNumber? [':'] (c :: text) = some (digits, ':', after) :=
          (lineNumber?_eq_some_iff colons).mpr
            ⟨leading.split, leading.digits_ne_nil, leading.digits_digits, List.mem_singleton_self _⟩
        rw [missing] at own
        cases own
      | cons first source =>
        have split := leading.split
        simp only [List.cons_append, List.cons.injEq] at split
        obtain ⟨rfl, split⟩ := split
        have sameLine : c ≠ '\n' := fun newline => leading.one_line (newline ▸ List.mem_cons_self)
        have tail : IsLeading text source digits after := by
          refine ⟨split, fun newline => leading.one_line (List.mem_cons_of_mem _ newline),
            leading.digits_ne_nil,
            leading.digits_digits, fun source' digits' after' other visible allDigits => ?_⟩
          have shortest :=
            leading.shortest (c :: source') digits' after' (by simp [other]) visible allDigits
          simpa using shortest
        rw [if_neg sameLine, ih tail]
        rfl

/-- The managed leading location that is found: the shortest start with a readable number behind it,
if that start stands for code. -/
theorem View.managedLeading?_eq_some_iff {view : View} {text : List Char} {found : Leading}
    {managed : Managed} {line : Nat} :
    view.managedLeading? text = some (found, managed, line) ↔
      Remap.leading? text = some found ∧
        Text.readDecimal? Text.signedBound found.digits = some line ∧
        view.managed? (String.ofList found.source) = some managed := by
  unfold View.managedLeading?
  constructor
  · intro read
    obtain ⟨found', leads, read⟩ := Option.bind_eq_some_iff.mp read
    obtain ⟨line', number, read⟩ := Option.bind_eq_some_iff.mp read
    obtain ⟨managed', known, read⟩ := Option.bind_eq_some_iff.mp read
    cases read
    exact ⟨leads, number, known⟩
  · rintro ⟨leads, number, known⟩
    simp [leads, number, known]

section Readings

variable {view : View} (consistent : view.cache.Consistent)
  (tokens : ∀ artifact ∈ view.cache.artifacts, IsToken artifact.fullOutputPath)

include consistent tokens

/-- The reading in tokens remaps a managed leading location like any other, and then what is behind
it. So it agrees with the leading reading there. -/
theorem embedded_of_managedLeading? {text : List Char} {found : Leading} {managed : Managed}
    {line : Nat} (read : view.managedLeading? text = some (found, managed, line)) :
    view.embedded text =
      managed.display.toList ++ ':' :: lineText ((sourceLine? managed.artifact line).getD line) ++
        ':' :: found.separator ++ view.embedded found.rest := by
  obtain ⟨leads, number, known⟩ := View.managedLeading?_eq_some_iff.mp read
  have leading := leading?_isLeading leads
  have manages := (View.managed?_eq_some_iff consistent).mp known
  obtain ⟨visible, isToken⟩ := manages.isToken (tokens _ manages.live)
  rw [String.toList_ofList] at visible
  have location : IsLocation found.source found.digits ':' :=
    ⟨visible, fun c member => isToken c (by simpa using member), leading.digits_ne_nil,
      leading.digits_digits, by simp⟩
  have blank : ∀ c ∈ found.separator, Text.isBlank c = true := by
    rw [leading.leading?] at leads
    have same := congrArg Leading.separator (Option.some.inj leads)
    intro c member
    rw [← same] at member
    exact List.mem_takeWhile_imp member
  have frame : view.frame (String.ofList found.source) line =
      (managed.display, (sourceLine? managed.artifact line).getD line) := by
    rw [View.frame, known]
  rw [leading.split, embedded_location view location, embedded_blanks view blank, View.location,
    number]
  simp [frame]

/-- The text of a remapped message is that of the reading in tokens, whether or not the message has
a managed leading location. -/
theorem View.message_text (message : String) :
    (view.message message).1 = String.ofList (view.embedded message.toList) := by
  unfold View.message
  split
  · rfl
  · rename_i found managed line read
    rw [embedded_of_managedLeading? consistent tokens read]
    dsimp only
    cases sourceLine? managed.artifact line <;> rfl

end Readings

/-- The location that is reported for a message is the one that the message tells, and none is
reported if it tells none. -/
theorem View.message_location_iff {view : View} (consistent : view.cache.Consistent)
    {message : String} {location : Location} :
    (view.message message).2 = some location ↔ view.Locates message location := by
  constructor
  · intro reported
    unfold View.message at reported
    split at reported
    · cases reported
    · rename_i found managed line read
      obtain ⟨leads, number, known⟩ := View.managedLeading?_eq_some_iff.mp read
      have leading := leading?_isLeading leads
      dsimp only at reported
      split at reported
      · cases reported
      · rename_i shown mapped
        cases reported
        obtain ⟨source, isSource, rfl⟩ := sourceLine?_eq_some_iff.mp mapped
        rw [leading.leading?] at leads
        have rest : (found.separator ++ found.rest).dropWhile Text.isBlank = found.rest :=
          congrArg Leading.rest (Option.some.inj leads)
        exact ⟨_, _, _, managed, line, leading, (View.managed?_eq_some_iff consistent).mp known,
          number, isSource, rfl, rfl, by rw [rest]⟩
  · rintro ⟨source, digits, after, managed, line, leading, manages, number, isSource, named,
      logical, behind⟩
    have read : view.managedLeading? message.toList =
        some (⟨source, digits, after.takeWhile Text.isBlank,
        after.dropWhile Text.isBlank⟩, managed, line) :=
      View.managedLeading?_eq_some_iff.mpr
        ⟨leading.leading?, number, (View.managed?_eq_some_iff consistent).mpr manages⟩
    have mapped : sourceLine? managed.artifact line = some (location.line : Int) :=
      sourceLine?_eq_some_iff.mpr ⟨location.line, isSource, rfl⟩
    obtain ⟨_, _, _, _⟩ := location
    subst named logical behind
    simp [View.message, read, mapped]

/-- Both readings of a message agree. If the code of every artifact is at a path of token
characters, the text of a remapped message is that of the reading in tokens alone, with a leading
location or without; and a location is reported exactly if the leading location tells one. -/
theorem readings_agree {view : View} (reachable : view.cache.Reachable)
    (tokens : ∀ artifact ∈ view.cache.artifacts, IsToken artifact.fullOutputPath)
    (message : String) :
    (view.message message).1 = String.ofList (view.embedded message.toList) ∧
      ∀ location, (view.message message).2 = some location ↔ view.Locates message location :=
  ⟨View.message_text reachable.consistent tokens message,
    fun _ => View.message_location_iff reachable.consistent⟩

/-- A script whose code has three mapped lines. -/
def mappedScript : Artifact where
  sourcePath := "a/5.moon"
  fullSourcePath := "lua/a/5.moon"
  outputPath := "a/5.lua"
  fullOutputPath := "c/a/5.lua"
  signal := ⟨1, 0⟩
  dialect := .moonScript
  lineMap := .ofList [(5, 3), (7, 4), (9, 6)]

def mappedView : View :=
  ⟨"C", (Cache.Operation.runAll Cache.Operation.perform .empty [.upsert mappedScript]).2⟩

theorem reachable_mappedView : mappedView.cache.Reachable :=
  ⟨[.upsert mappedScript], rfl⟩

theorem mem_mappedView {artifact : Artifact} (live : artifact ∈ mappedView.cache.artifacts) :
    artifact = mappedScript := by
  rcases Cache.consistent_empty.mem_artifacts_insert live with same | before
  · exact same
  · obtain ⟨key, found⟩ := Cache.mem_artifacts.mp before
    simp [Cache.empty] at found

/-- A message with a marked leading location and another one nested in it: both are remapped in the
reading in tokens, and the first one is reported. -/
theorem readings_agree_nested :
    let message := "@C//a\\5.lua:07:  call (c/a/5.lua:9> b)"
    (∀ artifact ∈ mappedView.cache.artifacts, IsToken artifact.fullOutputPath) ∧
      String.ofList (mappedView.embedded message.toList) =
        "@lua/a/5.moon:4:  call (lua/a/5.moon:6> b)" ∧
      mappedView.Locates message ⟨"lua/a/5.moon", "a/5.moon", 4, "call (lua/a/5.moon:6> b)"⟩ := by
  intro message
  have tokens : ∀ artifact ∈ mappedView.cache.artifacts, IsToken artifact.fullOutputPath := by
    intro artifact live
    rw [mem_mappedView live]
    decide
  obtain ⟨text, location⟩ := readings_agree reachable_mappedView tokens message
  refine ⟨tokens, ?_, (location _).mp ?_⟩
  · rw [← text]
    decide +kernel
  · decide +kernel

end DialectLoader.Remap
