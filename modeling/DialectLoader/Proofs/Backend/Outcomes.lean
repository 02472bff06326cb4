import DialectLoader.Backend.Scripted
import DialectLoader.Proofs.Position.Correspondence

/-!
# Outcomes of any backend

A backend may produce code that shows nothing, report a fault without a message, and panic, also
when it is asked to word a fault. What compiling comes to can be shown all the same: the code has a
visible character, or the message and its form for display have one, and a position is not behind
the end of the source. Code that shows something is passed on as it is, and nothing else counts as
success.

A position is exact if its line and its column are those of its offset. It is so for every fault
with an offset, also behind the end of the source, and for one with a line and a column exactly if
the source has them.

A panic is an answer of the backend here. How it is caught, and that a thread which panicked may
have left something behind, is outside; so is a backend that never answers.
-/

namespace DialectLoader

namespace Text

def Visible (text : String) : Prop :=
  ∃ c ∈ text.toList, isBlank c = false

theorem visible_iff {text : String} : Visible text ↔ blank text = false := by
  simp [Visible, blank]

theorem Visible.behind {text : String} (visible : Visible text) (front : String) :
    Visible (front ++ text) := by
  obtain ⟨c, member, shown⟩ := visible
  exact ⟨c, by simp [member], shown⟩

theorem Visible.before {text : String} (visible : Visible text) (back : String) :
    Visible (text ++ back) := by
  obtain ⟨c, member, shown⟩ := visible
  exact ⟨c, by simp [member], shown⟩

end Text

namespace Position

variable {text : Bytes}

/-- A position in a text whose line and column are those of its offset, and which is not behind the
end. -/
structure Exact (position : Position) (text : Bytes) : Prop where
  inside : position.offset ≤ text.length
  place : lineColumn text position.offset = (position.line, position.column)

/-- The line and the column of a position that is exact are a place of the text. -/
theorem Exact.mem_places {position : Position} (exact : position.Exact text) :
    (position.line, position.column) ∈ places text := by
  rw [← exact.place]
  exact (offsetOf_lineColumn exact.inside).1

/-- The position of an offset is exact, since an offset behind the end has the line and the column
of the end. -/
theorem exact_ofOffset (text : Bytes) (offset : Nat) : (ofOffset text offset).Exact text where
  inside := Nat.min_le_right _ _
  place := by
    have same : text.take (min offset text.length) = text.take offset := by
      rcases Nat.le_total offset text.length with inside | past
      · rw [Nat.min_eq_left inside]
      · rw [Nat.min_eq_right past, List.take_length, List.take_of_length_le past]
    simp only [ofOffset, lineColumn, same]

/-- The position of a line and a column is exact if the text has them, and only then: others are
moved to a place that it has. -/
theorem exact_ofLineColumn_iff {line column : Nat} :
    (ofLineColumn text line column).Exact text ↔ (line, column) ∈ places text := by
  constructor
  · exact Exact.mem_places
  · intro known
    exact ⟨offsetOf_le text line column, (lineColumn_offsetOf known).2⟩

end Position

/-- An outcome that can be shown: neither code nor messages are blank, and a position is not behind
the end of the source. -/
def Outcome.Presentable (source : String) : Outcome → Prop
  | success code _ => Text.Visible code
  | failure message display position =>
    Text.Visible message ∧ Text.Visible display ∧
      ∀ place, position = some place → place.offset ≤ (Text.utf8 source).length

/-- A fault that says where in the source it is: by an offset, or else by a line and a column that
the source has. -/
def Fault.Located (fault : Fault) (source : String) : Prop :=
  (∃ offset, fault.offset = some offset) ∨
    fault.offset = none ∧ ∃ place, fault.lineColumn = some place ∧
      place ∈ Position.places (Text.utf8 source)

/-- No position of a fault is behind the end of the source, whatever the fault says. -/
theorem Fault.offset_le {fault : Fault} {source : String} {place : Position}
    (given : fault.position? source = some place) : place.offset ≤ (Text.utf8 source).length := by
  unfold Fault.position? at given
  split at given
  · rw [← Option.some.inj given]
    exact (Position.exact_ofOffset _ _).inside
  · rw [← Option.some.inj given]
    exact Position.offsetOf_le _ _ _
  · cases given

/-- The position of a fault is exact if the fault says where in the source it is, and only then. -/
theorem Fault.exact_iff {fault : Fault} {source : String} :
    (∃ place, fault.position? source = some place ∧ place.Exact (Text.utf8 source)) ↔
      fault.Located source := by
  unfold Fault.position? Fault.Located
  cases fault.offset with
  | some offset => simp [Position.exact_ofOffset]
  | none =>
    cases fault.lineColumn with
    | none => simp
    | some place => simp [Position.exact_ofLineColumn_iff]

namespace Backend

variable {backend : Backend} {source : String}

/-- A fault fails with a visible message, its own if that is visible, and with its own position. -/
theorem failure_spec (backend : Backend) (fault : Fault) (source : String) :
    ∃ message display,
      backend.failure fault source = .failure message display (fault.position? source) ∧
      Text.Visible message ∧ Text.Visible display ∧
      (Text.Visible fault.message → message = fault.message) := by
  obtain ⟨stated, same, shown, kept⟩ : ∃ stated : Fault,
      (if Text.blank fault.message then
        { fault with message := backend.name ++ " failed without a message" }
        else fault) = stated ∧
      Text.Visible stated.message ∧
        (Text.Visible fault.message → stated.message = fault.message) := by
    by_cases blank : Text.blank fault.message = true
    · refine ⟨_, if_pos blank, Text.Visible.behind ⟨'f', by decide, by decide⟩ backend.name,
        fun visible => ?_⟩
      rw [Text.visible_iff.mp visible] at blank
      cases blank
    · exact ⟨_, if_neg blank, Text.visible_iff.mpr (by simpa using blank), fun _ => rfl⟩
  simp only [failure, same]
  refine ⟨_, _, rfl, shown, ?_, kept⟩
  cases backend.wording stated source with
  | silent => exact shown
  | panicked => exact shown
  | worded text =>
    cases blank : Text.blank text with
    | true => simpa [blank] using shown
    | false => simpa [blank] using Text.visible_iff.mpr blank

/-- What a fault comes to can be shown, because blank messages are filled in and positions are kept
within the source. -/
theorem presentable_failure (backend : Backend) (fault : Fault) (source : String) :
    (backend.failure fault source).Presentable source := by
  obtain ⟨message, display, failed, shown, worded, _⟩ := backend.failure_spec fault source
  rw [failed]
  exact ⟨shown, worded, fun _ given => Fault.offset_le given⟩

/-- Whatever compiling comes to can be shown, with any backend, any source and any options. Nothing
is assumed about what the backend answers. -/
theorem presentable_compile (backend : Backend) (source : String) (options : Options) :
    (backend.compile source options).Presentable source := by
  unfold compile
  split
  · unfold accept
    split <;> rename_i blank
    · exact backend.presentable_failure _ source
    · exact Text.visible_iff.mpr (by simpa using blank)
  · exact backend.presentable_failure _ source
  · have shown : Text.Visible " panicked: " := ⟨'p', by decide, by decide⟩
    have message := (shown.behind backend.name).before
    exact ⟨message _, message _, fun _ given => nomatch given⟩

/-- Compiling succeeds with visible code that the backend has produced, and only with that. The code
is not changed. -/
theorem compile_eq_success_iff {options : Options} {code : String} {lineMap : LineMap} :
    backend.compile source options = .success code lineMap ↔
      ∃ output, backend.transpile source options = .produced output ∧ Text.Visible output.code ∧
        code = output.code ∧ lineMap = output.lineMap source := by
  have failed (fault : Fault) : backend.failure fault source ≠ .success code lineMap := by
    obtain ⟨_, _, failed, _⟩ := backend.failure_spec fault source
    rw [failed]
    exact Outcome.noConfusion
  unfold compile
  cases backend.transpile source options with
  | faulted fault => simpa using failed fault
  | panicked payload => simp
  | produced output =>
    simp only [accept, Attempt.produced.injEq, exists_eq_left', Text.visible_iff]
    cases Text.blank output.code with
    | true => simpa using failed _
    | false => simp [eq_comm]

end Backend

/-- Whatever a backend does, what compiling comes to can be shown. It succeeds exactly if the
backend has produced code that shows something, with that code and its line map. A fault fails with
its own message, if that shows something, and with a position that is exact exactly if the fault
says where in the source it is; then line and column fit words of 32 bits. -/
theorem Backends.compile_normalises (backends : Backends) (dialect : Dialect) (source : String)
    (options : Options) (short : (Text.utf8 source).length < Text.wordBound - 1) :
    (backends.compile dialect source options).Presentable source ∧
    (∀ code lineMap, backends.compile dialect source options = .success code lineMap ↔
      ∃ output, (backends.backend dialect).transpile source options = .produced output ∧
        Text.Visible output.code ∧ code = output.code ∧ lineMap = output.lineMap source) ∧
    ∀ fault, (backends.backend dialect).transpile source options = .faulted fault →
      ∃ message display position,
        backends.compile dialect source options = .failure message display position ∧
        (Text.Visible fault.message → message = fault.message) ∧
        ((∃ place, position = some place ∧ place.Exact (Text.utf8 source)) ↔ fault.Located source) ∧
        ∀ place, position = some place → place.Exact (Text.utf8 source) →
          place.line < Text.wordBound ∧ place.column < Text.wordBound := by
  refine ⟨Backend.presentable_compile _ source options,
    fun _ _ => Backend.compile_eq_success_iff, ?_⟩
  intro fault reported
  obtain ⟨message, display, failed, _, _, kept⟩ :=
    (backends.backend dialect).failure_spec fault source
  refine ⟨message, display, fault.position? source, ?_, kept, Fault.exact_iff, ?_⟩
  · rw [Backends.compile, Backend.compile, reported]
    exact failed
  · intro place _ exact
    obtain ⟨line, column⟩ := Position.le_of_mem_places exact.mem_places
    dsimp only at line column
    omega

/-- Backends of which one reports a fault without a message, in a line and a column, and panics when
asked to word it. -/
def mumblingBackends : Backends :=
  ⟨.scripted "mumbling" [⟨none, .faulted { message := " \n", lineColumn := some (2, 2) }⟩] .panics,
    .scripted "silent" [] .silent⟩

/-- The message is filled in and stands for the wording too, and the position is exact. -/
theorem Backends.compile_normalises_mumbling :
    let source := "é\nb"
    let message := "mumbling failed without a message"
    (Text.utf8 source).length < Text.wordBound - 1 ∧
      mumblingBackends.compile .moonScript source {} = .failure message message (some ⟨2, 2, 4⟩) ∧
      (Outcome.failure message message (some ⟨2, 2, 4⟩)).Presentable source ∧
      (⟨2, 2, 4⟩ : Position).Exact (Text.utf8 source) := by
  intro source message
  have short : (Text.utf8 source).length < Text.wordBound - 1 := by decide
  have failed : mumblingBackends.compile .moonScript source {} = .failure message message
      (some ⟨2, 2, 4⟩) := by decide
  obtain ⟨presentable, _, faults⟩ := mumblingBackends.compile_normalises .moonScript source {} short
  obtain ⟨_, _, _, same, _, exact, _⟩ := faults { message := " \n", lineColumn := some (2, 2) } rfl
  rw [failed] at presentable same
  cases same
  obtain ⟨_, ⟨⟩, place⟩ :=
    exact.mpr (.inr ⟨rfl, (2, 2), rfl, ⟨by decide, by decide⟩, by decide, by decide⟩)
  exact ⟨short, failed, presentable, place⟩

end DialectLoader
