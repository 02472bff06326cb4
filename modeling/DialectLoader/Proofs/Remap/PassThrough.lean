import Mathlib.Data.List.Basic
import DialectLoader.Proofs.Remap.Tiling
import DialectLoader.Proofs.Text.Decimal

/-!
# Messages that concern no generated code

A message none of whose locations names generated code comes back with the same locations, and no
location is reported for it. Its text is not always the same: every line number that can be read is
written anew, so a number loses the zeros in front of it. A number can be read if it fits a signed
word of 32 bits; greater ones stay as they are, with all their zeros. The text is unchanged exactly
when no readable number has such a zero.

Nothing is assumed about the cache. An empty one makes every message foreign, which is the state in
which nothing was compiled yet.
-/

namespace DialectLoader.Remap

variable {view : View}

/-- A message is foreign when neither its leading location nor any embedded one names generated
code. -/
structure View.Foreign (view : View) (message : List Char) : Prop where
  leading : ∀ source digits after, IsLeading message source digits after →
    view.managed? (String.ofList source) = none
  embedded : ∀ stretches, Tiles message stretches → ∀ token digits terminator,
    .location token digits terminator ∈ stretches → view.managed? (String.ofList token) = none

/-- Whether digits start with a zero that other digits follow. A zero alone is needed. -/
def hasNeedlessZero : List Char → Bool
  | '0' :: _ :: _ => true
  | _ => false

/-- The digits of a location as they are written when the location itself stays: without needless
zeros if they can be read, and else as they are. -/
def rewrittenDigits (digits : List Char) : List Char :=
  if (Text.readDecimal? Text.signedBound digits).isSome then Text.dropNeedlessZeros digits
  else digits

/-- A stretch of a foreign message after remapping: only the digits of a location can change. -/
def Stretch.rewritten : Stretch → List Char
  | plain c => [c]
  | location token digits terminator => token ++ ':' :: rewrittenDigits digits ++ [terminator]

/-- Whether the line number of every location, if it can be read, is written without needless
zeros. -/
def PlainNumbers (stretches : List Stretch) : Prop :=
  ∀ token digits terminator, .location token digits terminator ∈ stretches →
    (Text.readDecimal? Text.signedBound digits).isSome → hasNeedlessZero digits = false

theorem managed?_of_empty (empty : view.cache = .empty) (source : String) :
    view.managed? source = none := by
  have unknown (path : String) : view.cache.lookupOutput path = none := by
    rw [empty]
    rfl
  simp only [View.managed?, unknown, Option.map_none, ite_self]

/-- Every message is foreign to an empty cache, so what is proved of foreign messages holds before
anything is compiled. -/
theorem foreign_of_empty (empty : view.cache = .empty) (message : List Char) :
    view.Foreign message :=
  ⟨fun _ _ _ _ => managed?_of_empty empty _, fun _ _ _ _ _ _ => managed?_of_empty empty _⟩

/-- The frame of a chunk that is not managed stays as it is, its line included. -/
theorem frame_of_unmanaged {source : String} (unmanaged : view.managed? source = none)
    (line : Int) : view.frame source line = (source, line) := by
  simp [View.frame, unmanaged]

/-- Of a location that is not managed only the number changes, by losing its needless zeros. -/
theorem location_of_unmanaged {token : List Char}
    (unmanaged : view.managed? (String.ofList token) = none) (digits : List Char)
    (terminator : Char) :
    view.location token digits terminator =
      (Stretch.location token digits terminator).rewritten := by
  cases read : Text.readDecimal? Text.signedBound digits with
  | none => simp [View.location, Stretch.rewritten, rewrittenDigits, read]
  | some line =>
    have written : lineText (line : Int) = Text.dropNeedlessZeros digits := by
      have positive : ¬ (line : Int) < 0 := by omega
      simp only [lineText, positive, if_false, Int.natAbs_natCast]
      exact Text.decimal_of_readDecimal? read
    simp [View.location, Stretch.rewritten, rewrittenDigits, read, frame_of_unmanaged unmanaged,
      written]

/-- A foreign message is rewritten stretch by stretch, and no location is reported. The leading
reading does not apply, so the tokens decide. -/
theorem message_of_foreign {message : String} {stretches : List Stretch}
    (tiles : Tiles message.toList stretches) (foreign : view.Foreign message.toList) :
    view.message message = (String.ofList (stretches.flatMap Stretch.rewritten), none) := by
  have noLeading : view.managedLeading? message.toList = none := by
    cases read : leading? message.toList with
    | none => simp [View.managedLeading?, read]
    | some found =>
      have unmanaged := foreign.leading _ _ _ (leading?_isLeading read)
      cases number : Text.readDecimal? Text.signedBound found.digits <;>
        simp [View.managedLeading?, read, number, unmanaged]
  have rewritten : stretches.flatMap view.stretch = stretches.flatMap Stretch.rewritten := by
    apply List.flatMap_congr
    intro stretch member
    cases stretch with
    | plain c => rfl
    | location token digits terminator =>
      exact location_of_unmanaged (foreign.embedded stretches tiles _ _ _ member) digits terminator
  simp only [View.message, noLeading]
  rw [tiles.embedded view, rewritten]

/-- Digits keep their form exactly when they cannot be read or have no needless zero. -/
theorem rewrittenDigits_eq_self_iff (digits : List Char) :
    rewrittenDigits digits = digits ↔
      ((Text.readDecimal? Text.signedBound digits).isSome → hasNeedlessZero digits = false) := by
  have dropped : Text.dropNeedlessZeros digits = digits ↔ hasNeedlessZero digits = false := by
    fun_cases hasNeedlessZero digits with
    | case1 digit rest =>
      have shorter := (Text.dropNeedlessZeros_length (digit :: rest)).1
      rw [Text.dropNeedlessZeros_zero]
      constructor
      · intro same
        rw [same] at shorter
        simp only [List.length_cons] at shorter
        omega
      · intro impossible
        cases impossible
    | case2 digits other =>
      have kept : Text.dropNeedlessZeros digits = digits := by
        fun_cases Text.dropNeedlessZeros digits with
        | case1 digit rest => exact absurd rfl (other digit rest)
        | case2 => rfl
      simp [kept]
  unfold rewrittenDigits
  split
  · rename_i readable
    simp [dropped, readable]
  · rename_i unreadable
    simp [unreadable]

/-- The digits of a location never get longer, and digits that keep their length stay the same. -/
theorem rewrittenDigits_length (digits : List Char) :
    (rewrittenDigits digits).length ≤ digits.length ∧
      ((rewrittenDigits digits).length = digits.length → rewrittenDigits digits = digits) := by
  unfold rewrittenDigits
  split
  · exact Text.dropNeedlessZeros_length digits
  · exact ⟨Nat.le_refl _, fun _ => rfl⟩

/-- A foreign message never gets longer by being remapped, since none of its stretches does. -/
theorem rewritten_length_le (stretches : List Stretch) :
    (stretches.flatMap Stretch.rewritten).length ≤ (stretches.flatMap Stretch.text).length := by
  induction stretches with
  | nil => exact Nat.le_refl 0
  | cons stretch rest ih =>
    simp only [List.flatMap_cons, List.length_append]
    cases stretch with
    | plain c => simpa [Stretch.rewritten, Stretch.text] using ih
    | location token digits terminator =>
      have shorter := (rewrittenDigits_length digits).1
      simp only [Stretch.rewritten, Stretch.text, List.length_append, List.length_cons]
      omega

/-- The numbers of a text are plain when that of its first location keeps its form and the later
ones are plain. -/
theorem plainNumbers_location_cons (token digits : List Char) (terminator : Char)
    (rest : List Stretch) :
    PlainNumbers (.location token digits terminator :: rest) ↔
      rewrittenDigits digits = digits ∧ PlainNumbers rest := by
  rw [rewrittenDigits_eq_self_iff]
  constructor
  · intro plain
    exact ⟨plain token digits terminator List.mem_cons_self,
      fun _ _ _ member => plain _ _ _ (List.mem_cons_of_mem _ member)⟩
  · rintro ⟨first, later⟩ token' digits' terminator' member
    rcases List.mem_cons.mp member with same | member
    · cases same
      exact first
    · exact later _ _ _ member

/-- The stretches of a text come back unchanged exactly when their numbers are plain. No stretch
gets longer, so a text of the same length has only stretches of the same length. -/
theorem rewritten_eq_text_iff (stretches : List Stretch) :
    stretches.flatMap Stretch.rewritten = stretches.flatMap Stretch.text ↔
      PlainNumbers stretches := by
  induction stretches with
  | nil => simp [PlainNumbers]
  | cons stretch rest ih =>
    simp only [List.flatMap_cons]
    cases stretch with
    | plain c =>
      simp only [Stretch.rewritten, Stretch.text, List.singleton_append, List.cons.injEq, true_and,
        ih, PlainNumbers, List.mem_cons, reduceCtorEq, false_or]
    | location token digits terminator =>
      simp only [plainNumbers_location_cons, ← ih, Stretch.rewritten, Stretch.text,
        List.append_assoc, List.cons_append, List.append_cancel_left_eq, List.cons.injEq, true_and]
      constructor
      · intro same
        obtain ⟨shorter, unchanged⟩ := rewrittenDigits_length digits
        have restShorter := rewritten_length_le rest
        have total := congrArg List.length same
        simp only [List.length_append, List.length_cons, List.length_nil] at total
        have kept : rewrittenDigits digits = digits := unchanged (by omega)
        rw [kept] at same
        exact ⟨kept, by simpa using same⟩
      · rintro ⟨kept, tail⟩
        rw [kept, tail]

/-- Errors that concern no generated code, exactly. Every message has one tiling, and every message
is foreign to an empty cache. No location is reported for a foreign message; its text comes back
with the needless zeros of its readable line numbers dropped and is otherwise kept. So the message
is passed through untouched if and only if it has no such zero, and the same holds of an error with
that message all of whose frames are unmanaged. -/
theorem foreign_unchanged_iff (view : View) (message : String) :
    ∃ stretches, Tiles message.toList stretches ∧
      (∀ other, Tiles message.toList other → other = stretches) ∧
      (view.cache = .empty → view.Foreign message.toList) ∧
      (view.Foreign message.toList →
        view.message message = (String.ofList (stretches.flatMap Stretch.rewritten), none) ∧
        (view.message message = (message, none) ↔ PlainNumbers stretches) ∧
        ∀ stack : List (String × Int), (∀ frame ∈ stack, view.managed? frame.1 = none) →
          (view.error ⟨message, stack⟩ = (⟨message, stack⟩, none) ↔ PlainNumbers stretches)) := by
  obtain ⟨stretches, tiles⟩ := exists_tiles message.toList
  refine ⟨stretches, tiles, fun other others => others.unique tiles,
    fun empty => foreign_of_empty empty _,
    fun foreign => ?_⟩
  have rewritten := message_of_foreign tiles foreign
  have unchanged : String.ofList (stretches.flatMap Stretch.rewritten) = message ↔
      PlainNumbers stretches := by
    rw [← rewritten_eq_text_iff, tiles.text_eq]
    constructor
    · intro same
      rw [← same, String.toList_ofList]
    · intro same
      rw [same, String.ofList_toList]
  refine ⟨rewritten, ?_, ?_⟩
  · rw [rewritten]
    simpa using unchanged
  · intro stack frames
    have kept : stack.map (fun frame => view.frame frame.1 frame.2) = stack := by
      conv => rhs; rw [← List.map_id stack]
      apply List.map_congr_left
      intro frame member
      exact frame_of_unmanaged (frames frame member) frame.2
    simp only [View.error, rewritten, kept]
    simpa using unchanged

def paddedStretches : List Stretch :=
  [.location ['a'] ['0', '7'] ':', .plain ' ', .plain 'b']

/-- They tile the message `a:07: b`: a blank starts no location, and no line number follows the
`b`. -/
theorem tiles_padded : Tiles "a:07: b".toList paddedStretches := by
  have blank : ¬ StartsLocation [' ', 'b'] := by
    rw [startsLocation_cons_iff]
    decide
  have letter : ¬ StartsLocation ['b'] := by
    rw [startsLocation_cons_iff]
    decide
  have location : IsLocation ['a'] ['0', '7'] ':' := by decide
  exact .found location rfl (.skip blank (.skip letter .done))

/-- With an empty cache the message `a:07: b` is foreign and comes back as `a:7: b`. -/
theorem foreign_unchanged_iff_padded :
    Tiles "a:07: b".toList paddedStretches ∧ ¬ PlainNumbers paddedStretches ∧
      (View.mk "cache" .empty).message "a:07: b" = ("a:7: b", none) := by
  refine ⟨tiles_padded, ?_, ?_⟩
  · intro plain
    have absent := plain ['a'] ['0', '7'] ':' List.mem_cons_self (by decide)
    exact absurd absent (by decide)
  · obtain ⟨stretches, _, only, empty, general⟩ :=
      foreign_unchanged_iff (View.mk "cache" .empty) "a:07: b"
    rw [(general (empty rfl)).1, ← only _ tiles_padded]
    decide

/-- Foreign messages are not all passed through untouched: `a:07: b` is not, even if nothing was
compiled. -/
theorem foreign_message_changed :
    ¬ ∀ (view : View) (message : String), view.Foreign message.toList →
    view.message message = (message, none) := by
  intro untouched
  have foreign : (View.mk "cache" .empty).Foreign "a:07: b".toList := foreign_of_empty rfl _
  have kept := untouched _ "a:07: b" foreign
  rw [message_of_foreign tiles_padded foreign] at kept
  exact absurd kept (by decide)

end DialectLoader.Remap
