import Mathlib.Data.List.Pairwise
import DialectLoader.Backend.Process
import DialectLoader.Proofs.Backend.Outcomes
import DialectLoader.Proofs.Json.Grammar
import DialectLoader.Proofs.LineMap.Comments
import DialectLoader.Proofs.LineMap.Offsets
import DialectLoader.Proofs.Text.Encoding
import DialectLoader.Proofs.Text.Trimming

/-!
# Line maps of replies

A program that answers in the JSON protocol names generated lines by texts, in any order, and
several texts may spell one number. The offsets are sorted before they are entered into a line map,
by line and then by offset, so of all the offsets under one number the greatest is entered last.
What a map holds is therefore decided by the pairs alone: neither their order in the reply, nor the
order in which a table lists them, nor the way in which they are sorted matters.

Starting a program and waiting for it is a function from what it is given to how it ended. A reply
that cannot be read is refused with a fixed text, without the account that the reader of JSON would
give of the reason.
-/

namespace DialectLoader

namespace Text

/-- A text spells a number below a bound in decimal, perhaps behind zeros and a plus sign. -/
def Spells (bound number : Nat) (text : List Char) : Prop :=
  number < bound ∧ ∃ sign zeros, (sign = [] ∨ sign = ['+']) ∧
    text = sign ++ (List.replicate zeros '0' ++ decimal number)

theorem readSigned?_eq_some_iff {bound number : Nat} {text : List Char} :
    readSigned? bound text = some number ↔ Spells bound number text := by
  have unsigned (digits : List Char) : readDecimal? bound ('+' :: digits) ≠ some number := by
    intro read
    exact absurd ((isDigit_of_readDecimal? read).2 '+' List.mem_cons_self) (by decide)
  unfold Spells
  fun_cases readSigned? bound text with
  | case1 digits =>
    rw [readDecimal?_eq_some_iff]
    constructor
    · rintro ⟨small, zeros, rfl⟩
      exact ⟨small, ['+'], zeros, .inr rfl, rfl⟩
    · rintro ⟨small, sign, zeros, rfl | rfl, same⟩
      · exact absurd (readDecimal?_eq_some_iff.mpr ⟨small, zeros, same⟩) (unsigned digits)
      · exact ⟨small, zeros, (List.cons.inj same).2⟩
  | case2 digits other =>
    rw [readDecimal?_eq_some_iff]
    constructor
    · rintro ⟨small, zeros, rfl⟩
      exact ⟨small, [], zeros, .inl rfl, rfl⟩
    · rintro ⟨small, sign, zeros, rfl | rfl, same⟩
      · exact ⟨small, zeros, same⟩
      · exact absurd same (other _)

end Text

namespace LineMap

variable {source : Bytes} {reports others : List (Nat × Nat)} {generated offset line : Nat}

/-- Reports in the order of lines and, for one line, of offsets. Equal reports may come in any
order. -/
def Sorted (reports : List (Nat × Nat)) : Prop :=
  reports.Pairwise fun first second => first.1 < second.1 ∨ first.1 = second.1 ∧ first.2 ≤ second.2

/-- The greatest offset that is reported for a line; without a report for it there is none. -/
def Greatest (reports : List (Nat × Nat)) (generated offset : Nat) : Prop :=
  (generated, offset) ∈ reports ∧ ∀ other, (generated, other) ∈ reports → other ≤ offset

/-- The last of sorted reports for a line has the greatest offset, and the last one is what the map
keeps. -/
theorem lookup_reverse_of_sorted (sorted : Sorted reports) :
    reports.reverse.lookup generated = some offset ↔ Greatest reports generated offset := by
  have greatest {offset : Nat} (found : reports.reverse.lookup generated = some offset) :
      Greatest reports generated offset := by
    obtain ⟨later, earlier, cut, unlike⟩ := List.lookup_eq_some_iff.mp found
    have listed {report : Nat × Nat} :
        report ∈ reports ↔ report ∈ later ++ (generated, offset) :: earlier := by
      rw [← cut, List.mem_reverse]
    refine ⟨listed.mpr (by simp), fun other member => ?_⟩
    have ordered := List.pairwise_reverse.mpr sorted
    rw [cut, List.pairwise_append, List.pairwise_cons] at ordered
    rcases List.mem_append.mp (listed.mp member) with after | here
    · exact absurd (unlike _ after) (by simp)
    · rcases List.mem_cons.mp here with same | before
      · exact Nat.le_of_eq (Prod.mk.inj same).2
      · rcases ordered.2.1.1 _ before with less | ⟨_, le⟩
        · exact absurd less (Nat.lt_irrefl _)
        · exact le
  refine ⟨greatest, ?_⟩
  rintro ⟨member, upper⟩
  have known : (reports.reverse.lookup generated).isSome := by
    rw [List.lookup_isSome_iff]
    exact ⟨_, List.mem_reverse.mpr member, by simp⟩
  obtain ⟨found, same⟩ := Option.isSome_iff_exists.mp known
  rw [same, Nat.le_antisymm (upper _ (greatest same).1) ((greatest same).2 _ member)]

/-- A generated line is mapped to the line of the greatest offset among sorted reports for it. -/
theorem getElem?_ofOffsets_of_sorted (sorted : Sorted reports) :
    (ofOffsets source reports)[generated]? = some line ↔
      ∃ offset, Greatest reports generated offset ∧
        (Position.lineColumn source offset).1 = line := by
  simp only [getElem?_ofOffsets, Option.map_eq_some_iff, lookup_reverse_of_sorted sorted]

/-- Sorted reports with the same members give the same map, so it does not matter how they were
sorted or how often one occurs. -/
theorem ofOffsets_congr (sorted : Sorted reports) (otherSorted : Sorted others)
    (same : ∀ report, report ∈ reports ↔ report ∈ others) :
    ofOffsets source reports = ofOffsets source others := by
  refine Std.ExtTreeMap.ext_getElem? fun generated => Option.ext fun line => ?_
  rw [getElem?_ofOffsets_of_sorted sorted, getElem?_ofOffsets_of_sorted otherSorted]
  simp only [Greatest, same]

end LineMap

namespace Backend.Reply

variable {reply next : Reply} {pairs : List (String × Nat)} {members : List (Option String × Json)}

section Reports

/-- A report from a pair, if its name spells a line; other names are ignored. -/
def report? (pair : String × Nat) : Option (Nat × Nat) :=
  (Text.readSigned? Text.wordBound pair.1.toList).map (·, pair.2)

/-- The reports come from the pairs whose names spell a line that fits a word. -/
theorem mem_filterMap_report?_iff {generated offset : Nat} :
    (generated, offset) ∈ pairs.filterMap report? ↔
      ∃ name, (name, offset) ∈ pairs ∧ Text.Spells Text.wordBound generated name.toList := by
  simp [report?, List.mem_filterMap, Text.readSigned?_eq_some_iff]

theorem mem_reports_iff {report : Nat × Nat} :
    report ∈ reply.reports ↔ report ∈ (reply.posmap.getD []).filterMap report? :=
  List.mem_mergeSort

/-- The reports of a reply are sorted, in whatever order the reply lists them. -/
theorem sorted_reports (reply : Reply) : LineMap.Sorted reply.reports := by
  refine (List.pairwise_mergeSort ?_ ?_ _).imp ?_
  · rintro ⟨_, _⟩ ⟨_, _⟩ ⟨_, _⟩ before after
    simp at before after ⊢
    omega
  · rintro ⟨_, _⟩ ⟨_, _⟩
    simp
    omega
  · rintro ⟨_, _⟩ ⟨_, _⟩ before
    simpa using before

end Reports

section Members

def Field.name : Field → String
  | .code => "code"
  | .posmap => "posmap"
  | .error => "error"
  | .pos => "pos"
  | .display => "display"

theorem Field.ofName?_eq_some_iff {name : String} {field : Field} :
    ofName? name = some field ↔ field.name = name := by
  constructor
  · fun_cases ofName? name <;> intro found <;> cases found <;> rfl
  · rintro rfl
    cases field <;> rfl

/-- A field of a reply is what a value reads as. A null reads as a field that is missing. -/
def Holds (reply : Reply) : Field → Json → Prop
  | .code, value => textOrNull? value = some reply.code
  | .posmap, value => (posmap? value).map some = some reply.posmap
  | .error, value => textOrNull? value = some reply.error
  | .pos, value => offsetOrNull? value = some reply.pos
  | .display, value => textOrNull? value = some reply.display

theorem holds_of_set? {field : Field} {value : Json} (set : reply.set? field value = some next) :
    next.Holds field value := by
  cases field <;> obtain ⟨_, read, rfl⟩ := Option.map_eq_some_iff.mp set <;> simp [Holds, read]

/-- Setting a field leaves the others as they are, so members can be added in any order. -/
theorem Holds.set? {field other : Field} {value kept : Json} (holds : reply.Holds other kept)
    (set : reply.set? field value = some next) (unlike : other ≠ field) :
    next.Holds other kept := by
  cases field <;> obtain ⟨_, _, rfl⟩ := Option.map_eq_some_iff.mp set <;> cases other <;>
    first | exact holds | exact absurd rfl unlike

/-- Whether a value can be set does not depend on the reply, but only on the field and the value. -/
theorem isSome_set? (reply other : Reply) (field : Field) (value : Json) :
    (reply.set? field value).isSome = (other.set? field value).isSome := by
  cases field <;> simp [set?]

/-- Members with texts for names, none of which names a field twice. Names that stand for no field
may occur and are ignored. -/
structure WellNamed (members : List (Option String × Json)) : Prop where
  named : ∀ member ∈ members, member.1 ≠ none
  once : members.Pairwise fun first second => ∀ field : Field, first.1 = some field.name →
    second.1 ≠ some field.name

theorem WellNamed.rest {member : Option String × Json} (wellNamed : WellNamed (member :: members)) :
    WellNamed members where
  named := fun _ later => wellNamed.named _ (.tail _ later)
  once := (List.pairwise_cons.mp wellNamed.once).2

theorem WellNamed.unique (wellNamed : WellNamed members) (field : Field) {value other : Json}
    (member : (some field.name, value) ∈ members)
    (otherMember : (some field.name, other) ∈ members) :
    value = other := by
  by_contra unlike
  have symmetric : Std.Symm fun first second : Option String × Json =>
      ∀ field : Field, first.1 = some field.name → second.1 ≠ some field.name :=
    ⟨fun _ _ apart field named otherNamed => apart field otherNamed named⟩
  have distinct : (some field.name, value) ≠ (some field.name, other) := fun same =>
    unlike (Prod.mk.inj same).2
  exact wellNamed.once.forall member otherMember distinct field rfl rfl

/-- Members are added one by one. In the end a reply holds the values of all of them, and in other
fields what it held before. -/
theorem addMembers?_spec (reply : Reply) (seen : List Field) (wellNamed : WellNamed members)
    (readable : ∀ field : Field, ∀ value, (some field.name, value) ∈ members →
      (({} : Reply).set? field value).isSome)
    (fresh : ∀ field ∈ seen, ∀ member ∈ members, member.1 ≠ some field.name) :
    ∃ result, addMembers? reply seen members = some result ∧
      (∀ field : Field, ∀ value, (some field.name, value) ∈ members → result.Holds field value) ∧
      ∀ field : Field, ∀ value, (∀ member ∈ members, member.1 ≠ some field.name) →
        reply.Holds field value → result.Holds field value := by
  induction members generalizing reply seen with
  | nil => exact ⟨reply, rfl, by simp, fun _ _ _ holds => holds⟩
  | cons member rest ih =>
    obtain ⟨name, value⟩ := member
    obtain ⟨name, rfl⟩ := Option.ne_none_iff_exists'.mp (wellNamed.named _ List.mem_cons_self)
    have laterReadable : ∀ field : Field, ∀ value, (some field.name, value) ∈ rest →
        (({} : Reply).set? field value).isSome :=
      fun field value later => readable field value (.tail _ later)
    have laterFresh : ∀ field ∈ seen, ∀ member ∈ rest, member.1 ≠ some field.name :=
      fun field known member later => fresh field known member (.tail _ later)
    cases known : Field.ofName? name with
    | none =>
      -- A member of another name is skipped.
      obtain ⟨result, added, holds, kept⟩ :=
        ih reply seen wellNamed.rest laterReadable laterFresh
      refine ⟨result, by simpa [addMembers?, known] using added, fun field value member => ?_,
        fun field value absent =>
        kept field value fun member later => absent member (.tail _ later)⟩
      rcases List.mem_cons.mp member with same | later
      · obtain ⟨⟨⟩, rfl⟩ := Prod.mk.inj same
        rw [Field.ofName?_eq_some_iff.mpr rfl] at known
        cases known
      · exact holds field value later
    | some field =>
      obtain rfl := Field.ofName?_eq_some_iff.mp known
      have settable := readable field value List.mem_cons_self
      rw [isSome_set? _ reply] at settable
      obtain ⟨next, set⟩ := Option.isSome_iff_exists.mp settable
      have apart : ∀ member ∈ rest, member.1 ≠ some field.name :=
        fun member later => (List.pairwise_cons.mp wellNamed.once).1 member later field rfl
      have unseen : field ∉ seen := fun before => fresh field before _ List.mem_cons_self rfl
      obtain ⟨result, added, holds, kept⟩ :=
        ih next (field :: seen) wellNamed.rest laterReadable
        (List.forall_mem_cons.mpr ⟨apart, laterFresh⟩)
      refine ⟨result, by simpa [addMembers?, known, unseen, set] using added,
        fun other stated member => ?_,
        fun other stated absent before => ?_⟩
      · rcases List.mem_cons.mp member with same | later
        · obtain ⟨named, rfl⟩ := Prod.mk.inj same
          rw [Field.ofName?_eq_some_iff.mpr (Option.some.inj named)] at known
          obtain rfl := Option.some.inj known
          exact kept _ _ apart (holds_of_set? set)
        · exact holds other stated later
      · have unlike : other ≠ field := by
          rintro rfl
          exact absent _ List.mem_cons_self rfl
        exact kept other stated (fun member later => absent member (.tail _ later))
          (before.set? set unlike)

/-- The members of a reply, which is an object or an array of the values of all five fields. -/
inductive HasMembers : Json → List (Option String × Json) → Prop where
  | object (members : List (Option String × Json)) : HasMembers (.object members) members
  | array (code posmap error pos display : Json) :
    HasMembers (.array [code, posmap, error, pos, display])
      [(some "code", code), (some "posmap", posmap),
      (some "error", error), (some "pos", pos), (some "display", display)]

/-- A reply is read from its members in either form, so the two forms need not be told apart any
more. -/
theorem HasMembers.ofJson? {json : Json} (form : HasMembers json members) :
    ofJson? json = addMembers? {} [] members := by
  cases form with
  | object => rfl
  | array =>
    have code : Field.ofName? "code" = some .code := rfl
    have posmap : Field.ofName? "posmap" = some .posmap := rfl
    have error : Field.ofName? "error" = some .error := rfl
    have pos : Field.ofName? "pos" = some .pos := rfl
    have display : Field.ofName? "display" = some .display := rfl
    simp [Reply.ofJson?, addMembers?, code, posmap, error, pos, display]

def offsets (pairs : List (String × Nat)) : Json :=
  .object (pairs.map fun pair => (some pair.1, .natural pair.2))

/-- Members of a reply with code and offsets and without an error. Further fields may be there, if
they can be read. -/
structure Delivers (code : String) (pairs : List (String × Nat))
    (members : List (Option String × Json)) : Prop
    extends WellNamed members where
  code : (some "code", .text code) ∈ members
  posmap : (some "posmap", offsets pairs) ∈ members
  small : ∀ pair ∈ pairs, pair.2 < Text.longWordBound
  error : ∀ value, (some "error", value) ∈ members → value = .null
  pos : ∀ value, (some "pos", value) ∈ members → value = .null ∨ ∃ offset < Text.longWordBound,
    value = .natural offset
  display : ∀ value, (some "display", value) ∈ members → value = .null ∨ ∃ text, value = .text text

/-- Of an object with offsets all pairs are read, sorted by their names. Of two with one name the
later one counts. -/
theorem posmap?_offsets (small : ∀ pair ∈ pairs, pair.2 < Text.longWordBound) :
    posmap? (offsets pairs) = some (Std.ExtTreeMap.ofList pairs).toList := by
  have read (one : Option String × Json → Option (String × Nat)) (listed : List (String × Nat))
      (each : ∀ pair ∈ listed, one (some pair.1, .natural pair.2) = some pair) :
      (listed.map fun pair => (some pair.1, Json.natural pair.2)).mapM one = some listed := by
    induction listed with
    | nil => rfl
    | cons pair rest ih =>
      obtain ⟨here, later⟩ := List.forall_mem_cons.mp each
      rw [List.map_cons, List.mapM_cons, here, ih later]
      rfl
  rw [offsets, posmap?, read]
  · rfl
  · intro pair member
    simp [offset?, small pair member]

theorem mem_toList_ofList_iff (distinct : (pairs.map Prod.fst).Nodup) {pair : String × Nat} :
    pair ∈ (Std.ExtTreeMap.ofList pairs).toList ↔ pair ∈ pairs := by
  rw [Std.ExtTreeMap.mem_toList_iff_getElem?_eq_some, getElem?_ofList_iff distinct]

/-- Of the members with code and offsets a reply is made that has them, and no error. -/
theorem Delivers.addMembers? {code : String} (delivers : Delivers code pairs members) :
    ∃ reply, addMembers? {} [] members = some reply ∧ reply.code = some code ∧ reply.error = none ∧
      reply.posmap = some (Std.ExtTreeMap.ofList pairs).toList := by
  have readable (field : Field) (value : Json) (member : (some field.name, value) ∈ members) :
      (({} : Reply).set? field value).isSome := by
    cases field with
    | code =>
      obtain rfl := delivers.unique .code delivers.code member
      rfl
    | posmap =>
      obtain rfl := delivers.unique .posmap delivers.posmap member
      simp [set?, posmap?_offsets delivers.small]
    | error =>
      obtain rfl := delivers.error value member
      rfl
    | pos =>
      rcases delivers.pos value member with rfl | ⟨offset, small, rfl⟩
      · rfl
      · simp [set?, offsetOrNull?, offset?, small]
    | display =>
      rcases delivers.display value member with rfl | ⟨text, rfl⟩ <;> rfl
  obtain ⟨reply, added, holds, kept⟩ :=
    addMembers?_spec {} [] delivers.toWellNamed readable (by simp)
  have code := holds .code _ delivers.code
  have posmap := holds .posmap _ delivers.posmap
  rw [Holds, posmap?_offsets delivers.small] at posmap
  have error : reply.Holds .error .null := by
    by_cases stated : ∃ value, (some "error", value) ∈ members
    · obtain ⟨value, member⟩ := stated
      obtain rfl := delivers.error value member
      exact holds .error _ member
    · refine kept .error .null ?_ rfl
      rintro ⟨_, value⟩ member rfl
      exact stated ⟨value, member⟩
  exact ⟨reply, added, (Option.some.inj code).symm, (Option.some.inj error).symm,
    (Option.some.inj posmap).symm⟩

/-- The text of a reply starts and ends with a bracket, which trimming does not touch. -/
theorem HasMembers.exists_brackets {json : Json} {text : List Char} (form : HasMembers json members)
    (spelled : Json.Spelled (.value json) text) :
    ∃ first inner last, text = first :: (inner ++ [last]) ∧ Text.isBlank first = false ∧
    Text.isBlank last = false := by
  cases form with
  | object => cases spelled <;> exact ⟨_, _, _, rfl, by decide, by decide⟩
  | array => cases spelled; exact ⟨_, _, _, rfl, by decide, by decide⟩

/-- The output of a program that is a reply with code and offsets and without an error, perhaps with
blanks around it. -/
def Delivered (code : String) (pairs : List (String × Nat)) (output : Bytes) : Prop :=
  ∃ json members before text after, (Text.ofUtf8Lenient output).toList = before ++ (text ++ after) ∧
    (∀ c ∈ before, Text.isBlank c = true) ∧ (∀ c ∈ after, Text.isBlank c = true) ∧
    Json.Spelled (.value json) text ∧ HasMembers json members ∧ Delivers code pairs members

/-- Output that delivers code and offsets is read as the code with the reports of the pairs,
sorted. -/
theorem Delivered.read {code : String} {output : Bytes} (delivered : Delivered code pairs output)
    (distinct : (pairs.map Prod.fst).Nodup) :
    ∃ reports, read (Text.ofUtf8Lenient output) = .produced (.offsetMapped code reports) ∧
      LineMap.Sorted reports ∧ ∀ report, report ∈ reports ↔ report ∈ pairs.filterMap report? := by
  obtain ⟨json, members, before, text, after, whole, blankBefore, blankAfter, spelled, form,
      delivers⟩ := delivered
  obtain ⟨first, inner, last, rfl, visibleFirst, visibleLast⟩ := form.exists_brackets spelled
  have parsed := spelled.parse?
  rw [← Text.trim_of_visible blankBefore blankAfter visibleFirst visibleLast, ← whole] at parsed
  obtain ⟨reply, added, coded, faultless, listed⟩ := delivers.addMembers?
  refine ⟨reply.reports, ?_, sorted_reports reply, fun report => ?_⟩
  · rw [Reply.read, Text.trimmed, parsed, Option.bind_some, form.ofJson?, added]
    simp [attempt, faultless, coded]
  · simp only [mem_reports_iff, listed, Option.getD_some, List.mem_filterMap,
      mem_toList_ofList_iff distinct]

end Members

section Written

open Json (Spelled memberText spelled_text spelled_lastMember spelled_member space_nil)

def pairsText : List (String × Nat) → List Char
  | [] => []
  | [(name, offset)] => memberText name (Text.decimal offset)
  | (name, offset) :: rest => memberText name (Text.decimal offset ++ ',' :: pairsText rest)

/-- A compact reply with code and offsets, as a program might write it. -/
def written (code : String) (pairs : List (String × Nat)) : String :=
  String.ofList ('{' :: (memberText "code" (Json.quote code.toList ++
    ',' :: memberText "posmap" ('{' :: (pairsText pairs ++ ['}']))) ++ ['}']))

theorem spelled_offsets (pairs : List (String × Nat)) :
    Spelled (.value (offsets pairs)) ('{' :: (pairsText pairs ++ ['}'])) := by
  have inner (pair : String × Nat) (rest : List (String × Nat)) :
      Spelled (.members ((pair :: rest).map fun pair => (some pair.1, Json.natural pair.2)))
        (pairsText (pair :: rest)) := by
    induction rest generalizing pair with
    | nil => exact spelled_lastMember pair.1 (.natural pair.2)
    | cons next rest ih =>
      exact spelled_member pair.1 (.natural pair.2) (ih next)
  cases pairs with
  | nil => exact .noMembers space_nil
  | cons pair rest => exact .object (inner pair rest)

/-- A compact reply delivers its code and its pairs, whatever the code and the names are. -/
theorem delivered_written (code : String) (small : ∀ pair ∈ pairs, pair.2 < Text.longWordBound) :
    Delivered code pairs (Text.utf8 (written code pairs)) := by
  have spelled : Spelled (.members [(some "code", .text code), (some "posmap", offsets pairs)]) _ :=
    spelled_member "code" (spelled_text code) (spelled_lastMember "posmap" (spelled_offsets pairs))
  refine ⟨_, _, [], _, [], ?_, by simp, by simp, .object spelled, .object _, ?_⟩
  · rw [List.append_nil, List.nil_append, Text.ofUtf8Lenient_utf8]
    exact String.toList_ofList
  · refine ⟨⟨by simp, ?_⟩, by simp, by simp, small, by simp, by simp, by simp⟩
    have unlike : some "code" ≠ some "posmap" := by decide
    exact List.pairwise_pair.mpr fun field first second => unlike (first.trans second.symm)

end Written

end Backend.Reply

namespace Backend

variable {process : Process} {start : Invocation → Run} {source : String} {options : Options}
    {output errors : Bytes}
variable {code : String} {pairs : List (String × Nat)}

/-- A process that delivers visible code succeeds with the line map of any sorted list of the
reports. So the way in which they are sorted is left open. -/
theorem compile_of_delivered (speaks : process.protocol = .json)
    (answer : start (process.invocation source options) = .ended true output errors)
    (delivered : Reply.Delivered code pairs output) (distinct : (pairs.map Prod.fst).Nodup)
    (visible : Text.Visible code) {reports : List (Nat × Nat)} (sorted : LineMap.Sorted reports)
    (same : ∀ report, report ∈ reports ↔ report ∈ pairs.filterMap Reply.report?) :
    (ofProcess process start).compile source options =
      .success code (LineMap.ofOffsets (Text.utf8 source) reports) := by
  obtain ⟨ordered, read, orderedSorted, members⟩ := delivered.read distinct
  refine compile_eq_success_iff.mpr ⟨.offsetMapped code ordered, ?_, visible, rfl, ?_⟩
  · simp only [ofProcess, answer, speaks]
    exact read
  · exact LineMap.ofOffsets_congr sorted orderedSorted fun report =>
      (same report).trans (members report).symm

/-- A process that delivers visible code succeeds with a line map that depends on the pairs of names
and offsets and not on their order. It maps a line to the source line of the greatest offset under
the names that spell the line. However the pairs are listed, and whatever sorting puts their reports
in order, the map is the same. If the source has few enough lines, both sides of every entry are
words. -/
theorem compile_posmap_unordered (process : Process) (start : Invocation → Run) (source : String)
    (options : Options) (output errors : Bytes) (code : String) (pairs : List (String × Nat))
    (speaks : process.protocol = .json)
    (answer : start (process.invocation source options) = .ended true output errors)
    (delivered : Reply.Delivered code pairs output) (distinct : (pairs.map Prod.fst).Nodup)
    (visible : Text.Visible code) :
    ∃ lineMap, (ofProcess process start).compile source options = .success code lineMap ∧
      (∀ generated line : Nat, lineMap[generated]? = some line ↔
        ∃ name offset, (name, offset) ∈ pairs ∧ Text.Spells Text.wordBound generated name.toList ∧
          (∀ name other, (name, other) ∈ pairs → Text.Spells Text.wordBound generated name.toList →
            other ≤ offset) ∧
          line = (Position.lineColumn (Text.utf8 source) offset).1) ∧
      (Position.lineCount (Text.utf8 source) < Text.wordBound → lineMap.InWords) ∧
      (∀ otherStart otherOutput otherErrors (otherPairs : List (String × Nat)),
        otherPairs.Perm pairs →
        otherStart (process.invocation source options) = .ended true otherOutput otherErrors →
        Reply.Delivered code otherPairs otherOutput →
        (ofProcess process otherStart).compile source options = .success code lineMap) ∧
      ∀ (listed : List (String × Nat)) (reports : List (Nat × Nat)), listed.Perm pairs →
        reports.Perm (listed.filterMap Reply.report?) → LineMap.Sorted reports →
        LineMap.ofOffsets (Text.utf8 source) reports = lineMap := by
  obtain ⟨ordered, _, sorted, members⟩ := delivered.read distinct
  have entries (generated line : Nat) : (LineMap.ofOffsets (Text.utf8 source) ordered)[generated]? =
      some line ↔
      ∃ name offset, (name, offset) ∈ pairs ∧ Text.Spells Text.wordBound generated name.toList ∧
        (∀ name other, (name, other) ∈ pairs → Text.Spells Text.wordBound generated name.toList →
          other ≤ offset) ∧
        line = (Position.lineColumn (Text.utf8 source) offset).1 := by
    rw [LineMap.getElem?_ofOffsets_of_sorted sorted]
    simp only [LineMap.Greatest, members, Reply.mem_filterMap_report?_iff]
    constructor
    · rintro ⟨offset, ⟨⟨name, listed, spelled⟩, greatest⟩, rfl⟩
      exact ⟨name, offset, listed, spelled, fun name other known spells =>
        greatest other ⟨name, known, spells⟩, rfl⟩
    · rintro ⟨name, offset, listed, spelled, greatest, rfl⟩
      refine ⟨offset, ⟨⟨name, listed, spelled⟩, ?_⟩, rfl⟩
      rintro other ⟨name, known, spells⟩
      exact greatest name other known spells
  refine ⟨_, compile_of_delivered speaks answer delivered distinct visible sorted members, entries,
    ?_, ?_, ?_⟩
  · rintro few ⟨generated, line⟩ member
    obtain ⟨_, offset, _, spelled, _, rfl⟩ :=
      (entries generated line).mp (Std.ExtTreeMap.mem_toList_iff_getElem?_eq_some.mp member)
    exact ⟨spelled.1, Nat.lt_of_le_of_lt (Position.line_bounds _ offset).2 few⟩
  · intro otherStart otherOutput otherErrors otherPairs permuted otherAnswer otherDelivered
    have otherDistinct : (otherPairs.map Prod.fst).Nodup :=
      (permuted.map Prod.fst).nodup_iff.mpr distinct
    refine compile_of_delivered speaks otherAnswer otherDelivered otherDistinct visible sorted
      fun report => ?_
    rw [members, (permuted.filterMap _).mem_iff]
  · intro listed reports permuted reported reportsSorted
    refine LineMap.ofOffsets_congr reportsSorted sorted fun report => ?_
    rw [members, reported.mem_iff, (permuted.filterMap _).mem_iff]

/-- Three spellings of the fifth line, one name that spells no line and one that spells too great a
number. -/
def spellings : List (String × Nat) :=
  [("5", 2), ("x", 9), ("+5", 5), ("005", 0), ("4294967296", 1)]

/-- The greatest offset of the fifth line counts in either order, and other names are ignored. -/
theorem compile_posmap_unordered_spellings :
    let process : Process := ⟨"driver", "driver", [], .json⟩
    let source := "a\nbb\nc"
    let replying (pairs : List (String × Nat)) : Invocation → Run :=
      fun _ => .ended true (Text.utf8 (Reply.written "x" pairs)) []
    (spellings.map Prod.fst).Nodup ∧
      Reply.Delivered "x" spellings (Text.utf8 (Reply.written "x" spellings)) ∧
      ∃ lineMap, (ofProcess process (replying spellings)).compile source {} = .success "x" lineMap ∧
        (ofProcess process (replying spellings.reverse)).compile source {} = .success "x" lineMap ∧
        lineMap[5]? = some 3 ∧ lineMap[4294967296]? = none ∧ lineMap.InWords := by
  intro process source replying
  have distinct : (spellings.map Prod.fst).Nodup := by decide
  have delivered : Reply.Delivered "x" spellings (Text.utf8 (Reply.written "x" spellings)) :=
    Reply.delivered_written "x" (by decide)
  have reversed : Reply.Delivered "x" spellings.reverse
      (Text.utf8 (Reply.written "x" spellings.reverse)) :=
    Reply.delivered_written "x" (by decide)
  obtain ⟨lineMap, success, entries, words, same, _⟩ :=
    compile_posmap_unordered process (replying spellings) source {} _ []
    "x" spellings rfl rfl delivered distinct ⟨'x', by decide, by decide⟩
  refine ⟨distinct, delivered, lineMap, success,
    same (replying spellings.reverse) _ [] spellings.reverse spellings.reverse_perm rfl reversed,
    ?_, ?_, words (by decide)⟩
  · have greatest : ∀ pair ∈ spellings, Text.readSigned? Text.wordBound pair.1.toList = some 5 →
        pair.2 ≤ 5 := by decide
    refine (entries 5 3).mpr ⟨"+5", 5, by decide, Text.readSigned?_eq_some_iff.mp (by decide),
      ?_, by decide⟩
    intro name offset listed spells
    exact greatest (name, offset) listed (Text.readSigned?_eq_some_iff.mpr spells)
  · rw [Option.eq_none_iff_forall_ne_some]
    intro line found
    obtain ⟨_, _, _, spells, _⟩ := (entries _ line).mp found
    exact absurd spells.1 (by decide)

end Backend

end DialectLoader
