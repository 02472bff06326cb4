import Mathlib.Data.List.TakeWhile
import DialectLoader.Proofs.Path.Normal
import DialectLoader.Path.Host

/-!
# Parts of normal paths

What joining, cutting and renaming do to normal paths. A normal path below a normal directory is
spelled with one slash between them, the last name of a normal path carries its extension, and the
generated code of a script keeps the directory of the script and gets an extension of its own.

Roots, unlike the paths below them, come from the settings and are spelled as the user spelled them.
About a root no more is assumed than that it does not end in a slash, which trimming ensures.
-/

namespace DialectLoader.Path

variable {path : String} {name : List Char}

/-- Every character of a path is a slash or belongs to a name, so what holds of all names and of the
slash holds of the path. -/
theorem mem_names_of_mem {path : List Char} {c : Char} (member : c ∈ path) :
    c = '/' ∨ ∃ name ∈ names path, c ∈ name := by
  rw [← intercalate_names path] at member
  generalize names path = parts at member
  induction parts with
  | nil => simp at member
  | cons name rest ih =>
    cases rest with
    | nil => exact .inr ⟨name, List.mem_cons_self, by simpa using member⟩
    | cons next rest =>
      rw [List.intercalate_cons_cons] at member
      simp only [List.append_assoc, List.mem_append, List.mem_singleton] at member
      rcases member with inside | rfl | later
      · exact .inr ⟨name, List.mem_cons_self, inside⟩
      · exact .inl rfl
      · rcases ih later with slash | ⟨other, found, inside⟩
        · exact .inl slash
        · exact .inr ⟨other, List.mem_cons_of_mem _ found, inside⟩

/-- The only separator in a normal path is the slash; backslashes do not survive in the common
spelling. -/
theorem Normal.eq_slash (normal : Normal path) {c : Char} (member : c ∈ path.toList)
    (separates : isSeparator c = true) : c = '/' := by
  rcases mem_names_of_mem member with slash | ⟨name, found, inside⟩
  · exact slash
  · have clear := (normal_iff.mp normal name found).clear c inside
    rw [clear] at separates
    cases separates

/-- A text divided by a slash is a normal path exactly when both parts are. So joining and cutting
never leave the normal paths. -/
theorem normal_append_iff {directory path : List Char} :
    Normal (String.ofList (directory ++ '/' :: path)) ↔
      Normal (String.ofList directory) ∧ Normal (String.ofList path) := by
  simp only [normal_iff, String.toList_ofList, names_append, List.mem_append]
  constructor
  · intro both
    exact ⟨fun name member => both name (.inl member), fun name member => both name (.inr member)⟩
  · rintro ⟨left, right⟩ name (member | member)
    · exact left name member
    · exact right name member

theorem IsName.normal (isName : IsName name) : Normal (String.ofList name) := by
  rw [normal_iff, String.toList_ofList, names, Text.pieces_of_clear isName.slashless]
  intro other member
  rw [List.mem_singleton.mp member]
  exact isName

/-- A normal path without a slash is a name, as there is nothing to cut it at. -/
theorem Normal.isName (normal : Normal (String.ofList name))
    (clear : ∀ c ∈ name, isSeparator c = false) : IsName name := by
  have slashless : ∀ c ∈ name, (c == '/') = false := by
    intro c member
    have separated := clear c member
    simp only [isSeparator, Bool.or_eq_false_iff] at separated
    exact separated.1
  rw [normal_iff, String.toList_ofList, names, Text.pieces_of_clear slashless] at normal
  exact normal name List.mem_cons_self

/-- Cutting a path cuts what stands behind any of its slashes, so the directory in front may be set
aside. -/
theorem cutName_append (directory path : List Char) :
    cutName (directory ++ '/' :: path) =
      (directory ++ '/' :: (cutName path).1, (cutName path).2) := by
  have stops : isSeparator '/' = true := by decide
  have reversed : (directory ++ '/' :: path).reverse =
      path.reverse ++ '/' :: directory.reverse := by simp
  simp only [cutName, reversed, List.takeWhile_append, List.dropWhile_append, Prod.mk.injEq]
  constructor
  · split
    · rename_i nothing
      simp [stops, List.isEmpty_iff.mp nothing]
    · simp
  · split
    · rename_i whole
      have everything := ( List.takeWhile_prefix (!isSeparator ·)).eq_of_length whole
      simp [stops, everything]
    · rfl

/-- A text that holds no separator is a name alone, and the directory in front of it is empty. -/
theorem cutName_of_clear (clear : ∀ c ∈ name, isSeparator c = false) :
    cutName name = ([], name) := by
  have kept : ∀ c ∈ name.reverse, (!isSeparator c) = true := by
    intro c member
    simp [clear c (List.mem_reverse.mp member)]
  simp [cutName, List.takeWhile_eq_self_iff.mpr kept, List.dropWhile_eq_nil_iff.mpr kept]

/-- A normal path is a name, or a name below a normal directory. Proofs about the directory of a
path split into these two cases. -/
theorem Normal.cases (normal : Normal path) :
    IsName path.toList ∨ ∃ directory name, path.toList = directory ++ '/' :: name ∧
      Normal (String.ofList directory) ∧ IsName name := by
  have clear (part : List Char) (inside : ∀ c ∈ part, c ∈ path.toList) (slashless : '/' ∉ part) :
      ∀ c ∈ part, isSeparator c = false := by
    intro c member
    cases separates : isSeparator c with
    | false => rfl
    | true => exact absurd (normal.eq_slash (inside c member) separates ▸ member) slashless
  by_cases slash : '/' ∈ path.toList.reverse
  · right
    obtain ⟨back, front, cut, absent⟩ := List.eq_append_cons_of_mem slash
    have spelled : path.toList = front.reverse ++ '/' :: back.reverse := by
      have reversed := congrArg List.reverse cut
      simpa using reversed
    have both := normal
    rw [← path.ofList_toList, spelled, normal_append_iff] at both
    refine ⟨front.reverse, back.reverse, spelled, both.1,
      both.2.isName (clear _ ?_ (by simpa using absent))⟩
    intro c member
    rw [spelled]
    simp [List.mem_reverse.mp member]
  · left
    have whole := normal
    rw [← path.ofList_toList] at whole
    exact whole.isName (clear _ (fun _ member => member) (by simpa using slash))

/-- A normal path starts and ends in a character that is no separator, since its first and its last
name do. -/
theorem Normal.ends (normal : Normal path) :
    (∃ c rest, path.toList = c :: rest ∧ isSeparator c = false) ∧
      ∃ rest c, path.toList = rest ++ [c] ∧ isSeparator c = false := by
  constructor
  · obtain ⟨c, rest, starts⟩ := List.exists_cons_of_ne_nil fun none =>
      normal.ne_empty (String.toList_eq_nil_iff.mp none)
    refine ⟨c, rest, starts, ?_⟩
    have relative := normal.relative
    rw [starts] at relative
    simpa [isRooted] using relative
  · have lastOf {name : List Char} (isName : IsName name) :
        ∃ rest c, name = rest ++ [c] ∧ isSeparator c = false := by
      rcases List.eq_nil_or_concat name with none | ⟨rest, c, rfl⟩
      · exact absurd none isName.ne_nil
      · exact ⟨rest, c, List.concat_eq_append, isName.clear c (by simp)⟩
    rcases normal.cases with isName | ⟨directory, name, spelled, _, isName⟩
    · exact lastOf isName
    · obtain ⟨rest, c, rfl, visible⟩ := lastOf isName
      exact ⟨directory ++ '/' :: rest, c, by simp [spelled], visible⟩

theorem Normal.closed (normal : Normal path) : path.toList.getLast? ≠ some '/' := by
  obtain ⟨rest, c, ending, visible⟩ := normal.ends.2
  rw [ending, List.getLast?_concat]
  rintro ⟨⟩
  cases visible

theorem Normal.trimEnd (normal : Normal path) : Path.trimEnd path = path := by
  obtain ⟨rest, c, ending, visible⟩ := normal.ends.2
  have other : c ≠ '/' := by
    rintro rfl
    cases visible
  have kept : dropTrailingSlashes path.toList = path.toList := by
    simp [dropTrailingSlashes, ending, other]
  rw [Path.trimEnd, kept, String.ofList_toList]

theorem Normal.dropLeadingSlashes (normal : Normal path) :
    Path.dropLeadingSlashes path.toList = path.toList := by
  obtain ⟨c, rest, starts, visible⟩ := normal.ends.1
  have other : c ≠ '/' := by
    rintro rfl
    cases visible
  simp [Path.dropLeadingSlashes, starts, other]

/-- The empty directory adds nothing in front of a normal path. Of another path slashes at the start
would be dropped. -/
theorem join_empty (normal : Normal path) : join "" path = path := by
  simp [join, normal.dropLeadingSlashes]

/-- A normal path below a directory is spelled with one slash between them: the directory does not
end in one and the path does not start with one. -/
theorem join_toList {directory path : String} (outer : Normal directory) (inner : Normal path) :
    (join directory path).toList = directory.toList ++ '/' :: path.toList := by
  obtain ⟨rest, c, ending, visible⟩ := outer.ends.2
  have other : c ≠ '/' := by
    rintro rfl
    cases visible
  have notEmpty : directory.isEmpty = false := by
    simp [outer.ne_empty]
  simp [join, inner.dropLeadingSlashes, notEmpty, ending, other]

theorem Normal.join {directory path : String} (outer : Normal directory) (inner : Normal path) :
    Normal (Path.join directory path) := by
  rw [← (Path.join directory path).ofList_toList, join_toList outer inner, normal_append_iff,
    String.ofList_toList, String.ofList_toList]
  exact ⟨outer, inner⟩

/-- Slashes at the start do not belong to the last name, so dropping them leaves the name and the
extension alone. -/
theorem cutName_dropLeadingSlashes (path : List Char) :
    (cutName (dropLeadingSlashes path)).2 = (cutName path).2 := by
  induction path with
  | nil => rfl
  | cons c rest ih =>
    by_cases slash : c = '/'
    · have dropped : dropLeadingSlashes ('/' :: rest) = dropLeadingSlashes rest := by
        simp [dropLeadingSlashes]
      have cut := cutName_append [] rest
      rw [List.nil_append] at cut
      rw [slash, dropped, cut, ih]
    · simp [dropLeadingSlashes, slash]

/-- A path below a directory keeps its extension, however both are spelled. The extension is part of
the last name and joining adds in front. -/
theorem extension?_join (directory path : String) :
    extension? (join directory path) = extension? path := by
  have lastName : (cutName (join directory path).toList).2 = (cutName path.toList).2 := by
    rw [← cutName_dropLeadingSlashes path.toList]
    unfold join
    split
    · rw [String.toList_ofList]
    · split
      · rename_i ends
        obtain ⟨front, spelled⟩ := List.getLast?_eq_some_iff.mp ends
        rw [String.toList_ofList, spelled, List.append_assoc, List.singleton_append, cutName_append]
      · rw [String.toList_ofList, cutName_append]
  rw [extension?, extension?, lastName]

/-- A script below a directory keeps its dialect, because its extension tells the dialect. So it may
be recognised before or after it is joined to a root. -/
theorem ofPath?_join (directory path : String) :
    Dialect.ofPath? (join directory path) = Dialect.ofPath? path := by
  rw [Dialect.ofPath?, Dialect.ofPath?, extension?_join]

/-- The stem of a name is the part of it before its last dot, or the whole name; nothing is
rewritten in it. -/
theorem cutStem_isPrefix (name : List Char) : (cutStem name).1 <+: name := by
  unfold cutStem
  split
  · have suffix := List.dropWhile_suffix (· != '.') (l := name.reverse)
    have start : (name.reverse.dropWhile (· != '.')).reverse <+: name := by
      have reversed := List.reverse_prefix.mpr suffix
      rwa [List.reverse_reverse] at reversed
    exact ( List.dropLast_prefix _).trans start
  · exact List.prefix_refl _

/-- Extensions that take the place of others: they are spelled like names and have no dots, so that
none is dropped at their start and none cuts them. -/
structure IsExtension (ext : String) : Prop where
  isName : IsName ext.toList
  dotless : '.' ∉ ext.toList

theorem isExtension_lua : IsExtension luaExtension :=
  ⟨by decide, by decide⟩

theorem isExtension_dialect (dialect : Dialect) : IsExtension dialect.extension := by
  cases dialect <;> exact ⟨by decide, by decide⟩

/-- A new extension stands behind the stem of the last name and a dot. The directory keeps its
spelling, whatever that is. -/
theorem setExtension_toList {ext : String} (isExtension : IsExtension ext) (path : String) :
    (setExtension path ext).toList =
      (cutName path.toList).1 ++ ((cutStem (cutName path.toList).2).1 ++ '.' :: ext.toList) := by
  have kept : ext.toList.dropWhile (· == '.') = ext.toList := by
    obtain ⟨c, rest, starts⟩ := List.exists_cons_of_ne_nil isExtension.isName.ne_nil
    have other : c ≠ '.' := by
      rintro rfl
      exact isExtension.dotless (by rw [starts]; exact List.mem_cons_self)
    simp [starts, other]
  simp [setExtension, kept]

/-- A name with a new extension is a name: the stem is part of the old one, and the dot makes it
neither empty nor a single dot. -/
theorem IsName.withExtension {ext : String} (isName : IsName name) (isExtension : IsExtension ext) :
    IsName ((cutStem name).1 ++ '.' :: ext.toList) := by
  have stem {c : Char} (member : c ∈ (cutStem name).1) : c ∈ name :=
    (cutStem_isPrefix name).subset member
  have visible := isExtension.isName.ne_nil
  refine ⟨by simp, ?_, ?_, ?_⟩
  · intro dot
    have length := congrArg List.length dot
    simp only [List.length_append, List.length_cons, List.length_nil] at length
    have positive := List.length_pos_iff.mpr visible
    omega
  · intro c member
    simp only [List.mem_append, List.mem_cons] at member
    rcases member with inside | rfl | inside
    · exact isName.clear c (stem inside)
    · decide
    · exact isExtension.isName.clear c inside
  · intro c member
    simp only [List.mem_append, List.mem_cons] at member
    rcases member with inside | rfl | inside
    · exact isName.lower c (stem inside)
    · decide
    · exact isExtension.isName.lower c inside

/-- Exchanging the extension of a normal path gives a normal path, because only its last name
changes and that stays a name. -/
theorem Normal.setExtension {path ext : String} (normal : Normal path)
    (isExtension : IsExtension ext) : Normal (Path.setExtension path ext) := by
  rw [← (Path.setExtension path ext).ofList_toList, setExtension_toList isExtension]
  rcases normal.cases with isName | ⟨directory, name, spelled, outer, isName⟩
  · rw [cutName_of_clear isName.clear, List.nil_append]
    exact (isName.withExtension isExtension).normal
  · rw [spelled, cutName_append, cutName_of_clear isName.clear, List.append_assoc,
      List.singleton_append, normal_append_iff]
    exact ⟨outer, (isName.withExtension isExtension).normal⟩

/-- A name that takes the place of the last name of a path is its last name, provided that it has no
separators. -/
theorem cutName_replace (path : List Char) (clear : ∀ c ∈ name, isSeparator c = false) :
    (cutName ((cutName path).1 ++ name)).2 = name := by
  have kept : ∀ c ∈ name.reverse, (!isSeparator c) = true := by
    intro c member
    simp [clear c (List.mem_reverse.mp member)]
  have front : (path.reverse.dropWhile (!isSeparator ·)).takeWhile (!isSeparator ·) = [] := by
    cases rest : path.reverse.dropWhile (!isSeparator ·) with
    | nil => rfl
    | cons c rest' =>
      have stops := List.head?_dropWhile_not (!isSeparator ·) path.reverse
      rw [rest] at stops
      simpa using stops
  simp only [cutName, List.reverse_append, List.reverse_reverse]
  rw [List.takeWhile_append_of_pos kept, front, List.append_nil, List.reverse_reverse]

theorem cutName_parts (path : List Char) : (cutName path).1 ++ (cutName path).2 = path := by
  rw [cutName, ← List.reverse_append, List.takeWhile_append_dropWhile, List.reverse_reverse]

theorem cutName_clear (path : List Char) : ∀ c ∈ (cutName path).2, isSeparator c = false := by
  intro c member
  have taken := List.mem_takeWhile_imp (List.mem_reverse.mp member)
  simpa using taken

/-- A name is cut at a dot behind which there is no other one. Dots in the stem are left alone. -/
theorem cutStem_append (stem : List Char) {letters : List Char} (dotless : '.' ∉ letters) :
    cutStem (stem ++ '.' :: letters) = (stem, some letters) := by
  have kept : ∀ c ∈ letters.reverse, (c != '.') = true := by
    intro c member
    simp only [bne_iff_ne]
    rintro rfl
    exact dotless (List.mem_reverse.mp member)
  have dotted : (stem ++ '.' :: letters).contains '.' = true := by simp
  rw [cutStem, if_pos dotted, List.reverse_append, List.reverse_cons, List.append_assoc,
    List.singleton_append, List.takeWhile_append_of_pos kept, List.dropWhile_append_of_pos kept]
  simp

/-- The extension that was set is the extension of the path. It is never empty, which would count as
none. -/
theorem extension?_setExtension (path : String) {ext : String} (isExtension : IsExtension ext) :
    extension? (setExtension path ext) = some ext := by
  have clear : ∀ c ∈ (cutStem (cutName path.toList).2).1 ++ '.' :: ext.toList,
      isSeparator c = false := by
    intro c member
    simp only [List.mem_append, List.mem_cons] at member
    rcases member with inside | rfl | inside
    · exact cutName_clear _ c ((cutStem_isPrefix _).subset inside)
    · decide
    · exact isExtension.isName.clear c inside
  have kept : (some ext.toList).filter (· != []) = some ext.toList := by
    rw [Option.filter_some, if_pos (by simpa using isExtension.isName.ne_nil)]
  rw [extension?, setExtension_toList isExtension, cutName_replace _ clear,
    cutStem_append _ isExtension.dotless, kept, Option.map_some, String.ofList_toList]

/-- Generated code is no script of either dialect, so a pass over a directory does not compile what
it has written. -/
theorem ofPath?_output (path : String) : Dialect.ofPath? (output path) = none := by
  rw [output, Dialect.ofPath?, extension?_setExtension path isExtension_lua]
  decide

/-- The path of generated code is normal if that of the script is, and is therefore a key of the
store like any other. -/
theorem Normal.output (normal : Normal path) : Normal (Path.output path) :=
  normal.setExtension isExtension_lua

/-- No slash is left at the end of a trimmed path. A backslash may be. -/
theorem getLast?_trimEnd (path : String) : (trimEnd path).toList.getLast? ≠ some '/' := by
  rw [trimEnd, String.toList_ofList, dropTrailingSlashes, List.getLast?_reverse]
  intro slash
  have stops := List.head?_dropWhile_not (· == '/') path.toList.reverse
  rw [slash] at stops
  cases stops

/-- Trimming changes nothing where there is no slash at the end, so it is enough to trim once. -/
theorem trimEnd_of_getLast? (visible : path.toList.getLast? ≠ some '/') :
    trimEnd path = path := by
  have kept : dropTrailingSlashes path.toList = path.toList := by
    rw [dropTrailingSlashes]
    cases spelled : path.toList.reverse with
    | nil => exact (List.reverse_eq_nil_iff.mp spelled).symm
    | cons c rest =>
      have other : c ≠ '/' := by
        rintro rfl
        exact visible (by rw [List.getLast?_eq_head?_reverse, spelled]; rfl)
      rw [List.dropWhile_cons_of_neg (by simpa using other), ← spelled, List.reverse_reverse]
  rw [trimEnd, kept, String.ofList_toList]

/-- The directory of a file in a root is that root, however it is spelled, as long as no slash ends
it. -/
theorem parent_join_name {root name : String} (visible : root.toList.getLast? ≠ some '/')
    (clear : ∀ c ∈ name.toList, isSeparator c = false) : parent (join root name) = root := by
  have kept : dropLeadingSlashes name.toList = name.toList := by
    cases spelled : name.toList with
    | nil => rfl
    | cons c rest =>
      have other : c ≠ '/' := by
        rintro rfl
        have wrong := clear '/' (by rw [spelled]; exact List.mem_cons_self)
        cases wrong
      simp [dropLeadingSlashes, other]
  rw [join, kept]
  split
  · rename_i empty
    rw [parent, String.toList_ofList, cutName_of_clear clear]
    exact (String.isEmpty_iff.mp empty).symm
  · rw [parent, String.toList_ofList, cutName_append, cutName_of_clear clear]
    simp

/-- A path below a root is spelled behind the root and a slash. The root is not empty, for nothing
would be put in front otherwise. -/
theorem join_toList_of_visible {root : String} (visible : root ≠ "")
    (closed : root.toList.getLast? ≠ some '/') (lower : String) :
    (join root lower).toList = root.toList ++ '/' :: dropLeadingSlashes lower.toList := by
  rw [join, if_neg (by simpa using visible), if_neg closed, String.toList_ofList]

/-- Normal paths below a root are all spelled behind the same text. This covers the empty root,
where that text is empty. -/
theorem exists_join_toList {root : String} (closed : root.toList.getLast? ≠ some '/') :
    ∃ before, ∀ {lower : String}, Normal lower →
    (join root lower).toList = before ++ lower.toList := by
  by_cases visible : root = ""
  · refine ⟨[], fun inner => ?_⟩
    rw [visible, join_empty inner, List.nil_append]
  · refine ⟨root.toList ++ ['/'], fun inner => ?_⟩
    rw [join_toList_of_visible visible closed, inner.dropLeadingSlashes, List.append_assoc,
      List.singleton_append]

theorem trimEnd_concat (path : String) :
    trimEnd (String.ofList (path.toList ++ ['/'])) = trimEnd path := by
  simp [trimEnd, dropTrailingSlashes]

/-- A directory with nothing below it is written with a slash at its end, which trimming drops
again. -/
theorem trimEnd_join_empty {directory : String} (closed : directory.toList.getLast? ≠ some '/') :
    trimEnd (join directory "") = directory := by
  by_cases visible : directory = ""
  · rw [visible]
    rfl
  · rw [← (join directory "").ofList_toList, join_toList_of_visible visible closed,
      show dropLeadingSlashes "".toList = [] from rfl, trimEnd_concat, trimEnd_of_getLast? closed]

/-- The directory of a path below a root is the directory of the path, below that root. Trimming
covers files in the root itself. -/
theorem parent_join {root path : String} (closed : root.toList.getLast? ≠ some '/')
    (inner : Normal path) : parent (join root path) = trimEnd (join root (parent path)) := by
  rcases inner.cases with isName | ⟨directory, name, spelled, normal, isName⟩
  · have top : parent path = "" := by
      rw [parent, cutName_of_clear isName.clear]
      rfl
    rw [top, parent_join_name closed isName.clear, trimEnd_join_empty closed]
  · have lower : parent path = String.ofList directory := by
      rw [parent, spelled, cutName_append, cutName_of_clear isName.clear]
      simp
    obtain ⟨before, below⟩ := exists_join_toList closed
    obtain ⟨rest, c, ending, visible⟩ := normal.ends.2
    have trimmed : trimEnd (join root (String.ofList directory)) =
        join root (String.ofList directory) := by
      apply trimEnd_of_getLast?
      rw [below normal, ending, ← List.append_assoc, List.getLast?_concat]
      rintro ⟨⟩
      cases visible
    apply String.toList_inj.mp
    rw [lower, trimmed, below normal, parent, below inner, spelled, ← List.append_assoc,
      cutName_append, cutName_of_clear isName.clear]
    simp

/-- A path is found again behind the directory it was joined to. So two scripts never share a file
below one root. -/
theorem join_injective {directory path other : String}
    (closed : directory.toList.getLast? ≠ some '/') (left : Normal path) (right : Normal other)
    (same : join directory path = join directory other) :
    path = other := by
  obtain ⟨before, below⟩ := exists_join_toList closed
  have spelled := congrArg String.toList same
  rw [below left, below right, List.append_cancel_left_eq] at spelled
  exact String.toList_inj.mp spelled

end DialectLoader.Path
