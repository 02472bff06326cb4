import Mathlib.Data.Finset.Card
import Mathlib.Data.Finset.Range
import DialectLoader.Manifest.Codec
import DialectLoader.Options
import DialectLoader.Proofs.Text.Encoding

/-!
# Reading a written manifest

A manifest whose numbers fit their fields is read back as it was written, whatever follows it. Each
writer has one lemma about its reader, with the bytes that follow left open, so that the lemmas
chain along the fields of an artifact and along lists.

Numbers and lengths are unbounded in the program's values, and the format cuts them to the width of
their fields. `Fits` says that nothing is cut. It is a hypothesis here; that the artifacts of a
running program satisfy it is a matter of what the backends report.
-/

namespace DialectLoader.Digest

/-- A digest is 32 bytes long: four for each of eight words. No more about the digest is needed to
read a fingerprint back. -/
theorem blake3_length (bytes : Bytes) : (blake3 bytes).length = 32 := by
  have each (words : List UInt32) : (words.flatMap wordBytes).length = 4 * words.length := by
    induction words with
    | nil => rfl
    | cons word rest ih =>
      rw [List.flatMap_cons, List.length_append, ih]
      simp only [wordBytes, List.length_cons, List.length_nil]
      omega
  rw [blake3, each, Vector.length_toList]

theorem hex_length (bytes : Bytes) : (hex bytes).toList.length = 2 * bytes.length := by
  rw [hex, String.toList_ofList]
  induction bytes with
  | nil => rfl
  | cons byte rest ih =>
    rw [List.flatMap_cons, List.length_append, ih]
    simp only [List.length_cons, List.length_nil]
    omega

end DialectLoader.Digest

namespace DialectLoader.Manifest

/-- A number that fits its width is read as it was written. A greater one loses its leading
digits. -/
theorem getNat_putNat {width n : Nat} (fits : n < Nat.pow 256 width) (rest : Bytes) :
    getNat width (putNat width n ++ rest) = some (n, rest) := by
  induction width generalizing n with
  | zero =>
    have zero : n = 0 := Nat.lt_one_iff.mp fits
    rw [zero]
    rfl
  | succ width ih =>
    have quotient : n / 256 < Nat.pow 256 width := by
      apply Nat.div_lt_of_lt_mul
      rw [Nat.mul_comm]
      exact fits
    have low : (n.toUInt8).toNat = n % 256 := by simp
    simp only [putNat, List.cons_append, getNat, ih quotient, Option.bind_eq_bind,
      Option.bind_some, low, Option.pure_def]
    rw [Nat.mod_add_div]

theorem getNat_word {n : Nat} (fits : n < Text.wordBound) (rest : Bytes) :
    getNat 4 (putNat 4 n ++ rest) = some (n, rest) :=
  getNat_putNat fits rest

theorem getNat_longWord {n : Nat} (fits : n < Text.longWordBound) (rest : Bytes) :
    getNat 8 (putNat 8 n ++ rest) = some (n, rest) :=
  getNat_putNat fits rest

/-- A text whose length in bytes fits its field. -/
def FitsText (text : String) : Prop :=
  (Text.utf8 text).length < Text.longWordBound

instance (text : String) : Decidable (FitsText text) :=
  inferInstanceAs (Decidable (_ < _))

theorem fitsText_fingerprint (options : Options) : FitsText options.fingerprint := by
  have short := Text.utf8_ofList_length_le options.fingerprint.toList
  rw [String.ofList_toList, Options.fingerprint, Digest.hex_length, Digest.blake3_length] at short
  exact Nat.lt_of_le_of_lt short (by decide)

/-- A text is read as it was written, whatever characters it holds, if its length fits. -/
theorem getText_putText {text : String} (fits : FitsText text) (rest : Bytes) :
    getText (putText text ++ rest) = some (text, rest) := by
  simp only [getText, putText, List.append_assoc, getNat_longWord fits, Option.bind_eq_bind,
    Option.bind_some]
  simp [Text.ofUtf8?_utf8, guard]

/-- Values are read one after another if each of them is read as it was written, whatever follows
it. -/
theorem getMany_flatMap {α : Type} {get : Reader α} {put : α → Bytes} {items : List α}
    (each : ∀ item ∈ items, ∀ rest, get (put item ++ rest) = some (item, rest)) (rest : Bytes) :
    getMany get items.length (items.flatMap put ++ rest) = some (items, rest) := by
  induction items with
  | nil => rfl
  | cons item items ih =>
    have first := each item List.mem_cons_self
    have others := ih fun other member =>
      each other (List.mem_cons_of_mem _ member)
    simp [getMany, first, others]

/-- A list is read as it was written if its length fits its field and each of its items is read
back. -/
theorem getList_putList {α : Type} {get : Reader α} {put : α → Bytes} {items : List α}
    (fits : items.length < Text.longWordBound)
    (each : ∀ item ∈ items, ∀ rest, get (put item ++ rest) = some (item, rest)) (rest : Bytes) :
    getList get (putList put items ++ rest) = some (items, rest) := by
  simp only [getList, putList, List.append_assoc, getNat_longWord fits, Option.bind_eq_bind,
    Option.bind_some, getMany_flatMap each]

/-- A time that the format can hold: no more seconds than a time may have, and no full second among
its nanoseconds. -/
structure FitsSignal (signal : Signal) : Prop where
  seconds : signal.seconds < Signal.secondsBound
  nanoseconds : signal.nanoseconds < Signal.perSecond

instance (signal : Signal) : Decidable (FitsSignal signal) :=
  decidable_of_iff (signal.seconds < Signal.secondsBound ∧ signal.nanoseconds < Signal.perSecond)
    ⟨fun ⟨seconds, nanoseconds⟩ => ⟨seconds, nanoseconds⟩,
      fun fits => ⟨fits.seconds, fits.nanoseconds⟩⟩

/-- A time is read as it was written if it fits; full seconds among the nanoseconds would be carried
over. -/
theorem getSignal_putSignal {signal : Signal} (fits : FitsSignal signal) (rest : Bytes) :
    getSignal (putSignal signal ++ rest) = some (signal, rest) := by
  have seconds : signal.seconds < Text.longWordBound := Nat.lt_trans fits.seconds (by decide)
  have nanoseconds : signal.nanoseconds < Text.wordBound :=
    Nat.lt_trans fits.nanoseconds (by decide)
  have carried : Signal.of? signal.seconds signal.nanoseconds = some signal := by
    simp [Signal.of?, Nat.div_eq_of_lt fits.nanoseconds, Nat.mod_eq_of_lt fits.nanoseconds,
      fits.seconds]
  simp only [getSignal, putSignal, List.append_assoc, getNat_longWord seconds,
    getNat_word nanoseconds, Option.bind_eq_bind, Option.bind_some, carried, Option.pure_def]

theorem getDialect_putNat (dialect : Dialect) (rest : Bytes) :
    getDialect (putNat 4 (dialectNumber dialect) ++ rest) = some (dialect, rest) := by
  have fits : dialectNumber dialect < Text.wordBound := by cases dialect <;> decide
  have found : Dialect.all.find? (dialectNumber · == dialectNumber dialect) = some dialect := by
    cases dialect <;> rfl
  simp only [getDialect, getNat_word fits, Option.bind_eq_bind, Option.bind_some, found,
    Option.pure_def]

theorem getEntry_putEntry {entry : Nat × Nat} (generated : entry.1 < Text.wordBound)
    (line : entry.2 < Text.wordBound) (rest : Bytes) :
    getEntry (putEntry entry ++ rest) = some (entry, rest) := by
  simp only [getEntry, putEntry, List.append_assoc, getNat_word generated, getNat_word line,
    Option.bind_eq_bind, Option.bind_some, Option.pure_def]

/-- A line map whose lines, on both sides, are 32-bit words. -/
def FitsLines (map : LineMap) : Prop :=
  ∀ entry ∈ map.toList, entry.1 < Text.wordBound ∧ entry.2 < Text.wordBound

instance (map : LineMap) : Decidable (FitsLines map) :=
  inferInstanceAs (Decidable (∀ entry ∈ map.toList, _))

/-- A line map whose lines are words has few enough of them for the field of its length: the
generated lines are different words. -/
theorem FitsLines.length_lt {map : LineMap} (fits : FitsLines map) :
    map.toList.length < Text.longWordBound := by
  have bounded : ∀ line ∈ map.toList.map (·.1), line < Text.wordBound := by
    intro line member
    obtain ⟨entry, found, rfl⟩ := List.mem_map.mp member
    exact (fits entry found).1
  have distinct : (map.toList.map (·.1)).Nodup := by
    rw [List.Nodup, List.pairwise_map]
    exact map.distinct_keys_toList.imp fun differ same => differ (by simp [same])
  have few : (map.toList.map (·.1)).toFinset.card ≤ (Finset.range Text.wordBound).card :=
    Finset.card_le_card fun line member =>
      Finset.mem_range.mpr (bounded line (List.mem_toFinset.mp member))
  rw [List.toFinset_card_of_nodup distinct, List.length_map, Finset.card_range] at few
  exact Nat.lt_of_le_of_lt few (by decide)

/-- A line map is the map of its entries, so it is enough to write these. -/
theorem ofList_toList (map : LineMap) : Std.ExtTreeMap.ofList map.toList = map := by
  apply Std.ExtTreeMap.ext_getElem?
  intro line
  cases found : map[line]? with
  | some source =>
    exact Std.ExtTreeMap.getElem?_ofList_of_mem Std.compare_self map.distinct_keys_toList
      (Std.ExtTreeMap.mem_toList_iff_getElem?_eq_some.mpr found)
  | none =>
    apply Std.ExtTreeMap.getElem?_ofList_of_contains_eq_false
    simpa using found

/-- An artifact that the format can hold: its texts, its time and its line map fit their fields. -/
structure FitsArtifact (artifact : Artifact) : Prop where
  sourcePath : FitsText artifact.sourcePath
  fullSourcePath : FitsText artifact.fullSourcePath
  outputPath : FitsText artifact.outputPath
  fullOutputPath : FitsText artifact.fullOutputPath
  signal : FitsSignal artifact.signal
  lineMap : FitsLines artifact.lineMap

instance (artifact : Artifact) : Decidable (FitsArtifact artifact) :=
  decidable_of_iff
    ((FitsText artifact.sourcePath ∧ FitsText artifact.fullSourcePath) ∧
      (FitsText artifact.outputPath ∧ FitsText artifact.fullOutputPath) ∧
      FitsSignal artifact.signal ∧ FitsLines artifact.lineMap)
    ⟨fun ⟨⟨source, fullSource⟩, ⟨output, fullOutput⟩, signal, lines⟩ =>
        ⟨source, fullSource, output, fullOutput, signal, lines⟩,
      fun fits => ⟨⟨fits.sourcePath, fits.fullSourcePath⟩, ⟨fits.outputPath, fits.fullOutputPath⟩,
        fits.signal, fits.lineMap⟩⟩

/-- An artifact is read as it was written. The fields follow each other, and each is read with the
next ones behind it. -/
theorem getArtifact_putArtifact {artifact : Artifact} (fits : FitsArtifact artifact)
    (rest : Bytes) : getArtifact (putArtifact artifact ++ rest) = some (artifact, rest) := by
  have entries : ∀ entry ∈ artifact.lineMap.toList, ∀ rest : Bytes,
      getEntry (putEntry entry ++ rest) = some (entry, rest) := fun entry member =>
    getEntry_putEntry (fits.lineMap entry member).1 (fits.lineMap entry member).2
  simp only [getArtifact, putArtifact, List.append_assoc, getText_putText fits.sourcePath,
    getText_putText fits.fullSourcePath, getText_putText fits.outputPath,
    getText_putText fits.fullOutputPath, getSignal_putSignal fits.signal, getDialect_putNat,
    getList_putList fits.lineMap.length_lt entries, Option.bind_eq_bind, Option.bind_some,
    ofList_toList, Option.pure_def]

/-- A manifest that the format can hold. The version may be another than the current one. -/
structure Fits (manifest : Manifest) : Prop where
  version : manifest.version < Text.wordBound
  fingerprint : FitsText manifest.fingerprint
  count : manifest.artifacts.length < Text.longWordBound
  artifacts : ∀ artifact ∈ manifest.artifacts, FitsArtifact artifact

/-- A manifest is read as it was written, and what follows it is left unread. -/
theorem get_encode {manifest : Manifest} (fits : manifest.Fits) (rest : Bytes) :
    get (manifest.encode ++ rest) = some (manifest, rest) := by
  have listed := getList_putList fits.count fun artifact member =>
    getArtifact_putArtifact (fits.artifacts artifact member)
  simp only [get, encode, List.append_assoc, getNat_word fits.version,
    getText_putText fits.fingerprint, listed, Option.bind_eq_bind, Option.bind_some,
    Option.pure_def]

theorem decode?_encode {manifest : Manifest} (fits : manifest.Fits) :
    decode? manifest.encode = some manifest := by
  have read := get_encode fits []
  rw [List.append_nil] at read
  rw [decode?, read, Option.map_some]

end DialectLoader.Manifest
