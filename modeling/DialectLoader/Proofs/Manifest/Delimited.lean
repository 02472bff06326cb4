import DialectLoader.Pipeline
import DialectLoader.Proofs.Manifest.RoundTrip

/-!
# The form of a manifest delimits itself

A reader is delimited when it looks only at the bytes that it takes: more input behind them changes
nothing but what is left. Readers of numbers and texts are, and following one delimited reader by
another gives a delimited reader again, so the reader of manifests is. What it gives moreover has
numbers that fit their fields, since it was read from fields of that width.

Three things follow about the byte form. A written manifest is read back whatever stands behind it.
No start of it is a manifest: with the missing bytes behind them nothing would be left, but the
reader would leave them. And what was read from any bytes can be written and is then read again,
even if the bytes were not those that writing gives: a time with full seconds among its nanoseconds,
a line map with entries out of order or twice.
-/

namespace DialectLoader.Text

/-- A text that was read from bytes has these bytes as its UTF-8 form. So its length is the one that
its field says. -/
theorem utf8_of_ofUtf8? {bytes : Bytes} {text : String} (read : ofUtf8? bytes = some text) :
    utf8 text = bytes := by
  unfold ofUtf8? String.fromUTF8? at read
  split at read
  · cases read
    rfl
  · cases read

end DialectLoader.Text

namespace DialectLoader.Signal

/-- A time that was carried over fits its fields, since carrying fails where the seconds would get
too many. -/
theorem fits_of_of? {seconds nanoseconds : Nat} {signal : Signal}
    (carried : of? seconds nanoseconds = some signal) :
    Manifest.FitsSignal signal := by
  simp only [of?] at carried
  split at carried
  · rename_i bounded
    cases carried
    exact ⟨bounded, Nat.mod_lt _ (by decide)⟩
  · cases carried

end DialectLoader.Signal

namespace DialectLoader.Manifest

/-- A reader that looks at nothing behind the bytes it takes, and that gives only values of a
kind. -/
structure Delimited {α : Type} (get : Reader α) (fits : α → Prop) : Prop where
  steady : ∀ {input rest : Bytes} {value : α}, get input = some (value, rest) →
    ∀ extra, get (input ++ extra) = some (value, rest ++ extra)
  fitting : ∀ {input rest : Bytes} {value : α}, get input = some (value, rest) → fits value

namespace Delimited

variable {α β : Type} {fits : α → Prop} {fitsNext : β → Prop}

/-- A value that is known without reading takes no bytes, so nothing behind can matter. -/
theorem value (fits : α → Prop) (found : Option α)
    (known : ∀ value, found = some value → fits value) :
    Delimited (fun input => found.bind fun value => some (value, input)) fits := by
  constructor
  · intro input rest value read extra
    obtain ⟨_, there, same⟩ := Option.bind_eq_some_iff.mp read
    cases same
    exact Option.bind_eq_some_iff.mpr ⟨value, there, rfl⟩
  · intro input rest value read
    obtain ⟨_, there, same⟩ := Option.bind_eq_some_iff.mp read
    cases same
    exact known value there

theorem mono {get : Reader α} {wider : α → Prop} (delimited : Delimited get fits)
    (weaker : ∀ value, fits value → wider value) : Delimited get wider :=
  ⟨delimited.steady, fun read => weaker _ (delimited.fitting read)⟩

/-- One reader after another is delimited if both are. The second may depend on what the first gave,
and need only be delimited for values of that kind. -/
theorem bind {first : Reader α} {next : α → Reader β} (delimited : Delimited first fits)
    (nextDelimited : ∀ value, fits value → Delimited (next value) fitsNext) :
    Delimited (fun input => (first input).bind fun read => next read.1 read.2) fitsNext := by
  constructor
  · intro input rest result read extra
    obtain ⟨⟨value, between⟩, front, back⟩ := Option.bind_eq_some_iff.mp read
    have later := (nextDelimited value (delimited.fitting front)).steady back extra
    exact Option.bind_eq_some_iff.mpr
      ⟨(value, between ++ extra), delimited.steady front extra, later⟩
  · intro input rest result read
    obtain ⟨⟨value, between⟩, front, back⟩ := Option.bind_eq_some_iff.mp read
    exact (nextDelimited value (delimited.fitting front)).fitting back

/-- A number of a given width fits it, as no more bytes than that were read. -/
theorem getNat (width : Nat) : Delimited (Manifest.getNat width) (· < Nat.pow 256 width) := by
  induction width with
  | zero =>
    constructor
    · rintro _ _ _ ⟨⟩ extra
      rfl
    · rintro _ _ _ ⟨⟩
      exact Nat.one_pos
  | succ width ih =>
    constructor
    · intro input rest value read extra
      cases input with
      | nil => cases read
      | cons byte behind =>
        obtain ⟨⟨high, left⟩, higher, same⟩ := Option.bind_eq_some_iff.mp read
        cases same
        exact Option.bind_eq_some_iff.mpr
          ⟨(high, rest ++ extra), ih.steady higher extra, rfl⟩
    · intro input rest value read
      cases input with
      | nil => cases read
      | cons byte behind =>
        obtain ⟨⟨high, left⟩, higher, same⟩ := Option.bind_eq_some_iff.mp read
        cases same
        have bound : high < Nat.pow 256 width := ih.fitting higher
        have low : byte.toNat < 256 := byte.toNat_lt
        have step : Nat.pow 256 (width + 1) = Nat.pow 256 width * 256 := rfl
        omega

theorem word : Delimited (Manifest.getNat 4) (· < Text.wordBound) :=
  getNat 4

theorem longWord : Delimited (Manifest.getNat 8) (· < Text.longWordBound) :=
  getNat 8

/-- A text is delimited by the length in front of it, which fits its field because it was read from
there. -/
theorem getText : Delimited Manifest.getText FitsText := by
  -- Both parts look at what was read: a length, and as many bytes behind it.
  have taken {input rest : Bytes} {text : String}
      (read : Manifest.getText input = some (text, rest)) :
      ∃ length between, Manifest.getNat 8 input = some (length, between) ∧ length ≤ between.length ∧
        Text.ofUtf8? (between.take length) = some text ∧ rest = between.drop length := by
    obtain ⟨⟨length, between⟩, front, back⟩ := Option.bind_eq_some_iff.mp read
    simp only [guard, Option.bind_eq_bind, Option.bind_eq_some_iff] at back
    obtain ⟨_, enough, there, valid, same⟩ := back
    cases same
    split at enough
    · rename_i bounded
      exact ⟨length, between, front, bounded, valid, rfl⟩
    · cases enough
  constructor
  · intro input rest text read extra
    obtain ⟨length, between, front, bounded, valid, rfl⟩ := taken read
    have more : length ≤ (between ++ extra).length := by
      rw [List.length_append]
      omega
    simp only [Manifest.getText, longWord.steady front extra, Option.bind_eq_bind, Option.bind_some,
      guard, if_pos more, List.take_append_of_le_length bounded,
      List.drop_append_of_le_length bounded, valid]
    rfl
  · intro input rest text read
    obtain ⟨length, between, front, bounded, valid, rfl⟩ := taken read
    have size : (Text.utf8 text).length = length := by
      rw [Text.utf8_of_ofUtf8? valid, List.length_take, Nat.min_eq_left bounded]
    have small : length < Text.longWordBound := longWord.fitting front
    rw [FitsText, size]
    exact small

/-- Several values one after another are delimited if each is, and as many are given as were asked
for. -/
theorem getMany {get : Reader α} (each : Delimited get fits) (count : Nat) :
    Delimited (Manifest.getMany get count) fun items => items.length = count ∧ ∀ item ∈ items,
    fits item := by
  induction count with
  | zero =>
    have none := value (fun items : List α => items.length = 0 ∧ ∀ item ∈ items, fits item)
      (some []) (by simp)
    exact none
  | succ count ih =>
    have both := each.bind fun item itemFits => ih.bind fun items itemsFit =>
      value (fun items => items.length = count + 1 ∧ ∀ item ∈ items, fits item)
        (some (item :: items))
        (by simpa using ⟨itemsFit.1, itemFits, itemsFit.2⟩)
    exact both

/-- A list is delimited by the length in front of it, which was read from its field and so fits. -/
theorem getList {get : Reader α} (each : Delimited get fits) :
    Delimited (Manifest.getList get) fun items => items.length < Text.longWordBound ∧
    ∀ item ∈ items, fits item := by
  have counted := longWord.bind fun count small =>
    (each.getMany count).mono (fun items itemsFit =>
      (⟨itemsFit.1 ▸ small, itemsFit.2⟩ : items.length < Text.longWordBound ∧ ∀ item ∈ items,
        fits item))
  exact counted

/-- A time that is read fits its fields, even if full seconds stood among its nanoseconds: they were
carried over. -/
theorem getSignal : Delimited Manifest.getSignal FitsSignal := by
  have parts := longWord.bind fun seconds _ => word.bind fun nanoseconds _ =>
    value FitsSignal (Signal.of? seconds nanoseconds) fun _ => Signal.fits_of_of?
  exact parts

theorem getDialect : Delimited Manifest.getDialect fun _ => True := by
  have numbered := word.bind fun number _ =>
    value (fun _ => True) (Dialect.all.find? (dialectNumber · == number)) fun _ _ => trivial
  exact numbered

theorem getEntry :
    Delimited Manifest.getEntry fun entry => entry.1 < Text.wordBound ∧
    entry.2 < Text.wordBound := by
  have lines := word.bind fun generated generatedFits => word.bind fun line lineFits =>
    value (fun entry => entry.1 < Text.wordBound ∧ entry.2 < Text.wordBound)
      (some (generated, line))
      (by rintro _ ⟨⟩; exact ⟨generatedFits, lineFits⟩)
  exact lines

/-- The entries of a line map that was read are among those that were read, so its lines are words.
Some may have been overwritten by later ones. -/
theorem fitsLines_ofList {entries : List (Nat × Nat)}
    (each : ∀ entry ∈ entries, entry.1 < Text.wordBound ∧ entry.2 < Text.wordBound) :
    FitsLines (.ofList entries) := by
  have kept (map : LineMap) (known : FitsLines map) : FitsLines (map.insertMany entries) := by
    induction entries generalizing map with
    | nil => simpa using known
    | cons entry rest ih =>
      obtain ⟨generated, line⟩ := entry
      rw [Std.ExtTreeMap.insertMany_cons]
      refine ih
        (fun other member => each other (List.mem_cons_of_mem _ member)) _ ?_
      rintro ⟨key, found⟩ member
      rw [Std.ExtTreeMap.mem_toList_iff_getElem?_eq_some, Std.ExtTreeMap.getElem?_insert] at member
      split at member
      · rename_i here
        have same := Std.LawfulEqCmp.eq_of_compare here
        cases member
        exact same ▸ each _ List.mem_cons_self
      · exact known (key, found) (Std.ExtTreeMap.mem_toList_iff_getElem?_eq_some.mpr member)
  rw [Std.ExtTreeMap.ofList_eq_insertMany_empty]
  exact kept ∅ (by simp [FitsLines])

theorem getArtifact : Delimited Manifest.getArtifact FitsArtifact := by
  have fields := getText.bind fun sourcePath source => getText.bind fun fullSourcePath fullSource =>
    getText.bind fun outputPath output => getText.bind fun fullOutputPath fullOutput =>
    getSignal.bind fun signal time => getDialect.bind fun dialect _ =>
    getEntry.getList.bind fun entries lines =>
    value FitsArtifact
      (some ⟨sourcePath, fullSourcePath, outputPath, fullOutputPath, signal, dialect,
        .ofList entries⟩)
      (by
        rintro _ ⟨⟩
        exact ⟨source, fullSource, output, fullOutput, time, fitsLines_ofList lines.2⟩)
  exact fields

/-- A manifest that is read fits its fields. The reader is delimited because it consists of readers
that are. -/
theorem get : Delimited Manifest.get Fits := by
  have fields := word.bind fun version versionFits =>
    getText.bind fun fingerprint fingerprintFits =>
    getArtifact.getList.bind fun artifacts artifactsFit =>
    value Fits (some ⟨version, fingerprint, artifacts⟩)
      (by rintro _ ⟨⟩; exact ⟨versionFits, fingerprintFits, artifactsFit.1, artifactsFit.2⟩)
  exact fields

end Delimited

/-- No start of a written manifest is one: the reader would leave the missing bytes, but of the
whole it leaves none. -/
theorem decode?_of_proper_start {manifest : Manifest} (fits : manifest.Fits) {cut : Bytes}
    (start : cut <+: manifest.encode) (proper : cut ≠ manifest.encode) : decode? cut = none := by
  obtain ⟨missing, whole⟩ := start
  have all := get_encode fits []
  rw [List.append_nil, ← whole] at all
  cases read : get cut with
  | none => rw [decode?, read, Option.map_none]
  | some found =>
    obtain ⟨early, rest⟩ := found
    have later := Delimited.get.steady read missing
    rw [all] at later
    have nothing : rest ++ missing = [] := (Prod.mk.inj (Option.some.inj later)).2.symm
    rw [(List.append_eq_nil_iff.mp nothing).2, List.append_nil] at whole
    exact absurd whole proper

/-- Bytes that are no manifest are reported as such when they are found in its place. What the
reader of the bytes would say about them is left out of the report. -/
theorem readManifest_of_malformed {σ : Type} [FileStore σ] {pipeline : Pipeline σ} {store : σ}
    {bytes : Bytes} (present : FileStore.isFile store (path pipeline.config.outputRoot) = true)
    (contents : FileStore.read store (path pipeline.config.outputRoot) = .ok bytes)
    (malformed : decode? bytes = none) : pipeline.readManifest store = .error .malformed := by
  rw [Pipeline.readManifest, if_pos present]
  simp only [contents, malformed]

/-- The byte form of manifests loses nothing, delimits itself and is stable. A manifest whose
numbers fit their fields is read back whatever follows it. Every shorter start of its form is
refused, and reported as malformed where it stands in the place of a manifest. What is read from any
bytes at all fits, and is read again from its own form. -/
theorem format_lossless_delimited_stable :
    (∀ manifest : Manifest, manifest.Fits →
      (∀ extra, decode? (manifest.encode ++ extra) = some manifest) ∧
      ∀ cut, cut <+: manifest.encode → cut ≠ manifest.encode →
        decode? cut = none ∧
        ∀ {σ : Type} [FileStore σ] (pipeline : Pipeline σ) (store : σ),
          FileStore.isFile store (path pipeline.config.outputRoot) = true →
          FileStore.read store (path pipeline.config.outputRoot) = .ok cut →
          pipeline.readManifest store = .error .malformed) ∧
    ∀ (bytes : Bytes) (manifest : Manifest), decode? bytes = some manifest →
      manifest.Fits ∧ decode? manifest.encode = some manifest := by
  refine ⟨fun manifest fits => ⟨fun extra => ?_, fun cut start proper => ?_⟩,
    fun bytes manifest read => ?_⟩
  · rw [decode?, get_encode fits extra, Option.map_some]
  · have refused := decode?_of_proper_start fits start proper
    exact ⟨refused, fun pipeline store present contents =>
      readManifest_of_malformed present contents refused⟩
  · obtain ⟨⟨found, rest⟩, there, rfl⟩ := Option.map_eq_some_iff.mp read
    have fits : found.Fits := Delimited.get.fitting there
    exact ⟨fits, decode?_encode fits⟩

/-- A manifest of an unknown version, with the last time there is, a text of several bytes a
character, and the greatest line. -/
def extreme : Manifest where
  version := Text.wordBound - 1
  fingerprint := "§"
  artifacts := [
    ⟨"ä/😀.moon", "l/ä/😀.moon", "ä/😀.lua", "", ⟨Signal.secondsBound - 1, Signal.perSecond - 1⟩,
      .moonScript, .ofList [(Text.wordBound - 1, 1), (1, Text.wordBound - 1)]⟩,
    ⟨"", "", "", "", ⟨0, 0⟩, .yueScript, ∅⟩]

/-- Bytes of a manifest that writing does not give: a time with three seconds among its nanoseconds,
and a line map that has its second entry before its first and a third one in place of the second. -/
def irregular : Bytes :=
  putNat 4 1 ++ putText "f" ++ putNat 8 1 ++
    (putText "a.moon" ++ putText "l/a.moon" ++ putText "a.lua" ++ putText "c/a.lua" ++
      (putNat 8 5 ++ putNat 4 (3 * Signal.perSecond + 7)) ++ putNat 4 0 ++
      putList putEntry [(4, 2), (1, 1), (4, 3)]) ++ [255]

/-- The extreme manifest is read back in front of other bytes, and not without its last byte, as its
readers find out too. The irregular bytes are read, differ from the form of what was read, and that
form is read as well. -/
theorem format_of_extreme :
    let stored := ({} : MemoryFiles).addFile "c/.manifest.bin" extreme.encode.dropLast
    let pipeline : Pipeline MemoryFiles :=
      ⟨{ cacheRoot := "c" }, ⟨fun _ _ _ store => (.failure "" "" none, store)⟩⟩
    (decode? (extreme.encode ++ [0, 1]) = some extreme ∧ decode? extreme.encode.dropLast = none ∧
      pipeline.readManifest stored = .error .malformed) ∧
    ∃ read, decode? irregular = some read ∧
      read.artifacts.map (fun artifact => (artifact.signal, artifact.lineMap.toList)) =
        [(⟨8, 7⟩, [(1, 1), (4, 3)])] ∧
      ¬ read.encode <+: irregular ∧ decode? read.encode = some read := by
  intro stored pipeline
  have fits : extreme.Fits := ⟨by decide, by decide +kernel, by decide, by decide +kernel⟩
  obtain ⟨written, stable⟩ := format_lossless_delimited_stable
  obtain ⟨lossless, delimited⟩ := written extreme fits
  have shorter : extreme.encode.dropLast ≠ extreme.encode := by
    intro same
    have lengths := congrArg List.length same
    have some : extreme.encode.length ≠ 0 := by decide +kernel
    rw [List.length_dropLast] at lengths
    omega
  obtain ⟨refused, reported⟩ := delimited _ ( List.dropLast_prefix extreme.encode) shorter
  refine ⟨⟨lossless _, refused, ?_⟩, ?_⟩
  · have place : path (Config.outputRoot { cacheRoot := "c" }) = "c/.manifest.bin" := by
      decide +kernel
    apply reported pipeline stored
    · change FileStore.isFile stored (path (Config.outputRoot { cacheRoot := "c" })) = true
      rw [place]
      simp [stored, FileStore.isFile, MemoryFiles.addFile]
    · change FileStore.read stored (path (Config.outputRoot { cacheRoot := "c" })) = _
      rw [place]
      simp [stored, FileStore.read, MemoryFiles.read, MemoryFiles.addFile]
  · have looked : ((decode? irregular).any fun read => decide
        (read.artifacts.map (fun artifact => (artifact.signal, artifact.lineMap.toList)) =
          [(⟨8, 7⟩, [(1, 1), (4, 3)])] ∧ ¬ read.encode <+: irregular)) = true := by
      decide +kernel
    obtain ⟨read, same, unlike⟩ := (Option.any_eq_true _ _).mp looked
    obtain ⟨carried, other⟩ := of_decide_eq_true unlike
    exact ⟨read, same, carried, other, (stable irregular read same).2⟩

end DialectLoader.Manifest
