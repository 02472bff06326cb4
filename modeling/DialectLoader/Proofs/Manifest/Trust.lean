import DialectLoader.Proofs.Json.Grammar
import DialectLoader.Proofs.Manifest.Stored

/-!
# Under which options a manifest is trusted

A manifest names the options of its artifacts by a digest of their written form. The written form is
JSON, so what it says can be read from it, the name of the Lua version included, whatever characters
are in it. Hence two options with one written form are the same, and nothing but a collision of the
digest gives two options one fingerprint. A manifest is therefore refused under all options but its
own.

That the digest has no collision is nowhere assumed in general, as it is false of any digest; it is
a hypothesis about the two options in question. The digest itself is the one the program computes.
-/

namespace DialectLoader

namespace Digest

theorem digits_injective {left right : UInt8}
    (high : Nat.digitChar (left.toNat / 16) = Nat.digitChar (right.toNat / 16))
    (low : Nat.digitChar (left.toNat % 16) = Nat.digitChar (right.toNat % 16)) : left = right := by
  have apart : ∀ first < 16, ∀ second < 16, Nat.digitChar first = Nat.digitChar second →
      first = second := by decide
  have leftBound := left.toNat_lt
  have rightBound := right.toNat_lt
  have highs := apart _ (by omega) _ (by omega) high
  have lows := apart _ (by omega) _ (by omega) low
  apply UInt8.toNat_inj.mp
  omega

/-- The hexadecimal form of bytes stands for them alone, so fingerprints are as different as the
digests that they spell. -/
theorem hex_injective {left right : Bytes} (same : hex left = hex right) : left = right := by
  replace same := String.ofList_injective same
  induction left generalizing right with
  | nil =>
    cases right with
    | nil => rfl
    | cons byte rest => cases same
  | cons byte rest ih =>
    cases right with
    | nil => cases same
    | cons other others =>
      simp only [List.flatMap_cons, List.cons_append, List.nil_append, List.cons.injEq] at same
      obtain ⟨high, low, behind⟩ := same
      rw [digits_injective high low, ih behind]

end Digest

namespace Options

open Json (Spelled memberText spelled_text spelled_lastMember spelled_member)

/-- The JSON value that the options are written as, from which they can be read off. -/
def asJson (options : Options) : Json :=
  .object [(some "implicitlyReturnRoot", .bool options.implicitReturn),
    (some "reserveLineNumbers", .bool options.reserveLines),
    (some "targetLua", .text options.targetLua)]

/-- The bytes whose digest is the fingerprint: the written form of the options. -/
def digested (options : Options) : Bytes :=
  Text.utf8 (String.ofList options.canonicalText)

theorem spelled_boolText (value : Bool) : Spelled (.value (.bool value)) (boolText value) := by
  cases value with
  | true => exact .trueWord
  | false => exact .falseWord

/-- The written form of the options spells their value. The Lua version is quoted in it, so any
characters may be in its name. -/
theorem spelled_canonicalText (options : Options) :
    Spelled (.value options.asJson) options.canonicalText := by
  have members := spelled_member "implicitlyReturnRoot" (spelled_boolText options.implicitReturn)
    (spelled_member "reserveLineNumbers" (spelled_boolText options.reserveLines)
      (spelled_lastMember "targetLua" (spelled_text options.targetLua)))
  have object := Spelled.object members
  simp only [memberText, List.append_assoc, List.cons_append] at object
  -- The fixed parts are variables here, so that the steps below do not compare their characters.
  have assembled {opening second third closing : List Char}
      (opens : opening =
        '{' :: '"' :: ("implicitlyReturnRoot".toList.flatMap Json.escape ++ ['"', ':']))
      (goesOn : second =
        ',' :: '"' :: ("reserveLineNumbers".toList.flatMap Json.escape ++ ['"', ':']))
      (ends : third = ',' :: '"' :: ("targetLua".toList.flatMap Json.escape ++ ['"', ':']))
        (closes : closing = ['}']) :
      Spelled (.value options.asJson) (opening ++ boolText options.implicitReturn ++ second ++
        boolText options.reserveLines ++ third ++ Json.quote options.targetLua.toList ++
        closing) := by
    subst opens goesOn ends closes
    simp only [List.append_assoc, List.cons_append, List.nil_append]
    exact object
  exact assembled (by decide) (by decide) (by decide) (by decide)

/-- Options with one written form are the same, because the form is read as one value and the value
tells all options. -/
theorem canonicalText_injective {left right : Options}
    (same : left.canonicalText = right.canonicalText) :
    left = right := by
  have first := (spelled_canonicalText left).parse?
  have second := (spelled_canonicalText right).parse?
  rw [same] at first
  have values : left.asJson = right.asJson := Option.some.inj (first.symm.trans second)
  cases left
  cases right
  simp only [asJson, Json.object.injEq, List.cons.injEq, Prod.mk.injEq, Json.bool.injEq,
    Json.text.injEq, true_and, and_true] at values
  obtain ⟨rfl, rfl, rfl⟩ := values
  rfl

theorem digested_injective {left right : Options} (same : left.digested = right.digested) :
    left = right := by
  have read := congrArg Text.ofUtf8? same
  rw [digested, digested, Text.ofUtf8?_utf8, Text.ofUtf8?_utf8] at read
  exact canonicalText_injective (String.ofList_injective (Option.some.inj read))

/-- The digest has no collision on the written forms of two options. This is asked of the two and of
no others. -/
def ApartFrom (left right : Options) : Prop :=
  Digest.blake3 left.digested = Digest.blake3 right.digested → left.digested = right.digested

/-- Without a collision two options have one fingerprint only if they are the same. -/
theorem ApartFrom.eq_of_fingerprint {left right : Options} (apart : left.ApartFrom right)
    (same : left.fingerprint = right.fingerprint) : left = right :=
  digested_injective (apart (Digest.hex_injective same))

end Options

namespace Pipeline

section Stores

variable {σ : Type} [FileStore σ] {pipeline : Pipeline σ} {store : σ}

/-- A manifest that was written under some options and is accepted was written under those of the
pipeline, whatever artifacts it lists. -/
theorem Holds.eq_of_accepted {options : Options} {artifacts : List Artifact}
    (holds : pipeline.Holds store ⟨Manifest.currentVersion, options.fingerprint, artifacts⟩)
    (apart : options.ApartFrom pipeline.config.compileOptions) {found : Manifest}
    (read : pipeline.readManifest store = .ok found) : options = pipeline.config.compileOptions :=
  apart.eq_of_fingerprint (holds.fingerprint rfl (Manifest.fitsText_fingerprint options) read)

/-- A manifest that fits its fields is accepted under its own options and refused for its options
under others. There is no third outcome. -/
theorem Holds.accepted_or_refused {options : Options} {artifacts : List Artifact}
    (holds : pipeline.Holds store ⟨Manifest.currentVersion, options.fingerprint, artifacts⟩)
    (apart : options.ApartFrom pipeline.config.compileOptions)
    (fits : Manifest.Fits ⟨Manifest.currentVersion, options.fingerprint, artifacts⟩) :
    pipeline.readManifest store =
      if options = pipeline.config.compileOptions
      then .ok ⟨Manifest.currentVersion, options.fingerprint, artifacts⟩
      else .error .otherOptions := by
  rw [holds.readManifest_eq fits rfl]
  by_cases same : options = pipeline.config.compileOptions
  · rw [if_pos same, if_pos (congrArg Options.fingerprint same)]
  · rw [if_neg same, if_neg (mt apart.eq_of_fingerprint same)]

end Stores

/-- Options are told apart by their written form, and manifests by their options. Different options
have different written forms. So for two options on whose written forms the digest has no collision,
a manifest of the current version that was written under the first is accepted under the second only
if they are the same. This holds in every store in which the manifest is in its place, whatever
artifacts it lists. If the numbers of the artifacts fit their fields, the manifest is accepted under
its own options, and under others the options are named as the reason. In memory a manifest that was
saved is in its place. -/
theorem trusted_under_own_options_only :
    (∀ left right : Options, left.canonicalText = right.canonicalText → left = right) ∧
    ∀ left right : Options,
      (Digest.blake3 left.digested = Digest.blake3 right.digested →
        left.digested = right.digested) →
      (∀ {σ : Type} [FileStore σ] (loader : Pipeline σ) (store : σ) (artifacts : List Artifact),
        let manifest : Manifest := ⟨Manifest.currentVersion, left.fingerprint, artifacts⟩
        loader.config.compileOptions = right → loader.Holds store manifest →
          (∀ found, loader.readManifest store = .ok found → left = right) ∧
          (manifest.Fits → loader.readManifest store = if left = right then .ok manifest
            else .error .otherOptions)) ∧
      ∀ (saver loader : Pipeline MemoryFiles) (workspace saved : Workspace MemoryFiles),
        saver.config.compileOptions = left → loader.config.compileOptions = right →
        loader.config.outputRoot = saver.config.outputRoot →
          saver.saveManifest workspace = (.ok (), saved) →
          loader.Holds saved.store (Manifest.ofCache workspace.cache left.fingerprint) ∧
          ∀ found, loader.readManifest saved.store = .ok found → left = right := by
  refine ⟨fun left right => Options.canonicalText_injective, fun left right apart => ⟨?_, ?_⟩⟩
  · rintro σ _ loader store artifacts manifest rfl holds
    exact ⟨fun found read => holds.eq_of_accepted apart read, holds.accepted_or_refused apart⟩
  · rintro saver loader workspace saved rfl rfl sameRoot done
    have holds := holds_saveManifest sameRoot done
    exact ⟨holds, fun found read => holds.eq_of_accepted apart read⟩

/-- Options whose Lua version is a control character, which is written as a backslash and a
letter. -/
def control : Options := { targetLua := "\x08" }

/-- Options whose Lua version is a backslash and that letter. -/
def spelledOut : Options := { targetLua := "\\b" }

/-- The pipeline under some options that has its cache in one directory. -/
def under (compileOptions : Options) : Pipeline MemoryFiles :=
  ⟨{ cacheRoot := "c", compileOptions }, ⟨fun _ _ _ store => (.failure "" "" none, store)⟩⟩

/-- A manifest that was saved under the first of these options is refused under the second, and
accepted under the first. -/
theorem control_trusted_under_own_options_only :
    let artifact : Artifact :=
      ⟨"a.moon", "l/a.moon", "a.lua", "c/a.lua", ⟨1, 0⟩, .moonScript, .ofList [(1, 1)]⟩
    let workspace : Workspace MemoryFiles :=
      { store := {}, cache := Cache.empty.insert artifact, watch := { debounceMs := 0 } }
    let saved := ((under control).saveManifest workspace).2
    control.canonicalText ≠ spelledOut.canonicalText ∧
      (under spelledOut).readManifest saved.store = .error .otherOptions ∧
      (under control).readManifest saved.store =
        .ok (Manifest.ofCache workspace.cache control.fingerprint) := by
  intro artifact workspace saved
  obtain ⟨texts, trusted⟩ := trusted_under_own_options_only
  have other : control ≠ spelledOut := by decide
  have differ : Digest.blake3 control.digested ≠ Digest.blake3 spelledOut.digested := by
    decide +kernel
  have done : (under control).saveManifest workspace = (.ok (), saved) := Prod.ext rfl rfl
  have fits : (Manifest.ofCache workspace.cache control.fingerprint).Fits :=
    ⟨by decide, Manifest.fitsText_fingerprint control, by decide +kernel, by decide +kernel⟩
  obtain ⟨elsewhere, moved⟩ := trusted control spelledOut fun same => absurd same differ
  obtain ⟨here, kept⟩ := trusted control control fun _ => rfl
  have refused :=
    (elsewhere _ _ _ rfl (moved (under control) (under spelledOut) _ _ rfl rfl rfl done).1).2 fits
  have accepted :=
    (here _ _ _ rfl (kept (under control) (under control) _ _ rfl rfl rfl done).1).2 fits
  rw [if_neg other] at refused
  rw [if_pos rfl] at accepted
  exact ⟨mt (texts _ _) other, refused, accepted⟩

end Pipeline

end DialectLoader
