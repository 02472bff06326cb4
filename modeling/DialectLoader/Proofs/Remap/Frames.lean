import DialectLoader.Proofs.Path.Extension
import DialectLoader.Proofs.Remap.Agreement
import DialectLoader.Proofs.Remap.PassThrough

/-!
# Frames that were remapped before

Remapping shows the path of a script in place of that of its code. As long as scripts and generated
code are told apart by their extensions, the path of a script spells that of no code, with a mark in
front of it or without. So what has been remapped is not managed any more and stays as it is,
whatever the cache root and the search path have in common.

That a cache tells scripts and code apart is a hypothesis here. Which caches do is shown with the
identities that a pipeline gives to artifacts.
-/

namespace DialectLoader.Remap

/-- A cache in which the paths of scripts and of generated code are told apart: all code ends in
`.lua`, and every script has the extension of a dialect. -/
structure ToldApart (cache : Cache) : Prop where
  code : ∀ artifact ∈ cache.artifacts, Path.endsWith artifact.fullOutputPath ".lua" = true
  source : ∀ artifact ∈ cache.artifacts, (Dialect.ofPath? artifact.fullSourcePath).isSome = true

/-- A mark does not change the dialect of a path, as it stands in front and the extension at the
end. -/
theorem ofPath?_marked (path : String) :
    (Dialect.ofPath? ("@" ++ path)).isSome = (Dialect.ofPath? path).isSome := by
  have spelled : ("@" ++ path).toList = '@' :: path.toList := by
    rw [String.toList_append]
    rfl
  have same : Path.extension? ("@" ++ path) = Path.extension? path := by
    apply Option.ext
    intro ext
    constructor
    · intro named
      rw [← String.ofList_toList (s := "@" ++ path), spelled] at named
      exact Path.extension?_of_cons (by decide) named
    · intro named
      exact Path.extension?_of_suffix named ⟨['@'], by simp [spelled]⟩
  rw [Dialect.ofPath?, same, ← Dialect.ofPath?]

theorem Managed.ofPath?_display (managed : Managed) :
    (Dialect.ofPath? managed.display).isSome =
      (Dialect.ofPath? managed.artifact.fullSourcePath).isSome := by
  obtain ⟨marked, artifact⟩ := managed
  cases marked with
  | true => exact ofPath?_marked artifact.fullSourcePath
  | false => rfl

section Apart

variable {view : View} (consistent : view.cache.Consistent) (apart : ToldApart view.cache)

include consistent apart

/-- What has the extension of a dialect stands for no code, because all code ends in another one. -/
theorem managed?_of_script {chunk : String} (script : (Dialect.ofPath? chunk).isSome = true) :
    view.managed? chunk = none := by
  cases found : view.managed? chunk with
  | none => rfl
  | some managed =>
    have manages := (View.managed?_eq_some_iff consistent).mp found
    obtain ⟨path, rfl, _, named⟩ := manages.spelled
    have inner : (Dialect.ofPath? path).isSome = true := by
      split at script
      · rwa [ofPath?_marked] at script
      · exact script
    exact absurd named (Dialect.normalize_ne_of_endsWith inner (apart.code _ manages.live))

/-- What is shown for a chunk stands for no code: it is the path of a script, or a chunk that stood
for none before. -/
theorem managed?_frame (chunk : String) (line : Int) :
    view.managed? (view.frame chunk line).1 = none := by
  cases found : view.managed? chunk with
  | none => rw [frame_of_unmanaged found, found]
  | some managed =>
    have script := apart.source _ ((View.managed?_eq_some_iff consistent).mp found).live
    have shown : (view.frame chunk line).1 = managed.display := by rw [View.frame, found]
    rw [shown]
    exact managed?_of_script consistent apart (by rw [Managed.ofPath?_display, script])

/-- A frame that was remapped stays as it is, so handing it on to be remapped again does no harm. -/
theorem View.frame_frame (chunk : String) (line : Int) :
    view.frame (view.frame chunk line).1 (view.frame chunk line).2 = view.frame chunk line := by
  rw [frame_of_unmanaged (managed?_frame consistent apart chunk line)]

/-- A debug record that was remapped stays as it is, also if only one of its two names stood for
code. -/
theorem View.debugInfo_debugInfo (info : DebugInfo) :
    view.debugInfo (view.debugInfo info) = view.debugInfo info := by
  cases found : view.managed? info.source <|> view.managed? info.shortSource with
  | none =>
    have kept : view.debugInfo info = info := by rw [View.debugInfo, found]
    rw [kept, kept]
  | some managed =>
    have names : view.managed? (view.debugInfo info).source = none ∧
        view.managed? (view.debugInfo info).shortSource = none := by
      simp only [View.debugInfo, found]
      exact ⟨managed?_frame consistent apart _ _, managed?_frame consistent apart _ _⟩
    generalize view.debugInfo info = shown at names ⊢
    simp [View.debugInfo, names.1, names.2]

end Apart

end DialectLoader.Remap
