import DialectLoader.Proofs.Path.Extension
import DialectLoader.Proofs.Pipeline.Built
import DialectLoader.Proofs.Realm.Run

/-!
# Answers to redirected requests

A request for a Lua file or for a script is answered with generated code. The path of that code
comes about in several steps: a script is looked for beside the Lua file, the cache is asked for the
script in its common spelling, and the answer is the path of the code of whatever artifact was
stored under it. Each step keeps what is before the extension, up to spelling. So the answer names
the file that was asked for, with the extension of generated code, even if the artifact was compiled
under another spelling.

The answer is a path. That the host loads what is there, and finds it under any spelling, is its own
affair.
-/

namespace DialectLoader

namespace Path

theorem setExtension_setExtension (path : String) {first second : String}
    (isFirst : IsExtension first) (isSecond : IsExtension second) :
    setExtension (setExtension path first) second = setExtension path second := by
  apply String.toList_inj.mp
  have spelled := setExtension_toList isFirst path
  rw [← List.append_assoc] at spelled
  rw [setExtension_of_extension? (extension?_setExtension path isFirst) spelled isSecond,
    setExtension_toList isSecond path, List.append_assoc]

/-- A path that has an extension in some letter case is spelled the same way with that extension
set. -/
theorem normalize_setExtension {path ext : String} (isExtension : IsExtension ext)
    (ends : endsWith path ("." ++ ext) = true) :
    normalize (setExtension path ext) = normalize path := by
  obtain ⟨letters, named, lower⟩ := exists_extension_of_endsWith isExtension ends
  obtain ⟨visible, plain, front, spelled⟩ := extension?_eq_some_iff.mp named
  obtain ⟨start, grows⟩ := exists_normalize_append front
  have before := grows letters.toList (mt String.toList_eq_nil_iff.mp visible) fun c member =>
    (plain c member).1
  have behind := grows ext.toList isExtension.isName.ne_nil isExtension.isName.clear
  have kept := List.map_congr_left isExtension.isName.lower
  rw [← spelled, String.ofList_toList, lower] at before
  rw [← setExtension_of_extension? named spelled isExtension, String.ofList_toList, kept,
    List.map_id'] at behind
  exact String.toList_inj.mp (behind.trans before.symm)

end Path

/-- Spellings of one script have spellings of one output, so an artifact under another spelling has
the right code. -/
theorem Dialect.normalize_output_congr {left right : String} (first : (ofPath? left).isSome = true)
    (second : (ofPath? right).isSome = true) (same : Path.normalize left = Path.normalize right) :
    Path.normalize (Path.output left) = Path.normalize (Path.output right) := by
  obtain ⟨_, named⟩ := exists_extension first
  obtain ⟨_, other⟩ := exists_extension second
  rw [← Path.output_normalize named, ← Path.output_normalize other, same]

/-- A consistent cache in which every artifact is of a script and says where its code goes. -/
structure Cache.OfScripts (cache : Cache) : Prop where
  consistent : cache.Consistent
  script : ∀ artifact ∈ cache.artifacts, (Dialect.ofPath? artifact.sourcePath).isSome = true
  output : ∀ artifact ∈ cache.artifacts, artifact.outputPath = Path.output artifact.sourcePath

namespace Pipeline

variable {σ : Type} [FileStore σ] {pipeline : Pipeline σ} {logical : String} {artifact : Artifact}

/-- In a cache that was built with a configuration every artifact is of a script, whatever compilers
were used. -/
theorem Built.ofScripts {config : Config} {cache : Cache} (built : Built config cache) :
    cache.OfScripts := by
  have filled : cache.Filled fun artifact => (Dialect.ofPath? artifact.sourcePath).isSome = true ∧
      artifact.outputPath = Path.output artifact.sourcePath :=
    built.filled fun _ _ {_} _ _ _ script => ⟨script, rfl⟩
  exact ⟨filled.consistent, fun artifact live => (filled.each artifact live).1,
    fun artifact live => (filled.each artifact live).2⟩

/-- The code of a script that was compiled or reused is a spelling of the script's output. -/
theorem compile_output {workspace : Workspace σ} (known : workspace.cache.OfScripts)
    (script : (Dialect.ofPath? logical).isSome = true) {force : Bool}
    (done : (pipeline.compile workspace logical force).1 = .ok artifact) :
    Path.normalize artifact.outputPath = Path.normalize (Path.output logical) := by
  obtain ⟨result, caching, answer⟩ := compile_caching pipeline workspace logical force
  rw [done] at answer
  generalize (pipeline.compile workspace logical force).2.cache = changed at caching
  cases caching with
  | failed error => cases answer
  | @reused stored found =>
    obtain rfl : artifact = stored := Except.ok.inj answer
    have live : artifact ∈ workspace.cache.artifacts := Cache.mem_artifacts.mpr ⟨_, found⟩
    rw [known.output artifact live]
    exact Dialect.normalize_output_congr (known.script artifact live) script
      (known.consistent.keyed found)
  | recorded =>
    cases answer
    rfl

end Pipeline

namespace Realm

section Answers

variable {σ : Type} [FileStore σ] {realm : Realm σ} {file source code : String}

/-- What a request finds is a script, and its code is called like the file that was asked for. -/
theorem output_of_findSource (found : realm.findSource file = some source) :
    (Dialect.ofPath? source).isSome = true ∧
    Path.output source = Path.setExtension file Path.luaExtension := by
  unfold findSource at found
  split at found
  · rename_i script
    split at found
    · obtain rfl := Option.some.inj found
      exact ⟨script, rfl⟩
    · cases found
  · split at found
    · obtain ⟨dialect, _, rfl⟩ := List.mem_map.mp (List.mem_of_find?_eq_some found)
      have isExtension := Path.isExtension_dialect dialect
      refine ⟨?_, Path.setExtension_setExtension file isExtension Path.isExtension_lua⟩
      rw [Dialect.ofPath?, Path.extension?_setExtension file isExtension]
      cases dialect <;> decide
    · cases found

/-- Nothing is found for a script that is not there, for a Lua file without a script beside it, and
for any other file. -/
theorem findSource_eq_none_iff : realm.findSource file = none ↔
    ((Dialect.ofPath? file).isSome = true ∧ realm.hasScript file = false) ∨
      (Dialect.ofPath? file = none ∧ (Path.endsWith file ("." ++ Path.luaExtension) = false ∨
        ∀ dialect : Dialect, realm.hasScript (Path.setExtension file dialect.extension) =
          false)) := by
  unfold findSource
  cases Dialect.ofPath? file with
  | some dialect =>
    cases realm.hasScript file <;> simp
  | none =>
    cases Path.endsWith file ("." ++ Path.luaExtension) with
    | false => simp
    | true =>
      simp only [Option.isSome_none, Bool.false_eq_true, if_false, if_true, List.find?_eq_none,
        List.mem_map, false_and, false_or, true_and, reduceCtorEq]
      constructor
      · intro absent dialect
        simpa using absent _ ⟨dialect, by cases dialect <;> decide, rfl⟩
      · rintro absent _ ⟨dialect, _, rfl⟩
        simp [absent dialect]

theorem compile_output (known : realm.workspace.cache.OfScripts)
    (script : (Dialect.ofPath? source).isSome = true) {artifact : Artifact}
    (done : (realm.compile source).1 = .ok artifact) :
    Path.normalize artifact.outputPath = Path.normalize (Path.output source) := by
  have same : (realm.compile source).1 =
      (realm.pipeline.compile realm.workspace source false).1 := by
    unfold Realm.compile
    rcases realm.pipeline.compile realm.workspace source false with ⟨_ | _, _⟩ <;> rfl
  exact Pipeline.compile_output known script (same.symm.trans done)

/-- A script that is served is not passed through, and the code to be run is that of the script. -/
theorem serve_answer (known : realm.workspace.cache.OfScripts)
    (script : (Dialect.ofPath? source).isSome = true) :
    (realm.serve source).1 ≠ .passThrough ∧
      ∀ code, (realm.serve source).1 = .run code →
      Path.normalize code = Path.normalize (Path.output source) := by
  have output {artifact : Artifact} := @compile_output _ _ realm source known script artifact
  unfold serve
  generalize realm.compile source = done at output ⊢
  obtain ⟨_ | artifact, later⟩ := done
  · exact ⟨by simp, by simp⟩
  · refine ⟨by simp, fun code told => ?_⟩
    rw [← Response.run.inj told]
    exact output rfl

/-- A request passes through exactly if nothing is found, and what is to be run is the code of what
is found. The reason of the request makes no difference. -/
theorem prepare_answer (known : realm.workspace.cache.OfScripts) (file : String) (reason : Reason) :
    ((realm.prepare file reason).1 = .passThrough ↔ realm.findSource file = none) ∧
      ∀ code, (realm.prepare file reason).1 = .run code →
        Path.normalize code = Path.normalize (Path.setExtension file Path.luaExtension) := by
  unfold prepare
  cases found : realm.findSource file with
  | none => simp
  | some source =>
    obtain ⟨script, output⟩ := output_of_findSource found
    have served (included : Std.ExtTreeSet String) :
        (({ realm with included }.serve source).1 = .passThrough ↔ some source = none) ∧
          ∀ code, ({ realm with included }.serve source).1 = .run code →
            Path.normalize code = Path.normalize (Path.setExtension file Path.luaExtension) := by
      obtain ⟨answered, code⟩ := @serve_answer _ _ { realm with included } source known script
      rw [output] at code
      exact ⟨by simp [answered], code⟩
    cases reason with
    | inclusion => exact served _
    | startup => exact served realm.included
    | hostReload => simp
    | ownReload =>
      dsimp only
      split
      · exact served realm.included
      · simp

/-- What a client is sent for a script that is found is the code of the script. -/
theorem clientFile_answer (known : realm.workspace.cache.OfScripts)
    (found : realm.findSource file = some source) (sent : (realm.clientFile file).1 = .ok code) :
    Path.normalize code = Path.normalize (Path.setExtension file Path.luaExtension) := by
  obtain ⟨script, named⟩ := output_of_findSource found
  have output {artifact : Artifact} := @compile_output _ _ realm source known script artifact
  unfold clientFile at sent
  rw [found] at sent
  dsimp only at sent
  generalize realm.compile source = done at output sent
  obtain ⟨_ | artifact, later⟩ := done
  · cases sent
  · rw [← Except.ok.inj sent, ← named]
    exact output rfl

end Answers

/-- A realm whose cache was built with its configuration answers every request for a file that it
redirects with the path of that file, up to spelling, and with the extension of generated code. This
is the path of a Lua file itself. It passes a request through exactly if the file is a script that
is not there, or is neither a script nor a Lua file with a script beside it. -/
theorem redirected_requests_answered (realm : Realm MemoryFiles)
    (built : Pipeline.Built realm.config realm.workspace.cache) (file : String) :
    (∀ reason code, (realm.prepare file reason).1 = .run code →
      Path.normalize code = Path.normalize (Path.setExtension file Path.luaExtension)) ∧
    (∀ source code, realm.findSource file = some source → (realm.clientFile file).1 = .ok code →
      Path.normalize code = Path.normalize (Path.setExtension file Path.luaExtension)) ∧
    (Path.endsWith file ("." ++ Path.luaExtension) = true →
      Path.normalize (Path.setExtension file Path.luaExtension) = Path.normalize file) ∧
    ∀ reason, (realm.prepare file reason).1 = .passThrough ↔
      ((Dialect.ofPath? file).isSome = true ∧ realm.hasScript file = false) ∨
        (Dialect.ofPath? file = none ∧ (Path.endsWith file ("." ++ Path.luaExtension) = false ∨
          ∀ dialect : Dialect, realm.hasScript (Path.setExtension file dialect.extension) =
            false)) := by
  have known := built.ofScripts
  refine ⟨fun reason => ?_, fun source code found sent => ?_, ?_, fun reason => ?_⟩
  · exact (prepare_answer known file reason).2
  · exact clientFile_answer known found sent
  · exact Path.normalize_setExtension Path.isExtension_lua
  · rw [(prepare_answer known file reason).1]
    exact findSource_eq_none_iff

/-- A realm on two files whose names differ in the case of a letter; the newer one was compiled. -/
def capitalised : Realm MemoryFiles :=
  let pipeline := Pipeline.ofBackends { sampleConfig with persistManifest := false } sampleBackends
  let files :=
    (({} : MemoryFiles).addFile "l/A.moon" (Text.utf8 "x")).addFile "l/a.moon" (Text.utf8 "y")
  { pipeline
    host := ⟨fun _ => true⟩
    workspace :=
    (pipeline.compile { store := files, watch := { debounceMs := 0 } } "a.moon" false).2 }

/-- The older file is requested as a Lua file in capital letters, and answered with the code of the
newer one, whose spelling is the same. A Lua file without a script beside it is passed through. -/
theorem redirected_requests_answered_capitalised :
    (capitalised.prepare "A.LUA" .startup).1 = .run "a.lua" ∧
      (capitalised.clientFile "A.moon").1 = .ok "a.lua" ∧
      Path.normalize "a.lua" = Path.normalize "A.LUA" ∧
        (capitalised.prepare "b.lua" .inclusion).1 = .passThrough := by
  have built : Pipeline.Built capitalised.config capitalised.workspace.cache := by
    unfold capitalised
    apply Pipeline.Built.compile
    exact .empty
  obtain ⟨run, _, lua, _⟩ := redirected_requests_answered capitalised built "A.LUA"
  obtain ⟨_, _, _, passes⟩ := redirected_requests_answered capitalised built "b.lua"
  have answer : (capitalised.prepare "A.LUA" .startup).1 = .run "a.lua" := by decide +kernel
  refine ⟨answer, by decide +kernel, ?_, (passes _).mpr (.inr ⟨by decide, .inr ?_⟩)⟩
  · exact (run _ _ answer).trans (lua (by decide))
  · intro dialect
    cases dialect <;> decide +kernel

end Realm

end DialectLoader
