import DialectLoader.Proofs.Realm.GeneratedCode

/-!
# A restart keeps the cache

A realm that is given up leaves its manifest and its generated code behind. The manifest always is
that of the cache in memory, every artifact has its code on disk, and reading a manifest undoes
writing it. So the next realm on the same files answers everything about the cache as the one before
it would have, whatever happened to the files outside the cache root in the meantime.

A realm is given up between two requests. One that is stopped while it writes may leave code that
its manifest does not list.
-/

namespace DialectLoader.Realm

open DialectLoader.Path (Normal)

variable {config : Config} {backends : Backends}

/-- A restart loses no artifact and makes none up: after every run that starts without a cache, a
new realm with the same configuration has the cache of the old one, whatever its backends and its
host. -/
theorem restart_keeps_cache (root : Normal config.cacheRoot) (directories : config.TidyDirectories)
    (persists : config.persistManifest = true) (unpurged : config.purgeOnStart = false)
    (host : Host) {store : MemoryFiles} (scripts : store.TidyScripts)
    (clean : ∀ path, MemoryFiles.isBelow config.cacheRoot path = true → store.files[path]? = none)
    {events : List Event} (admits : ∀ event ∈ events, event.Admits (Change.IsForeign config))
    (fits : (start (Pipeline.ofBackends config backends) host store).FitsAtRestarts
      (events ++ [.restart]))
    (laterBackends : Backends) (laterHost : Host) :
    let reached := ((start (Pipeline.ofBackends config backends) host store).run events).workspace
    let resumed :=
      (start (Pipeline.ofBackends config laterBackends) laterHost reached.store).workspace
    resumed.cache = reached.cache ∧ resumed.store = reached.store := by
  have trimmed : config.outputRoot = config.cacheRoot := root.trimEnd
  rw [← trimmed] at root clean
  obtain ⟨_, ⟨_, backed⟩, saved⟩ := run_saved root persists (Pipeline.kept_backed root directories)
    Pipeline.ignoresEvents_backed id (fun backed restarted => restarted.backed backed) (fun _ => id)
    (fun backed allowed => Change.backed allowed.2 root backed) host scripts clean
      (Pipeline.backed_empty rfl)
    admits fits.of_append
  have fitting := fits.fits List.prefix_rfl
  obtain ⟨sameStore, sameCache⟩ :=
    start_unpurged laterBackends unpurged saved fitting backed.consistent
    backed.isFile laterHost
  exact ⟨sameCache, sameStore⟩

/-- A script that displaces another one, then one whose code cannot be replaced and whose source is
removed. -/
def unrest : List Event :=
  [.change (.addFile "l/a.moon" (Text.utf8 "x")), .request (.precacheDirectory ""),
    .change (.addFile "l/a.yue" (Text.utf8 "y")), .request (.compile "a.yue" false),
    .change (.addFile "l/d/b.moon" (Text.utf8 "z")), .request (.prepare "d/b.moon" .inclusion),
    .change (.setReadOnly true), .change (.touch "l/d/b.moon"),
    .request (.prepare "d/b.moon" .inclusion), .change (.removeTree "l/d"), .request (.think 1000)]

/-- After `unrest` there are two artifacts, one of them without a source, and the next realm has
them both. -/
theorem restart_keeps_cache_unrest :
    let reached := (sample.run unrest).workspace
    let resumed :=
      (start (.ofBackends sampleConfig sampleBackends) ⟨fun _ => false⟩ reached.store).workspace
    reached.cache.bySource.keys = ["a.yue", "d/b.moon"] ∧
      FileStore.isFile reached.store "l/d/b.moon" = false ∧
      resumed.cache = reached.cache ∧ resumed.store = reached.store := by
  have admits : ∀ event ∈ unrest, event.Admits (Change.IsForeign sampleConfig) := by decide +kernel
  have fits : sample.FitsAtRestarts (unrest ++ [.restart]) := by decide +kernel
  have root : Normal sampleConfig.cacheRoot := by decide +kernel
  have general :=
    restart_keeps_cache root tidyDirectories_sampleConfig rfl rfl ⟨fun _ => true⟩
      MemoryFiles.tidyScripts_empty (fun _ _ => by simp) admits fits sampleBackends
      ⟨fun _ => false⟩
  refine ⟨by decide +kernel, by decide +kernel, ?_⟩
  unfold sample
  exact general

end DialectLoader.Realm
