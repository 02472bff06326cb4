import DialectLoader.Backend.Scripted
import DialectLoader.Files.Memory
import DialectLoader.Main
import DialectLoader.Proofs.Backend.Echo
import DialectLoader.Proofs.Backend.Replies
import DialectLoader.Proofs.Cache.Persistence
import DialectLoader.Proofs.Excerpt.Numbering
import DialectLoader.Proofs.Manifest.Delimited
import DialectLoader.Proofs.Manifest.Trust
import DialectLoader.Proofs.Path.Canonical
import DialectLoader.Proofs.Pipeline.Batch
import DialectLoader.Proofs.Position.Correspondence
import DialectLoader.Proofs.Realm.Confinement
import DialectLoader.Proofs.Realm.Freshness
import DialectLoader.Proofs.Realm.Handovers
import DialectLoader.Proofs.Realm.HotReload
import DialectLoader.Proofs.Realm.Origin
import DialectLoader.Proofs.Realm.Restart
import DialectLoader.Proofs.Realm.Settled
import DialectLoader.Proofs.Realm.Startup
import DialectLoader.Proofs.Realm.Walking
import DialectLoader.Proofs.Remap.PassThrough
import DialectLoader.Proofs.Remap.Recognition
import DialectLoader.Proofs.Remap.Rewriting
import DialectLoader.Proofs.Watch.History
