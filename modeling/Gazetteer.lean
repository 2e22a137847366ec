import Gazetteer.Event.Feed
import Gazetteer.Http.Server
import Gazetteer.Pool
import Gazetteer.Proofs.Accounting
import Gazetteer.Proofs.Atomicity
import Gazetteer.Proofs.Batches
import Gazetteer.Proofs.Bookkeeping
import Gazetteer.Proofs.Colors
import Gazetteer.Proofs.ColumnOrder
import Gazetteer.Proofs.Confluence
import Gazetteer.Proofs.Disclosure
import Gazetteer.Proofs.EngineAgreement
import Gazetteer.Proofs.LiteralSearch
import Gazetteer.Proofs.NamedMetadata
import Gazetteer.Proofs.NamedTags
import Gazetteer.Proofs.Nearby
import Gazetteer.Proofs.OnDemand
import Gazetteer.Proofs.Ownership
import Gazetteer.Proofs.PageBounds
import Gazetteer.Proofs.Refusals
import Gazetteer.Proofs.Replay
import Gazetteer.Proofs.Requests
import Gazetteer.Proofs.SavingBack
import Gazetteer.Proofs.SplitImports
import Gazetteer.Proofs.TagOwners
import Gazetteer.Proofs.Template
import Gazetteer.Proofs.UsableResults
import Gazetteer.Proofs.WireForms
import Gazetteer.Provider.Baidu
import Gazetteer.Provider.Nominatim
import Gazetteer.Wire.Settings
