import Conform.Main
import Conform.Proofs.Index.Assignment
import Conform.Proofs.Json.Positions
import Conform.Proofs.Schema.Located
import Conform.Proofs.Session.Incremental
import Conform.Record
import Conform.Proofs.Session.Naming
import Conform.Proofs.Session.Locks
import Conform.Proofs.Json.Refusals
import Conform.Proofs.Session.Evaluation
import Conform.Proofs.Session.AllOrNothing
import Conform.Proofs.Session.Batch
import Conform.Proofs.Session.Orders
import Conform.Proofs.Session.Serial
import Conform.Proofs.Session.Removal
import Conform.Proofs.Command.Providers
import Conform.Proofs.Session.Recased
import Conform.Proofs.Session.Dependents
import Conform.Proofs.Session.Leftover
import Conform.Proofs.Index.Mapping
import Conform.Proofs.Precedence
import Conform.Proofs.Command.Discovery
import Conform.Proofs.Session.Newcomer
import Conform.Proofs.Json.Nesting
import Conform.Proofs.Json.Prefixes
import Conform.Proofs.Schema.Alternatives
import Conform.Proofs.Watching
import Conform.Proofs.Files.Below
import Conform.Proofs.Settings
import Conform.Proofs.Command.Mistakes
import Conform.Proofs.Command.Showing
import Conform.Proofs.Files.Visits
import Conform.Proofs.Json.Segments
import Conform.Proofs.Schema.Texts
