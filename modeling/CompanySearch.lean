import CompanySearch.Main
import CompanySearch.Proofs.Selection
import CompanySearch.Proofs.SelectionOrder
import CompanySearch.Proofs.TotalPreorder
import CompanySearch.Proofs.StableSort
import CompanySearch.Proofs.Arrangement
import CompanySearch.Proofs.Nesting
import CompanySearch.Proofs.Resorting
import CompanySearch.Proofs.Reselection
import CompanySearch.Proofs.Query.RoundTrip
import CompanySearch.Proofs.Query.Quoting
import CompanySearch.Proofs.Query.Splitting
import CompanySearch.Proofs.Query.Munch
import CompanySearch.Proofs.Query.Containment
import CompanySearch.Proofs.Query.Bounds
import CompanySearch.Proofs.Cache.Moves
import CompanySearch.Proofs.Cache.Reachable
import CompanySearch.Proofs.Cache.SingleFlight
import CompanySearch.Proofs.Cache.Invalidation
import CompanySearch.Proofs.Cache.SharedFetch
import CompanySearch.Proofs.Cache.Freshness
import CompanySearch.Proofs.Cache.ReadingOrder
import CompanySearch.Proofs.Cache.Accounting
import CompanySearch.Proofs.Cache.Progress
import CompanySearch.Proofs.Cache.Failure
import CompanySearch.Proofs.Cache.Gauge
import CompanySearch.Proofs.Cache.Alone
import CompanySearch.Proofs.Record.RowText
import CompanySearch.Proofs.Search.Naming
import CompanySearch.Proofs.Service.Transports
import CompanySearch.Proofs.Service.Labels
import CompanySearch.Proofs.Service.Settling
import CompanySearch.Proofs.Settings.TextVariables
