import Tabular.CellValue
import Tabular.Store.Edit
import Tabular.Table.View
import Tabular.Table.Condition
import Tabular.Table.Join
import Tabular.SharedTable
import Tabular.Session.Basic
import Tabular.Main
import Tabular.Proofs.Store.Refinement
import Tabular.Proofs.Store.CheckedStore
import Tabular.Proofs.Session.Query
import Tabular.Proofs.Session.Failure
import Tabular.Proofs.Session.CellLimit
import Tabular.Proofs.Table.Refusal
import Tabular.Proofs.Store.CapacityLaw
import Tabular.Proofs.Index.Edit
import Tabular.Proofs.Index.Places
import Tabular.Proofs.Index.Stamps
import Tabular.Proofs.Store.Mirror
import Tabular.Proofs.Index.PlainList
import Tabular.Proofs.Table.Headers
import Tabular.Proofs.Table.Maintenance
import Tabular.Proofs.Index.Ranges
import Tabular.Proofs.Store.PackingLoop
import Tabular.Proofs.Store.PackingCost
import Tabular.Proofs.SharedTable
import Tabular.Proofs.Index.Lookups
import Tabular.Proofs.Session.Writing
import Tabular.Proofs.Store.Writes
import Tabular.Proofs.Table.Bounds
import Tabular.Proofs.Table.Selection
import Tabular.Proofs.Table.Join
import Tabular.Proofs.Program.Script
import Tabular.Proofs.Session.Listing
import Tabular.Proofs.Store.Construction
import Tabular.Proofs.Config.TomlForm
import Tabular.Proofs.Index.Counts
