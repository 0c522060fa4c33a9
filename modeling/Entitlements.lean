import Entitlements.Main
import Entitlements.Record
import Entitlements.Setup.Deployment
import Entitlements.Store.Order
import Entitlements.Store.Run
import Entitlements.Store.Sample
import Entitlements.Proofs.Administration.Discipline
import Entitlements.Proofs.Service.Reads
import Entitlements.Proofs.Administration.Administrators
import Entitlements.Proofs.Administration.LastAdministrator
import Entitlements.Proofs.Administration.Concurrency
import Entitlements.Proofs.Store.Resolution
import Entitlements.Proofs.Session.Authority
import Entitlements.Proofs.Service.Toggle
import Entitlements.Proofs.Service.Effects
import Entitlements.Proofs.Service.World
import Entitlements.Proofs.Store.Holdings
import Entitlements.Proofs.Store.Orderly
import Entitlements.Proofs.Store.Sparing
import Entitlements.Proofs.Service.Confinement
import Entitlements.Proofs.Session.Answers
import Entitlements.Proofs.Service.Consequences
import Entitlements.Proofs.Service.Requests
import Entitlements.Proofs.Service.Integrity
import Entitlements.Proofs.Sql.UnitOfWork
import Entitlements.Proofs.Sql.Batch
import Entitlements.Proofs.Service.Failures
import Entitlements.Proofs.Http.Failures
import Entitlements.Proofs.Sql.Connections
import Entitlements.Proofs.Sql.GrantWrites
import Entitlements.Proofs.Session.Stability
import Entitlements.Proofs.Service.TemplateNames
import Entitlements.Proofs.Service.Probing
import Entitlements.Proofs.Http.Reports
import Entitlements.Proofs.Sql.Placeholders
import Entitlements.Proofs.Administration.Guard
import Entitlements.Proofs.Service.Succession
import Entitlements.Proofs.Service.Independence
import Entitlements.Proofs.Service.Repetition
import Entitlements.Proofs.Sql.Snapshots
import Entitlements.Proofs.Sql.GrantRows
import Entitlements.Proofs.Sql.Filters
import Entitlements.Proofs.Service.Paging
import Entitlements.Proofs.Service.OwnProjects
import Entitlements.Proofs.Service.TemplateHolders
import Entitlements.Proofs.Http.Credentials
import Entitlements.Proofs.Http.KeyPatterns
import Entitlements.Proofs.Http.Integers
import Entitlements.Proofs.Http.Origins
import Entitlements.Proofs.Sql.Windows
import Entitlements.Proofs.Session.Loading
