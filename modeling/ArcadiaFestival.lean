import ArcadiaFestival.Library.KeyedTable
import ArcadiaFestival.Library.Trace
import ArcadiaFestival.Library.Fallible
import ArcadiaFestival.Library.Simulation
import ArcadiaFestival.Library.Redelivery
import ArcadiaFestival.Library.RowLocking
import ArcadiaFestival.Library.Paging
import ArcadiaFestival.Library.LargestRemainder
import ArcadiaFestival.Platform.Errors
import ArcadiaFestival.Platform.Text
import ArcadiaFestival.Platform.Datetime
import ArcadiaFestival.Platform.Json
import ArcadiaFestival.Platform.Money
import ArcadiaFestival.Platform.Allocation
import ArcadiaFestival.Domain.Festival
import ArcadiaFestival.Domain.FestivalLifecycle
import ArcadiaFestival.Platform.Events
import ArcadiaFestival.Platform.Outbox
import ArcadiaFestival.Platform.OutboxDelivery
import ArcadiaFestival.Platform.OutboxRecovery
import ArcadiaFestival.Platform.OutboxOrder
import ArcadiaFestival.Platform.Kafka
import ArcadiaFestival.Platform.ConsumerSafety
import ArcadiaFestival.Platform.MessageHandling
import ArcadiaFestival.Platform.Migrate
import ArcadiaFestival.Platform.MigrationOrder
import ArcadiaFestival.Platform.Db
import ArcadiaFestival.Domain.CatalogSync
import ArcadiaFestival.Application.Events
import ArcadiaFestival.Adapters.Models
import ArcadiaFestival.Adapters.Session
import ArcadiaFestival.Adapters.Repositories
import ArcadiaFestival.Application.Dto
import ArcadiaFestival.Application.FestivalService
import ArcadiaFestival.Application.CatalogSyncService
import ArcadiaFestival.Adapters.FestivalMapping
import ArcadiaFestival.Adapters.RowErrors
import ArcadiaFestival.Adapters.VersionCheck
import ArcadiaFestival.Adapters.AuthProfile
import ArcadiaFestival.Application.System
import ArcadiaFestival.Application.History
import ArcadiaFestival.Application.Discounts
import ArcadiaFestival.Application.Concurrency
import ArcadiaFestival.Application.GameEvents
import ArcadiaFestival.Application.CatalogReplay
import ArcadiaFestival.Application.PromotionRows
import ArcadiaFestival.Application.PromotionReplay
import ArcadiaFestival.Application.Convergence
import ArcadiaFestival.Application.Selections
import ArcadiaFestival.Application.PromotionTransactions
import ArcadiaFestival.Application.DiscountPages
import ArcadiaFestival.Application.Audience
import ArcadiaFestival.Library.ReadThrough
import ArcadiaFestival.Adapters.EventWire
import ArcadiaFestival.Platform.Cache
import ArcadiaFestival.Adapters.FestivalRoutes
import ArcadiaFestival.Application.RunningFestivals
import ArcadiaFestival.Application.CatalogReference
import ArcadiaFestival.Application.LastReport
import ArcadiaFestival.Application.WriteBack
import ArcadiaFestival.Application.LifecycleTimes
import ArcadiaFestival.Application.DetailView
import ArcadiaFestival.Application.EndedFestivals
import ArcadiaFestival.Application.IntactStore
import ArcadiaFestival.Application.RequestErrors
import ArcadiaFestival.Application.MessageErrors
import ArcadiaFestival.Application.PayloadShapes
import ArcadiaFestival.Application.PromotionPrices
import ArcadiaFestival.Application.FestivalPages
import ArcadiaFestival.Application.Commands
import ArcadiaFestival.Application.Versions
import ArcadiaFestival.Application.SelectionOrigins
import ArcadiaFestival.Domain.SaleMachine
import ArcadiaFestival.Application.SaleRefinement
import ArcadiaFestival.Library.FirstDelivery
import ArcadiaFestival.Application.EventPipeline
import ArcadiaFestival.Application.EventReaders
import ArcadiaFestival.Library.Noninterference
import ArcadiaFestival.Application.FestivalIsolation
import ArcadiaFestival.Platform.Auth
import ArcadiaFestival.Platform.Http
import ArcadiaFestival.Adapters.AdminRoutes
import ArcadiaFestival.Application.Attribution
import ArcadiaFestival.Application.Responses
import ArcadiaFestival.Application.Decisions
import ArcadiaFestival.Application.Intake
import ArcadiaFestival.Platform.OutboxWaiting
import ArcadiaFestival.Adapters.PublicRoutes
import ArcadiaFestival.Application.PublicPages
import ArcadiaFestival.Platform.Rates
import ArcadiaFestival.Platform.Health
import ArcadiaFestival.Application.Problems
import ArcadiaFestival.Application.Announcements
