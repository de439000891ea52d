import Lucida.Store.LimiterFairness
import Lucida.Store.CacheTransparency
import Lucida.Store.MergeGroups
import Lucida.Web.ClientSequencing
import Lucida.Web.GapRepair
import Lucida.Session.Convergence
import Lucida.Session.Redelivery
import Lucida.Core.DerivedPlacement
import Lucida.Core.DeltaReplay
import Lucida.Generated.Service
import Lucida.Generated.SchedulerInvariant
import Lucida.Generated.Readiness
import Lucida.Server.Membership
import Lucida.Server.DefaultView
import Lucida.Server.ViewPrivacy
import Lucida.Server.LiveWorkspaces
import Lucida.Session.Presence
import Lucida.Server.DatasetOpen
import Lucida.Server.PersistOrder
import Lucida.Server.OpenOutcome
import Lucida.Lib.Checked
import Lucida.Lib.Raster
import Lucida.Store.ChunkLayout
import Lucida.Store.SliceRange
import Lucida.Server.ChunkRead
import Lucida.Server.Regrid
import Lucida.Server.RegridReads
import Lucida.Core.CatalogDelta
import Lucida.Core.CommandReplay
import Lucida.Core.LayoutSwitch
import Lucida.Core.LabelReconcile
import Lucida.Core.DerivedIndex
import Lucida.Core.DocumentInvariant
import Lucida.Core.DatasetRemap
import Lucida.Core.ViewportScope
import Lucida.Core.TargetLevel
import Lucida.Core.Chunk
import Lucida.Core.ChunkCoverage
import Lucida.Server.GeneratedPublish
import Lucida.Server.ReviewTransitions
import Lucida.Lib.LittleEndian
import Lucida.Lib.MixedRadix
import Lucida.Store.ChunkPaths
import Lucida.Store.Shard
import Lucida.Store.ShardReads
import Lucida.Store.ShardSafety
import Lucida.Lib.Ieee
import Lucida.Lib.Sharing
import Lucida.Content.Graph
import Lucida.Lib.Traverse
import Lucida.Content.ManifestEquality
import Lucida.Content.ManifestRoundTrip
import Lucida.Content.ManifestPersist
import Lucida.Content.DatasetUrl
import Lucida.Content.CollectionLayout
import Lucida.Lib.Json
import Lucida.Store.Metadata
import Lucida.Store.ImportLevels
import Lucida.Store.Import
import Lucida.Store.ImportCollection
import Lucida.Store.LevelAgreement
import Lucida.Store.ImportLabels
import Lucida.Store.ImportWellFormed
import Lucida.Server.DeclaredArray
import Lucida.Server.ImportReads
import Lucida.Web.FetchScheduler
import Lucida.Web.FetchSchedulerInvariant
import Lucida.Lib.NestedMap
import Lucida.Web.ChunkStore
import Lucida.Web.ChunkStoreAccounting
import Lucida.Web.ElasticBudgets
import Lucida.Web.ProxyStore
import Lucida.Web.CpuCache
import Lucida.Web.FetchSchedulerSteps
import Lucida.Web.CpuCacheLane
import Lucida.Web.FetchAttempts
import Lucida.Web.FetchProgress
import Lucida.Web.WorkTraces
import Lucida.Web.DatasetRemoval
import Lucida.Web.BinaryFrames
import Lucida.Web.PendingRequests
import Lucida.Server.MalformedKeys
import Lucida.Server.TileBindings
import Lucida.Web.LabelRequests
import Lucida.Generated.MaxPool
import Lucida.Web.PlanLanes
import Lucida.Web.PlanPrefetch
import Lucida.Web.Plan
import Lucida.Store.LruBudget
import Lucida.Session.FollowForest
import Lucida.Protocol.Fetch
import Lucida.Lib.Upsert
import Lucida.Web.GeneratedAvailability
import Lucida.Proxy.Geometry
import Lucida.Proxy.SourceHash
import Lucida.Proxy.Generate
import Lucida.Proxy.Aggregate
import Lucida.Server.ProxySource
import Lucida.Server.ProxyEstimate
import Lucida.Lib.Framing
import Lucida.Proxy.HashedContent
import Lucida.Server.ProxyStaleness
import Lucida.Lib.Slots
import Lucida.Renderer.Texture
import Lucida.Renderer.ProxyAtlas
import Lucida.Renderer.ProxyResidency
import Lucida.Renderer.ProxyHandles
import Lucida.Renderer.ChunkKeys
import Lucida.Lib.Links
import Lucida.Renderer.ChunkEviction
import Lucida.Renderer.ChunkRadius
import Lucida.Renderer.VolumeAtlas
import Lucida.Renderer.VolumeSections
import Lucida.Renderer.VolumeUpload
import Lucida.Renderer.VolumeShows
import Lucida.Renderer.VolumeResidents
import Lucida.Renderer.VolumeReports
