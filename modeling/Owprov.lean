import Owprov.Lib.Table
import Owprov.Lib.Acyclic
import Owprov.Lib.LinkedForest
import Owprov.Lib.FillCache
import Owprov.Lib.MarkerCascade
import Owprov.Lib.Runs
import Owprov.Lib.FixedDigits
import Owprov.Lib.ForeignKeys
import Owprov.Lib.TableView
import Owprov.Lib.WriteBack
import Owprov.Lib.GroupHeads
import Owprov.Lib.ReadModifyWrite
import Owprov.Lib.UsageLedger
import Owprov.Lib.CheckThenCreate
import Owprov.Store
import Owprov.RecordRoundTrips
import Owprov.Access
import Owprov.Scope
import Owprov.ScopeDecision
import Owprov.Hierarchy
import Owprov.QueryText
import Owprov.Delegation
import Owprov.AuthCache
import Owprov.FilteredLists
import Owprov.Handler
import Owprov.EntityHandlers
import Owprov.EntityTree
import Owprov.VenueHandlers
import Owprov.InventoryHandlers
import Owprov.RoleBatches
import Owprov.SubDeviceRollback
import Owprov.CreationRollback
import Owprov.RRMDevices
import Owprov.RoleHandlers
import Owprov.VenueForest
import Owprov.ScopeAgreement
import Owprov.AuthorizedWrites
import Owprov.CreationComplete
import Owprov.ListHandlers
import Owprov.ListLeak
import Owprov.OperatorLinks
import Owprov.Membership
import Owprov.VenuePlacement
import Owprov.VenueHierarchy
import Owprov.RoleImmutability
import Owprov.SubscriberHandlers
import Owprov.LiveScopes
import Owprov.SubDeviceHandlers
import Owprov.SubscriberGateways
import Owprov.DevicePlacement
import Owprov.ConcurrentVectors
import Owprov.SharedConfigurations
import Owprov.ReferenceHandlers
import Owprov.InUse
import Owprov.InUseLedger
import Owprov.InlineLedger
import Owprov.InUseRuns
import Owprov.Connections
import Owprov.UniqueKeys
import Owprov.Lib.Walks
import Owprov.InheritedLevels
import Owprov.SerialCache
import Owprov.SerialNumbers
import Owprov.SignupWorker
import Owprov.SignupLifecycle
import Owprov.Lib.MarkedTraversal
import Owprov.Lib.OptionLists
import Owprov.EntityListHandler
import Owprov.VisibleScopes
import Owprov.VisibilityOrder
import Owprov.ListAccess
import Owprov.DanglingReferences
import Owprov.VariableHandlers
import Owprov.EffectiveRules
import Owprov.SourceRanges
import Owprov.ConfigurationText
import Owprov.ConfigurationMerge
import Owprov.VariableExpansion
import Owprov.ConfigurationFailures
import Owprov.ExpansionTermination
import Owprov.SerialSearch
import Owprov.ServiceClasses
import Owprov.Lib.PartialMaps
import Owprov.VenueCards
import Owprov.MapHandlers
import Owprov.VenueNames
import Owprov.SubscriberVenues
import Owprov.OwnedLists
import Owprov.HomelessConfigurations
import Owprov.OwnershipRuns
import Owprov.Lib.RefusedWrites
import Owprov.Overrides
import Owprov.Lib.SqlText
import Owprov.WhereClauses
import Owprov.PolicyUpgrade
import Owprov.Lib.PagedRepairs
import Owprov.RecordIteration
import Owprov.ConsistencyCheck
import Owprov.OperatorClaims
import Owprov.ConsistentStores
import Owprov.Lib.UniqueColumns
import Owprov.SubscriberMirror
import Owprov.Base64
import Owprov.RouteBindings
import Owprov.CertChains
import Owprov.RadiusRendering
import Owprov.SignupSearch
import Owprov.AutoDiscovery
import Owprov.VenueUpgrade
import Owprov.CountedLists
import Owprov.Lib.AccessLog
import Owprov.OperatorHandlers
import Owprov.OperatorAccess
import Owprov.OperatorScopes
import Owprov.OperatorLookups
import Owprov.AffectedDevices
import Owprov.ServiceRegistry
import Owprov.Authentication
import Owprov.VouchedRequests
import Owprov.RateLimiter
import Owprov.RequestGate
import Owprov.Schedules
import Owprov.EventBus
import Owprov.JobController
import Owprov.ExpandedUse
import Owprov.VenueTasks
import Owprov.WebSockets
import Owprov.FirmwareRevisions
import Owprov.OpenRoaming
import Owprov.KafkaWatchers
