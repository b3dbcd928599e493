import ChannelAccess.Main
import ChannelAccess.Response
import ChannelAccess.Json.Reader
import ChannelAccess.Proofs.Cache.KeyNames
import ChannelAccess.Proofs.Cache.Roster
import ChannelAccess.Proofs.Cache.Holdings
import ChannelAccess.Proofs.Cache.Performing
import ChannelAccess.Proofs.Cache.ScriptEffect
import ChannelAccess.Proofs.Cache.SharedReply
import ChannelAccess.Proofs.Cache.Coverage
import ChannelAccess.Proofs.Cache.SharedRun
import ChannelAccess.Proofs.Cache.InProcessReply
import ChannelAccess.Proofs.Cache.Agreement
import ChannelAccess.Proofs.Cache.Working
import ChannelAccess.Proofs.Plan.Terms
import ChannelAccess.Proofs.Store.Facts
import ChannelAccess.Proofs.Store.Answers
import ChannelAccess.Proofs.Resolver.Misses
import ChannelAccess.Proofs.Resolver.Reading
import ChannelAccess.Proofs.Service.World
import ChannelAccess.Proofs.Service.Effects
import ChannelAccess.Proofs.Service.Transparency
import ChannelAccess.Proofs.Invalidation.Coalescing
import ChannelAccess.Proofs.Service.Staleness
import ChannelAccess.Proofs.Effective
import ChannelAccess.Proofs.Service.Filters
import ChannelAccess.Proofs.Resolver.Course
import ChannelAccess.Proofs.Service.Interleaving
import ChannelAccess.Proofs.Service.Underway
import ChannelAccess.Proofs.Service.InFlight
import ChannelAccess.Proofs.Cache.Confinement
import ChannelAccess.Proofs.RoleEdits
import ChannelAccess.Proofs.RoleVerdict
import ChannelAccess.Proofs.Cache.Isolation
import ChannelAccess.Proofs.Queue.Traffic
import ChannelAccess.Proofs.Queue.Accounting
import ChannelAccess.Proofs.Cache.AnyState
import ChannelAccess.Proofs.Service.FailingCache
import ChannelAccess.Proofs.Cache.Scopes
import ChannelAccess.Proofs.Invalidation.Effect
import ChannelAccess.Proofs.Cache.MixedLifetimes
import ChannelAccess.Proofs.Service.Limits
import ChannelAccess.Proofs.Invalidation.Minimality
import ChannelAccess.Proofs.Invalidation.Breadth
import ChannelAccess.Proofs.Cache.Clearing
import ChannelAccess.Proofs.Cache.Exactness
import ChannelAccess.Proofs.Cache.Pruning
import ChannelAccess.Proofs.Plan.Transcript
import ChannelAccess.Proofs.Service.OverrideEdits
import ChannelAccess.Proofs.Cache.Lookups
import ChannelAccess.Proofs.Resolver.Calls
import ChannelAccess.Proofs.Service.StoreFailures
import ChannelAccess.Proofs.Store.Telling
import ChannelAccess.Proofs.Service.CacheFilling
import ChannelAccess.Proofs.Text.Denotation
import ChannelAccess.Proofs.Text.Parts
import ChannelAccess.Proofs.Json.Quoting
import ChannelAccess.Proofs.Mask.Bits
import ChannelAccess.Proofs.Mask.Text
import ChannelAccess.Proofs.Mask.Number
import ChannelAccess.Proofs.Mask.Storage
import ChannelAccess.Proofs.Cache.Sweeping
import ChannelAccess.Proofs.Service.RoundTrips
import ChannelAccess.Proofs.Traversal
import ChannelAccess.Proofs.Cache.BatchReads
import ChannelAccess.Proofs.RoleTargets
import ChannelAccess.Proofs.Store.Filing
import ChannelAccess.Proofs.Configuration
import ChannelAccess.Proofs.Json.Objects
import ChannelAccess.Proofs.Responses
import ChannelAccess.Proofs.Resolver.Drawing
