import AgencyRuntime.Publication.Revocation
import AgencyRuntime.Publication.StateMachine
import AgencyRuntime.Python.Decode
import AgencyRuntime.Python.Canonical
import AgencyRuntime.Chains.Linked
import AgencyRuntime.Python.Utf8
import AgencyRuntime.Python.Value
import AgencyRuntime.Ledger.Audit
import AgencyRuntime.Tables.Transaction
import AgencyRuntime.Ledger.Database
import AgencyRuntime.Ledger.Chain
import AgencyRuntime.Ledger.Store
import AgencyRuntime.Ledger.Atomic
import AgencyRuntime.Ledger.Tamper
import AgencyRuntime.Ledger.Snapshot
import AgencyRuntime.Python.Repr
import AgencyRuntime.ModelEffects.Gateway
import AgencyRuntime.ModelEffects.Authority
import AgencyRuntime.Tables.Evolution
import AgencyRuntime.ModelEffects.Execute
import AgencyRuntime.ModelEffects.Rows
import AgencyRuntime.ModelEffects.Calls
import AgencyRuntime.ModelEffects.StateMachine
import AgencyRuntime.ModelEffects.Stranded
import AgencyRuntime.Effects.Method
import AgencyRuntime.Orchestrator.Run
import AgencyRuntime.Orchestrator.Agents
import AgencyRuntime.Orchestrator.Calls
import AgencyRuntime.Orchestrator.Pipeline
import AgencyRuntime.Orchestrator.Decisions
import AgencyRuntime.Orchestrator.StateMachine
import AgencyRuntime.Ledger.Backfill
import AgencyRuntime.Ledger.Startup
import AgencyRuntime.Ledger.Verifiers
import AgencyRuntime.Limiter.Stores
import AgencyRuntime.Limiter.Agreement
import AgencyRuntime.Orchestrator.Document
import AgencyRuntime.Orchestrator.Reload
import AgencyRuntime.Orchestrator.Campaign
import AgencyRuntime.Orchestrator.Stored
import AgencyRuntime.Orchestrator.Reachable
import AgencyRuntime.Effects.Follows
import AgencyRuntime.Orchestrator.Alike
import AgencyRuntime.Orchestrator.Inline
import AgencyRuntime.Effects.Parts
import AgencyRuntime.Workers.Store
import AgencyRuntime.Publication.Ordering
import AgencyRuntime.Python.Datetime
import AgencyRuntime.Limiter.Quota
import AgencyRuntime.Limiter.QuotaRuns
import AgencyRuntime.Social.OAuthState
import AgencyRuntime.Social.ConcurrentStates
import AgencyRuntime.Publication.Reauthorize
import AgencyRuntime.Limiter.RetryAfter
import AgencyRuntime.Ledger.SessionRuns
import AgencyRuntime.Python.Base64
import AgencyRuntime.Social.Ciphertexts
import AgencyRuntime.Auth.Authenticator
import AgencyRuntime.Auth.Unambiguous
import AgencyRuntime.Publication.Binding
import AgencyRuntime.Social.LiveStates
import AgencyRuntime.Media.Agreement
import AgencyRuntime.Chains.Paging
import AgencyRuntime.Ledger.Pages
import AgencyRuntime.Api.BodyLimit
import AgencyRuntime.Memory.Search
import AgencyRuntime.Memory.Found
import AgencyRuntime.Chains.DepthFirst
import AgencyRuntime.Scripts.TaskGraph
import AgencyRuntime.Api.AltText
import AgencyRuntime.Chains.Tally
import AgencyRuntime.Pool.ConnectionPool
import AgencyRuntime.Scripts.SupplyChain
import AgencyRuntime.Scripts.FalsePasses
import AgencyRuntime.Release.Prepare
import AgencyRuntime.Release.Endpoint
import AgencyRuntime.Release.Authority
import AgencyRuntime.Release.Approved
import AgencyRuntime.Isolation.Tables
import AgencyRuntime.Isolation.Runs
import AgencyRuntime.Tenants.Ledger
import AgencyRuntime.Tenants.Stores
import AgencyRuntime.Tenants.Isolated
import AgencyRuntime.Advisory.Protocol
import AgencyRuntime.Advisory.Linear
import AgencyRuntime.Advisory.Progress
import AgencyRuntime.ModelEffects.Postgres
import AgencyRuntime.Advisory.Identity
import AgencyRuntime.Publication.Postgres
