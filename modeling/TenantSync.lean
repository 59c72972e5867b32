import TenantSync.Main
import TenantSync.Proofs.CommandLine.SavedContext
import TenantSync.Proofs.Graph.Attributes
import TenantSync.Proofs.Http.AtMostOnce
import TenantSync.Proofs.Http.BasePath
import TenantSync.Proofs.Http.Changes
import TenantSync.Proofs.Http.Lifetime
import TenantSync.Proofs.Http.PageWalks
import TenantSync.Proofs.Http.Secrecy
import TenantSync.Proofs.Http.Snapshot
import TenantSync.Proofs.Http.TokenCache
import TenantSync.Proofs.Paging.Visits
import TenantSync.Proofs.Secret.Mount
import TenantSync.Proofs.Store.Interleaving
import TenantSync.Proofs.Store.Refinement
import TenantSync.Proofs.Sync.Collected
import TenantSync.Proofs.Tenant.BlastRadius
import TenantSync.Proofs.Tenant.Cancellation
import TenantSync.Proofs.Tenant.DryRun
import TenantSync.Proofs.Tenant.Frame
import TenantSync.Proofs.Tenant.Missing
import TenantSync.Proofs.Tenant.Paging
import TenantSync.Proofs.Tenant.Resumption
import TenantSync.Proofs.Tenant.Typing
import TenantSync.Proofs.Http.Lifetime
