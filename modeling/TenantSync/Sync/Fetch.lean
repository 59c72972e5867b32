import TenantSync.Paging.Walk
import TenantSync.Sync.Run

/-! # Snapshots

`fetchSnapshot` reads all four kinds of a tenant, parents before children.  Any failure
ends it. -/

namespace TenantSync

/-- Reads everything a tenant holds. -/
def fetchSnapshot {σ : Type} (c : Client σ) : SyncM σ Graph := do
  let objectTypes ←
    (SyncM.call c.listObjectTypes).within (.listing .objectType c.endpoint)
  SyncM.emit (.kindFetched .objectType objectTypes.length)
  let objects ←
    (SyncM.call (collectPages c.pageBound .object c.listObjects)).within
      (.listing .object c.endpoint)
  SyncM.emit (.kindFetched .object objects.length)
  let edgeTypes ← (SyncM.call c.listEdgeTypes).within (.listing .edgeType c.endpoint)
  SyncM.emit (.kindFetched .edgeType edgeTypes.length)
  let edges ←
    (SyncM.call (collectPages c.pageBound .edge c.listEdges)).within (.listing .edge c.endpoint)
  SyncM.emit (.kindFetched .edge edges.length)
  return { objectTypes, objects, edgeTypes, edges }

end TenantSync
