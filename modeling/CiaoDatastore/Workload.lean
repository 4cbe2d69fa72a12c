import CiaoDatastore.Store

/-! Workloads: `AddWorkload`, `DeleteWorkload`, `GetWorkload` and `getWorkloads`. A public
workload's id goes to `publicWorkloads`, any other's to its tenant's list. `AddWorkload`
caches the workload before it looks the tenant up, and checks no id for a duplicate. A removal
`append(s[:i], s[i+1:]...)` of the first occurrence is `List.erase`. -/
namespace CiaoDatastore
namespace Datastore
variable {σ : Type} (P : PersistentStore σ)

def addWorkload (ds : Datastore σ) (w : Workload) : Datastore σ × Option Error :=
  let (ds,err) := ds.call P (.addWorkload w)
  match err with
  | some e => (ds,some (.wrap ("error updating workload (" ++ w.id ++ ") in database") e))
  | none =>
    let ds := ds.withCache {ds.cache with workloads := ds.cache.workloads.insert w.id w}
    if w.visibility = publicVisibility then
      (ds.withCache {ds.cache with publicWorkloads := ds.cache.publicWorkloads ++ [w.id]},none)
    else
      match ds.cache.tenants.get w.tenantID with
      | none => (ds,some errNoTenant)
      | some tenant =>
        (ds.withCache {ds.cache with tenants := (ds.cache.tenants.insert w.tenantID
          {tenant with workloads := tenant.workloads ++ [w.id]})},none)

/-- Caches a workload and lists it as public when it is, as `initWorkloads` does. -/
def indexWorkload (c : Cache) (wl : Workload) : Cache :=
  {c with
    workloads := c.workloads.insert wl.id wl
    publicWorkloads :=
      if wl.visibility = publicVisibility then c.publicWorkloads ++ [wl.id] else c.publicWorkloads}

/-- Whether some cached instance was launched from the workload. -/
def workloadInUse (c : Cache) (workloadID : String) : Bool :=
  c.instances.anyValue fun ptr => (c.heap ptr).workloadID = workloadID

def deleteWorkload (ds : Datastore σ) (workloadID : String) : Datastore σ × Option Error :=
  if workloadInUse ds.cache workloadID then (ds,some (.sentinel .errWorkloadInUse)) else
  match ds.cache.workloads.get workloadID with
  | none => (ds,some (.sentinel .errWorkloadNotFound))
  | some wl =>
    let (ds,err) := ds.call P (.deleteWorkload workloadID)
    match err with
    | some e => (ds,some (.wrap ("error deleting workload " ++ workloadID ++ " from database") e))
    | none =>
      if wl.visibility = publicVisibility then
        (ds.withCache {ds.cache with
          publicWorkloads := ds.cache.publicWorkloads.erase workloadID
          workloads := ds.cache.workloads.delete workloadID},none)
      else
        match ds.cache.tenants.get wl.tenantID with
        | none => (ds,some (.sentinel .errTenantNotFound))
        | some t =>
          (ds.withCache {ds.cache with
            tenants := ds.cache.tenants.insert wl.tenantID {t with workloads := t.workloads.erase workloadID}
            workloads := ds.cache.workloads.delete workloadID},none)

def getWorkload (c : Cache) (id : String) : Except Error Workload :=
  if id = c.cnciWorkload.id then .ok c.cnciWorkload else
  match c.workloads.get id with
  | some w => .ok w
  | none => .error (.sentinel .errWorkloadNotFound)

/-- `getWorkloads`: the public workloads when asked for, then the tenant's; an id with no
workload lists the zero `Workload`. -/
def getWorkloads (c : Cache) (tenantID : String) (includePublic : Bool) : List Workload :=
  let lookup := fun id => (c.workloads.get id).getD default
  let public := if includePublic then c.publicWorkloads.map lookup else []
  match c.tenants.get tenantID with
  | none => public
  | some tenant => public ++ tenant.workloads.map lookup

end Datastore
end CiaoDatastore
