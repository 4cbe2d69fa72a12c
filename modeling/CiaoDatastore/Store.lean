import CiaoDatastore.Types
import CiaoDatastore.Net

/-! The `persistentStore` interface and the `Datastore` it backs. The store is a parameter:
each method is answered from the store's state, which the call may change, so a theorem
stated for every `PersistentStore` holds under every pattern of store failures. The
`Datastore` record has the fields of the Go struct without its locks; `heap` holds the
objects behind the `*types.Instance` pointers that `instances`, the tenants' and the nodes'
maps share. -/
namespace CiaoDatastore

/-- A claimed tenant address: its subnet and the address itself. -/
structure TenantIP where
  subnet : UInt32
  host : UInt32
  deriving DecidableEq, Repr

/-- Modelled from the spec: what `getTenant` and `getTenants` return of a tenant, its
persisted columns (the relations the datastore rebuilds itself start empty). -/
structure TenantRow where
  id : String
  config : TenantConfig
  network : GoMap UInt32 (Finset UInt32)
  devices : GoMap String Volume

/-- The methods of `persistentStore` that the modelled functions call. -/
inductive Call
  | init
  | logEvent (e : LogEntry)
  | addWorkload (w : Workload)
  | deleteWorkload (id : String)
  | getWorkloads
  | addTenant (id : String) (config : TenantConfig)
  | getTenant (id : String)
  | getTenants
  | releaseTenantIP (tenantID : String) (subnet host : UInt32)
  | claimTenantIPs (tenantID : String) (ips : List TenantIP)
  | updateTenant (id : String) (config : TenantConfig)
  | deleteTenant (id : String)
  | getInstances
  | addInstance (i : Instance)
  | deleteInstance (id : String)
  | addNodeStat (stat : Stat)
  | addInstanceStats (stats : List InstanceStat) (nodeID : String)
  | getAllBlockData
  | addBlockData (v : Volume)
  | updateBlockData (v : Volume)
  | deleteBlockData (id : String)
  | addStorageAttachment (a : StorageAttachment)
  | getAllStorageAttachments
  | deleteStorageAttachment (id : String)
  | addPool (p : Pool)
  | updatePool (p : Pool)
  | getAllPools
  | deletePool (id : String)
  | addMappedIP (m : MappedIP)
  | deleteMappedIP (id : String)
  | getMappedIPs
  | updateImage (i : Image)
  | deleteImage (id : String)
  | getImages

/-- What each method returns, with Go's `error` as `Option Error`. -/
def Call.Reply : Call → Type
  | .getWorkloads => Except Error (List Workload)
  | .getTenant _ => Except Error (Option TenantRow)
  | .getTenants => Except Error (List TenantRow)
  | .getInstances => Except Error (List Instance)
  | .getAllBlockData => Except Error (GoMap String Volume)
  | .getAllStorageAttachments => Except Error (GoMap String StorageAttachment)
  | .getAllPools => GoMap String Pool
  | .getMappedIPs => GoMap String MappedIP
  | .getImages => Except Error (List Image)
  | _ => Option Error

structure PersistentStore (σ : Type) where
  call : σ → (c : Call) → σ × c.Reply

/-- The in-memory tables of the Go `Datastore`, in its field order, without their locks. -/
structure Cache where
  nodeLastStat : GoMap String CiaoNode
  instanceLastStat : GoMap String CiaoServerStats
  tenants : GoMap String Tenant
  cnciWorkload : Workload
  nodes : GoMap String Node
  heap : Ptr → Instance
  next : Ptr
  instances : GoMap String Ptr
  tenantUsage : GoMap String (List CiaoUsage)
  blockDevices : GoMap String Volume
  attachments : GoMap String StorageAttachment
  instanceVolumes : GoMap Attachment String
  pools : GoMap String Pool
  externalSubnets : Finset String
  externalIPs : Finset String
  mappedIPs : GoMap String MappedIP
  images : GoMap String Image
  publicImages : List String
  internalImages : List String
  workloads : GoMap String Workload
  publicWorkloads : List String

/-- The Go `Datastore`: the backing store's state and the caches. -/
structure Datastore (σ : Type) where
  db : σ
  cache : Cache

/-- How a call of a datastore method ends: it returns, leaving a datastore and a result; it
panics (a nil dereference or an index out of range); or it loops forever. -/
inductive Outcome (σ α : Type)
  | returns (ds : Datastore σ) (result : α)
  | panics
  | loops

namespace Datastore
variable {σ : Type} (P : PersistentStore σ)

/-- `ds.db.<method>(...)`. -/
def call (ds : Datastore σ) (c : Call) : Datastore σ × c.Reply :=
  (⟨(P.call ds.db c).1,ds.cache⟩,(P.call ds.db c).2)

@[simp] theorem call_cache (ds : Datastore σ) (c : Call) : (ds.call P c).1.cache = ds.cache := rfl

@[simp] theorem call_db (ds : Datastore σ) (c : Call) : (ds.call P c).1.db = (P.call ds.db c).1 := rfl

@[simp] theorem call_reply (ds : Datastore σ) (c : Call) : (ds.call P c).2 = (P.call ds.db c).2 := rfl

/-- Replaces the caches. -/
def withCache (ds : Datastore σ) (cache : Cache) : Datastore σ := ⟨ds.db,cache⟩

@[simp] theorem withCache_cache (ds : Datastore σ) (cache : Cache) : (ds.withCache cache).cache = cache := rfl

@[simp] theorem withCache_db (ds : Datastore σ) (cache : Cache) : (ds.withCache cache).db = ds.db := rfl

end Datastore

end CiaoDatastore
