import CiaoDatastore.System

/-! Modelled from the spec: a backing store as "an opaque persistent key/row collaborator",
one row per key in each table, where a write replaces the row of its key. `rowStore` never
fails; `failing fails` is the same store where the calls `fails` picks fail, leaving the rows
as they were. Both serve as concrete stores for runs that witness or refute a property; the
theorems about the datastore hold for every `PersistentStore`. -/
namespace CiaoDatastore

/-- The rows of the store, each table in the order its rows were first written. -/
structure Db where
  tenants : List TenantRow
  instances : List Instance
  workloads : List Workload
  images : List Image
  blockData : List Volume
  attachments : List StorageAttachment
  pools : List Pool
  mappedIPs : List MappedIP

namespace Db

def empty : Db := ⟨[],[],[],[],[],[],[],[]⟩

/-- Writes `row` under its key, in place of the row with the same key. -/
def upsert {α : Type} (key : α → String) (row : α) (rows : List α) : List α :=
  if rows.any (key · = key row) then rows.map fun r => if key r = key row then row else r
  else rows ++ [row]

def remove {α : Type} (key : α → String) (id : String) (rows : List α) : List α :=
  rows.filter (key · ≠ id)

def toMap {α : Type} (key : α → String) (rows : List α) : GoMap String α :=
  rows.foldl (fun m row => m.insert (key row) row) .empty

/-- Applies `f` to the network of the tenant row `id`. -/
def updateNetwork (db : Db) (id : String)
    (f : GoMap UInt32 (Finset UInt32) → GoMap UInt32 (Finset UInt32)) : Db :=
  {db with tenants := db.tenants.map fun row => if row.id = id then {row with network := f row.network} else row}

def claim (network : GoMap UInt32 (Finset UInt32)) (ip : TenantIP) : GoMap UInt32 (Finset UInt32) :=
  network.insert ip.subnet (Insert.insert ip.host ((network.get ip.subnet).getD ∅))

/-- What `Init` reads from these rows. -/
def rows (db : Db) : Datastore.Rows :=
  ⟨db.instances,db.tenants,db.images,db.workloads,toMap (·.id) db.blockData,
    toMap (·.id) db.attachments,toMap (·.id) db.pools,toMap (·.externalIP) db.mappedIPs⟩

end Db

/-- The store that answers every call from its rows. -/
def rowStore : PersistentStore Db where
  call db c := match c with
    | .init => (db,none)
    | .logEvent _ => (db,none)
    | .addWorkload w => ({db with workloads := Db.upsert (·.id) w db.workloads},none)
    | .deleteWorkload id => ({db with workloads := Db.remove (·.id) id db.workloads},none)
    | .getWorkloads => (db,.ok db.workloads)
    | .addTenant id config =>
      ({db with tenants := Db.upsert (·.id) ⟨id,config,.empty,.empty⟩ db.tenants},none)
    | .getTenant id => (db,.ok (db.tenants.find? (·.id = id)))
    | .getTenants => (db,.ok db.tenants)
    | .releaseTenantIP id subnet host =>
      (db.updateNetwork id fun n => Datastore.releaseHost n subnet host,none)
    | .claimTenantIPs id ips => (db.updateNetwork id fun n => ips.foldl Db.claim n,none)
    | .updateTenant id config =>
      ({db with tenants := db.tenants.map fun row => if row.id = id then {row with config} else row},none)
    | .deleteTenant id => ({db with tenants := Db.remove (·.id) id db.tenants},none)
    | .getInstances => (db,.ok db.instances)
    | .addInstance i => ({db with instances := Db.upsert (·.id) i db.instances},none)
    | .deleteInstance id => ({db with instances := Db.remove (·.id) id db.instances},none)
    | .addNodeStat _ => (db,none)
    | .addInstanceStats _ _ => (db,none)
    | .getAllBlockData => (db,.ok (Db.toMap (·.id) db.blockData))
    | .addBlockData v => ({db with blockData := Db.upsert (·.id) v db.blockData},none)
    | .updateBlockData v => ({db with blockData := Db.upsert (·.id) v db.blockData},none)
    | .deleteBlockData id => ({db with blockData := Db.remove (·.id) id db.blockData},none)
    | .addStorageAttachment a => ({db with attachments := Db.upsert (·.id) a db.attachments},none)
    | .getAllStorageAttachments => (db,.ok (Db.toMap (·.id) db.attachments))
    | .deleteStorageAttachment id =>
      ({db with attachments := Db.remove (·.id) id db.attachments},none)
    | .addPool p => ({db with pools := Db.upsert (·.id) p db.pools},none)
    | .updatePool p => ({db with pools := Db.upsert (·.id) p db.pools},none)
    | .getAllPools => (db,Db.toMap (·.id) db.pools)
    | .deletePool id => ({db with pools := Db.remove (·.id) id db.pools},none)
    | .addMappedIP m => ({db with mappedIPs := Db.upsert (·.id) m db.mappedIPs},none)
    | .deleteMappedIP id => ({db with mappedIPs := Db.remove (·.id) id db.mappedIPs},none)
    | .getMappedIPs => (db,Db.toMap (·.externalIP) db.mappedIPs)
    | .updateImage i => ({db with images := Db.upsert (·.id) i db.images},none)
    | .deleteImage id => ({db with images := Db.remove (·.id) id db.images},none)
    | .getImages => (db,.ok db.images)

def storeFailure : Error := .new "store failure"

/-- The reply of a failed call; the two reads that report no error return nothing. -/
def Call.failed : (c : Call) → c.Reply
  | .getWorkloads => .error storeFailure
  | .getTenant _ => .error storeFailure
  | .getTenants => .error storeFailure
  | .getInstances => .error storeFailure
  | .getAllBlockData => .error storeFailure
  | .getAllStorageAttachments => .error storeFailure
  | .getAllPools => .empty
  | .getMappedIPs => .empty
  | .getImages => .error storeFailure
  | .init => some storeFailure
  | .logEvent _ => some storeFailure
  | .addWorkload _ => some storeFailure
  | .deleteWorkload _ => some storeFailure
  | .addTenant _ _ => some storeFailure
  | .releaseTenantIP _ _ _ => some storeFailure
  | .claimTenantIPs _ _ => some storeFailure
  | .updateTenant _ _ => some storeFailure
  | .deleteTenant _ => some storeFailure
  | .addInstance _ => some storeFailure
  | .deleteInstance _ => some storeFailure
  | .addNodeStat _ => some storeFailure
  | .addInstanceStats _ _ => some storeFailure
  | .addBlockData _ => some storeFailure
  | .updateBlockData _ => some storeFailure
  | .deleteBlockData _ => some storeFailure
  | .addStorageAttachment _ => some storeFailure
  | .deleteStorageAttachment _ => some storeFailure
  | .addPool _ => some storeFailure
  | .updatePool _ => some storeFailure
  | .deletePool _ => some storeFailure
  | .addMappedIP _ => some storeFailure
  | .deleteMappedIP _ => some storeFailure
  | .updateImage _ => some storeFailure
  | .deleteImage _ => some storeFailure

/-- `rowStore` where the calls `fails` picks fail and change no row. -/
def failing (fails : Call → Bool) : PersistentStore Db where
  call db c := if fails c then (db,c.failed) else rowStore.call db c

private theorem readStore_rowStore (db : Db) : Datastore.readStore rowStore db = .ok (db,db.rows) := rfl

/-- What `Init` builds from an empty store. -/
def emptyDatastore : Datastore Db := ⟨Db.empty,Datastore.build Db.empty.rows []⟩

/-- A store with one tenant "t" of `SubnetBits` 24 and nothing else. -/
def oneTenantStore : Db := {Db.empty with tenants := [⟨"t",⟨"t",24⟩,.empty,.empty⟩]}

/-- `Init` of `oneTenantStore`. -/
def oneTenantDatastore : Datastore Db := ⟨oneTenantStore,Datastore.build oneTenantStore.rows []⟩

theorem booted_rowStore {boot : Datastore.Rows → Prop} (db : Db) (order : List String)
    (consistent : boot db.rows) : Booted rowStore boot ⟨db,Datastore.build db.rows order⟩ :=
  ⟨db,db,db.rows,order,readStore_rowStore db,consistent,rfl⟩

end CiaoDatastore
