import CiaoDatastore.Tenant
import CiaoDatastore.Workload
import CiaoDatastore.Image

/-! `Init`: the caches rebuilt from the store. Instance `j` of the store's list gets pointer
`j`. `initImages` and `initWorkloads` stop at the first entry whose tenant is not cached, but
the error they return there wraps the nil `err` of the store read and is nil, so `Init` goes on
with what they loaded. The node index loop over `instances` gives the same nodes in any order;
the attachment loop does not when two attachments share a pair, so its order is an argument. -/
namespace CiaoDatastore
namespace Datastore
variable {σ : Type} (P : PersistentStore σ)

/-- The loop of `initImages`. -/
def initImageList (c : Cache) : List Image → Cache
  | [] => c
  | i :: rest =>
    let c := indexImage c i
    if i.tenantID = "" then initImageList c rest else
    match c.tenants.get i.tenantID with
    | none => c
    | some t => initImageList {c with
        tenants := c.tenants.insert i.tenantID {t with images := t.images ++ [i.id]}} rest

/-- The loop of `initWorkloads`. -/
def initWorkloadList (c : Cache) : List Workload → Cache
  | [] => c
  | wl :: rest =>
    let c := indexWorkload c wl
    if wl.tenantID = "" then initWorkloadList c rest else
    match c.tenants.get wl.tenantID with
    | none => c
    | some t => initWorkloadList {c with
        tenants := c.tenants.insert wl.tenantID {t with workloads := t.workloads ++ [wl.id]}} rest

/-- One round of the node index loop: the instance's node, created when missing, and its
tenant point at it. -/
def linkInstance (c : Cache) (key : String) (ptr : Ptr) : Cache :=
  let i := c.heap ptr
  let n := (c.nodes.get i.nodeID).getD ⟨i.nodeID,"",0,0,0,0,0,.empty⟩
  let c := {c with nodes := c.nodes.insert i.nodeID {n with instances := n.instances.insert key ptr}}
  match c.tenants.get i.tenantID with
  | none => c
  | some t => {c with tenants := c.tenants.insert i.tenantID {t with instances := t.instances.insert i.id ptr}}

/-- The node index loop, over the store's instance list: entry `j` is the one `instances`
kept when its key maps to pointer `j`. -/
def linkInstances (c : Cache) : List (Nat × Instance) → Cache
  | [] => c
  | (j,i) :: rest =>
    linkInstances (if c.instances.get i.id = some j then linkInstance c i.id j else c) rest

/-- The loop over the stored attachments, in `order`, that indexes them by pair. -/
def indexAttachments (attachments : GoMap String StorageAttachment) (index : GoMap Attachment String) :
    List String → GoMap Attachment String
  | [] => index
  | key :: rest =>
    match attachments.get key with
    | none => indexAttachments attachments index rest
    | some a => indexAttachments attachments (index.insert ⟨a.instanceID,a.blockID⟩ key) rest

/-- The union over the pools of a set each pool gives. -/
def poolUnion (pools : GoMap String Pool) (f : Pool → Finset String) : Finset String :=
  pools.keys.biUnion fun k => ((pools.get k).map f).getD ∅

/-- What `Init` reads from the store, in the order it reads it. -/
structure Rows where
  instances : List Instance
  tenants : List TenantRow
  images : List Image
  workloads : List Workload
  blockDevices : GoMap String Volume
  attachments : GoMap String StorageAttachment
  pools : GoMap String Pool
  mappedIPs : GoMap String MappedIP

/-- The store reads of `Init`, with the errors it wraps them in. -/
def readStore (db : σ) : Except Error (σ × Rows) :=
  let (db,err) := P.call db .init
  match err with
  | some e => .error (.wrap "error initialising persistent store" e)
  | none =>
  let (db,reply) := P.call db .getInstances
  match reply with
  | .error e => .error (.wrap "error getting instances from database" e)
  | .ok instances =>
  let (db,reply) := P.call db .getTenants
  match reply with
  | .error e => .error (.wrap "error getting tenants from database" e)
  | .ok tenants =>
  let (db,reply) := P.call db .getImages
  match reply with
  | .error e => .error (.wrap "error initialising images" (.wrap "error getting images from database" e))
  | .ok images =>
  let (db,reply) := P.call db .getWorkloads
  match reply with
  | .error e => .error (.wrap "error initialising workloads" (.wrap "error getting workloads from database" e))
  | .ok workloads =>
  let (db,reply) := P.call db .getAllBlockData
  match reply with
  | .error e => .error (.wrap "error getting block devices from database" e)
  | .ok blockDevices =>
  let (db,reply) := P.call db .getAllStorageAttachments
  match reply with
  | .error e => .error (.wrap "error getting storage attachments from database" e)
  | .ok attachments =>
  let (db,pools) := P.call db .getAllPools
  let (db,mappedIPs) := P.call db .getMappedIPs
  .ok (db,⟨instances,tenants,images,workloads,blockDevices,attachments,pools,mappedIPs⟩)

/-- The caches `Init` builds from what it read, with `order` the iteration order of the stored
attachments. -/
def build (rows : Rows) (order : List String) : Cache :=
  let indexed := rows.instances.enum
  let c : Cache := {
    nodeLastStat := .empty
    instanceLastStat := .empty
    tenants := rows.tenants.foldl (fun m row => m.insert row.id (tenantOfRow row)) .empty
    cnciWorkload := default
    nodes := .empty
    heap := fun ptr => rows.instances.getD ptr default
    next := rows.instances.length
    instances := indexed.foldl (fun m entry => m.insert entry.2.id entry.1) .empty
    tenantUsage := .empty
    blockDevices := rows.blockDevices
    attachments := rows.attachments
    instanceVolumes := indexAttachments rows.attachments .empty order
    pools := rows.pools
    externalSubnets := poolUnion rows.pools fun p => (p.subnets.map (·.cidr)).toFinset
    externalIPs := poolUnion rows.pools fun p => (p.ips.map (·.address)).toFinset
    mappedIPs := rows.mappedIPs
    images := .empty
    publicImages := []
    internalImages := []
    workloads := .empty
    publicWorkloads := [] }
  linkInstances (initWorkloadList (initImageList c rows.images) rows.workloads) indexed

/-- `Init` on a store in state `db`. -/
def init (db : σ) (order : List String) : Except Error (Datastore σ) :=
  (readStore P db).map fun (db,rows) => ⟨db,build rows order⟩

theorem tenantTable_get (rows : List TenantRow) {tid : String} {t : Tenant}
    (got : (rows.foldl (fun m row => m.insert row.id (tenantOfRow row)) GoMap.empty).get tid = some t) :
    ∃ row, t = tenantOfRow row := by
  have fold : ∀ (rows : List TenantRow) (m : GoMap String Tenant),
      (∀ t, m.get tid = some t → ∃ row, t = tenantOfRow row) →
      ∀ t, (rows.foldl (fun m row => m.insert row.id (tenantOfRow row)) m).get tid = some t →
        ∃ row, t = tenantOfRow row := by
    intro rows
    induction rows with
    | nil => exact fun m hm => hm
    | cons row rest ih =>
      refine fun m hm => ih _ fun t got => ?_
      simp only [GoMap.get_insert] at got
      split at got
      · cases got; exact ⟨row,rfl⟩
      · exact hm t got
  exact fold rows _ (fun _ got => by simp at got) t got

theorem tenantTable_keys (rows : List TenantRow) (tid : String) :
    tid ∈ (rows.foldl (fun m row => m.insert row.id (tenantOfRow row)) GoMap.empty).keys ↔
      ∃ row ∈ rows, row.id = tid := by
  have fold : ∀ (rows : List TenantRow) (m : GoMap String Tenant),
      tid ∈ (rows.foldl (fun m row => m.insert row.id (tenantOfRow row)) m).keys ↔
        tid ∈ m.keys ∨ ∃ row ∈ rows, row.id = tid := by
    intro rows
    induction rows with
    | nil => simp
    | cons row rest ih =>
      intro m
      simp only [List.foldl_cons,ih,GoMap.keys_insert,Finset.mem_insert,List.mem_cons]
      constructor
      · rintro ((rfl | mem) | ⟨r,mem,rfl⟩)
        · exact .inr ⟨row,.inl rfl,rfl⟩
        · exact .inl mem
        · exact .inr ⟨r,.inr mem,rfl⟩
      · rintro (mem | ⟨r,rfl | mem,rfl⟩)
        · exact .inl (.inr mem)
        · exact .inl (.inl rfl)
        · exact .inr ⟨r,mem,rfl⟩
  simp [fold]

end Datastore
end CiaoDatastore
