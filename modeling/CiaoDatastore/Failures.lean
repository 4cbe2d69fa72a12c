import CiaoDatastore.Frame
import CiaoDatastore.RowStore

/-! What a call that returns an error leaves of the caches. Most calls check what they can,
then write the store, and change the caches only once the store has the change; an error of
theirs leaves every table as it was, whatever the store does. `AddWorkload` caches the workload
before it looks its tenant up. `DeleteTenant`, `JSONPatchTenant` and `DeletePool` change the
caches before they ask the store; `MapExternalIP` and `UnMapExternalIP` write the mapping, then
the pool's count; `DeleteSubnet` and `DeleteExternalIP` leave a shifted list behind when the
store fails; `AddPool` registers a pool's subnets as it checks them. Their validation errors
still leave the caches: every error does, with a store whose writes succeed. -/
namespace CiaoDatastore

/-- A store whose writes of tenants, pools and mappings all succeed; its other calls may fail. -/
structure WritesSucceed {σ : Type} (P : PersistentStore σ) : Prop where
  updateTenant : ∀ db id config, (P.call db (.updateTenant id config)).2 = none
  deleteTenant : ∀ db id, (P.call db (.deleteTenant id)).2 = none
  addPool : ∀ db pool, (P.call db (.addPool pool)).2 = none
  updatePool : ∀ db pool, (P.call db (.updatePool pool)).2 = none
  deletePool : ∀ db id, (P.call db (.deletePool id)).2 = none
  addMappedIP : ∀ db m, (P.call db (.addMappedIP m)).2 = none
  deleteMappedIP : ∀ db id, (P.call db (.deleteMappedIP id)).2 = none

namespace Datastore
variable {σ : Type} (P : PersistentStore σ) {ds : Datastore σ}

/-- The call `r` of a method on `ds` succeeded, or left the caches of `ds`. -/
def KeepsCache (ds : Datastore σ) {α : Type} (r : Datastore σ × Except Error α) : Prop :=
  (∃ a, r.2 = .ok a) ∨ r.1.cache = ds.cache

/-- The same for a method that returns only an error. -/
def Kept (ds : Datastore σ) (r : Datastore σ × Option Error) : Prop :=
  r.2 = none ∨ r.1.cache = ds.cache

private theorem deleteWorkload_kept (id : String) : Kept ds (ds.deleteWorkload P id) := by
  unfold deleteWorkload
  dsimp only [call]
  repeat' split
  all_goals first | exact .inl rfl | exact .inr rfl

private theorem addWorkload_kept (w : Workload) :
    (ds.addWorkload P w).2 = some errNoTenant ∨ Kept ds (ds.addWorkload P w) := by
  unfold addWorkload
  dsimp only [call]
  repeat' split
  all_goals first | exact .inl rfl | exact .inr (.inl rfl) | exact .inr (.inr rfl)

private theorem addImage_kept (i : Image) : Kept ds (ds.addImage P i) := by
  unfold addImage
  dsimp only [call]
  repeat' split
  all_goals first | exact .inl rfl | exact .inr rfl

private theorem updateImage_kept (i : Image) : Kept ds (ds.updateImage P i) := by
  unfold updateImage
  dsimp only [call]
  repeat' split
  all_goals first | exact .inl rfl | exact .inr rfl

private theorem addExternalSubnet_kept (poolID subnet uuid : String) :
    ∀ r ∈ ds.addExternalSubnet P poolID subnet uuid, Kept ds r := by
  unfold addExternalSubnet
  dsimp only [call]
  repeat' split
  all_goals intro r mem; cases mem
  all_goals first | exact .inl rfl | exact .inr rfl

private theorem addExternalIPs_kept (poolID : String) (IPs : List String) (uuid : Nat → String) :
    ∀ r ∈ ds.addExternalIPs P poolID IPs uuid, Kept ds r := by
  unfold addExternalIPs
  dsimp only [call]
  repeat' split
  all_goals intro r mem; cases mem
  all_goals first | exact .inl rfl | exact .inr rfl

private theorem addBlockDevice_kept (device : Volume) : ∀ r ∈ ds.addBlockDevice P device, Kept ds r := by
  unfold addBlockDevice
  dsimp only [call]
  repeat' split
  all_goals intro r mem; cases mem
  all_goals first | exact .inl rfl | exact .inr rfl

private theorem updateBlockDevice_kept (data : Volume) : ∀ r ∈ ds.updateBlockDevice P data, Kept ds r := by
  unfold updateBlockDevice
  split
  · intro r mem; cases mem; exact .inr rfl
  · split
    · intro r mem; cases mem
    · rename_i ds' err added
      intro r mem; cases mem
      refine (addBlockDevice_kept P data _ added).imp (fun ok => ?_) id
      simp only at ok; simp [ok,Error.wrapNil]

private theorem createStorageAttachment_kept (instanceID : String) (volume : StorageResource) (uuid : String) :
    ∀ r ∈ ds.createStorageAttachment P instanceID volume uuid, KeepsCache ds r := by
  unfold createStorageAttachment
  dsimp only [call]
  split
  · intro r mem; cases mem; exact .inr rfl
  · split
    · intro r mem; cases mem; exact .inr rfl
    · split
      · intro r mem; cases mem
      · rename_i ds' e updated
        intro r mem; cases mem
        exact .inr ((updateBlockDevice_kept P _ _ updated).resolve_left nofun)
      · intro r mem; cases mem; exact .inl ⟨_,rfl⟩

private theorem deleteTenant_kept {P : PersistentStore σ} (writes : WritesSucceed P) (id : String) :
    Kept ds (ds.deleteTenant P id) := by
  unfold deleteTenant
  split
  · exact .inr rfl
  · exact .inl (writes.deleteTenant _ _)

private theorem jsonPatchTenant_kept {P : PersistentStore σ} (writes : WritesSucceed P) (id : String)
    (patch : Except Error ConfigPatch) :
    Kept ds (ds.jsonPatchTenant P id patch) := by
  unfold jsonPatchTenant
  dsimp only
  repeat' split
  all_goals first | exact .inr rfl | exact .inl (writes.updateTenant _ _ _)

/-- `JSONPatchTenant` sets any `SubnetBits` the patch gives: unlike `CreateTenant`, it checks
no range, and a tenant created with 24 bits is patched to 31. -/
theorem patched_subnet_bits_unchecked : ∃ ds₁ ds₂,
    (Op.addTenant "t" ⟨"t",24⟩).run rowStore emptyDatastore = some (ds₁,none) ∧
    (Op.jsonPatchTenant "t" (.ok ⟨none,some (some 31)⟩)).run rowStore ds₁ = some (ds₂,none) ∧
    (ds₂.cache.tenants.get "t").map (·.config.subnetBits) = some 31 :=
  ⟨_,_,rfl,rfl,by decide⟩

private theorem deletePool_kept {P : PersistentStore σ} (writes : WritesSucceed P) (id : String) :
    Kept ds (ds.deletePool P id) := by
  unfold deletePool
  dsimp only [call]
  repeat' split
  all_goals first | exact .inr rfl | exact .inl (by simp [writes.deletePool,Error.wrapNil])

private theorem deleteSubnet_kept {P : PersistentStore σ} (writes : WritesSucceed P) (poolID subnetID : String) :
    ∀ r ∈ ds.deleteSubnet P poolID subnetID, Kept ds r := by
  unfold deleteSubnet
  dsimp only [call]
  repeat' split
  all_goals intro r mem; cases mem
  all_goals first | exact .inl rfl | exact .inr rfl | simp_all [writes.updatePool]

private theorem deleteExternalIP_kept {P : PersistentStore σ} (writes : WritesSucceed P) (poolID addrID : String) :
    Kept ds (ds.deleteExternalIP P poolID addrID) := by
  unfold deleteExternalIP
  dsimp only [call]
  repeat' split
  all_goals first | exact .inl rfl | exact .inr rfl | simp_all [writes.updatePool]

private theorem mapExternalIP_kept {P : PersistentStore σ} (writes : WritesSucceed P) (poolID instanceID uuid : String) :
    ∀ r ∈ ds.mapExternalIP P poolID instanceID uuid, KeepsCache ds r := by
  unfold mapExternalIP
  dsimp only [call]
  repeat' split
  all_goals intro r mem; cases mem
  all_goals first | exact .inl ⟨_,rfl⟩ | exact .inr rfl | simp_all [writes.addMappedIP,writes.updatePool]

/-- A store whose pool updates fail. -/
def poolUpdateFails : Call → Bool
  | .updatePool _ => true
  | _ => false

/-- A pool of one address and an instance to map it to. -/
def onePool : List Op :=
  [.addPool ⟨"p","pool",1,1,[],[⟨"x","10.0.0.1"⟩]⟩,.addInstance {(default : Instance) with id := "i"} 0]

/-- `MapExternalIP` caches the mapping before it writes the pool's new count: when that write
fails, the address is mapped and the pool still counts it free. -/
theorem mapped_ip_still_free : ∃ ds ds' e,
    runOps (failing poolUpdateFails) (fun _ _ => true) emptyDatastore onePool = some ds ∧
    (Op.mapExternalIP "p" "i" "m").run (failing poolUpdateFails) ds = some (ds',some e) ∧
    (ds'.cache.mappedIPs.get "10.0.0.1").map (·.poolID) = some "p" ∧
    (ds'.cache.pools.get "p").map (fun p => (p.free,p.totalIPs)) = some (1,1) :=
  ⟨_,_,_,rfl,rfl,by decide,by decide⟩

private theorem unMapExternalIP_kept {P : PersistentStore σ} (writes : WritesSucceed P) (address : String) :
    Kept ds (ds.unMapExternalIP P address) := by
  unfold unMapExternalIP
  dsimp only [call]
  repeat' split
  all_goals first | exact .inl rfl | exact .inr rfl | simp_all [writes.deleteMappedIP,writes.updatePool]

private theorem addPool_kept {P : PersistentStore σ} (writes : WritesSucceed P) {pool : Pool} (addresses : pool.subnets = []) :
    ∀ r ∈ ds.addPool P pool, Kept ds r := by
  unfold addPool
  simp only [call,addresses,ne_eq,not_true_eq_false,if_false]
  split
  · intro r mem; cases mem
  · rename_i c e checked
    have rejected : c = ds.cache := by
      repeat' split at checked
      all_goals simp only [Option.some.injEq,Prod.mk.injEq,reduceCtorEq] at checked
      all_goals first | exact checked.1.symm | exact absurd checked.2 nofun
    intro r mem; cases mem; exact .inr rejected
  · split
    · intro r mem; cases mem; exact .inl rfl
    · rename_i failed; simp [writes.addPool] at failed

/-- `AddPool` registers a pool's subnets as it checks them: of two overlapping subnets the first
stays registered when the second is rejected, and no pool holds it. -/
theorem rejected_pool_subnet_registered : ∃ ds e,
    (Op.addPool ⟨"p","pool",0,0,[⟨"a","10.0.0.0/24"⟩,⟨"b","10.0.0.128/25"⟩],[]⟩).run rowStore
      emptyDatastore = some (ds,some e) ∧
    ds.cache.pools.get "p" = none ∧ "10.0.0.0/24" ∈ ds.cache.externalSubnets :=
  ⟨_,_,rfl,by decide,by decide⟩

theorem Kept.cache {r : Datastore σ × Option Error} {ds' : Datastore σ} {e : Error} (h : Kept ds r)
    (failed : r = (ds',some e)) : ds'.cache = ds.cache := by
  subst failed; exact h.resolve_left nofun

theorem KeepsCache.cache {α : Type} {r : Option (Datastore σ × Except Error α)} {ds' : Datastore σ}
    {e : Error} (h : ∀ x ∈ r, KeepsCache ds x)
    (failed : r.map (fun x => (x.1,Op.errorOf x.2)) = some (ds',some e)) : ds'.cache = ds.cache := by
  obtain ⟨⟨ds₁,reply⟩,returned,same⟩ := Option.map_eq_some'.mp failed
  simp only [Prod.mk.injEq] at same
  obtain ⟨rfl,errored⟩ := same
  refine (h _ returned).resolve_left ?_
  rintro ⟨a,ok⟩
  simp only at ok; subst ok; cases errored

end Datastore

/-- The calls whose every error leaves the caches, whatever the store does; `AddWorkload` on
every error but a missing tenant. -/
def keepsCacheOn : Op → Error → Bool
  | .addWorkload _,e => decide (e ≠ errNoTenant)
  | .deleteWorkload _,_ | .addExternalSubnet ..,_ | .addExternalIPs ..,_ | .addImage _,_
  | .updateImage _,_ | .createStorageAttachment ..,_ => true
  | _,_ => false

/-- The calls whose every error leaves the caches when the store's writes succeed: those that
check before they write, and `AddPool` of a pool with addresses only. -/
def validatedFirst : Op → Bool
  | .deleteWorkload _ | .addExternalSubnet .. | .addExternalIPs .. | .addImage _ | .updateImage _
  | .createStorageAttachment .. | .deleteTenant _ | .jsonPatchTenant .. | .deletePool _
  | .deleteSubnet .. | .deleteExternalIP .. | .mapExternalIP .. | .unMapExternalIP _ => true
  | .addPool pool => pool.subnets.isEmpty
  | _ => false

private theorem Op.failed_keeps_cache {σ : Type} (P : PersistentStore σ) {ds ds' : Datastore σ} {op : Op}
    {e : Error} (run : op.run P ds = some (ds',some e)) (covered : keepsCacheOn op e = true) :
    ds'.cache = ds.cache := by
  cases op <;> first | exact absurd covered Bool.false_ne_true | (unfold Op.run at run; simp only [Option.some.injEq] at run)
  case addWorkload w =>
    refine ((Datastore.addWorkload_kept P w).resolve_left ?_).cache run
    rw [run]; exact fun same => of_decide_eq_true covered (Option.some.inj same)
  case deleteWorkload => exact (Datastore.deleteWorkload_kept P _).cache run
  case createStorageAttachment => exact Datastore.KeepsCache.cache (Datastore.createStorageAttachment_kept P _ _ _) run
  case addExternalSubnet => exact (Datastore.addExternalSubnet_kept P _ _ _ _ (by rw [run]; rfl)).cache rfl
  case addExternalIPs => exact (Datastore.addExternalIPs_kept P _ _ _ _ (by rw [run]; rfl)).cache rfl
  case addImage => exact (Datastore.addImage_kept P _).cache run
  case updateImage => exact (Datastore.updateImage_kept P _).cache run

private theorem Op.failed_validated_keeps_cache {σ : Type} {P : PersistentStore σ} (writes : WritesSucceed P)
    {ds ds' : Datastore σ} {op : Op} {e : Error} (run : op.run P ds = some (ds',some e))
    (covered : validatedFirst op = true) : ds'.cache = ds.cache := by
  cases op <;> first | exact absurd covered Bool.false_ne_true | (unfold Op.run at run; simp only [Option.some.injEq] at run)
  case deleteTenant => exact (Datastore.deleteTenant_kept writes _).cache run
  case jsonPatchTenant => exact (Datastore.jsonPatchTenant_kept writes _ _).cache run
  case deleteWorkload => exact (Datastore.deleteWorkload_kept P _).cache run
  case createStorageAttachment =>
    exact Datastore.KeepsCache.cache (Datastore.createStorageAttachment_kept P _ _ _) run
  case addPool pool =>
    exact (Datastore.addPool_kept writes (List.isEmpty_iff.mp covered) _ (by rw [run]; rfl)).cache rfl
  case deletePool => exact (Datastore.deletePool_kept writes _).cache run
  case addExternalSubnet => exact (Datastore.addExternalSubnet_kept P _ _ _ _ (by rw [run]; rfl)).cache rfl
  case addExternalIPs => exact (Datastore.addExternalIPs_kept P _ _ _ _ (by rw [run]; rfl)).cache rfl
  case deleteSubnet => exact (Datastore.deleteSubnet_kept writes _ _ _ (by rw [run]; rfl)).cache rfl
  case deleteExternalIP => exact (Datastore.deleteExternalIP_kept writes _ _).cache run
  case mapExternalIP => exact Datastore.KeepsCache.cache (Datastore.mapExternalIP_kept writes _ _ _) run
  case unMapExternalIP => exact (Datastore.unMapExternalIP_kept writes _).cache run
  case addImage => exact (Datastore.addImage_kept P _).cache run
  case updateImage => exact (Datastore.updateImage_kept P _).cache run

/-- A call that returns an error leaves every table as it was when it is one of `keepsCacheOn`,
whatever the store does, and when it is one of `validatedFirst` and the store's writes succeed,
so that the error is one of the call's own checks. -/
theorem failed_call_keeps_cache {σ : Type} (P : PersistentStore σ) {ds ds' : Datastore σ} {op : Op}
    {e : Error} (run : op.run P ds = some (ds',some e)) :
    (keepsCacheOn op e = true → ds'.cache = ds.cache) ∧
      (WritesSucceed P → validatedFirst op = true → ds'.cache = ds.cache) :=
  ⟨Op.failed_keeps_cache P run,fun writes => Op.failed_validated_keeps_cache writes run⟩

/-- An image added to a store that fails every call. -/
theorem failed_image_write_keeps_cache : ∃ ds' e,
    (Op.addImage ⟨"i","","i",publicVisibility⟩).run (failing fun _ => true) emptyDatastore = some (ds',some e) ∧
      ds'.cache = emptyDatastore.cache :=
  ⟨_,_,rfl,(@failed_call_keeps_cache _ (failing fun _ => true) emptyDatastore _
    (.addImage ⟨"i","","i",publicVisibility⟩) _ rfl).1 rfl⟩

/-- The tenant lists, workload, pool, external address, image and attachment tables as they were. -/
structure SameTables (c c' : Cache) : Prop where
  tenants : TenantsAgree (fun t => (t.workloads,t.images)) c.tenants c'.tenants
  workloads : c'.workloads = c.workloads
  publicWorkloads : c'.publicWorkloads = c.publicWorkloads
  pools : c'.pools = c.pools
  externalSubnets : c'.externalSubnets = c.externalSubnets
  externalIPs : c'.externalIPs = c.externalIPs
  mappedIPs : c'.mappedIPs = c.mappedIPs
  images : c'.images = c.images
  attachments : c'.attachments = c.attachments
  instanceVolumes : c'.instanceVolumes = c.instanceVolumes

/-- The calls that write those tables: the tenant, workload, pool, external address, image and
attachment writes. -/
def claimedAtomic : Op → Bool
  | .addWorkload _ | .deleteWorkload _ | .deleteTenant _ | .jsonPatchTenant .. | .addPool _
  | .deletePool _ | .addExternalSubnet .. | .addExternalIPs .. | .deleteSubnet .. | .deleteExternalIP ..
  | .mapExternalIP .. | .unMapExternalIP _ | .addImage _ | .updateImage _
  | .createStorageAttachment .. => true
  | _ => false

/-- A store whose tenant deletions fail. -/
def tenantDeletionFails : Call → Bool
  | .deleteTenant _ => true
  | _ => false

theorem failed_calls_atomic_refuted : ¬ ∀ (fails : Call → Bool) (ds ds' : Datastore Db) (op : Op)
    (e : Error), Reachable (failing fails) (fun _ => True) (fun _ _ => true) ds →
    claimedAtomic op = true → op.run (failing fails) ds = some (ds',some e) →
    SameTables ds.cache ds'.cache := by
  intro claim
  obtain ⟨ds₁,ds₂,added,deleted,cached,dropped⟩ : ∃ ds₁ ds₂,
      (Op.addTenant "t" ⟨"t",24⟩).run (failing tenantDeletionFails) emptyDatastore = some (ds₁,none) ∧
      (Op.deleteTenant "t").run (failing tenantDeletionFails) ds₁ = some (ds₂,some storeFailure) ∧
      "t" ∈ ds₁.cache.tenants.keys ∧ "t" ∉ ds₂.cache.tenants.keys :=
    ⟨_,_,rfl,rfl,by decide,by decide⟩
  have reach : Reachable (failing tenantDeletionFails) (fun _ => True) (fun _ _ => true) ds₁ :=
    .step (.init ⟨Db.empty,Db.empty,Db.empty.rows,[],rfl,trivial,rfl⟩) rfl added
  exact dropped (((claim _ _ _ (.deleteTenant "t") _ reach rfl deleted).tenants.keys "t").mpr cached)

end CiaoDatastore
