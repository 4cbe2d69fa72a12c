import CiaoDatastore.InstanceLinks

/-! Which calls write the instance indexes. Outside the instance lifecycle (`Op.lifecycle`), no
call changes `instances`, `next`, the ids, tenants and nodes of the instances, or the instance
map of a tenant or a node (`Op.run_sameLinks`): the workload, image, volume, attachment, pool and
tenant network calls write other tables, or other fields of a tenant. So every sequence of
calls keeps the indexes linked (`Reachable.linked`), the lifecycle ones under the preconditions
of `instanceOps`. -/
namespace CiaoDatastore
namespace Datastore
variable {σ : Type} (P : PersistentStore σ)

private theorem jsonPatchTenant_sameLinks (ds : Datastore σ) (id : String) (patch : Except Error ConfigPatch) :
    SameLinks ds.cache (ds.jsonPatchTenant P id patch).1.cache := by
  unfold jsonPatchTenant; dsimp only [call]; repeat' split
  all_goals first | exact .refl _ | exact .insert_tenant (by assumption) rfl rfl rfl rfl rfl (by rfl)

private theorem addWorkload_sameLinks (ds : Datastore σ) (w : Workload) :
    SameLinks ds.cache (ds.addWorkload P w).1.cache := by
  unfold addWorkload; dsimp only [call]; repeat' split
  on_goal -1 => exact .insert_tenant (by assumption) rfl rfl rfl rfl rfl (by rfl)
  all_goals exact .of_fields rfl rfl rfl rfl rfl

private theorem deleteWorkload_sameLinks (ds : Datastore σ) (id : String) :
    SameLinks ds.cache (ds.deleteWorkload P id).1.cache := by
  unfold deleteWorkload; dsimp only [call]; repeat' split
  on_goal -1 => exact .insert_tenant (by assumption) rfl rfl rfl rfl rfl (by rfl)
  all_goals exact .of_fields rfl rfl rfl rfl rfl

private theorem setNetwork_sameLinks {ds : Datastore σ} {tenantID : String} {t u : Tenant}
    (present : ds.cache.tenants.get tenantID = some u) (same : t.instances = u.instances)
    (network : GoMap UInt32 (Finset UInt32)) : SameLinks ds.cache (ds.setNetwork tenantID t network).cache :=
  .insert_tenant present rfl rfl rfl rfl rfl same

private theorem allocateTenantIPPool_sameLinks {ds ds' : Datastore σ} {tenantID : String} {num : Int}
    {order : List UInt32} {r : Except Error (List UInt32)}
    (run : ds.allocateTenantIPPool P tenantID num order = .returns ds' r) : SameLinks ds.cache ds'.cache := by
  unfold allocateTenantIPPool at run
  split at run
  · rename_i got; cases run; rw [GetTenant_cache P got]; exact .refl _
  · cases run
  · rename_i ds₁ _ got
    rw [← GetTenant_cache P got]
    dsimp only at run
    split at run
    · cases run; exact .refl _
    split at run
    · cases run
    rename_i t present
    split at run
    · cases run
    · cases run; exact setNetwork_sameLinks present rfl _
    · split at run
      · cases run
        rw [show ∀ (ds' : Datastore σ) c N N', ((call P (ds'.setNetwork tenantID t N) c).1.setNetwork tenantID t N').cache =
          (ds'.setNetwork tenantID t N').cache by simp [setNetwork]]
        exact setNetwork_sameLinks present rfl _
      · split at run <;> cases run; exact setNetwork_sameLinks present rfl _

private theorem updateBlockDevice_sameLinks {ds ds' : Datastore σ} {data : Volume} {err : Option Error}
    (h : ds.updateBlockDevice P data = some (ds',err)) : SameLinks ds.cache ds'.cache := by
  obtain ⟨_,_,shape,agree⟩ := updateBlockDevice_cache P h
  exact .of_volumesOnly ⟨_,_,_,_,shape,agree⟩

private theorem allocateTenantIP_sameLinks {ds ds' : Datastore σ} {tenantID : String} {order : List UInt32}
    {r : Except Error UInt32} (run : ds.allocateTenantIP P tenantID order = .returns ds' r) :
    SameLinks ds.cache ds'.cache := by
  unfold allocateTenantIP at run
  split at run <;> cases run <;> (rename_i pooled; exact allocateTenantIPPool_sameLinks P pooled)

private theorem releaseTenantIP_sameLinks {ds ds' : Datastore σ} {tenantID ip : String} {err : Option Error}
    (h : ds.releaseTenantIP P tenantID ip = some (ds',err)) : SameLinks ds.cache ds'.cache := by
  obtain ⟨_,shape,agree⟩ := releaseTenantIP_cache P h
  exact .of_volumesOnly ⟨_,_,_,_,shape,agree⟩

private theorem addBlockDevice_sameLinks {ds ds' : Datastore σ} {device : Volume} {err : Option Error}
    (h : ds.addBlockDevice P device = some (ds',err)) : SameLinks ds.cache ds'.cache := by
  obtain ⟨_,_,shape,agree⟩ := addBlockDevice_cache P h
  exact .of_volumesOnly ⟨_,_,_,_,shape,agree⟩

private theorem deleteBlockDevice_sameLinks {ds ds' : Datastore σ} {id : String} {err : Option Error}
    (run : ds.deleteBlockDevice P id = some (ds',err)) : SameLinks ds.cache ds'.cache := by
  unfold deleteBlockDevice at run
  dsimp only [call] at run
  repeat' split at run
  all_goals cases run
  · exact .refl _
  · exact .refl _
  · exact .insert_tenant ‹_› rfl rfl rfl rfl rfl (by rfl)

private theorem createStorageAttachment_sameLinks {ds ds' : Datastore σ} {instanceID uuid : String}
    {volume : StorageResource} {r : Except Error StorageAttachment}
    (run : ds.createStorageAttachment P instanceID volume uuid = some (ds',r)) : SameLinks ds.cache ds'.cache := by
  unfold createStorageAttachment at run
  dsimp only [call] at run
  split at run
  · cases run; exact .refl _
  · split at run
    · cases run; exact .refl _
    · split at run
      · cases run
      · rename_i updated; cases run; exact (updateBlockDevice_sameLinks P updated :)
      · rename_i updated; cases run; exact (updateBlockDevice_sameLinks P updated).trans (.of_fields rfl rfl rfl rfl rfl)

private theorem deleteStorageAttachment_sameLinks (ds : Datastore σ) (id : String) :
    SameLinks ds.cache (ds.deleteStorageAttachment P id).1.cache := by
  unfold deleteStorageAttachment; dsimp only [call]; repeat' split
  all_goals exact .of_fields rfl rfl rfl rfl rfl

private theorem attachVolumeFailure_sameLinks {ds ds' : Datastore σ} {instanceID volumeID reason : String}
    {err : Option Error} (run : ds.attachVolumeFailure P instanceID volumeID reason = some (ds',err)) :
    SameLinks ds.cache ds'.cache := by
  rcases attachVolumeFailure_cases P run with same | ⟨ds₁,_,_,_,updated,same | same⟩ <;> rw [same]
  · exact .refl _
  · exact updateBlockDevice_sameLinks P updated
  · exact (updateBlockDevice_sameLinks P updated).trans (countFailure_sameLinks _ _ _ fun _ => rfl)

private theorem deletePool_sameLinks (ds : Datastore σ) (id : String) :
    SameLinks ds.cache (ds.deletePool P id).1.cache := by
  unfold deletePool; dsimp only [call]; repeat' split
  all_goals exact .of_fields rfl rfl rfl rfl rfl

private theorem addPoolSubnets_shape {c c' : Cache} {subnets : List ExternalSubnet} {e : Option Error}
    (h : addPoolSubnets c subnets = some (c',e)) : ∃ s, c' = {c with externalSubnets := s} := by
  induction subnets generalizing c with
  | nil => cases h; exact ⟨_,rfl⟩
  | cons sub rest ih =>
    simp only [addPoolSubnets] at h
    repeat' split at h
    all_goals first | (cases h; exact ⟨_,rfl⟩) | cases h | (obtain ⟨s,rfl⟩ := ih h; exact ⟨s,rfl⟩)

private theorem addPool_sameLinks {ds ds' : Datastore σ} {pool : Pool} {err : Option Error}
    (run : ds.addPool P pool = some (ds',err)) : SameLinks ds.cache ds'.cache := by
  unfold addPool at run
  generalize checks : (ite (pool.subnets ≠ []) _ _ : Option (Cache × Option Error)) = checked at run
  have shape : ∀ {c e}, checked = some (c,e) → ∃ s ips, c = {ds.cache with externalSubnets := s, externalIPs := ips} := by
    intro c e got
    subst checks
    repeat' split at got
    all_goals first | (obtain ⟨s,rfl⟩ := addPoolSubnets_shape got; exact ⟨_,_,rfl⟩) | (cases got; exact ⟨_,_,rfl⟩) | cases got
  dsimp only [call] at run
  split at run
  · cases run
  · cases run; obtain ⟨_,_,rfl⟩ := shape rfl; exact .of_fields rfl rfl rfl rfl rfl
  · obtain ⟨_,_,rfl⟩ := shape rfl
    split at run <;> cases run
    · exact .of_fields rfl rfl rfl rfl rfl
    · refine SameLinks.trans ?_ (deletePool_sameLinks P _ _)
      exact .of_fields rfl rfl rfl rfl rfl

private theorem addExternalSubnet_sameLinks {ds ds' : Datastore σ} {poolID subnet uuid : String} {err : Option Error}
    (run : ds.addExternalSubnet P poolID subnet uuid = some (ds',err)) : SameLinks ds.cache ds'.cache := by
  unfold addExternalSubnet at run
  dsimp only [call] at run
  repeat' split at run
  all_goals cases run <;> exact .of_fields rfl rfl rfl rfl rfl

private theorem addExternalIPs_sameLinks {ds ds' : Datastore σ} {poolID : String} {IPs : List String}
    {uuid : Nat → String} {err : Option Error} (run : ds.addExternalIPs P poolID IPs uuid = some (ds',err)) :
    SameLinks ds.cache ds'.cache := by
  unfold addExternalIPs at run
  dsimp only [call] at run
  repeat' split at run
  all_goals cases run <;> exact .of_fields rfl rfl rfl rfl rfl

private theorem deleteSubnet_sameLinks {ds ds' : Datastore σ} {poolID subnetID : String} {err : Option Error}
    (run : ds.deleteSubnet P poolID subnetID = some (ds',err)) : SameLinks ds.cache ds'.cache := by
  unfold deleteSubnet at run
  dsimp only [call] at run
  repeat' split at run
  all_goals cases run <;> exact .of_fields rfl rfl rfl rfl rfl

private theorem deleteExternalIP_sameLinks (ds : Datastore σ) (poolID addrID : String) :
    SameLinks ds.cache (ds.deleteExternalIP P poolID addrID).1.cache := by
  unfold deleteExternalIP; dsimp only [call]; repeat' split
  all_goals exact .of_fields rfl rfl rfl rfl rfl

private theorem mapExternalIP_sameLinks {ds ds' : Datastore σ} {poolID instanceID uuid : String}
    {r : Except Error MappedIP} (run : ds.mapExternalIP P poolID instanceID uuid = some (ds',r)) :
    SameLinks ds.cache ds'.cache := by
  unfold mapExternalIP at run
  dsimp only [call] at run
  repeat' split at run
  all_goals cases run <;> exact .of_fields rfl rfl rfl rfl rfl

private theorem unMapExternalIP_sameLinks (ds : Datastore σ) (address : String) :
    SameLinks ds.cache (ds.unMapExternalIP P address).1.cache := by
  unfold unMapExternalIP; dsimp only [call]; repeat' split
  all_goals exact .of_fields rfl rfl rfl rfl rfl

private theorem relistImage_sameLinks {c c' : Cache} {i : Image} {f : List String → List String}
    (h : relistImage c i f = some c') : SameLinks c c' := by
  unfold relistImage at h
  split at h
  · cases h; exact .refl _
  · split at h <;> cases h; exact .insert_tenant ‹_› rfl rfl rfl rfl rfl (by rfl)

private theorem addImage_sameLinks (ds : Datastore σ) (i : Image) :
    SameLinks ds.cache (ds.addImage P i).1.cache := by
  unfold addImage; dsimp only [call]; repeat' split
  all_goals first | exact .refl _ | (rename_i relisted; exact (relistImage_sameLinks relisted).trans (.of_fields rfl rfl rfl rfl rfl))

private theorem updateImage_sameLinks (ds : Datastore σ) (i : Image) :
    SameLinks ds.cache (ds.updateImage P i).1.cache := by
  unfold updateImage; dsimp only [call]; repeat' split
  all_goals exact .of_fields rfl rfl rfl rfl rfl

private theorem deleteImage_sameLinks (ds : Datastore σ) (id : String) :
    SameLinks ds.cache (ds.deleteImage id).1.cache := by
  unfold deleteImage
  split
  · exact .refl _
  · split
    · exact .refl _
    · rename_i relisted; exact (relistImage_sameLinks relisted).trans (.of_fields rfl rfl rfl rfl rfl)

end Datastore
end CiaoDatastore

namespace CiaoDatastore
open Datastore

/-- The calls of the instance lifecycle, the ones `instanceOps` admits. -/
def Op.lifecycle : Op → Bool
  | .addTenant .. | .deleteTenant _ | .addInstance .. | .deleteInstance .. | .startFailure ..
  | .instanceStopped .. | .instanceRestarting .. | .handleStats .. | .addNode .. | .deleteNode _ => true
  | _ => false

/-- No call outside the instance lifecycle changes the instance indexes. -/
private theorem Op.run_sameLinks {σ : Type} (P : PersistentStore σ) {ds ds' : Datastore σ} {op : Op}
    {err : Option Error} (other : op.lifecycle = false) (run : op.run P ds = some (ds',err)) :
    SameLinks ds.cache ds'.cache := by
  cases op <;> first | exact absurd other.symm Bool.false_ne_true |
    (unfold Op.run at run; simp only [Option.some.injEq] at run)
  case jsonPatchTenant id patch =>
    obtain rfl : (ds.jsonPatchTenant P id patch).1 = ds' := by rw [run]
    exact jsonPatchTenant_sameLinks P ds _ _
  case addWorkload w =>
    obtain rfl : (ds.addWorkload P w).1 = ds' := by rw [run]
    exact addWorkload_sameLinks P ds _
  case deleteWorkload id =>
    obtain rfl : (ds.deleteWorkload P id).1 = ds' := by rw [run]
    exact deleteWorkload_sameLinks P ds _
  case allocateTenantIPPool =>
    unfold Op.ofOutcome at run
    split at run <;> cases run
    exact allocateTenantIPPool_sameLinks P ‹_›
  case allocateTenantIP =>
    unfold Op.ofOutcome at run
    split at run <;> cases run
    exact allocateTenantIP_sameLinks P ‹_›
  case releaseTenantIP => exact releaseTenantIP_sameLinks P run
  case attachVolumeFailure => exact attachVolumeFailure_sameLinks P run
  case addBlockDevice => exact addBlockDevice_sameLinks P run
  case deleteBlockDevice => exact deleteBlockDevice_sameLinks P run
  case createStorageAttachment =>
    obtain ⟨⟨ds₁,r⟩,created,same⟩ := Option.map_eq_some'.mp run
    obtain ⟨rfl,-⟩ := Prod.mk.inj same
    exact createStorageAttachment_sameLinks P created
  case deleteStorageAttachment id =>
    obtain rfl : (ds.deleteStorageAttachment P id).1 = ds' := by rw [run]
    exact deleteStorageAttachment_sameLinks P ds _
  case addPool => exact addPool_sameLinks P run
  case deletePool id =>
    obtain rfl : (ds.deletePool P id).1 = ds' := by rw [run]
    exact deletePool_sameLinks P ds _
  case addExternalSubnet => exact addExternalSubnet_sameLinks P run
  case addExternalIPs => exact addExternalIPs_sameLinks P run
  case deleteSubnet => exact deleteSubnet_sameLinks P run
  case deleteExternalIP poolID addrID =>
    obtain rfl : (ds.deleteExternalIP P poolID addrID).1 = ds' := by rw [run]
    exact deleteExternalIP_sameLinks P ds _ _
  case mapExternalIP =>
    obtain ⟨⟨ds₁,r⟩,mapped,same⟩ := Option.map_eq_some'.mp run
    obtain ⟨rfl,-⟩ := Prod.mk.inj same
    exact mapExternalIP_sameLinks P mapped
  case unMapExternalIP address =>
    obtain rfl : (ds.unMapExternalIP P address).1 = ds' := by rw [run]
    exact unMapExternalIP_sameLinks P ds _
  case addImage i =>
    obtain rfl : (ds.addImage P i).1 = ds' := by rw [run]
    exact addImage_sameLinks P ds _
  case updateImage i =>
    obtain rfl : (ds.updateImage P i).1 = ds' := by rw [run]
    exact updateImage_sameLinks P ds _
  case deleteImage id =>
    obtain rfl : (ds.deleteImage id).1 = ds' := by rw [run]
    exact deleteImage_sameLinks ds _

/-- Every call, the lifecycle ones under the preconditions `instanceOps` puts on them. -/
def listingOps (c : Cache) (op : Op) : Bool := !op.lifecycle || instanceOps c op

/-- From a store whose instances belong to stored tenants, every sequence of calls keeps the
instance indexes linked. -/
theorem Reachable.linked {σ : Type} {P : PersistentStore σ} {ds : Datastore σ}
    (reach : Reachable P InstancesOwned listingOps ds) : InstanceLinks ds.cache := by
  induction reach with
  | init booted =>
    obtain ⟨_,_,rows,order,-,owned,rfl⟩ := booted
    exact build_links rows order owned
  | @step _ _ op _ _ admitted run ih =>
    cases life : op.lifecycle
    · exact ih.of_same (Op.run_sameLinks P life run)
    · rw [listingOps,life,Bool.not_true,Bool.false_or] at admitted
      exact Op.run_links P ih admitted run

end CiaoDatastore

