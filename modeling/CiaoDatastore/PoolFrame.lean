import CiaoDatastore.Frame
import CiaoDatastore.RowStore

/-! Which calls write the external pools. The pools and the mapped addresses are written by the
eight pool methods only (`Op.run_poolTables`): the tenant, instance, node, volume, workload and
image calls leave both tables as they were, so that deleting an instance keeps the mappings of
its external addresses. -/
namespace CiaoDatastore

/-- The tables the pool calls write: the pools and the mapped addresses. -/
def poolTables (c : Cache) : GoMap String Pool × GoMap String MappedIP := (c.pools,c.mappedIPs)

/-- The methods that write the pool tables. -/
def Op.poolCall : Op → Bool
  | .addPool _ | .deletePool _ | .addExternalSubnet .. | .addExternalIPs .. | .deleteSubnet ..
  | .deleteExternalIP .. | .mapExternalIP .. | .unMapExternalIP _ => true
  | _ => false

private theorem VolumesOnly.keeps_poolTables {c c' : Cache} (h : VolumesOnly c c') :
    poolTables c' = poolTables c := by
  obtain ⟨_,_,_,_,rfl,-⟩ := h; rfl

namespace Datastore
variable {σ : Type} (P : PersistentStore σ)

private theorem unlinkInstance_poolTables {c c' : Cache} {k : String} {i : Instance}
    (h : unlinkInstance c k i = some c') : poolTables c' = poolTables c := by
  obtain ⟨_,_,rfl⟩ := unlinkInstance_shape h; rfl

@[simp] theorem countFailure_poolTables (c : Cache) (nodeID : String) (count : Node → Node) :
    poolTables (countFailure c nodeID count) = poolTables c := by
  unfold countFailure; split <;> rfl

private theorem deleteInstance_poolTables {ds ds' : Datastore σ} {k tenantID : String} {order : List Attachment}
    {err : Option Error} (run : ds.deleteInstance P k order = some (ds',tenantID,err)) :
    poolTables ds'.cache = poolTables ds.cache := by
  rcases deleteInstance_cases P run with same | ⟨p,c,ds₁,-,unlinked,⟨tenants,shape,-⟩,cascaded⟩
  · rw [same]
  · calc poolTables ds'.cache = poolTables ds₁.cache := (updateStorageAttachments_volumesOnly P cascaded).keeps_poolTables
      _ = poolTables c := by rw [shape]; rfl
      _ = poolTables ds.cache := unlinkInstance_poolTables unlinked

private theorem addInstanceStatList_poolTables {c c' : Cache} {nodeID : String} {now : Int} {stats : List InstanceStat}
    (h : addInstanceStatList nodeID now c stats = some c') : poolTables c' = poolTables c := by
  induction stats generalizing c with
  | nil => cases h; rfl
  | cons stat rest ih =>
    simp only [addInstanceStatList] at h
    split at h
    · cases h
    · rename_i c₁ added
      rw [ih h]
      unfold addInstanceStat at added
      dsimp only at added
      split at added
      · cases added; rfl
      · split at added <;> cases added; rfl

private theorem allocateTenantIPPool_poolTables {ds ds' : Datastore σ} {tenantID : String} {num : Int}
    {order : List UInt32} {r : Except Error (List UInt32)}
    (run : ds.allocateTenantIPPool P tenantID num order = .returns ds' r) :
    poolTables ds'.cache = poolTables ds.cache := by
  unfold allocateTenantIPPool at run
  split at run
  · rename_i got; cases run; rw [GetTenant_cache P got]
  · cases run
  · rename_i ds₁ _ got
    have same := congrArg poolTables (GetTenant_cache P got)
    dsimp only at run
    repeat' split at run
    all_goals (cases run; try exact same)

private theorem allocateTenantIP_poolTables {ds ds' : Datastore σ} {tenantID : String} {order : List UInt32}
    {r : Except Error UInt32} (run : ds.allocateTenantIP P tenantID order = .returns ds' r) :
    poolTables ds'.cache = poolTables ds.cache := by
  unfold allocateTenantIP at run
  split at run <;> cases run <;> (rename_i pooled; exact allocateTenantIPPool_poolTables P pooled)

private theorem jsonPatchTenant_poolTables (ds : Datastore σ) (id : String) (patch : Except Error ConfigPatch) :
    poolTables (ds.jsonPatchTenant P id patch).1.cache = poolTables ds.cache := by
  unfold jsonPatchTenant; dsimp only; repeat' split
  all_goals rfl

private theorem addWorkload_poolTables (ds : Datastore σ) (w : Workload) :
    poolTables (ds.addWorkload P w).1.cache = poolTables ds.cache := by
  unfold addWorkload; dsimp only [call]; repeat' split
  all_goals rfl

private theorem deleteWorkload_poolTables (ds : Datastore σ) (id : String) :
    poolTables (ds.deleteWorkload P id).1.cache = poolTables ds.cache := by
  unfold deleteWorkload; dsimp only [call]; repeat' split
  all_goals rfl

private theorem addInstance_poolTables (ds : Datastore σ) (i : Instance) (now : Int) :
    poolTables (ds.addInstance P i now).1.cache = poolTables ds.cache := by
  unfold addInstance; dsimp only [call]; repeat' split
  all_goals rfl

private theorem addNodeStat_poolTables (ds : Datastore σ) (stat : Stat) :
    poolTables (ds.addNodeStat P stat).1.cache = poolTables ds.cache := rfl

private theorem deleteStorageAttachment_poolTables (ds : Datastore σ) (id : String) :
    poolTables (ds.deleteStorageAttachment P id).1.cache = poolTables ds.cache := by
  unfold deleteStorageAttachment; dsimp only [call]; repeat' split
  all_goals rfl

private theorem relistImage_poolTables {c c' : Cache} {i : Image} {f : List String → List String}
    (h : relistImage c i f = some c') : poolTables c' = poolTables c := by
  unfold relistImage at h
  split at h
  · cases h; rfl
  · split at h <;> cases h; rfl

private theorem addImage_poolTables (ds : Datastore σ) (i : Image) :
    poolTables (ds.addImage P i).1.cache = poolTables ds.cache := by
  unfold addImage; dsimp only [call]; repeat' split
  all_goals first | rfl | (rename_i relisted; rw [← relistImage_poolTables relisted]; rfl)

private theorem updateImage_poolTables (ds : Datastore σ) (i : Image) :
    poolTables (ds.updateImage P i).1.cache = poolTables ds.cache := by
  unfold updateImage; dsimp only [call]; repeat' split
  all_goals rfl

private theorem deleteImage_poolTables (ds : Datastore σ) (id : String) :
    poolTables (ds.deleteImage id).1.cache = poolTables ds.cache := by
  unfold deleteImage
  split
  · rfl
  · split
    · rfl
    · rename_i relisted; rw [← relistImage_poolTables relisted]; rfl

private theorem updateInstanceStatus_poolTables {ds ds₁ : Datastore σ} {status k : String} {now : Int}
    {e : Option Error} (h : ds.updateInstanceStatus P status k now = (ds₁,e)) :
    poolTables ds₁.cache = poolTables ds.cache := by
  obtain ⟨_,shape⟩ := updateInstanceStatus_cache P ds status k now
  rw [h] at shape; rw [shape]; rfl

private theorem instanceStopped_poolTables {ds ds' : Datastore σ} {k : String} {now : Int} {err : Option Error}
    (run : ds.instanceStopped P k now = some (ds',err)) : poolTables ds'.cache = poolTables ds.cache := by
  unfold instanceStopped at run
  split at run
  · cases run; exact updateInstanceStatus_poolTables P ‹_›
  · rename_i updated
    dsimp only at run
    repeat' split at run
    all_goals (cases run; try (rw [← updateInstanceStatus_poolTables P updated]; rfl))

private theorem instanceRestarting_poolTables {ds ds' : Datastore σ} {k : String} {now : Int} {err : Option Error}
    (run : ds.instanceRestarting P k now = some (ds',err)) : poolTables ds'.cache = poolTables ds.cache := by
  unfold instanceRestarting at run
  split at run
  · cases run; exact updateInstanceStatus_poolTables P ‹_›
  · rename_i updated
    dsimp only at run
    repeat' split at run
    all_goals (cases run; try (rw [← updateInstanceStatus_poolTables P updated]; rfl))

private theorem deleteNode_poolTables {ds ds' : Datastore σ} {nodeID : String} {err : Option Error}
    (run : ds.deleteNode nodeID = some (ds',err)) : poolTables ds'.cache = poolTables ds.cache := by
  unfold deleteNode at run
  split at run <;> cases run; rfl

private theorem deleteBlockDevice_poolTables {ds ds' : Datastore σ} {id : String} {err : Option Error}
    (run : ds.deleteBlockDevice P id = some (ds',err)) : poolTables ds'.cache = poolTables ds.cache := by
  unfold deleteBlockDevice at run
  dsimp only [call] at run
  repeat' split at run
  all_goals (cases run; try rfl)

private theorem updateBlockDevice_poolTables {ds ds' : Datastore σ} {data : Volume} {err : Option Error}
    (h : ds.updateBlockDevice P data = some (ds',err)) : poolTables ds'.cache = poolTables ds.cache := by
  obtain ⟨_,_,shape,-⟩ := updateBlockDevice_cache P h
  rw [shape]; rfl

private theorem createStorageAttachment_poolTables {ds ds' : Datastore σ} {instanceID uuid : String}
    {volume : StorageResource} {r : Except Error StorageAttachment}
    (run : ds.createStorageAttachment P instanceID volume uuid = some (ds',r)) :
    poolTables ds'.cache = poolTables ds.cache := by
  unfold createStorageAttachment at run
  dsimp only [call] at run
  split at run
  · cases run; rfl
  · split at run
    · cases run; rfl
    · split at run
      · cases run
      · rename_i updated; cases run; rw [← updateBlockDevice_poolTables P updated]
      · rename_i updated; cases run; rw [← updateBlockDevice_poolTables P updated]; rfl

end Datastore
end CiaoDatastore

namespace CiaoDatastore
open Datastore

/-- No call outside the pool methods writes the pools or the mapped addresses. -/
theorem Op.run_poolTables {σ : Type} (P : PersistentStore σ) {ds ds' : Datastore σ} {op : Op}
    {err : Option Error} (other : op.poolCall = false) (run : op.run P ds = some (ds',err)) :
    poolTables ds'.cache = poolTables ds.cache := by
  cases op <;> first | exact absurd other.symm Bool.false_ne_true |
    (unfold Op.run at run; simp only [Option.some.injEq,Prod.mk.injEq] at run)
  case addTenant id config =>
    obtain ⟨_,shape⟩ := addTenant_cache P ds id config
    rw [← run.1,shape]; rfl
  case deleteTenant id =>
    obtain ⟨_,shape⟩ := deleteTenant_cache P ds id
    obtain rfl : (ds.deleteTenant P id).1 = ds' := by rw [run]
    rw [shape]; rfl
  case jsonPatchTenant id patch =>
    obtain rfl : (ds.jsonPatchTenant P id patch).1 = ds' := by rw [run]
    exact jsonPatchTenant_poolTables P ds _ _
  case addWorkload w =>
    obtain rfl : (ds.addWorkload P w).1 = ds' := by rw [run]
    exact addWorkload_poolTables P ds _
  case deleteWorkload id =>
    obtain rfl : (ds.deleteWorkload P id).1 = ds' := by rw [run]
    exact deleteWorkload_poolTables P ds _
  case allocateTenantIPPool =>
    unfold Op.ofOutcome at run
    split at run <;> cases run
    exact allocateTenantIPPool_poolTables P ‹_›
  case allocateTenantIP =>
    unfold Op.ofOutcome at run
    split at run <;> cases run
    exact allocateTenantIP_poolTables P ‹_›
  case releaseTenantIP =>
    obtain ⟨_,shape,-⟩ := releaseTenantIP_cache P run
    rw [shape]; rfl
  case addInstance i now =>
    obtain rfl : (ds.addInstance P i now).1 = ds' := by rw [run]
    exact addInstance_poolTables P ds _ _
  case startFailure =>
    obtain ⟨ds₁,first,last⟩ := startFailure_cases P run
    have deleted : poolTables ds₁.cache = poolTables ds.cache := by
      rcases first with rfl | ⟨_,_,deleted⟩
      · rfl
      · exact deleteInstance_poolTables P deleted
    rcases last with last | last <;> rw [← deleted] <;> simp only [last,countFailure_poolTables]
  case attachVolumeFailure =>
    rcases attachVolumeFailure_cases P run with same | ⟨ds₁,_,_,_,updated,last⟩
    · rw [same]
    · rw [← updateBlockDevice_poolTables P updated]
      rcases last with last | last <;> simp only [last,countFailure_poolTables]
  case deleteInstance =>
    rcases DeleteInstance_cases P run with same | ⟨ds₁,_,_,deleted,same⟩
    · rw [same]
    · rw [same]; exact deleteInstance_poolTables P deleted
  case instanceRestarting => exact instanceRestarting_poolTables P run
  case instanceStopped => exact instanceStopped_poolTables P run
  case deleteNode => exact deleteNode_poolTables run
  case addNode =>
    rw [← run.1]; unfold Datastore.addNode; repeat' split
    all_goals rfl
  case handleStats =>
    obtain ⟨ds₁,first,last⟩ := handleStats_cases P run
    have noded : poolTables ds₁.cache = poolTables ds.cache := by
      rcases first with rfl | rfl
      · rfl
      · exact addNodeStat_poolTables P ds _
    rw [← noded]
    rcases last with same | listed
    · rw [same]
    · exact addInstanceStatList_poolTables listed
  case addBlockDevice =>
    obtain ⟨_,_,shape,-⟩ := addBlockDevice_cache P run
    rw [shape]; rfl
  case deleteBlockDevice => exact deleteBlockDevice_poolTables P run
  case createStorageAttachment =>
    obtain ⟨⟨ds₁,r⟩,created,same⟩ := Option.map_eq_some'.mp run
    obtain ⟨rfl,-⟩ := Prod.mk.inj same
    exact createStorageAttachment_poolTables P created
  case deleteStorageAttachment id =>
    obtain rfl : (ds.deleteStorageAttachment P id).1 = ds' := by rw [run]
    exact deleteStorageAttachment_poolTables P ds _
  case addImage i =>
    obtain rfl : (ds.addImage P i).1 = ds' := by rw [run]
    exact addImage_poolTables P ds _
  case updateImage i =>
    obtain rfl : (ds.updateImage P i).1 = ds' := by rw [run]
    exact updateImage_poolTables P ds _
  case deleteImage id =>
    obtain rfl : (ds.deleteImage id).1 = ds' := by rw [run]
    exact deleteImage_poolTables ds _

/-- A tenant, a pool of one address, an instance of the tenant, and the address mapped to it. -/
def mappedPool : List Op :=
  [.addTenant "t" ⟨"t",24⟩,.addPool ⟨"p","pool",1,1,[],[⟨"x","10.0.0.1"⟩]⟩,
    .addInstance {(default : Instance) with id := "i", tenantID := "t"} 0,.mapExternalIP "p" "i" "m"]

/-- Deleting the instance keeps the mapping of its external address. -/
theorem deleteInstance_keeps_mapping : ∃ ds ds' err,
    runOps rowStore (fun _ _ => true) emptyDatastore mappedPool = some ds ∧
    (Op.deleteInstance "i" []).run rowStore ds = some (ds',err) ∧ ds'.cache.instances.get "i" = none ∧
    (ds'.cache.mappedIPs.get "10.0.0.1").map (·.instanceID) = some "i" := by
  obtain ⟨ds,run,mapped,ds',err,deleted,gone⟩ : ∃ ds, runOps rowStore (fun _ _ => true) emptyDatastore mappedPool =
      some ds ∧ (ds.cache.mappedIPs.get "10.0.0.1").map (·.instanceID) = some "i" ∧
      ∃ ds' err, (Op.deleteInstance "i" []).run rowStore ds = some (ds',err) ∧ ds'.cache.instances.get "i" = none :=
    ⟨_,rfl,rfl,_,_,rfl,rfl⟩
  have kept := Op.run_poolTables rowStore (by rfl) deleted
  rw [poolTables,poolTables,Prod.mk.injEq] at kept
  exact ⟨ds,ds',err,run,deleted,gone,kept.2 ▸ mapped⟩

end CiaoDatastore
