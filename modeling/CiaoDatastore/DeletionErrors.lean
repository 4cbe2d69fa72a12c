import CiaoDatastore.Frame
import CiaoDatastore.RowStore

/-! What the instance deletion paths report and when they delete. When the release of the
instance's address fails, `deleteInstance` wraps the error it already holds, which is nil when
its second store delete succeeded, so a failed release is never reported. `StartFailure`
deletes the instance on every fatal reason outside a migration: its comment restricts the
deletion to pending instances, but the code reads no state. -/
namespace CiaoDatastore
namespace Datastore
variable {σ : Type} (P : PersistentStore σ)

/-- A store whose `releaseTenantIP` fails. -/
def releaseFails : Call → Bool
  | .releaseTenantIP .. => true
  | _ => false

/-- A tenant and one of its instances, at the tenant's address 172.16.0.2. -/
def addressedInstance : List Op :=
  [.addTenant "t" ⟨"t",24⟩,
    .addInstance {(default : Instance) with id := "i", tenantID := "t", ipAddress := "172.16.0.2"} 0]

/-- The release of the instance's address fails, and `DeleteInstance` returns no error. -/
theorem failed_release_unreported : ∃ ds ds',
    runOps (failing releaseFails) (fun _ _ => true) emptyDatastore addressedInstance = some ds ∧
    Reachable (failing releaseFails) (fun _ => True) (fun _ _ => true) ds ∧
    ds.cache.instances.get "i" = some 0 ∧ (ds.cache.heap 0).cnci = false ∧
    (ds.releaseTenantIP (failing releaseFails) "t" (ds.cache.heap 0).ipAddress).map (·.2) = some (some storeFailure) ∧
    ds.DeleteInstance (failing releaseFails) "i" [] = some (ds',none) := by
  obtain ⟨ds,run,rest⟩ : ∃ ds, runOps (failing releaseFails) (fun _ _ => true) emptyDatastore addressedInstance =
      some ds ∧ ds.cache.instances.get "i" = some 0 ∧ (ds.cache.heap 0).cnci = false ∧
      (ds.releaseTenantIP (failing releaseFails) "t" (ds.cache.heap 0).ipAddress).map (·.2) =
        some (some storeFailure) ∧ ∃ ds', ds.DeleteInstance (failing releaseFails) "i" [] = some (ds',none) :=
    ⟨_,rfl,rfl,rfl,rfl,_,rfl⟩
  obtain ⟨live,notCnci,released,ds',deleted⟩ := rest
  exact ⟨ds,ds',run,.of_runOps (.init ⟨_,_,_,[],rfl,trivial,rfl⟩) run,live,notCnci,released,deleted⟩

private theorem deleteInstance_removes {ds ds' : Datastore σ} {k tenantID : String} {order : List Attachment}
    (run : ds.deleteInstance P k order = some (ds',tenantID,none)) : k ∉ ds'.cache.instances.keys := by
  rcases deleteInstance_steps P run with ⟨-,failed⟩ | ⟨p,c,ds₀,ds₁,-,unlinked,released,rfl,cascaded⟩
  · exact absurd rfl failed
  obtain ⟨_,_,shape⟩ := unlinkInstance_shape unlinked
  obtain ⟨_,_,_,_,after,-⟩ := updateStorageAttachments_volumesOnly P cascaded
  have same : ds₁.cache.instances = ds₀.cache.instances := by
    rcases released with ⟨-,rfl⟩ | ⟨-,e,releasedIP⟩
    · rfl
    · obtain ⟨tenants,before,-⟩ := releaseTenantIP_cache P releasedIP
      rw [before]
  simp [after,same,shape]

/-- `StartFailure` of a fatal reason outside a migration that returns no error has deleted the
instance, whatever its state. -/
theorem startFailure_deletes {ds ds' : Datastore σ} {k nodeID : String} {reason : StartFailureReason}
    {order : List Attachment} (fatal : reason.fatal = true)
    (run : ds.startFailure P k reason false nodeID order = some (ds',none)) : k ∉ ds'.cache.instances.keys := by
  unfold startFailure at run
  split at run
  · cases run
  · rw [if_pos ⟨fatal,by decide⟩] at run
    rcases deleted : ds.deleteInstance P k order with _ | ⟨ds₁,tid,_ | e⟩ <;> rw [deleted] at run
    · cases run
    · rw [← (Prod.mk.inj (Option.some.inj run)).1]
      have gone := deleteInstance_removes P deleted
      simp only [call_cache,withCache_cache,countFailure]
      split <;> exact gone
    · cases run

/-- A fatal start failure reported for an instance whose state is the empty default. -/
theorem startFailure_deletes_addressed : ∃ ds ds',
    runOps rowStore (fun _ _ => true) emptyDatastore addressedInstance = some ds ∧
    (ds.cache.heap 0).state = "" ∧
    ds.startFailure rowStore "i" ⟨"full cloud",true⟩ false "" [] = some (ds',none) ∧
    "i" ∉ ds'.cache.instances.keys := by
  obtain ⟨ds,run,state,ds',started⟩ : ∃ ds, runOps rowStore (fun _ _ => true) emptyDatastore addressedInstance =
      some ds ∧ (ds.cache.heap 0).state = "" ∧
      ∃ ds', ds.startFailure rowStore "i" ⟨"full cloud",true⟩ false "" [] = some (ds',none) :=
    ⟨_,rfl,rfl,_,rfl⟩
  exact ⟨ds,ds',run,state,started,startFailure_deletes rowStore rfl started⟩

/-- An instance started, then stopped: its state is `exited`. -/
def stoppedInstance : List Op :=
  [.addTenant "t" ⟨"t",24⟩,.addInstance {(default : Instance) with id := "i", tenantID := "t", state := pending} 0,
    .instanceStopped "i" 0]

/-- A late start failure for the exited instance deletes it. -/
theorem exited_instance_deleted : ∃ ds ds',
    runOps rowStore (fun _ _ => true) emptyDatastore stoppedInstance = some ds ∧
    Reachable rowStore (fun _ => True) (fun _ _ => true) ds ∧
    ds.cache.instances.get "i" = some 0 ∧ (ds.cache.heap 0).state = exited ∧
    ds.startFailure rowStore "i" ⟨"full cloud",true⟩ false "" [] = some (ds',none) ∧
    ds'.cache.instances.get "i" = none := by
  obtain ⟨ds,run,rest⟩ : ∃ ds, runOps rowStore (fun _ _ => true) emptyDatastore stoppedInstance = some ds ∧
      ds.cache.instances.get "i" = some 0 ∧ (ds.cache.heap 0).state = exited ∧
      ∃ ds', ds.startFailure rowStore "i" ⟨"full cloud",true⟩ false "" [] = some (ds',none) ∧
        ds'.cache.instances.get "i" = none :=
    ⟨_,rfl,rfl,rfl,_,rfl,rfl⟩
  obtain ⟨live,state,ds',started,gone⟩ := rest
  exact ⟨ds,ds',run,.of_runOps (.init (booted_rowStore Db.empty [] trivial)) run,live,state,started,gone⟩

end Datastore
end CiaoDatastore
