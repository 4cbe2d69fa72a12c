import CiaoDatastore.Instance
import CiaoDatastore.Init

/-! What the helpers that several calls share change of the caches: `GetTenant` nothing,
`ReleaseTenantIP` one tenant's network, the block-device and attachment helpers the block
devices, the attachments, their index and the tenants' device maps, `updateInstanceStatus`
only `instanceLastStat`. The invariants of the caches are stated over what these keep. -/
namespace CiaoDatastore

/-- What the indexes read of a tenant: its id and the ids it lists. -/
def Tenant.members (t : Tenant) : String × GoMap String Ptr × List String × List String :=
  (t.id,t.instances,t.workloads,t.images)

/-- Two tenant maps with the same keys whose tenants agree under `f`. -/
def TenantsAgree {α : Type} (f : Tenant → α) (m m' : GoMap String Tenant) : Prop :=
  ∀ tid, (m'.get tid).map f = (m.get tid).map f

namespace TenantsAgree
variable {α β : Type} {f : Tenant → α} {m m' m'' : GoMap String Tenant}

theorem refl (f : Tenant → α) (m : GoMap String Tenant) : TenantsAgree f m m := fun _ => rfl

theorem trans (h : TenantsAgree f m m') (h' : TenantsAgree f m' m'') : TenantsAgree f m m'' :=
  fun tid => (h' tid).trans (h tid)

theorem map (g : α → β) (h : TenantsAgree f m m') : TenantsAgree (g ∘ f) m m' := fun tid => by
  rw [← Option.map_map,h tid,Option.map_map]

theorem insert {k : String} {t t' : Tenant} (present : m.get k = some t) (same : f t' = f t) :
    TenantsAgree f m (m.insert k t') := by
  intro tid; by_cases at_k : tid = k <;> simp [at_k,present,same]

theorem keys (h : TenantsAgree f m m') (tid : String) : tid ∈ m'.keys ↔ tid ∈ m.keys := by
  simp only [GoMap.mem_keys,ne_eq,← Option.map_eq_none' (f := f),h tid]

theorem get (h : TenantsAgree f m m') {tid : String} {t' : Tenant} (got : m'.get tid = some t') :
    ∃ t, m.get tid = some t ∧ f t = f t' := by
  have := h tid
  rw [got] at this
  cases old : m.get tid <;> simp_all

end TenantsAgree

/-- `c'` is `c` with at most the block devices, the attachments, their index and the
tenants' networks and devices changed. -/
def VolumesOnly (c c' : Cache) : Prop :=
  ∃ blockDevices attachments instanceVolumes tenants,
    c' = {c with blockDevices, attachments, instanceVolumes, tenants} ∧ TenantsAgree Tenant.members c.tenants tenants

namespace VolumesOnly

theorem refl (c : Cache) : VolumesOnly c c := ⟨_,_,_,_,rfl,.refl _ _⟩

theorem trans {c c' c'' : Cache} (h : VolumesOnly c c') (h' : VolumesOnly c' c'') :
    VolumesOnly c c'' := by
  obtain ⟨_,_,_,_,rfl,same⟩ := h
  obtain ⟨_,_,_,_,rfl,same'⟩ := h'
  exact ⟨_,_,_,_,rfl,same.trans same'⟩

end VolumesOnly

namespace Datastore
variable {σ : Type} (P : PersistentStore σ)

@[simp] theorem getTenant_cache (ds : Datastore σ) (id : String) : (ds.getTenant P id).1.cache = ds.cache := by
  unfold getTenant; dsimp only [call]
  split
  · rfl
  · split <;> rfl

theorem GetTenant_cache {ds ds' : Datastore σ} {id : String} {r : Except Error (Option Tenant)}
    (h : ds.GetTenant P id = (ds',r)) : ds'.cache = ds.cache := by
  rw [← getTenant_cache P ds id]; unfold GetTenant at h; rw [h]

theorem releaseTenantIP_cache {ds ds' : Datastore σ} {tenantID ip : String} {err : Option Error}
    (h : ds.releaseTenantIP P tenantID ip = some (ds',err)) :
    ∃ tenants, ds'.cache = {ds.cache with tenants} ∧ TenantsAgree Tenant.members ds.cache.tenants tenants := by
  unfold releaseTenantIP at h
  split at h
  · cases h; exact ⟨_,rfl,.refl _ _⟩
  · split at h
    · rename_i got
      cases h
      exact ⟨_,by rw [GetTenant_cache P got],.refl _ _⟩
    · cases h
    · rename_i ds₁ tenant got
      have same := GetTenant_cache P got
      split at h
      · cases h
      · cases h
        split
        · exact ⟨_,by rw [same],.refl _ _⟩
        · rename_i t present
          simp only [setNetwork,call_cache,withCache_cache,same] at present ⊢
          exact ⟨_,rfl,.insert present rfl⟩

theorem addTenant_cache (ds : Datastore σ) (id : String) (config : TenantConfig) :
    ∃ tenants, (ds.addTenant P id config).1.cache = {ds.cache with tenants} := by
  unfold addTenant
  dsimp only [call]
  repeat' split
  all_goals exact ⟨_,rfl⟩

theorem deleteTenant_cache (ds : Datastore σ) (id : String) :
    ∃ tenants, (ds.deleteTenant P id).1.cache = {ds.cache with tenants} := by
  unfold deleteTenant
  split <;> exact ⟨_,rfl⟩

theorem addBlockDevice_cases {ds ds' : Datastore σ} {device : Volume} {err : Option Error}
    (h : ds.addBlockDevice P device = some (ds',err)) :
    (ds'.cache = ds.cache ∧
      (device.id ∈ ds.cache.blockDevices.keys → (P.call ds.db (.updateBlockData device)).2 ≠ none)) ∨
    ∃ t, ds.cache.tenants.get device.tenantID = some t ∧ ds'.cache = {ds.cache with
      blockDevices := ds.cache.blockDevices.insert device.id device
      tenants := ds.cache.tenants.insert device.tenantID {t with devices := t.devices.insert device.id device}} := by
  unfold addBlockDevice at h
  by_cases stored : device.id ∈ ds.cache.blockDevices.keys
  · rw [if_pos stored] at h
    dsimp only [call] at h
    cases written : (P.call ds.db (.updateBlockData device)).2 with
    | some e => simp only [written] at h; cases h; exact .inl ⟨rfl,fun _ => by simp⟩
    | none =>
      simp only [written,Error.wrapNil_none] at h
      split at h
      · cases h
      · rename_i t present
        cases h
        exact .inr ⟨t,present,rfl⟩
  · rw [if_neg stored] at h
    dsimp only [call] at h
    split at h
    · cases h; exact .inl ⟨rfl,fun mem => absurd mem stored⟩
    · split at h
      · cases h
      · rename_i t present
        cases h
        exact .inr ⟨t,present,rfl⟩

theorem addBlockDevice_cache {ds ds' : Datastore σ} {device : Volume} {err : Option Error}
    (h : ds.addBlockDevice P device = some (ds',err)) :
    ∃ blockDevices tenants, ds'.cache = {ds.cache with blockDevices, tenants} ∧
      TenantsAgree Tenant.members ds.cache.tenants tenants := by
  rcases addBlockDevice_cases P h with ⟨same,-⟩ | ⟨t,present,shape⟩
  · exact ⟨_,_,same,.refl _ _⟩
  · exact ⟨_,_,shape,.insert present rfl⟩

theorem updateBlockDevice_cases {ds ds' : Datastore σ} {data : Volume} {err : Option Error}
    (h : ds.updateBlockDevice P data = some (ds',err)) :
    ds' = ds ∧ data.id ∉ ds.cache.blockDevices.keys ∨
    data.id ∈ ds.cache.blockDevices.keys ∧ ∃ e, ds.addBlockDevice P data = some (ds',e) := by
  unfold updateBlockDevice at h
  split at h
  · cases h; exact .inl ⟨rfl,‹_›⟩
  · rename_i present
    split at h
    · cases h
    · rename_i added
      cases h
      exact .inr ⟨not_not.mp present,_,added⟩

theorem updateBlockDevice_cache {ds ds' : Datastore σ} {data : Volume} {err : Option Error}
    (h : ds.updateBlockDevice P data = some (ds',err)) :
    ∃ blockDevices tenants, ds'.cache = {ds.cache with blockDevices, tenants} ∧
      TenantsAgree Tenant.members ds.cache.tenants tenants := by
  rcases updateBlockDevice_cases P h with ⟨rfl,-⟩ | ⟨-,e,added⟩
  · exact ⟨_,_,rfl,.refl _ _⟩
  · exact addBlockDevice_cache P added

theorem detachOne_cases {ds ds' : Datastore σ} {instanceID : String} {key : Attachment}
    (h : ds.detachOne P instanceID key = some ds') :
    ds' = ds ∧ (∀ id, ds.cache.instanceVolumes.get key = some id →
      ((ds.cache.attachments.get id).getD default).instanceID = instanceID →
      ((ds.cache.attachments.get id).getD default).blockID ∉ ds.cache.blockDevices.keys) ∨
    ∃ id a bd ds₁ e, ds.cache.instanceVolumes.get key = some id ∧ (ds.cache.attachments.get id).getD default = a ∧
      a.instanceID = instanceID ∧ ds.cache.blockDevices.get a.blockID = some bd ∧
      ds.updateBlockDevice P {bd with state := available} = some (ds₁,e) ∧
      ds' = ((ds₁.withCache {ds₁.cache with
        attachments := ds₁.cache.attachments.delete id
        instanceVolumes := ds₁.cache.instanceVolumes.delete ⟨a.instanceID,a.blockID⟩}).call P
        (.deleteStorageAttachment id)).1 := by
  unfold detachOne at h
  split at h
  · rename_i absent
    cases h; exact .inl ⟨rfl,fun id got => by rw [absent] at got; cases got⟩
  · rename_i id got
    dsimp only at h
    split at h
    · rename_i other
      cases h; exact .inl ⟨rfl,fun id' got' => by rw [got] at got'; cases got'; exact fun mine => absurd mine other⟩
    · rename_i same
      split at h
      · rename_i e uncached
        cases h
        refine .inl ⟨rfl,fun id' got' _ => ?_⟩
        rw [got] at got'; cases got'
        unfold getBlockDevice at uncached
        split at uncached
        · cases uncached
        · rwa [GoMap.get_eq_none] at *
      · rename_i bd cached
        unfold getBlockDevice at cached
        split at cached
        · cases cached
          split at h
          · cases h
          · rename_i ds₁ e updated
            cases h
            exact .inr ⟨id,_,bd,ds₁,e,got,rfl,not_not.mp same,‹_›,updated,rfl⟩
        · cases cached

private theorem detachOne_volumesOnly {ds ds' : Datastore σ} {instanceID : String} {key : Attachment}
    (h : ds.detachOne P instanceID key = some ds') : VolumesOnly ds.cache ds'.cache := by
  rcases detachOne_cases P h with ⟨rfl,-⟩ | ⟨_,_,_,_,_,-,-,-,-,updated,rfl⟩
  · exact .refl _
  · obtain ⟨_,_,shape,same⟩ := updateBlockDevice_cache P updated
    exact ⟨_,_,_,_,by simp only [call_cache,withCache_cache,shape]; rfl,same⟩

theorem updateStorageAttachments_volumesOnly {ds ds' : Datastore σ} {instanceID : String}
    {order : List Attachment} (h : ds.updateStorageAttachments P instanceID order = some ds') :
    VolumesOnly ds.cache ds'.cache := by
  induction order generalizing ds with
  | nil => cases h; exact .refl _
  | cons key rest ih =>
    simp only [updateStorageAttachments] at h
    split at h
    · cases h
    · rename_i detached
      exact (detachOne_volumesOnly P detached).trans (ih h)

theorem updateInstanceStatus_cache (ds : Datastore σ) (status k : String) (now : Int) :
    ∃ stats, (ds.updateInstanceStatus P status k now).1.cache = {ds.cache with instanceLastStat := stats} := by
  unfold updateInstanceStatus
  dsimp only [call]
  split
  · exact ⟨_,rfl⟩
  · exact ⟨_,rfl⟩

theorem unlinkInstance_shape {c c' : Cache} {k : String} {i : Instance}
    (unlinked : unlinkInstance c k i = some c') : ∃ tenants nodes, c' = {c with
      instanceLastStat := c.instanceLastStat.delete k
      instances := c.instances.delete k
      tenants
      nodes} := by
  unfold unlinkInstance at unlinked
  dsimp only at unlinked
  split at unlinked <;> (try split at unlinked) <;> (try split at unlinked) <;> cases unlinked <;>
    exact ⟨_,_,rfl⟩

theorem handleStats_cases {ds ds' : Datastore σ} {stat : Stat} {now : Int} {err : Option Error}
    (run : ds.handleStats P stat now = some (ds',err)) :
    ∃ ds₁ : Datastore σ, (ds₁ = ds ∨ ds₁ = (ds.addNodeStat P stat).1) ∧
      (ds'.cache = ds₁.cache ∨
        addInstanceStatList stat.nodeUUID now ds₁.cache stat.instances = some ds'.cache) := by
  have reported : ∀ ds₁ : Datastore σ,
      (match ds₁.addInstanceStats P stat.instances stat.nodeUUID now with
        | none => none
        | some (ds,err) => some (ds,Error.wrapNil "error updating stats" err)) = some (ds',err) →
      addInstanceStatList stat.nodeUUID now ds₁.cache stat.instances = some ds'.cache := by
    intro ds₁ run
    unfold addInstanceStats at run
    split at run
    · cases run
    · rename_i added
      split at added
      · cases added
      · rename_i c listed
        cases added; cases run; exact listed
  unfold handleStats at run
  split at run
  · rcases added : ds.addNodeStat P stat with ⟨ds₁,_ | e⟩ <;> rw [added] at run <;>
      simp only at run
    · exact ⟨ds₁,.inr rfl,.inr (reported ds₁ run)⟩
    · cases run; exact ⟨ds',.inr rfl,.inl rfl⟩
  · exact ⟨ds,.inl rfl,.inr (reported ds run)⟩

theorem deleteInstance_steps {ds ds' : Datastore σ} {k : String} {order : List Attachment}
    {tenantID : String} {err : Option Error} (run : ds.deleteInstance P k order = some (ds',tenantID,err)) :
    (ds'.cache = ds.cache ∧ err ≠ none) ∨
    ∃ (p : Ptr) (c : Cache) (ds₀ ds₁ : Datastore σ), ds.cache.instances.get k = some p ∧
      unlinkInstance ds.cache k (ds.cache.heap p) = some c ∧
      ((ds.cache.heap p).cnci = true ∧ ds₁ = ds₀ ∨ (ds.cache.heap p).cnci = false ∧
        ∃ e, ds₀.releaseTenantIP P (ds.cache.heap p).tenantID (ds.cache.heap p).ipAddress = some (ds₁,e)) ∧
      ds₀.cache = c ∧ ds₁.updateStorageAttachments P k order = some ds' := by
  unfold deleteInstance at run
  dsimp only [call] at run
  split at run
  · cases run; exact .inl ⟨rfl,nofun⟩
  · split at run
    · cases run
    · rename_i p got
      split at run
      · cases run
      · rename_i c unlinked
        split at run
        · cases run
        · rename_i ds₁ err₁ released
          split at run
          · cases run
          · rename_i ds₂ cascaded
            cases run
            split at released
            · cases released; exact .inr ⟨p,c,_,_,got,unlinked,.inl ⟨‹_›,rfl⟩,rfl,cascaded⟩
            · rename_i notCnci
              have notCnci : (ds.cache.heap p).cnci = false := by simpa using notCnci
              split at released
              · cases released
              · rename_i releasedIP
                cases released; exact .inr ⟨p,c,_,_,got,unlinked,.inr ⟨notCnci,_,releasedIP⟩,rfl,cascaded⟩
              · rename_i releasedIP
                cases released; exact .inr ⟨p,c,_,_,got,unlinked,.inr ⟨notCnci,_,releasedIP⟩,rfl,cascaded⟩

theorem deleteInstance_cases {ds ds' : Datastore σ} {k : String} {order : List Attachment}
    {tenantID : String} {err : Option Error} (run : ds.deleteInstance P k order = some (ds',tenantID,err)) :
    ds'.cache = ds.cache ∨
    ∃ (p : Ptr) (c : Cache) (ds₁ : Datastore σ), ds.cache.instances.get k = some p ∧
      unlinkInstance ds.cache k (ds.cache.heap p) = some c ∧
      (∃ tenants, ds₁.cache = {c with tenants} ∧ TenantsAgree Tenant.members c.tenants tenants) ∧
      ds₁.updateStorageAttachments P k order = some ds' := by
  rcases deleteInstance_steps P run with ⟨same,-⟩ | ⟨p,c,ds₀,ds₁,got,unlinked,released,rfl,cascaded⟩
  · exact .inl same
  · refine .inr ⟨p,ds₀.cache,ds₁,got,unlinked,?_,cascaded⟩
    rcases released with ⟨-,rfl⟩ | ⟨-,e,releasedIP⟩
    · exact ⟨_,rfl,.refl _ _⟩
    · exact releaseTenantIP_cache P releasedIP

theorem DeleteInstance_cases {ds ds' : Datastore σ} {k : String} {order : List Attachment}
    {err : Option Error} (run : ds.DeleteInstance P k order = some (ds',err)) :
    ds'.cache = ds.cache ∨ ∃ ds₁ tenantID e, ds.deleteInstance P k order = some (ds₁,tenantID,e) ∧
      ds'.cache = ds₁.cache := by
  unfold DeleteInstance at run
  split at run
  · cases run; exact .inl rfl
  · split at run
    · cases run
    · rename_i deleted; cases run; exact .inr ⟨_,_,_,deleted,rfl⟩
    · rename_i deleted; cases run; exact .inr ⟨_,_,_,deleted,rfl⟩

theorem DeleteInstance_succeeded {ds ds' : Datastore σ} {k : String} {order : List Attachment}
    (run : ds.DeleteInstance P k order = some (ds',none)) :
    ∃ ds₁ tenantID, ds.deleteInstance P k order = some (ds₁,tenantID,none) ∧ ds'.cache = ds₁.cache := by
  unfold DeleteInstance at run
  split at run
  · cases run
  · split at run
    · cases run
    · cases run
    · rename_i deleted
      simp only [call,Option.some.injEq,Prod.mk.injEq] at run
      exact ⟨_,_,deleted,by rw [← run.1]⟩

/-- The failure counts `StartFailure` adds to a node. -/
def startFailed (n : Node) : Node :=
  {n with totalFailures := n.totalFailures + 1, startFailures := n.startFailures + 1}

theorem startFailure_cases {ds ds' : Datastore σ} {k nodeID : String} {reason : StartFailureReason}
    {migration : Bool} {order : List Attachment} {err : Option Error}
    (run : ds.startFailure P k reason migration nodeID order = some (ds',err)) :
    ∃ ds₁ : Datastore σ, (ds₁ = ds ∨ ∃ tenantID e, ds.deleteInstance P k order = some (ds₁,tenantID,e)) ∧
      (ds'.cache = ds₁.cache ∨ ds'.cache = countFailure ds₁.cache nodeID startFailed) := by
  unfold startFailure at run
  split at run
  · cases run; exact ⟨ds,.inl rfl,.inl rfl⟩
  · by_cases fatal : reason.fatal ∧ ¬migration
    · rw [if_pos fatal] at run
      rcases deleted : ds.deleteInstance P k order with _ | ⟨ds₁,tid,e⟩ <;> rw [deleted] at run
      · cases run
      · cases e <;> cases run
        · exact ⟨_,.inr ⟨_,_,rfl⟩,.inr rfl⟩
        · exact ⟨_,.inr ⟨_,_,rfl⟩,.inl rfl⟩
    · rw [if_neg fatal] at run
      cases run
      exact ⟨ds,.inl rfl,.inr rfl⟩

/-- The failure counts `AttachVolumeFailure` adds to a node. -/
def attachFailed (n : Node) : Node :=
  {n with totalFailures := n.totalFailures + 1, attachVolumeFailures := n.attachVolumeFailures + 1}

theorem attachVolumeFailure_cases {ds ds' : Datastore σ} {instanceID volumeID reason : String}
    {err : Option Error} (run : ds.attachVolumeFailure P instanceID volumeID reason = some (ds',err)) :
    ds'.cache = ds.cache ∨ ∃ (ds₁ : Datastore σ) (data : Volume) (e : Option Error) (nodeID : String),
      ds.updateBlockDevice P data = some (ds₁,e) ∧
      (ds'.cache = ds₁.cache ∨ ds'.cache = countFailure ds₁.cache nodeID attachFailed) := by
  unfold attachVolumeFailure at run
  split at run
  · cases run; exact .inl rfl
  · split at run
    · cases run
    · rename_i updated; cases run; exact .inr ⟨_,_,_,"",updated,.inl rfl⟩
    · rename_i updated
      split at run
      · cases run; exact .inr ⟨_,_,_,"",updated,.inl rfl⟩
      · cases run; exact .inr ⟨_,_,_,_,updated,.inr rfl⟩

theorem initImageList_shape (c : Cache) (images : List Image) :
    ∃ imgs publicImages internalImages tenants,
      initImageList c images = {c with images := imgs, publicImages, internalImages, tenants} ∧
      TenantsAgree (fun t => {t with images := []}) c.tenants tenants := by
  induction images generalizing c with
  | nil => exact ⟨_,_,_,_,rfl,.refl _ _⟩
  | cons i rest ih =>
    simp only [initImageList]
    split
    · exact ih _
    · split
      · exact ⟨_,_,_,_,rfl,.refl _ _⟩
      · rename_i t present
        obtain ⟨_,_,_,_,shape,agree⟩ := ih {indexImage c i with
          tenants := c.tenants.insert i.tenantID {t with images := t.images ++ [i.id]}}
        refine ⟨_,_,_,_,shape,TenantsAgree.trans ?_ agree⟩
        exact .insert present rfl

theorem initWorkloadList_shape (c : Cache) (workloads : List Workload) :
    ∃ wls publicWorkloads tenants,
      initWorkloadList c workloads = {c with workloads := wls, publicWorkloads, tenants} ∧
      TenantsAgree (fun t => {t with workloads := []}) c.tenants tenants := by
  induction workloads generalizing c with
  | nil => exact ⟨_,_,_,rfl,.refl _ _⟩
  | cons w rest ih =>
    simp only [initWorkloadList]
    split
    · exact ih _
    · split
      · exact ⟨_,_,_,rfl,.refl _ _⟩
      · rename_i t present
        obtain ⟨_,_,_,shape,agree⟩ := ih {indexWorkload c w with
          tenants := c.tenants.insert w.tenantID {t with workloads := t.workloads ++ [w.id]}}
        refine ⟨_,_,_,shape,TenantsAgree.trans ?_ agree⟩
        exact .insert present rfl

theorem linkInstances_shape (c : Cache) (es : List (Nat × Instance)) :
    ∃ tenants nodes, linkInstances c es = {c with tenants, nodes} ∧
      TenantsAgree (fun t => {t with instances := .empty}) c.tenants tenants := by
  induction es generalizing c with
  | nil => exact ⟨_,_,rfl,.refl _ _⟩
  | cons e rest ih =>
    simp only [linkInstances]
    split
    · unfold linkInstance
      dsimp only
      split
      · exact ih _
      · rename_i t present
        obtain ⟨_,_,shape,agree⟩ := ih _
        refine ⟨_,_,shape,TenantsAgree.trans ?_ agree⟩
        exact .insert present rfl
    · exact ih _

end Datastore
end CiaoDatastore
