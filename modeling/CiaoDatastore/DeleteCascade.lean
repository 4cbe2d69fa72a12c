import CiaoDatastore.Attachments
import CiaoDatastore.InstanceLinks
import CiaoDatastore.TenantNetwork
import CiaoDatastore.Address

/-! The cascade of `DeleteInstance`. `deleteInstance` unlinks the instance from `instances`,
`instanceLastStat`, its tenant's map and the map of the node it is placed on, releases its
address unless it is a CNCI, and then `updateStorageAttachments` ranges over `instanceVolumes`:
at each entry of the instance whose volume is cached it writes the volume back as `Available`
and deletes the entry and its attachment. On a cache whose index names attachments of its own
pairs, that is all the cascade removes (`DeleteInstance_cascade`): an attachment the index no
longer names, an entry of an uncached volume and a stale entry in another node's map stay, and a
volume is `Available` only when the store accepted the update and the volume is cached under
its own id. Both conditions on the cache hold in every state the attach and detach calls reach
from `Init` (`cascade_invariants_reachable`). -/
namespace CiaoDatastore

/-- Whether `updateStorageAttachments` of the instance `k` detaches at the index key `key`: a
key of `k` whose volume is cached. -/
def Detaches (c : Cache) (k : String) (key : Attachment) : Prop :=
  key.instanceID = k ∧ key.volumeID ∈ c.blockDevices.keys

instance (c : Cache) (k : String) (key : Attachment) : Decidable (Detaches c k key) :=
  inferInstanceAs (Decidable (_ ∧ _))

/-- What the cascade of the instance `k` over the keys `order` leaves of the attachment tables
of `c`: the entries of the keys that detach are gone, with the attachments they named. -/
structure Cascaded (c c' : Cache) (k : String) (order : List Attachment) : Prop where
  index : ∀ key, c'.instanceVolumes.get key =
    if key ∈ order ∧ Detaches c k key then none else c.instanceVolumes.get key
  attachments : ∀ id, c'.attachments.get id =
    if ∃ key ∈ order, Detaches c k key ∧ c.instanceVolumes.get key = some id then none
    else c.attachments.get id
  volumes : c'.blockDevices.keys = c.blockDevices.keys

namespace Cascaded
variable {c c₁ c' : Cache} {k : String}

theorem nil (c : Cache) (k : String) : Cascaded c c k [] := ⟨fun _ => by simp,fun _ => by simp,rfl⟩

theorem cons {key : Attachment} {order : List Attachment} (first : Cascaded c c₁ k [key])
    (rest : Cascaded c₁ c' k order) (fresh : key ∉ order) : Cascaded c c' k (key :: order) := by
  have detaches : ∀ key, Detaches c₁ k key ↔ Detaches c k key := by simp [Detaches,first.volumes]
  have kept : ∀ key' ∈ order, c₁.instanceVolumes.get key' = c.instanceVolumes.get key' := by
    intro key' mem
    rw [first.index]
    simp only [List.mem_singleton]
    rw [if_neg (by rintro ⟨rfl,-⟩; exact fresh mem)]
  refine ⟨fun key' => ?_,fun id => ?_,rest.volumes.trans first.volumes⟩
  · rw [rest.index,first.index]
    by_cases mem : key' ∈ order
    · have other : key' ≠ key := by rintro rfl; exact fresh mem
      simp [mem,detaches,other]
    · simp [mem,detaches]
  · have moved : (∃ key' ∈ order, Detaches c₁ k key' ∧ c₁.instanceVolumes.get key' = some id) ↔
        ∃ key' ∈ order, Detaches c k key' ∧ c.instanceVolumes.get key' = some id :=
      exists_congr fun key' => and_congr_right fun mem => by rw [detaches,kept key' mem]
    rw [rest.attachments,first.attachments]
    simp only [moved,List.mem_singleton,exists_eq_left,List.mem_cons,exists_eq_or_imp]
    by_cases here : Detaches c k key ∧ c.instanceVolumes.get key = some id <;>
      by_cases later : ∃ key' ∈ order, Detaches c k key' ∧ c.instanceVolumes.get key' = some id <;>
      simp [here,later]

end Cascaded

/-- Every cached volume is stored under its own id, as each write of `blockDevices` keys it. -/
def VolumesKeyed (volumes : GoMap String Volume) : Prop :=
  ∀ v vol, volumes.get v = some vol → vol.id = v

namespace VolumesKeyed
variable {volumes : GoMap String Volume}

theorem insert (keyed : VolumesKeyed volumes) (data : Volume) : VolumesKeyed (volumes.insert data.id data) := by
  intro v vol got
  simp only [GoMap.get_insert] at got
  split at got
  · rename_i here; cases got; exact here.symm
  · exact keyed v vol got

theorem delete (keyed : VolumesKeyed volumes) (id : String) : VolumesKeyed (volumes.delete id) := by
  intro v vol got
  simp only [GoMap.get_delete] at got
  split at got
  · cases got
  · exact keyed v vol got

end VolumesKeyed

namespace Datastore
variable {σ : Type} (P : PersistentStore σ) {ds ds' : Datastore σ} {k : String}

private theorem updateBlockDevice_volumes {data : Volume} {err : Option Error}
    (h : ds.updateBlockDevice P data = some (ds',err)) :
    ds'.cache.attachments = ds.cache.attachments ∧ ds'.cache.instanceVolumes = ds.cache.instanceVolumes ∧
      ds'.cache.blockDevices.keys = ds.cache.blockDevices.keys := by
  rcases updateBlockDevice_cases P h with ⟨rfl,-⟩ | ⟨present,e,added⟩
  · exact ⟨rfl,rfl,rfl⟩
  · rcases addBlockDevice_cases P added with ⟨shape,-⟩ | ⟨t,-,shape⟩ <;> rw [shape] <;>
      simp [Finset.insert_eq_of_mem present]

private theorem detachOne_detaches {key : Attachment} (indexed : AttachmentIndexed ds.cache)
    (h : ds.detachOne P k key = some ds') :
    ds' = ds ∧ (Detaches ds.cache k key → ds.cache.instanceVolumes.get key = none) ∨
    Detaches ds.cache k key ∧ ∃ id bd ds₁ e, ds.cache.instanceVolumes.get key = some id ∧
      ds.cache.blockDevices.get key.volumeID = some bd ∧
      ds.updateBlockDevice P {bd with state := available} = some (ds₁,e) ∧
      ds'.cache = {ds₁.cache with
        attachments := ds₁.cache.attachments.delete id
        instanceVolumes := ds₁.cache.instanceVolumes.delete key} := by
  rcases detachOne_cases P h with ⟨same,kept⟩ | ⟨id,a,bd,ds₁,e,got,rfl,mine,cached,updated,rfl⟩
  · refine .inl ⟨same,fun ⟨mine,cached⟩ => ?_⟩
    cases got : ds.cache.instanceVolumes.get key with
    | none => rfl
    | some id =>
      obtain ⟨a,named,rfl⟩ := indexed key id got
      have := kept id got
      simp only [named,Option.getD_some] at this
      exact (this mine cached).elim
  · obtain ⟨a',named,rfl⟩ := indexed key id got
    simp only [named,Option.getD_some] at mine cached ⊢
    exact .inr ⟨⟨mine,(GoMap.mem_keys_iff _ _).mpr ⟨bd,cached⟩⟩,id,bd,ds₁,e,got,cached,updated,rfl⟩

private theorem detachOne_cascaded {key : Attachment} (indexed : AttachmentIndexed ds.cache)
    (h : ds.detachOne P k key = some ds') : Cascaded ds.cache ds'.cache k [key] := by
  rcases detachOne_detaches P indexed h with ⟨same,absent⟩ | ⟨detaches,id,bd,ds₁,e,got,-,updated,shape⟩
  · rw [same]
    refine ⟨fun key' => ?_,fun id => ?_,rfl⟩
    · by_cases same : key' = key
      · subst same; by_cases d : Detaches ds.cache k key' <;> simp [d,absent]
      · simp [same]
    · by_cases d : Detaches ds.cache k key <;> simp [d,absent]
  · obtain ⟨attachments,index,volumes⟩ := updateBlockDevice_volumes P updated
    refine ⟨fun key' => ?_,fun id' => ?_,by rw [shape,volumes]⟩
    · by_cases same : key' = key
      · subst same; simp [shape,index,detaches]
      · simp [shape,index,same]
    · by_cases same : id' = id
      · subst same; simp [shape,attachments,detaches,got]
      · simp [shape,attachments,same,Ne.symm same,got]

/-- The whole cascade, over keys visited once each, on an indexed cache. -/
private theorem updateStorageAttachments_cascaded {order : List Attachment} (indexed : AttachmentIndexed ds.cache)
    (distinct : order.Nodup) (run : ds.updateStorageAttachments P k order = some ds') :
    Cascaded ds.cache ds'.cache k order := by
  induction order generalizing ds with
  | nil => cases run; exact .nil _ _
  | cons key rest ih =>
    simp only [updateStorageAttachments] at run
    split at run
    · cases run
    · rename_i ds₁ detached
      have nodup := List.nodup_cons.mp distinct
      exact (detachOne_cascaded P indexed detached).cons
        (ih (detachOne_indexed P indexed detached) nodup.2 run) nodup.1

private theorem detachOne_devices {key : Attachment} (h : ds.detachOne P k key = some ds') :
    (ds'.cache.blockDevices = ds.cache.blockDevices ∧ ds'.cache.tenants = ds.cache.tenants) ∨
    ∃ (data : Volume) (t : Tenant), data.state = available ∧ ds.cache.tenants.get data.tenantID = some t ∧
      ds'.cache.blockDevices = ds.cache.blockDevices.insert data.id data ∧
      ds'.cache.tenants = ds.cache.tenants.insert data.tenantID {t with devices := t.devices.insert data.id data} := by
  rcases detachOne_cases P h with ⟨rfl,-⟩ | ⟨id,a,bd,ds₁,e,-,-,-,-,updated,rfl⟩
  · exact .inl ⟨rfl,rfl⟩
  · rcases updateBlockDevice_cases P updated with ⟨rfl,-⟩ | ⟨-,e',added⟩
    · exact .inl ⟨rfl,rfl⟩
    · rcases addBlockDevice_cases P added with ⟨shape,-⟩ | ⟨t,present,shape⟩
      · exact .inl (by simp [shape])
      · exact .inr ⟨{bd with state := available},t,rfl,present,by simp [shape],by simp [shape]⟩

private theorem updateStorageAttachments_addressing {order : List Attachment}
    (run : ds.updateStorageAttachments P k order = some ds') :
    TenantsAgree (fun t => (t.config,t.network)) ds.cache.tenants ds'.cache.tenants := by
  induction order generalizing ds with
  | nil => cases run; exact .refl _ _
  | cons key rest ih =>
    simp only [updateStorageAttachments] at run
    split at run
    · cases run
    · rename_i ds₁ detached
      refine TenantsAgree.trans ?_ (ih run)
      rcases detachOne_devices P detached with ⟨-,same⟩ | ⟨data,t,-,present,-,same⟩ <;> rw [same]
      · exact .refl _ _
      · exact .insert present rfl

private theorem detachOne_available {key : Attachment} (written : ∀ db v, (P.call db (.updateBlockData v)).2 = none)
    (keyed : VolumesKeyed ds.cache.blockDevices) (indexed : AttachmentIndexed ds.cache)
    (detaches : Detaches ds.cache k key) (entry : ds.cache.instanceVolumes.get key ≠ none)
    (h : ds.detachOne P k key = some ds') :
    ∃ vol, ds'.cache.blockDevices.get key.volumeID = some vol ∧ vol.state = available := by
  rcases detachOne_detaches P indexed h with ⟨-,absent⟩ | ⟨-,id,bd,ds₁,e,-,cached,updated,shape⟩
  · exact absurd (absent detaches) entry
  · have own := keyed _ bd cached
    rcases updateBlockDevice_cases P updated with ⟨-,uncached⟩ | ⟨-,e',added⟩
    · exact absurd (own ▸ detaches.2) uncached
    · rcases addBlockDevice_cases P added with ⟨-,refused⟩ | ⟨t,-,stored⟩
      · exact absurd (written _ _) (refused (own ▸ detaches.2))
      · exact ⟨{bd with state := available},by simp [shape,stored,own],rfl⟩

private theorem detachOne_keyed {key : Attachment} (keyed : VolumesKeyed ds.cache.blockDevices)
    (h : ds.detachOne P k key = some ds') : VolumesKeyed ds'.cache.blockDevices := by
  rcases detachOne_devices P h with ⟨same,-⟩ | ⟨data,-,-,-,same,-⟩ <;> rw [same]
  · exact keyed
  · exact keyed.insert data

private theorem detachOne_keeps_available {key : Attachment} (h : ds.detachOne P k key = some ds') {v : String}
    (before : ∃ vol, ds.cache.blockDevices.get v = some vol ∧ vol.state = available) :
    ∃ vol, ds'.cache.blockDevices.get v = some vol ∧ vol.state = available := by
  obtain ⟨vol,got,state⟩ := before
  rcases detachOne_devices P h with ⟨same,-⟩ | ⟨data,-,written,-,same,-⟩ <;> rw [same]
  · exact ⟨vol,got,state⟩
  · by_cases here : v = data.id
    · exact ⟨data,by simp [here],written⟩
    · exact ⟨vol,by simp [here,got],state⟩

private theorem updateStorageAttachments_available {order : List Attachment}
    (written : ∀ db v, (P.call db (.updateBlockData v)).2 = none)
    (keyed : VolumesKeyed ds.cache.blockDevices) (indexed : AttachmentIndexed ds.cache)
    (run : ds.updateStorageAttachments P k order = some ds') (v : String)
    (target : (∃ vol, ds.cache.blockDevices.get v = some vol ∧ vol.state = available) ∨
      ∃ key ∈ order, key.volumeID = v ∧ Detaches ds.cache k key ∧ ds.cache.instanceVolumes.get key ≠ none) :
    ∃ vol, ds'.cache.blockDevices.get v = some vol ∧ vol.state = available := by
  induction order generalizing ds with
  | nil =>
    cases run
    rcases target with available | ⟨_,mem,-⟩
    · exact available
    · cases mem
  | cons key rest ih =>
    simp only [updateStorageAttachments] at run
    split at run
    · cases run
    · rename_i ds₁ detached
      refine ih (detachOne_keyed P keyed detached) (detachOne_indexed P indexed detached) run ?_
      rcases target with old | ⟨key',mem,rfl,detaches,entry⟩
      · exact .inl (detachOne_keeps_available P detached old)
      · by_cases same : key' = key
        · subst same
          exact .inl (detachOne_available P written keyed indexed detaches entry detached)
        · have step := detachOne_cascaded P indexed detached
          refine .inr ⟨key',(List.mem_cons.mp mem).resolve_left same,rfl,?_,?_⟩
          · simpa [Detaches,step.volumes] using detaches
          · simpa [step.index,same] using entry

private theorem unlinkInstance_unlinks {c c' : Cache} {i : Instance} (unlinked : unlinkInstance c k i = some c') :
    (∀ t, c'.tenants.get i.tenantID = some t → k ∉ t.instances.keys) ∧
    (i.nodeID ≠ "" → ∃ n, c'.nodes.get i.nodeID = some n ∧ k ∉ n.instances.keys) := by
  unfold unlinkInstance at unlinked
  cases owner : c.tenants.get i.tenantID <;> simp only [owner] at unlinked <;>
    by_cases unplaced : i.nodeID = "" <;> simp only [unplaced,if_true,if_false,Option.some.injEq] at unlinked
  · subst unlinked
    exact ⟨fun t got => by simp [owner] at got,fun placed => absurd unplaced placed⟩
  · split at unlinked
    · cases unlinked
    · rename_i n _
      cases unlinked
      exact ⟨fun t got => by simp [owner] at got,fun _ => ⟨{n with instances := n.instances.delete k},by simp,by simp⟩⟩
  · subst unlinked
    exact ⟨fun t got => by simp at got; simp [← got],fun placed => absurd unplaced placed⟩
  · split at unlinked
    · cases unlinked
    · rename_i n _
      cases unlinked
      exact ⟨fun t got => by simp at got; simp [← got],fun _ => ⟨{n with instances := n.instances.delete k},by simp,by simp⟩⟩

private theorem releaseTenantIP_unmarks {tenantID ip : String} {err : Option Error}
    {a : UInt32} {t' : Tenant} (run : ds.releaseTenantIP P tenantID ip = some (ds',err))
    (parsed : Net.ParseIP ip = some a) (cached' : ds'.cache.tenants.get tenantID = some t') :
    a ∉ hostsIn t'.network (a &&& Net.mask t'.config.subnetBits.toNat) := by
  obtain ⟨tenants,shape,agree⟩ := releaseTenantIP_cache P run
  obtain ⟨t,cached,-⟩ := agree.get (shape ▸ cached')
  unfold releaseTenantIP at run
  simp only [parsed,GetTenant_cached P cached] at run
  split at run
  · cases run
  · rename_i m masked
    obtain rfl := Net.mask_of_cidrMask masked
    simp only [cached,call,Option.some.injEq,Prod.mk.injEq] at run
    obtain ⟨rfl,-⟩ := run
    simp only [setNetwork,withCache_cache,GoMap.get_insert,if_true,Option.some.injEq] at cached'
    subst cached'
    simp

private theorem addBlockDevice_keyed {device : Volume} {err : Option Error} (keyed : VolumesKeyed ds.cache.blockDevices)
    (h : ds.addBlockDevice P device = some (ds',err)) : VolumesKeyed ds'.cache.blockDevices := by
  rcases addBlockDevice_cases P h with ⟨shape,-⟩ | ⟨t,-,shape⟩ <;> rw [shape]
  · exact keyed
  · exact keyed.insert device

private theorem updateBlockDevice_keyed {data : Volume} {err : Option Error} (keyed : VolumesKeyed ds.cache.blockDevices)
    (h : ds.updateBlockDevice P data = some (ds',err)) : VolumesKeyed ds'.cache.blockDevices := by
  rcases updateBlockDevice_cases P h with ⟨rfl,-⟩ | ⟨-,e,added⟩
  · exact keyed
  · exact addBlockDevice_keyed P keyed added

private theorem updateStorageAttachments_keyed {order : List Attachment} (keyed : VolumesKeyed ds.cache.blockDevices)
    (run : ds.updateStorageAttachments P k order = some ds') : VolumesKeyed ds'.cache.blockDevices := by
  induction order generalizing ds with
  | nil => cases run; exact keyed
  | cons key rest ih =>
    simp only [updateStorageAttachments] at run
    split at run
    · cases run
    · rename_i ds₁ detached
      exact ih (detachOne_keyed P keyed detached) run

private theorem createStorageAttachment_keyed {instanceID uuid : String} {volume : StorageResource}
    {r : Except Error StorageAttachment} (keyed : VolumesKeyed ds.cache.blockDevices)
    (run : ds.createStorageAttachment P instanceID volume uuid = some (ds',r)) : VolumesKeyed ds'.cache.blockDevices := by
  unfold createStorageAttachment at run
  dsimp only [call] at run
  split at run
  · cases run; exact keyed
  · split at run
    · cases run; exact keyed
    · split at run
      · cases run
      all_goals
        rename_i updated
        cases run
        exact (fun keyed => updateBlockDevice_keyed P keyed updated) keyed

private theorem deleteStorageAttachment_blockDevices (id : String) :
    (ds.deleteStorageAttachment P id).1.cache.blockDevices = ds.cache.blockDevices := by
  unfold deleteStorageAttachment
  dsimp only [call]
  split
  · rfl
  · split <;> rfl

private theorem deleteInstance_keyed {order : List Attachment} {tenantID : String} {err : Option Error}
    (keyed : VolumesKeyed ds.cache.blockDevices) (run : ds.deleteInstance P k order = some (ds',tenantID,err)) :
    VolumesKeyed ds'.cache.blockDevices := by
  rcases deleteInstance_cases P run with same | ⟨p,c,ds₁,-,unlinked,⟨_,shape,-⟩,cascaded⟩
  · rw [same]; exact keyed
  · obtain ⟨_,_,unlinkedShape⟩ := unlinkInstance_shape unlinked
    exact updateStorageAttachments_keyed P (by rw [shape,unlinkedShape]; exact keyed) cascaded

private theorem DeleteInstance_keyed {order : List Attachment} {err : Option Error} (keyed : VolumesKeyed ds.cache.blockDevices)
    (run : ds.DeleteInstance P k order = some (ds',err)) : VolumesKeyed ds'.cache.blockDevices := by
  rcases DeleteInstance_cases P run with same | ⟨ds₁,_,_,deleted,same⟩ <;> rw [same]
  · exact keyed
  · exact deleteInstance_keyed P keyed deleted

private theorem countFailure_blockDevices (c : Cache) (nodeID : String) (count : Node → Node) :
    (countFailure c nodeID count).blockDevices = c.blockDevices := by
  unfold countFailure; split <;> rfl

private theorem startFailure_keyed {reason : StartFailureReason} {migration : Bool} {nodeID : String}
    {order : List Attachment} {err : Option Error} (keyed : VolumesKeyed ds.cache.blockDevices)
    (run : ds.startFailure P k reason migration nodeID order = some (ds',err)) : VolumesKeyed ds'.cache.blockDevices := by
  obtain ⟨ds₁,deleted,counted⟩ := startFailure_cases P run
  have keyed₁ : VolumesKeyed ds₁.cache.blockDevices := by
    rcases deleted with rfl | ⟨_,_,deleted⟩
    · exact keyed
    · exact deleteInstance_keyed P keyed deleted
  rcases counted with same | same <;> rw [same]
  · exact keyed₁
  · rw [countFailure_blockDevices]; exact keyed₁

private theorem attachVolumeFailure_keyed {instanceID volumeID reason : String} {err : Option Error}
    (keyed : VolumesKeyed ds.cache.blockDevices)
    (run : ds.attachVolumeFailure P instanceID volumeID reason = some (ds',err)) :
    VolumesKeyed ds'.cache.blockDevices := by
  rcases attachVolumeFailure_cases P run with same | ⟨ds₁,_,_,_,updated,counted⟩
  · rw [same]; exact keyed
  · have keyed₁ := updateBlockDevice_keyed P keyed updated
    rcases counted with same | same <;> rw [same]
    · exact keyed₁
    · rw [countFailure_blockDevices]; exact keyed₁

private theorem deleteBlockDevice_keyed {id : String} {err : Option Error} (keyed : VolumesKeyed ds.cache.blockDevices)
    (run : ds.deleteBlockDevice P id = some (ds',err)) : VolumesKeyed ds'.cache.blockDevices := by
  unfold deleteBlockDevice at run
  dsimp only [call] at run
  split at run
  · cases run; exact keyed
  · split at run
    · cases run; exact keyed
    · split at run
      · cases run
      · cases run; exact keyed.delete id

end Datastore

private theorem Op.run_keyed {σ : Type} (P : PersistentStore σ) {ds ds' : Datastore σ} {op : Op}
    {err : Option Error} (keyed : VolumesKeyed ds.cache.blockDevices) (admitted : attachmentOps ds.cache op = true)
    (run : op.run P ds = some (ds',err)) : VolumesKeyed ds'.cache.blockDevices := by
  cases op <;> first | exact absurd admitted Bool.false_ne_true | unfold Op.run at run
  case createStorageAttachment =>
    obtain ⟨⟨_,r⟩,created,same⟩ := Option.map_eq_some'.mp run
    obtain ⟨rfl,-⟩ := Prod.mk.inj same
    exact Datastore.createStorageAttachment_keyed P keyed created
  case deleteStorageAttachment id =>
    obtain rfl : (ds.deleteStorageAttachment P id).1 = ds' := by rw [Option.some.inj run]
    rw [Datastore.deleteStorageAttachment_blockDevices]; exact keyed
  case deleteInstance => exact Datastore.DeleteInstance_keyed P keyed run
  case startFailure => exact Datastore.startFailure_keyed P keyed run
  case attachVolumeFailure => exact Datastore.attachVolumeFailure_keyed P keyed run
  case deleteBlockDevice => exact Datastore.deleteBlockDevice_keyed P keyed run

/-- The rows of a store that returns each volume under its own id. -/
def KeyedVolumes (rows : Datastore.Rows) : Prop := VolumesKeyed rows.blockDevices

private theorem rows_keyedVolumes (db : Db) : KeyedVolumes db.rows := by
  suffices ∀ m : GoMap String Volume, VolumesKeyed m →
      VolumesKeyed (db.blockData.foldl (fun m row => m.insert row.id row) m) from
    this _ fun _ _ got => by simp at got
  induction db.blockData with
  | nil => exact fun _ keyed => keyed
  | cons row rows ih => exact fun m keyed => ih _ (keyed.insert row)

/-- In every state the attach and detach calls reach from `Init` of a store that returns each
volume under its own id, the attachment index names attachments of its own pairs and every
volume is cached under its own id. -/
private theorem cascade_invariants_reachable {σ : Type} (P : PersistentStore σ) {ds : Datastore σ}
    (reach : Reachable P KeyedVolumes attachmentOps ds) :
    AttachmentIndexed ds.cache ∧ VolumesKeyed ds.cache.blockDevices := by
  induction reach with
  | init booted =>
    obtain ⟨_,_,rows,order,-,keyed,rfl⟩ := booted
    exact ⟨build_indexed rows order,by rw [Datastore.build_blockDevices]; exact keyed⟩
  | step _ admitted run ih => exact ⟨Op.run_indexed P ih.1 admitted run,Op.run_keyed P ih.2 admitted run⟩

/-- What `DeleteInstance` of the instance `i`, live under `k` in `c`, leaves in `c'`: `k` out of
the instance tables, its tenant's map and its node's map; of the index entries and attachments
of `k`, only those of volumes that were not cached and the attachments the index did not name;
unless `i` is a CNCI, its address unmarked in its subnet of its tenant's network. -/
structure InstanceErased (c c' : Cache) (k : String) (i : Instance) : Prop where
  instances : k ∉ c'.instances.keys
  lastStat : k ∉ c'.instanceLastStat.keys
  tenant : ∀ t, c'.tenants.get i.tenantID = some t → k ∉ t.instances.keys
  node : i.nodeID ≠ "" → ∃ n, c'.nodes.get i.nodeID = some n ∧ k ∉ n.instances.keys
  index : ∀ key id, c'.instanceVolumes.get key = some id → key.instanceID = k →
    c.instanceVolumes.get key = some id ∧ key.volumeID ∉ c.blockDevices.keys
  attachments : ∀ id a, c'.attachments.get id = some a → a.instanceID = k →
    c.attachments.get id = some a ∧ (c.instanceVolumes.get ⟨k,a.blockID⟩ = some id → a.blockID ∉ c.blockDevices.keys)
  address : i.cnci = false → ∀ t a, c'.tenants.get i.tenantID = some t → Net.ParseIP i.ipAddress = some a →
    a ∉ Datastore.hostsIn t.network (a &&& Net.mask t.config.subnetBits.toNat)

/-- Every cached volume of an index entry of `k` is `Available`. -/
def VolumesReleased (c c' : Cache) (k : String) : Prop :=
  ∀ v id, c.instanceVolumes.get ⟨k,v⟩ = some id → v ∈ c.blockDevices.keys →
    ∃ vol, c'.blockDevices.get v = some vol ∧ vol.state = available

namespace Datastore
variable {σ : Type} (P : PersistentStore σ)

private theorem DeleteInstance_cascade {ds ds' : Datastore σ} {k : String} {p : Ptr} {order : List Attachment}
    (live : ds.cache.instances.get k = some p) (indexed : AttachmentIndexed ds.cache)
    (enumerated : ds.cache.instanceVolumes.Enumerates order)
    (deleted : ds.DeleteInstance P k order = some (ds',none)) :
    InstanceErased ds.cache ds'.cache k (ds.cache.heap p) ∧
    ((∀ db v, (P.call db (.updateBlockData v)).2 = none) →
      VolumesKeyed ds.cache.blockDevices → VolumesReleased ds.cache ds'.cache k) := by
  obtain ⟨ds₂,tenantID,run,same⟩ := DeleteInstance_succeeded P deleted
  rcases deleteInstance_steps P run with ⟨-,failed⟩ | ⟨p',c,ds₀,ds₁,got,unlinked,released,rfl,cascaded⟩
  · exact absurd rfl failed
  rw [live] at got; cases got
  rw [same]
  obtain ⟨tenants₀,nodes₀,shape⟩ := unlinkInstance_shape unlinked
  obtain ⟨tenants,before,agree⟩ : ∃ tenants, ds₁.cache = {ds₀.cache with tenants} ∧
      TenantsAgree Tenant.members ds₀.cache.tenants tenants := by
    rcases released with ⟨-,rfl⟩ | ⟨-,e,releasedIP⟩
    · exact ⟨_,rfl,.refl _ _⟩
    · exact releaseTenantIP_cache P releasedIP
  have indexed₁ : AttachmentIndexed ds₁.cache := indexed.of_eq (by rw [before,shape]) (by rw [before,shape])
  have cascade := updateStorageAttachments_cascaded P indexed₁ enumerated.1 cascaded
  rw [before,shape] at cascade
  obtain ⟨_,_,_,tenants',after,agree'⟩ := updateStorageAttachments_volumesOnly P cascaded
  have links := unlinkInstance_unlinks unlinked
  have listed : ∀ key id, ds.cache.instanceVolumes.get key = some id → key ∈ order :=
    fun key id got => (enumerated.2 key).mpr ((GoMap.mem_keys_iff _ _).mpr ⟨id,got⟩)
  refine ⟨⟨?_,?_,?_,?_,?_,?_,?_⟩,?_⟩
  · simp [after,before,shape]
  · simp [after,before,shape]
  · intro t got
    simp only [after] at got
    obtain ⟨t₁,got₁,same₁⟩ := agree'.get got
    simp only [before] at got₁
    obtain ⟨t₀,got₀,same₀⟩ := agree.get got₁
    rw [show t.instances = t₀.instances from congrArg (·.2.1) (same₀.trans same₁).symm]
    exact links.1 t₀ got₀
  · intro placed
    obtain ⟨n,got,absent⟩ := links.2 placed
    exact ⟨n,by simpa [after,before] using got,absent⟩
  · intro key id got mine
    rw [cascade.index] at got
    split_ifs at got with detached
    exact ⟨got,fun cached => detached ⟨listed key id got,mine,cached⟩⟩
  · intro id a got mine
    rw [cascade.attachments] at got
    split_ifs at got with detached
    exact ⟨got,fun indexedAt cached => detached ⟨⟨k,a.blockID⟩,listed _ _ indexedAt,⟨rfl,cached⟩,indexedAt⟩⟩
  · intro notCnci t a got parsed
    rcases released with ⟨cnci,-⟩ | ⟨-,e,releasedIP⟩
    · rw [notCnci] at cnci; cases cnci
    · obtain ⟨t₁,got₁,same₁⟩ := (updateStorageAttachments_addressing P cascaded).get got
      simp only [Prod.mk.injEq] at same₁
      rw [← same₁.1,← same₁.2]
      exact releaseTenantIP_unmarks P releasedIP parsed got₁
  · intro written keyed v id got cached
    exact updateStorageAttachments_available P written
      (fun v vol got => keyed v vol (by simpa [before,shape] using got)) indexed₁ cascaded v
      (.inr ⟨⟨k,v⟩,listed _ _ got,rfl,⟨rfl,by simpa [before,shape] using cached⟩,by simp [before,shape,got]⟩)

theorem DeleteInstance_erases {ds ds' : Datastore σ} {k : String} {p : Ptr} {order : List Attachment}
    (live : ds.cache.instances.get k = some p) (indexed : AttachmentIndexed ds.cache)
    (enumerated : ds.cache.instanceVolumes.Enumerates order)
    (deleted : ds.DeleteInstance P k order = some (ds',none)) :
    InstanceErased ds.cache ds'.cache k (ds.cache.heap p) ∧
    ((∀ db v, (P.call db (.updateBlockData v)).2 = none) →
      VolumesKeyed ds.cache.blockDevices → VolumesReleased ds.cache ds'.cache k) :=
  DeleteInstance_cascade P live indexed enumerated deleted

private theorem attached_run : ∃ ds : Datastore Db, runOps rowStore attachmentOps
      ⟨attachedInstanceStore,build attachedInstanceStore.rows []⟩
      [.createStorageAttachment "i" ⟨"v",false,false⟩ "a"] = some ds ∧ ds.cache.instances.get "i" = some 0 ∧
      ds.cache.instanceVolumes.Enumerates [⟨"i","v"⟩] ∧
      ∃ ds', ds.DeleteInstance rowStore "i" [⟨"i","v"⟩] = some (ds',none) := by
  obtain ⟨ds,run,live,keys,rest⟩ : ∃ ds : Datastore Db, runOps rowStore attachmentOps
      ⟨attachedInstanceStore,build attachedInstanceStore.rows []⟩
      [.createStorageAttachment "i" ⟨"v",false,false⟩ "a"] = some ds ∧ ds.cache.instances.get "i" = some 0 ∧
      ds.cache.instanceVolumes.keys = {⟨"i","v"⟩} ∧
      ∃ ds', ds.DeleteInstance rowStore "i" [⟨"i","v"⟩] = some (ds',none) :=
    ⟨_,rfl,rfl,by decide,_,rfl⟩
  exact ⟨ds,run,live,⟨List.nodup_singleton _,fun key => by simp [keys]⟩,rest⟩

theorem delete_attached_instance : ∃ ds ds' : Datastore Db,
    runOps rowStore attachmentOps ⟨attachedInstanceStore,build attachedInstanceStore.rows []⟩
      [.createStorageAttachment "i" ⟨"v",false,false⟩ "a"] = some ds ∧
    ds.cache.instances.get "i" = some 0 ∧ AttachmentIndexed ds.cache ∧
    ds.cache.instanceVolumes.Enumerates [⟨"i","v"⟩] ∧
    ds.DeleteInstance rowStore "i" [⟨"i","v"⟩] = some (ds',none) ∧
    InstanceErased ds.cache ds'.cache "i" (ds.cache.heap 0) ∧
    ((∀ db v, (rowStore.call db (.updateBlockData v)).2 = none) →
      VolumesKeyed ds.cache.blockDevices → VolumesReleased ds.cache ds'.cache "i") := by
  obtain ⟨ds,run,live,enumerated,ds',deleted⟩ := attached_run
  have indexed := (cascade_invariants_reachable rowStore
    (.of_runOps (.init (booted_rowStore attachedInstanceStore [] (rows_keyedVolumes _))) run)).1
  exact ⟨ds,ds',run,live,indexed,enumerated,deleted,DeleteInstance_erases rowStore live indexed enumerated deleted⟩

/-- In every state the attach and detach calls reach from `Init` of a store that returns each
volume under its own id, the cascade of a successful `DeleteInstance` is the exact one. -/
theorem delete_cascade_reachable {ds ds' : Datastore σ} {k : String} {p : Ptr} {order : List Attachment}
    (reach : Reachable P KeyedVolumes attachmentOps ds) (live : ds.cache.instances.get k = some p)
    (enumerated : ds.cache.instanceVolumes.Enumerates order)
    (deleted : ds.DeleteInstance P k order = some (ds',none)) :
    InstanceErased ds.cache ds'.cache k (ds.cache.heap p) ∧
    ((∀ db v, (P.call db (.updateBlockData v)).2 = none) → VolumesReleased ds.cache ds'.cache k) := by
  obtain ⟨indexed,keyed⟩ := cascade_invariants_reachable P reach
  obtain ⟨erased,released⟩ := DeleteInstance_cascade P live indexed enumerated deleted
  exact ⟨erased,fun written => released written keyed⟩

theorem delete_reachable_attached : ∃ ds ds' : Datastore Db,
    Reachable rowStore KeyedVolumes attachmentOps ds ∧ ds.cache.instances.get "i" = some 0 ∧
    ds.cache.instanceVolumes.Enumerates [⟨"i","v"⟩] ∧
    ds.DeleteInstance rowStore "i" [⟨"i","v"⟩] = some (ds',none) ∧
    InstanceErased ds.cache ds'.cache "i" (ds.cache.heap 0) ∧
    ((∀ db v, (rowStore.call db (.updateBlockData v)).2 = none) → VolumesReleased ds.cache ds'.cache "i") := by
  obtain ⟨ds,run,live,enumerated,ds',deleted⟩ := attached_run
  have reach : Reachable rowStore KeyedVolumes attachmentOps ds :=
    .of_runOps (.init (booted_rowStore attachedInstanceStore [] (rows_keyedVolumes _))) run
  exact ⟨ds,ds',reach,live,enumerated,deleted,delete_cascade_reachable rowStore reach live enumerated deleted⟩

end Datastore

/-- The cascade as its description states it: `k` out of the instance tables, its tenant's map
and every node's map; no attachment and no index entry of `k` left; every volume attached to
`i` and to no other instance `Available`; unless `i` is a CNCI, its address unmarked. -/
structure DeleteCascadeSpec (c c' : Cache) (k : String) (i : Instance) : Prop where
  instances : k ∉ c'.instances.keys
  lastStat : k ∉ c'.instanceLastStat.keys
  tenant : ∀ t, c'.tenants.get i.tenantID = some t → k ∉ t.instances.keys
  nodes : ∀ nid n, c'.nodes.get nid = some n → k ∉ n.instances.keys
  attachments : ∀ id a, c'.attachments.get id = some a → a.instanceID ≠ k
  index : ∀ key id, c'.instanceVolumes.get key = some id → key.instanceID ≠ k
  volumes : ∀ v, (∃ id a, c.attachments.get id = some a ∧ a.instanceID = k ∧ a.blockID = v) →
    (∀ id a, c.attachments.get id = some a → a.blockID = v → a.instanceID = k) →
    ∃ vol, c'.blockDevices.get v = some vol ∧ vol.state = available
  address : i.cnci = false → ∀ t a, c'.tenants.get i.tenantID = some t → Net.ParseIP i.ipAddress = some a →
    a ∉ Datastore.hostsIn t.network (a &&& Net.mask t.config.subnetBits.toNat)

/-- An instance of tenant "t" reported from node "a" and then from node "b", with the volume "v"
attached to it twice and the second attachment deleted, which leaves the first cached but
unindexed. -/
def leftoverLinks : List Op :=
  [.addInstance {(default : Instance) with id := "i", tenantID := "t"} 0,
    .handleStats (reportFrom "a") 0,.handleStats (reportFrom "b") 0,
    .createStorageAttachment "i" ⟨"v",false,false⟩ "a1",.createStorageAttachment "i" ⟨"v",false,false⟩ "a2",
    .deleteStorageAttachment "a2"]

/-- `DeleteInstance` then returns no error, but node "a" still lists the instance, the
unindexed attachment still names it, and its only volume stays `InUse`. -/
theorem delete_cascade_incomplete : ∃ ds ds' : Datastore Db,
    runOps rowStore (fun _ _ => true) ⟨volumeStore,Datastore.build volumeStore.rows []⟩ leftoverLinks = some ds ∧
    Reachable rowStore (fun _ => True) (fun _ _ => true) ds ∧
    ds.cache.instances.get "i" = some 0 ∧ ds.cache.instanceVolumes.Enumerates [] ∧
    ds.DeleteInstance rowStore "i" [] = some (ds',none) ∧
    (ds'.cache.nodes.get "a").bind (·.instances.get "i") = some 0 ∧
    ds'.cache.attachments.get "a1" = some ⟨"a1","i","v",false,false⟩ ∧
    ds'.cache.blockDevices.get "v" = some ⟨"v","t",inUse⟩ ∧
    ¬ DeleteCascadeSpec ds.cache ds'.cache "i" (ds.cache.heap 0) := by
  obtain ⟨ds,run,live,keys,ds',deleted,stale,kept,used⟩ : ∃ ds : Datastore Db,
      runOps rowStore (fun _ _ => true) ⟨volumeStore,Datastore.build volumeStore.rows []⟩ leftoverLinks = some ds ∧
      ds.cache.instances.get "i" = some 0 ∧ ds.cache.instanceVolumes.keys = ∅ ∧
      ∃ ds', ds.DeleteInstance rowStore "i" [] = some (ds',none) ∧
        (ds'.cache.nodes.get "a").bind (·.instances.get "i") = some 0 ∧
        ds'.cache.attachments.get "a1" = some ⟨"a1","i","v",false,false⟩ ∧
        ds'.cache.blockDevices.get "v" = some ⟨"v","t",inUse⟩ :=
    ⟨_,rfl,rfl,by decide,_,rfl,by decide,by decide,by decide⟩
  exact ⟨ds,ds',run,.of_runOps (.init (booted_rowStore volumeStore [] trivial)) run,live,
    ⟨List.nodup_nil,fun key => by simp [keys]⟩,deleted,stale,kept,used,fun spec => spec.attachments "a1" _ kept rfl⟩

end CiaoDatastore
