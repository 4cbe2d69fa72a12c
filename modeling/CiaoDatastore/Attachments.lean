import CiaoDatastore.Frame
import CiaoDatastore.RowStore

/-! Storage attachments and their index `instanceVolumes` by (instance, volume). From any
`Init`, every state that attach and detach calls reach keeps each index entry naming a cached
attachment of its pair (`attachment_index_reachable`). The index is not an inverse of the
attachments: `CreateStorageAttachment` indexes a second attachment of a pair over the first,
which stays cached but unindexed, and `AttachVolumeFailure` makes an attached volume available
while its attachment stays (`attachments_inverse_refuted`). An attach and a detach on a store that accepts every call
restore both tables, but `DeleteStorageAttachment` never writes the volume back, which stays
`InUse` (`attach_detach_round_trip`). -/
namespace CiaoDatastore

/-- Each entry of the attachment index names a cached attachment of that instance and volume. -/
def AttachmentIndexed (c : Cache) : Prop :=
  ∀ key id, c.instanceVolumes.get key = some id →
    ∃ a, c.attachments.get id = some a ∧ (⟨a.instanceID,a.blockID⟩ : Attachment) = key

namespace AttachmentIndexed
variable {c c' : Cache}

theorem of_eq (h : AttachmentIndexed c) (attachments : c'.attachments = c.attachments)
    (index : c'.instanceVolumes = c.instanceVolumes) : AttachmentIndexed c' := by
  intro key id got
  rw [index] at got
  rw [attachments]
  exact h key id got

theorem attach {a : StorageAttachment} (h : AttachmentIndexed c) (fresh : a.id ∉ c.attachments.keys)
    (attachments : c'.attachments = c.attachments.insert a.id a)
    (index : c'.instanceVolumes = c.instanceVolumes.insert ⟨a.instanceID,a.blockID⟩ a.id) :
    AttachmentIndexed c' := by
  intro key id got
  rw [index,GoMap.get_insert] at got
  rw [attachments,GoMap.get_insert]
  split at got
  · rename_i here; cases got; exact ⟨a,by simp,here.symm⟩
  · obtain ⟨a',named,pair⟩ := h key id got
    have other : id ≠ a.id := by
      rintro rfl; exact fresh ((c.attachments.mem_keys_iff _).mpr ⟨a',named⟩)
    exact ⟨a',by simp [other,named],pair⟩

theorem detach {id : String} {a : StorageAttachment} (h : AttachmentIndexed c)
    (named : c.attachments.get id = some a)
    (attachments : c'.attachments = c.attachments.delete id)
    (index : c'.instanceVolumes = c.instanceVolumes.delete ⟨a.instanceID,a.blockID⟩) :
    AttachmentIndexed c' := by
  intro key id' got
  rw [index,GoMap.get_delete] at got
  rw [attachments,GoMap.get_delete]
  split at got
  · cases got
  · rename_i other
    obtain ⟨a',named',pair⟩ := h key id' got
    have apart : id' ≠ id := by
      rintro rfl; rw [named] at named'; cases named'; exact other pair.symm
    exact ⟨a',by simp [apart,named'],pair⟩

end AttachmentIndexed

namespace Datastore
variable {σ : Type} (P : PersistentStore σ) {ds ds' : Datastore σ}

private theorem unlinkInstance_attachments {c c' : Cache} {k : String} {i : Instance}
    (unlinked : unlinkInstance c k i = some c') :
    c'.attachments = c.attachments ∧ c'.instanceVolumes = c.instanceVolumes := by
  unfold unlinkInstance at unlinked
  dsimp only at unlinked
  split at unlinked <;> (try split at unlinked) <;> (try split at unlinked) <;> cases unlinked <;>
    exact ⟨rfl,rfl⟩

private theorem countFailure_attachments (c : Cache) (nodeID : String) (count : Node → Node) :
    (countFailure c nodeID count).attachments = c.attachments ∧
      (countFailure c nodeID count).instanceVolumes = c.instanceVolumes := by
  unfold countFailure; split <;> exact ⟨rfl,rfl⟩

private theorem createStorageAttachment_indexed {instanceID uuid : String} {volume : StorageResource}
    {r : Except Error StorageAttachment} (h : AttachmentIndexed ds.cache)
    (fresh : uuid ∉ ds.cache.attachments.keys)
    (run : ds.createStorageAttachment P instanceID volume uuid = some (ds',r)) :
    AttachmentIndexed ds'.cache := by
  unfold createStorageAttachment at run
  dsimp only [call] at run
  split at run
  · cases run; exact h
  · split at run
    · cases run; exact h
    · split at run
      · cases run
      · rename_i updated
        cases run
        obtain ⟨_,_,shape,-⟩ := updateBlockDevice_cache P updated
        exact h.of_eq (by rw [shape]) (by rw [shape])
      · rename_i updated
        cases run
        obtain ⟨_,_,shape,-⟩ := updateBlockDevice_cache P updated
        exact h.attach (a := ⟨uuid,instanceID,volume.id,volume.ephemeral,volume.bootable⟩) fresh
          (by simp [shape]) (by simp [shape])

private theorem deleteStorageAttachment_indexed {id : String} (h : AttachmentIndexed ds.cache) :
    AttachmentIndexed (ds.deleteStorageAttachment P id).1.cache := by
  unfold deleteStorageAttachment
  dsimp only [call]
  split
  · exact h
  · split
    · exact h
    · rename_i a named
      exact h.detach named rfl rfl

theorem detachOne_indexed {instanceID : String} {key : Attachment} (h : AttachmentIndexed ds.cache)
    (run : ds.detachOne P instanceID key = some ds') : AttachmentIndexed ds'.cache := by
  rcases detachOne_cases P run with ⟨rfl,-⟩ | ⟨id,_,_,_,_,got,rfl,-,-,updated,rfl⟩
  · exact h
  · obtain ⟨a,named,-⟩ := h key id got
    obtain ⟨_,_,shape,-⟩ := updateBlockDevice_cache P updated
    simp only [named,Option.getD_some]
    exact h.detach named (by simp [shape]) (by simp [shape])

private theorem updateStorageAttachments_indexed {instanceID : String} {order : List Attachment}
    (h : AttachmentIndexed ds.cache) (run : ds.updateStorageAttachments P instanceID order = some ds') :
    AttachmentIndexed ds'.cache := by
  induction order generalizing ds with
  | nil => cases run; exact h
  | cons key rest ih =>
    simp only [updateStorageAttachments] at run
    split at run
    · cases run
    · rename_i detached
      exact ih (detachOne_indexed P h detached) run

private theorem deleteInstance_indexed {k tenantID : String} {order : List Attachment} {err : Option Error}
    (h : AttachmentIndexed ds.cache) (run : ds.deleteInstance P k order = some (ds',tenantID,err)) :
    AttachmentIndexed ds'.cache := by
  rcases deleteInstance_cases P run with same | ⟨p,c,ds₁,-,unlinked,⟨_,shape,-⟩,cascaded⟩
  · rw [same]; exact h
  · have kept := unlinkInstance_attachments unlinked
    exact updateStorageAttachments_indexed P
      (h.of_eq (by rw [shape,kept.1]) (by rw [shape,kept.2])) cascaded

private theorem DeleteInstance_indexed {k : String} {order : List Attachment} {err : Option Error}
    (h : AttachmentIndexed ds.cache) (run : ds.DeleteInstance P k order = some (ds',err)) :
    AttachmentIndexed ds'.cache := by
  rcases DeleteInstance_cases P run with same | ⟨ds₁,_,_,deleted,same⟩ <;> rw [same]
  · exact h
  · exact deleteInstance_indexed P h deleted

private theorem startFailure_indexed {k nodeID : String} {reason : StartFailureReason} {migration : Bool}
    {order : List Attachment} {err : Option Error} (h : AttachmentIndexed ds.cache)
    (run : ds.startFailure P k reason migration nodeID order = some (ds',err)) :
    AttachmentIndexed ds'.cache := by
  obtain ⟨ds₁,deleted,counted⟩ := startFailure_cases P run
  have h₁ : AttachmentIndexed ds₁.cache := by
    rcases deleted with rfl | ⟨_,_,deleted⟩
    · exact h
    · exact deleteInstance_indexed P h deleted
  rcases counted with same | same <;> rw [same]
  · exact h₁
  · exact h₁.of_eq (countFailure_attachments _ _ _).1 (countFailure_attachments _ _ _).2

private theorem attachVolumeFailure_indexed {instanceID volumeID reason : String} {err : Option Error}
    (h : AttachmentIndexed ds.cache)
    (run : ds.attachVolumeFailure P instanceID volumeID reason = some (ds',err)) :
    AttachmentIndexed ds'.cache := by
  rcases attachVolumeFailure_cases P run with same | ⟨ds₁,_,_,_,updated,counted⟩
  · rw [same]; exact h
  · obtain ⟨_,_,shape,-⟩ := updateBlockDevice_cache P updated
    have h₁ : AttachmentIndexed ds₁.cache := h.of_eq (by rw [shape]) (by rw [shape])
    rcases counted with same | same <;> rw [same]
    · exact h₁
    · exact h₁.of_eq (countFailure_attachments _ _ _).1 (countFailure_attachments _ _ _).2

private theorem deleteBlockDevice_indexed {id : String} {err : Option Error} (h : AttachmentIndexed ds.cache)
    (run : ds.deleteBlockDevice P id = some (ds',err)) : AttachmentIndexed ds'.cache := by
  unfold deleteBlockDevice at run
  dsimp only [call] at run
  split at run
  · cases run; exact h
  · split at run
    · cases run; exact h
    · split at run
      · cases run
      · cases run; exact h

private theorem indexAttachments_indexed (attachments : GoMap String StorageAttachment) (order : List String)
    {index : GoMap Attachment String}
    (sound : ∀ key id, index.get key = some id →
      ∃ a, attachments.get id = some a ∧ (⟨a.instanceID,a.blockID⟩ : Attachment) = key) :
    ∀ key id, (indexAttachments attachments index order).get key = some id →
      ∃ a, attachments.get id = some a ∧ (⟨a.instanceID,a.blockID⟩ : Attachment) = key := by
  induction order generalizing index with
  | nil => exact sound
  | cons id rest ih =>
    simp only [indexAttachments]
    split
    · exact ih sound
    · rename_i a named
      refine ih fun key id' got => ?_
      rw [GoMap.get_insert] at got
      split at got
      · rename_i here; cases got; exact ⟨a,named,here.symm⟩
      · exact sound key id' got

private theorem initImageList_volumes (c : Cache) (images : List Image) :
    (initImageList c images).attachments = c.attachments ∧
      (initImageList c images).instanceVolumes = c.instanceVolumes ∧
      (initImageList c images).blockDevices = c.blockDevices := by
  obtain ⟨_,_,_,_,shape,-⟩ := initImageList_shape c images
  rw [shape]; exact ⟨rfl,rfl,rfl⟩

private theorem initWorkloadList_volumes (c : Cache) (workloads : List Workload) :
    (initWorkloadList c workloads).attachments = c.attachments ∧
      (initWorkloadList c workloads).instanceVolumes = c.instanceVolumes ∧
      (initWorkloadList c workloads).blockDevices = c.blockDevices := by
  obtain ⟨_,_,_,shape,-⟩ := initWorkloadList_shape c workloads
  rw [shape]; exact ⟨rfl,rfl,rfl⟩

private theorem linkInstances_volumes (c : Cache) (es : List (Nat × Instance)) :
    (linkInstances c es).attachments = c.attachments ∧
      (linkInstances c es).instanceVolumes = c.instanceVolumes ∧
      (linkInstances c es).blockDevices = c.blockDevices := by
  obtain ⟨_,_,shape,-⟩ := linkInstances_shape c es
  rw [shape]; exact ⟨rfl,rfl,rfl⟩

theorem build_blockDevices (rows : Rows) (order : List String) :
    (build rows order).blockDevices = rows.blockDevices := by
  unfold build
  dsimp only
  rw [(linkInstances_volumes _ _).2.2,(initWorkloadList_volumes _ _).2.2,(initImageList_volumes _ _).2.2]

end Datastore

theorem build_indexed (rows : Datastore.Rows) (order : List String) :
    AttachmentIndexed (Datastore.build rows order) := by
  unfold Datastore.build
  dsimp only
  intro key id got
  rw [(Datastore.linkInstances_volumes _ _).2.1,(Datastore.initWorkloadList_volumes _ _).2.1,
    (Datastore.initImageList_volumes _ _).2.1] at got
  rw [(Datastore.linkInstances_volumes _ _).1,(Datastore.initWorkloadList_volumes _ _).1,
    (Datastore.initImageList_volumes _ _).1]
  exact Datastore.indexAttachments_indexed _ _ (fun _ _ got => by simp at got) key id got

/-- The calls that attach and detach volumes, with a fresh id for each new attachment (the
`uuid.Generate()` the code calls). -/
def attachmentOps (c : Cache) : Op → Bool
  | .createStorageAttachment _ _ uuid => decide (uuid ∉ c.attachments.keys)
  | .deleteStorageAttachment _ | .deleteInstance .. | .startFailure .. | .attachVolumeFailure ..
  | .deleteBlockDevice _ => true
  | _ => false

theorem Op.run_indexed {σ : Type} (P : PersistentStore σ) {ds ds' : Datastore σ} {op : Op}
    {err : Option Error} (h : AttachmentIndexed ds.cache) (admitted : attachmentOps ds.cache op = true)
    (run : op.run P ds = some (ds',err)) : AttachmentIndexed ds'.cache := by
  cases op <;> first | exact absurd admitted Bool.false_ne_true | unfold Op.run at run
  case createStorageAttachment =>
    obtain ⟨⟨_,r⟩,created,same⟩ := Option.map_eq_some'.mp run
    obtain ⟨rfl,-⟩ := Prod.mk.inj same
    exact Datastore.createStorageAttachment_indexed P h (of_decide_eq_true admitted) created
  case deleteStorageAttachment id =>
    obtain rfl : (ds.deleteStorageAttachment P id).1 = ds' := by rw [Option.some.inj run]
    exact Datastore.deleteStorageAttachment_indexed P h
  case deleteInstance => exact Datastore.DeleteInstance_indexed P h run
  case startFailure => exact Datastore.startFailure_indexed P h run
  case attachVolumeFailure => exact Datastore.attachVolumeFailure_indexed P h run
  case deleteBlockDevice => exact Datastore.deleteBlockDevice_indexed P h run

/-- In every state the attach and detach calls reach from `Init`, each entry of the attachment
index names a cached attachment of its instance and volume: the index never points at a removed
attachment or at one of another pair. -/
theorem attachment_index_reachable {σ : Type} (P : PersistentStore σ) {ds : Datastore σ}
    (reach : Reachable P (fun _ => True) attachmentOps ds) : AttachmentIndexed ds.cache := by
  induction reach with
  | init booted =>
    obtain ⟨_,_,rows,order,-,-,rfl⟩ := booted
    exact build_indexed rows order
  | step _ admitted run ih => exact Op.run_indexed P ih admitted run

theorem attachment_index_stored : AttachmentIndexed
    (Datastore.build {Db.empty with attachments := [⟨"a","i","v",false,false⟩]}.rows ["a"]) :=
  attachment_index_reachable rowStore (.init (booted_rowStore _ ["a"] trivial))

/-- A store with one tenant and one of its volumes. -/
def volumeStore : Db :=
  {Db.empty with tenants := [⟨"t",⟨"t",24⟩,.empty,.empty⟩], blockData := [⟨"v","t",available⟩]}

/-- A tenant "t" with its volume "v" and its instance "i", which has no node. -/
def attachedInstanceStore : Db :=
  {volumeStore with instances := [{(default : Instance) with id := "i", tenantID := "t"}]}

/-- The same volume attached twice to the same instance. -/
def attachedTwice : List Op :=
  [.createStorageAttachment "i" ⟨"v",false,false⟩ "a1",.createStorageAttachment "i" ⟨"v",false,false⟩ "a2"]

/-- A volume attached to an instance, then the attach reported as failed. -/
def attachFailed : List Op :=
  [.createStorageAttachment "i" ⟨"v",false,false⟩ "a1",.attachVolumeFailure "i" "v" ""]

/-- Neither of the other two parts of an inverse holds: the same volume attached twice leaves a
cached attachment that the index does not name, and a failed attach makes its volume available
while the attachment stays. -/
theorem attachments_inverse_refuted :
    (¬ ∀ ds : Datastore Db, Reachable rowStore (fun _ => True) attachmentOps ds → ∀ id a,
      ds.cache.attachments.get id = some a → ds.cache.instanceVolumes.get ⟨a.instanceID,a.blockID⟩ = some a.id) ∧
    ¬ ∀ ds : Datastore Db, Reachable rowStore (fun _ => True) attachmentOps ds → ∀ id a,
      ds.cache.attachments.get id = some a → ∃ v, ds.cache.blockDevices.get a.blockID = some v ∧ v.state = inUse := by
  constructor
  · intro claim
    obtain ⟨ds,run,first,index⟩ : ∃ ds, runOps rowStore attachmentOps
        ⟨volumeStore,Datastore.build volumeStore.rows []⟩ attachedTwice = some ds ∧
        ds.cache.attachments.get "a1" = some ⟨"a1","i","v",false,false⟩ ∧
        ds.cache.instanceVolumes.get ⟨"i","v"⟩ = some "a2" :=
      ⟨_,rfl,by decide,by decide⟩
    have := claim ds (.of_runOps (.init (booted_rowStore volumeStore [] trivial)) run) "a1" _ first
    rw [index] at this
    exact absurd this (by decide)
  · intro claim
    obtain ⟨ds,run,kept,freed⟩ : ∃ ds, runOps rowStore attachmentOps
        ⟨volumeStore,Datastore.build volumeStore.rows []⟩ attachFailed = some ds ∧
        ds.cache.attachments.get "a1" = some ⟨"a1","i","v",false,false⟩ ∧
        (ds.cache.blockDevices.get "v").map (·.state) = some available :=
      ⟨_,rfl,by decide,by decide⟩
    obtain ⟨v,got,used⟩ := claim ds (.of_runOps (.init (booted_rowStore volumeStore [] trivial)) run) "a1" _ kept
    rw [got] at freed
    exact absurd (used.symm.trans (Option.some.inj freed)) (by decide)

namespace Datastore
variable {σ : Type} (P : PersistentStore σ)

private theorem updateBlockDevice_written (ds : Datastore σ) (data : Volume) {t : Tenant}
    (stored : data.id ∈ ds.cache.blockDevices.keys) (updated : (P.call ds.db (.updateBlockData data)).2 = none)
    (owner : ds.cache.tenants.get data.tenantID = some t) :
    ds.updateBlockDevice P data = some ((ds.call P (.updateBlockData data)).1.withCache {ds.cache with
      blockDevices := ds.cache.blockDevices.insert data.id data
      tenants := ds.cache.tenants.insert data.tenantID {t with devices := t.devices.insert data.id data}},none) := by
  simp [updateBlockDevice,addBlockDevice,stored,call,updated,owner,Error.wrapNil]

/-- Modelled from the spec: attaching a volume to an instance and detaching the new attachment
leaves the volume available and the attachment tables as they were. -/
def RoundTripRestores (ds : Datastore σ) (instanceID uuid : String) (volume : StorageResource) : Prop :=
  ∀ ds₁ a, ds.createStorageAttachment P instanceID volume uuid = some (ds₁,.ok a) →
    (∃ v, (ds₁.deleteStorageAttachment P a.id).1.cache.blockDevices.get volume.id = some v ∧
      v.state = available) ∧
    (ds₁.deleteStorageAttachment P a.id).1.cache.attachments = ds.cache.attachments ∧
    (ds₁.deleteStorageAttachment P a.id).1.cache.instanceVolumes = ds.cache.instanceVolumes

/-- `DeleteStorageAttachment` does not write the volume back, so an attach and a detach on a
store that accepts every call restore the attachment tables and leave the volume `InUse`. -/
theorem attach_detach_round_trip {ds : Datastore σ} {instanceID uuid : String} {volume : StorageResource}
    {bd : Volume} {t : Tenant}
    (added : ∀ db a, (P.call db (.addStorageAttachment a)).2 = none)
    (updated : ∀ db v, (P.call db (.updateBlockData v)).2 = none)
    (removed : ∀ db id, (P.call db (.deleteStorageAttachment id)).2 = none)
    (cached : ds.cache.blockDevices.get volume.id = some bd) (keyed : bd.id = volume.id)
    (owner : ds.cache.tenants.get bd.tenantID = some t)
    (unlinked : ⟨instanceID,volume.id⟩ ∉ ds.cache.instanceVolumes.keys) (fresh : uuid ∉ ds.cache.attachments.keys) :
    ∃ ds₁ a, ds.createStorageAttachment P instanceID volume uuid = some (ds₁,.ok a) ∧
      (ds₁.deleteStorageAttachment P a.id).2 = none ∧
      (ds₁.deleteStorageAttachment P a.id).1.cache.attachments = ds.cache.attachments ∧
      (ds₁.deleteStorageAttachment P a.id).1.cache.instanceVolumes = ds.cache.instanceVolumes ∧
      (ds₁.deleteStorageAttachment P a.id).1.cache.blockDevices.get volume.id = some {bd with state := inUse} := by
  have stored : bd.id ∈ ds.cache.blockDevices.keys := (GoMap.mem_keys_iff _ _).mpr ⟨bd,keyed ▸ cached⟩
  simp only [createStorageAttachment,call,added,getBlockDevice,cached]
  rw [updateBlockDevice_written P ⟨(P.call ds.db (.addStorageAttachment ⟨uuid,instanceID,volume.id,volume.ephemeral,
    volume.bootable⟩)).1,ds.cache⟩ {bd with state := inUse} stored (updated _ _) owner]
  refine ⟨_,_,rfl,?_⟩
  simp only [deleteStorageAttachment,call,removed,withCache,GoMap.get_insert,if_pos rfl,GoMap.delete_insert,
    GoMap.delete_absent fresh,keyed]
  simp [GoMap.delete_absent unlinked]

theorem attach_detach_round_trip_instanceStore : ∃ ds₁ a,
    (⟨attachedInstanceStore,build attachedInstanceStore.rows []⟩ : Datastore Db).createStorageAttachment rowStore
      "i" ⟨"v",false,false⟩ "a" = some (ds₁,.ok a) ∧
    (ds₁.deleteStorageAttachment rowStore a.id).2 = none ∧
    (ds₁.deleteStorageAttachment rowStore a.id).1.cache.attachments = GoMap.empty ∧
    (ds₁.deleteStorageAttachment rowStore a.id).1.cache.instanceVolumes = GoMap.empty ∧
    (ds₁.deleteStorageAttachment rowStore a.id).1.cache.blockDevices.get "v" = some ⟨"v","t",inUse⟩ :=
  by
  obtain ⟨ds₁,a,created,detached,attachments,index,volume⟩ := @attach_detach_round_trip Db rowStore
    ⟨attachedInstanceStore,build attachedInstanceStore.rows []⟩ "i" "a" ⟨"v",false,false⟩ ⟨"v","t",available⟩ _
    (fun _ _ => rfl) (fun _ _ => rfl) (fun _ _ => rfl) rfl rfl rfl (by decide) (by decide)
  exact ⟨ds₁,a,created,detached,attachments,index,volume⟩

/-- On `Init` of `attachedInstanceStore`, attaching the available volume "v" to "i" and
detaching it leaves "v" `InUse`. -/
theorem attach_detach_leaves_in_use :
    ¬ ∀ ds : Datastore Db, Reachable rowStore (fun _ => True) attachmentOps ds →
      ∀ instanceID uuid volume bd, ds.cache.blockDevices.get volume.id = some bd → bd.state = available →
        ⟨instanceID,volume.id⟩ ∉ ds.cache.instanceVolumes.keys → uuid ∉ ds.cache.attachments.keys →
        RoundTripRestores rowStore ds instanceID uuid volume := by
  intro claim
  let ds : Datastore Db := ⟨attachedInstanceStore,build attachedInstanceStore.rows []⟩
  obtain ⟨ds₁,a,created,after⟩ : ∃ ds₁ a, ds.createStorageAttachment rowStore "i" ⟨"v",false,false⟩ "a" =
      some (ds₁,.ok a) ∧ (ds₁.deleteStorageAttachment rowStore a.id).1.cache.blockDevices.get "v" =
        some ⟨"v","t",inUse⟩ :=
    ⟨_,_,rfl,rfl⟩
  obtain ⟨⟨v,got,state⟩,-⟩ := claim ds (.init (booted_rowStore attachedInstanceStore [] trivial)) "i" "a"
    ⟨"v",false,false⟩ ⟨"v","t",available⟩ rfl rfl (by decide) (by decide) ds₁ a created
  rw [after] at got
  cases got
  exact absurd state (by decide)

end Datastore

end CiaoDatastore
