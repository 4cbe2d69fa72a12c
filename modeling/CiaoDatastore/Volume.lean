import CiaoDatastore.Store

/-! Block devices and storage attachments. `AddBlockDevice` writes into the owning tenant's
device map and panics when that tenant is not cached. `CreateStorageAttachment` indexes the
new attachment under its (instance, volume) pair without looking at what the pair indexed
before. `updateStorageAttachments` ranges over `instanceVolumes` while deleting from it; the
model visits the keys in `order` and skips a key deleted before it is reached, which is what
Go does for an entry removed before the iteration gets to it. -/
namespace CiaoDatastore
namespace Datastore
variable {σ : Type} (P : PersistentStore σ)

/-- `AddBlockDevice`; `none` when it panics. -/
def addBlockDevice (ds : Datastore σ) (device : Volume) : Option (Datastore σ × Option Error) :=
  let (ds,err) := if device.id ∈ ds.cache.blockDevices.keys
    then let (ds,err) := ds.call P (.updateBlockData device)
      (ds,Error.wrapNil "Error updating block data in database" err)
    else let (ds,err) := ds.call P (.addBlockData device)
      (ds,Error.wrapNil "Error adding block data to database" err)
  match err with
  | some e => some (ds,some e)
  | none =>
    match ds.cache.tenants.get device.tenantID with
    | none => none
    | some t =>
      some (ds.withCache {ds.cache with
        blockDevices := ds.cache.blockDevices.insert device.id device
        tenants := ds.cache.tenants.insert device.tenantID {t with devices := t.devices.insert device.id device}},none)

/-- `DeleteBlockDevice`; `none` when it panics. -/
def deleteBlockDevice (ds : Datastore σ) (id : String) : Option (Datastore σ × Option Error) :=
  match ds.cache.blockDevices.get id with
  | none => some (ds,some errNoBlockData)
  | some dev =>
    let (ds,err) := ds.call P (.deleteBlockData id)
    match err with
    | some e => some (ds,some (.wrap "Error deleting block data from database" e))
    | none =>
      match ds.cache.tenants.get dev.tenantID with
      | none => none
      | some t =>
        some (ds.withCache {ds.cache with
          blockDevices := ds.cache.blockDevices.delete id
          tenants := ds.cache.tenants.insert dev.tenantID {t with devices := t.devices.delete id}},none)

def getBlockDevice (c : Cache) (id : String) : Except Error Volume :=
  match c.blockDevices.get id with
  | some v => .ok v
  | none => .error errNoBlockData

/-- `UpdateBlockDevice`; `none` when it panics. -/
def updateBlockDevice (ds : Datastore σ) (data : Volume) : Option (Datastore σ × Option Error) :=
  if data.id ∉ ds.cache.blockDevices.keys then some (ds,some errNoBlockData) else
  match ds.addBlockDevice P data with
  | none => none
  | some (ds,err) => some (ds,Error.wrapNil ("error updating block device (" ++ data.id ++ ")") err)

/-- `CreateStorageAttachment` with `uuid` the id it generates; `none` when it panics. -/
def createStorageAttachment (ds : Datastore σ) (instanceID : String) (volume : StorageResource)
    (uuid : String) : Option (Datastore σ × Except Error StorageAttachment) :=
  let link : Attachment := ⟨instanceID,volume.id⟩
  let a : StorageAttachment := ⟨uuid,instanceID,volume.id,volume.ephemeral,volume.bootable⟩
  let (ds,err) := ds.call P (.addStorageAttachment a)
  match err with
  | some e => some (ds,.error (.wrap "error adding storage attachment to database" e))
  | none =>
    match getBlockDevice ds.cache volume.id with
    | .error e =>
      some ((ds.call P (.deleteStorageAttachment a.id)).1,
        .error (.wrap ("error fetching block device (" ++ volume.id ++ ")") e))
    | .ok bd =>
      match ds.updateBlockDevice P {bd with state := inUse} with
      | none => none
      | some (ds,some e) =>
        some ((ds.call P (.deleteStorageAttachment a.id)).1,
          .error (.wrap ("error updating block device (" ++ volume.id ++ ")") e))
      | some (ds,none) =>
        some (ds.withCache {ds.cache with
          attachments := ds.cache.attachments.insert a.id a
          instanceVolumes := ds.cache.instanceVolumes.insert link a.id},.ok a)

/-- One round of `updateStorageAttachments` at the key `key`; `none` when it panics. -/
def detachOne (ds : Datastore σ) (instanceID : String) (key : Attachment) : Option (Datastore σ) :=
  match ds.cache.instanceVolumes.get key with
  | none => some ds
  | some id =>
    let a := (ds.cache.attachments.get id).getD default
    if a.instanceID ≠ instanceID then some ds else
    match getBlockDevice ds.cache a.blockID with
    | .error _ => some ds
    | .ok bd =>
      match ds.updateBlockDevice P {bd with state := available} with
      | none => none
      | some (ds,_) =>
        let ds := ds.withCache {ds.cache with
          attachments := ds.cache.attachments.delete id
          instanceVolumes := ds.cache.instanceVolumes.delete ⟨a.instanceID,a.blockID⟩}
        some (ds.call P (.deleteStorageAttachment id)).1

/-- `updateStorageAttachments`, visiting the keys of `instanceVolumes` in `order`. -/
def updateStorageAttachments (ds : Datastore σ) (instanceID : String) :
    List Attachment → Option (Datastore σ)
  | [] => some ds
  | key :: rest =>
    match ds.detachOne P instanceID key with
    | none => none
    | some ds => ds.updateStorageAttachments instanceID rest

def deleteStorageAttachment (ds : Datastore σ) (id : String) : Datastore σ × Option Error :=
  let (ds,err) := ds.call P (.deleteStorageAttachment id)
  match err with
  | some e => (ds,some (.wrap ("error deleting storage attachment (" ++ id ++ ") from database") e))
  | none =>
    match ds.cache.attachments.get id with
    | none => (ds,some errNoStorageAttachment)
    | some a =>
      (ds.withCache {ds.cache with
        attachments := ds.cache.attachments.delete id
        instanceVolumes := ds.cache.instanceVolumes.delete ⟨a.instanceID,a.blockID⟩},none)

end Datastore
end CiaoDatastore
