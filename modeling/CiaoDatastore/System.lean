import CiaoDatastore.Workload
import CiaoDatastore.Pool
import CiaoDatastore.Image
import CiaoDatastore.Init

/-! The datastore as a state machine: one `Op` per exported method, with the choices its
environment makes (clock readings, generated ids, iteration orders, the configuration patch)
as arguments, and `Op.run` the method's effect and returned error. A call that panics or never
returns has no successor. `Reachable allowed` holds of the datastores `Init` builds and of those
that admitted calls lead to; `allowed` carries a claim's preconditions on its calls. -/
namespace CiaoDatastore

inductive Op
  | addTenant (id : String) (config : TenantConfig)
  | deleteTenant (id : String)
  | jsonPatchTenant (id : String) (patch : Except Error Datastore.ConfigPatch)
  | addWorkload (w : Workload)
  | deleteWorkload (id : String)
  | allocateTenantIPPool (tenantID : String) (num : Int) (order : List UInt32)
  | allocateTenantIP (tenantID : String) (order : List UInt32)
  | releaseTenantIP (tenantID ip : String)
  | addInstance (i : Instance) (now : Int)
  | startFailure (instanceID : String) (reason : StartFailureReason) (migration : Bool)
      (nodeID : String) (order : List Attachment)
  | attachVolumeFailure (instanceID volumeID reason : String)
  | deleteInstance (instanceID : String) (order : List Attachment)
  | instanceRestarting (instanceID : String) (now : Int)
  | instanceStopped (instanceID : String) (now : Int)
  | deleteNode (nodeID : String)
  | addNode (nodeID : String) (nodeType : Resource)
  | handleStats (stat : Stat) (now : Int)
  | addBlockDevice (device : Volume)
  | deleteBlockDevice (id : String)
  | createStorageAttachment (instanceID : String) (volume : StorageResource) (uuid : String)
  | deleteStorageAttachment (id : String)
  | addPool (pool : Pool)
  | deletePool (id : String)
  | addExternalSubnet (poolID subnet uuid : String)
  | addExternalIPs (poolID : String) (IPs : List String) (uuid : Nat → String)
  | deleteSubnet (poolID subnetID : String)
  | deleteExternalIP (poolID addrID : String)
  | mapExternalIP (poolID instanceID uuid : String)
  | unMapExternalIP (address : String)
  | addImage (i : Image)
  | updateImage (i : Image)
  | deleteImage (id : String)

namespace Op
variable {σ : Type} (P : PersistentStore σ)

/-- The error a value-returning method gives. -/
def errorOf {α : Type} : Except Error α → Option Error
  | .ok _ => none
  | .error e => some e

/-- A method that may panic or loop, as a successor. -/
def ofOutcome {α : Type} : Outcome σ (Except Error α) → Option (Datastore σ × Option Error)
  | .returns ds r => some (ds,errorOf r)
  | .panics => none
  | .loops => none

/-- The datastore a call leaves and the error it returns; `none` when it panics or never
returns. -/
def run (ds : Datastore σ) : Op → Option (Datastore σ × Option Error)
  | addTenant id config => let (ds,r) := ds.addTenant P id config; some (ds,errorOf r)
  | deleteTenant id => some (ds.deleteTenant P id)
  | jsonPatchTenant id patch => some (ds.jsonPatchTenant P id patch)
  | addWorkload w => some (ds.addWorkload P w)
  | deleteWorkload id => some (ds.deleteWorkload P id)
  | allocateTenantIPPool tenantID num order => ofOutcome (ds.allocateTenantIPPool P tenantID num order)
  | allocateTenantIP tenantID order => ofOutcome (ds.allocateTenantIP P tenantID order)
  | releaseTenantIP tenantID ip => ds.releaseTenantIP P tenantID ip
  | addInstance i now => some (ds.addInstance P i now)
  | startFailure instanceID reason migration nodeID order =>
    ds.startFailure P instanceID reason migration nodeID order
  | attachVolumeFailure instanceID volumeID reason => ds.attachVolumeFailure P instanceID volumeID reason
  | deleteInstance instanceID order => ds.DeleteInstance P instanceID order
  | instanceRestarting instanceID now => ds.instanceRestarting P instanceID now
  | instanceStopped instanceID now => ds.instanceStopped P instanceID now
  | deleteNode nodeID => ds.deleteNode nodeID
  | addNode nodeID nodeType => some (ds.addNode nodeID nodeType,none)
  | handleStats stat now => ds.handleStats P stat now
  | addBlockDevice device => ds.addBlockDevice P device
  | deleteBlockDevice id => ds.deleteBlockDevice P id
  | createStorageAttachment instanceID volume uuid =>
    (ds.createStorageAttachment P instanceID volume uuid).map fun (ds,r) => (ds,errorOf r)
  | deleteStorageAttachment id => some (ds.deleteStorageAttachment P id)
  | addPool pool => ds.addPool P pool
  | deletePool id => some (ds.deletePool P id)
  | addExternalSubnet poolID subnet uuid => ds.addExternalSubnet P poolID subnet uuid
  | addExternalIPs poolID IPs uuid => ds.addExternalIPs P poolID IPs uuid
  | deleteSubnet poolID subnetID => ds.deleteSubnet P poolID subnetID
  | deleteExternalIP poolID addrID => some (ds.deleteExternalIP P poolID addrID)
  | mapExternalIP poolID instanceID uuid =>
    (ds.mapExternalIP P poolID instanceID uuid).map fun (ds,r) => (ds,errorOf r)
  | unMapExternalIP address => some (ds.unMapExternalIP P address)
  | addImage i => some (ds.addImage P i)
  | updateImage i => some (ds.updateImage P i)
  | deleteImage id => some (ds.deleteImage id)

end Op

/-- The datastores `Init` builds from a store whose rows satisfy `boot`. -/
def Booted {σ : Type} (P : PersistentStore σ) (boot : Datastore.Rows → Prop) (ds : Datastore σ) : Prop :=
  ∃ db db' rows order, Datastore.readStore P db = .ok (db',rows) ∧ boot rows ∧
    ds = ⟨db',Datastore.build rows order⟩

/-- The datastores `Init` builds from a store whose rows satisfy `boot`, and those a sequence of
calls admitted by `allowed` leads to from them. -/
inductive Reachable {σ : Type} (P : PersistentStore σ) (boot : Datastore.Rows → Prop)
    (allowed : Cache → Op → Bool) : Datastore σ → Prop
  | init {ds : Datastore σ} : Booted P boot ds → Reachable P boot allowed ds
  | step {ds ds' : Datastore σ} {op : Op} {err : Option Error} :
      Reachable P boot allowed ds → allowed ds.cache op = true → op.run P ds = some (ds',err) →
      Reachable P boot allowed ds'

/-- The calls of a run from `ds`, each admitted by `allowed` in the state it starts from; the
state the run ends in. -/
def runOps {σ : Type} (P : PersistentStore σ) (allowed : Cache → Op → Bool) (ds : Datastore σ) :
    List Op → Option (Datastore σ)
  | [] => some ds
  | op :: ops =>
    if allowed ds.cache op then
      match op.run P ds with
      | some (ds',_) => runOps P allowed ds' ops
      | none => none
    else none

theorem Reachable.of_runOps {σ : Type} {P : PersistentStore σ} {boot : Datastore.Rows → Prop}
    {allowed : Cache → Op → Bool} {ds ds' : Datastore σ} {ops : List Op}
    (reach : Reachable P boot allowed ds) (run : runOps P allowed ds ops = some ds') :
    Reachable P boot allowed ds' := by
  induction ops generalizing ds with
  | nil => cases run; exact reach
  | cons op ops ih =>
    simp only [runOps] at run
    split at run
    · rename_i admitted
      split at run
      · rename_i ds'' err result
        exact ih (reach.step admitted result) run
      · cases run
    · cases run

end CiaoDatastore
