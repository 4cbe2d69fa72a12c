import CiaoDatastore.LockOrder

/-! The lock calls of the datastore's methods, callees included, on each path: a `Call` carries
what decides the path (a store call that fails, a cache miss, a branch of the method, and the
passes of a loop that takes locks). A method that reads through the pointer of a map entry that
is not there panics; where it unlocks in line rather than by `defer`, the path stops holding the
mutex (`Path`). The store's own locking and the CNCI controller are outside the model: they take
none of the datastore's mutexes. On every path that returns, every method but
`GetInstanceLastStats` nests its mutexes in one order, and every method but `AddInstance` in
another (`Call.ranked`). So threads whose calls all return never deadlock
(`datastore_deadlock_free`), and every schedule of them ends with every call made
(`datastore_calls_finish`, `calls_finish_without_addInstance`). A call that panics holding
`tenantsLock` leaves a later `GetTenant` waiting for ever (`addBlockDevice_panic_blocks`). -/
namespace CiaoDatastore.Locks

def exclusively (m : Mutex) : List LockCall := [.lock m,.unlock m]

def reading (m : Mutex) : List LockCall := [.rlock m,.runlock m]

/-- The lock calls of a path through a method, and whether it returns. A path that reads through
the nil pointer of a missing map entry panics there: it makes no more lock calls, and a mutex it
holds stays held. -/
structure Path where
  calls : List LockCall
  returns : Bool
  deriving DecidableEq, Repr

namespace Path

def ret (calls : List LockCall) : Path := ⟨calls,true⟩

/-- A read through the pointer of a map entry, which panics unless the entry is `found`. -/
def deref (found : Bool) : Path := ⟨[],found⟩

def seq (p q : Path) : Path := if p.returns then ⟨p.calls ++ q.calls,q.returns⟩ else p

instance : Append Path := ⟨seq⟩

/-- The paths one after another, up to the first that panics. -/
def all (ps : List Path) : Path := ps.foldr (· ++ ·) (ret [])

/-- `Lock`, a read through an entry's pointer under it, then `Unlock`. -/
def derefUnder (m : Mutex) (found : Bool) : Path := ret [.lock m] ++ deref found ++ ret [.unlock m]

end Path

def getTenantLocks : List LockCall := reading .tenants

/-- `ReleaseTenantIP`: `parsed` when the address parses, `found` when `GetTenant` returns no error. -/
def releaseTenantIPLocks (parsed found : Bool) : List LockCall :=
  if parsed then getTenantLocks ++ if found then exclusively .tenants else [] else []

/-- `AddBlockDevice`: `stored` when the store takes the device; `tenantFound` when the tenants
cache has the device's tenant, whose device map it reads. -/
def addBlockDeviceLocks (stored tenantFound : Bool) : Path :=
  .ret (exclusively .bd) ++ if stored then .ret (exclusively .bd) ++ .derefUnder .tenants tenantFound else .ret []

def getBlockDeviceLocks : List LockCall := reading .bd

/-- `UpdateBlockDevice`: `present` when the cache has the device, then `AddBlockDevice`. -/
def updateBlockDeviceLocks (present stored tenantFound : Bool) : Path :=
  .ret (reading .bd) ++ if present then addBlockDeviceLocks stored tenantFound else .ret []

/-- One pass of `updateStorageAttachments`' loop over an attachment of the instance: whether
`GetBlockDevice` finds the device, then the path of `UpdateBlockDevice`. -/
structure AttachmentPass where
  found : Bool
  present : Bool
  stored : Bool
  tenantFound : Bool
  deriving DecidableEq, Repr

def attachmentPassLocks (a : AttachmentPass) : Path :=
  .ret getBlockDeviceLocks ++ if a.found then updateBlockDeviceLocks a.present a.stored a.tenantFound else .ret []

/-- `updateStorageAttachments`, over the instance's attachments in the loop's order. -/
def updateStorageAttachmentsLocks (attachments : List AttachmentPass) : Path :=
  .ret [.lock .attach] ++ .all (attachments.map attachmentPassLocks) ++ .ret [.unlock .attach]

/-- The path of `deleteInstance`: whether the store deletes the instance, the first time and
again; whether the instance is still cached when it is read, as a concurrent delete may have
removed it; whether it has a node, and whether that node is cached; whether it is a CNCI; the
path of `ReleaseTenantIP`; and the attachments `updateStorageAttachments` visits. -/
structure DeletePath where
  deleted : Bool
  cached : Bool
  onNode : Bool
  nodeCached : Bool
  cnci : Bool
  parsed : Bool
  tenantFound : Bool
  attachments : List AttachmentPass
  deletedAgain : Bool
  deriving DecidableEq, Repr

/-- Whether `deleteInstance` returns an error. A failed release is wrapped by `errors.Wrapf` of
the nil `err`, which is nil, so it is not one. -/
def DeletePath.fails (p : DeletePath) : Bool := !p.deleted || !p.deletedAgain

def deleteInstanceLocks (p : DeletePath) : Path :=
  if p.deleted then
    .ret (exclusively .instanceLastStat ++ exclusively .instances) ++ .derefUnder .tenants p.cached ++
      (if p.onNode then .derefUnder .nodes p.nodeCached else .ret []) ++
      .ret (if p.cnci then [] else releaseTenantIPLocks p.parsed p.tenantFound) ++
      updateStorageAttachmentsLocks p.attachments
  else .ret []

/-- `updateInstanceStatus`: `stored` when the store takes the stat. -/
def updateInstanceStatusLocks (stored : Bool) : List LockCall :=
  if stored then exclusively .instanceLastStat else []

def addNodeStatLocks : List LockCall := exclusively .nodes ++ exclusively .nodeLastStat

/-- `updateTenantUsage`: `needed` when the usage changes. -/
def updateTenantUsageLocks (needed : Bool) : List LockCall :=
  if needed then exclusively .tenantUsage else []

/-- One pass of `addInstanceStats`' loop: whether the usage changes, whether the instance is
cached, and whether the reporting node is, whose instance map it writes. -/
structure StatPass where
  needed : Bool
  found : Bool
  nodeCached : Bool
  deriving DecidableEq, Repr

def instanceStatPassLocks (s : StatPass) : Path :=
  .ret (.lock .instanceLastStat :: updateTenantUsageLocks s.needed ++ [.unlock .instanceLastStat,.lock .instances]) ++
    (if s.found then .derefUnder .nodes s.nodeCached else .ret []) ++ .ret [.unlock .instances]

def addInstanceStatsLocks (stats : List StatPass) : Path := .all (stats.map instanceStatPassLocks)

/-- A datastore method, with what decides its path through the locks. A `stored` is a store call
that succeeds; a `found` or `cached` is a lookup that finds its entry. -/
inductive Call
  | addTenant | deleteTenant | getTenant | jsonPatchTenant
  /-- `isPublic`: the workload's visibility is public. -/
  | addWorkload (stored isPublic : Bool)
  /-- `removable`: no instance uses the workload, the cache has it and the store deletes it. -/
  | deleteWorkload (removable isPublic : Bool)
  /-- `cnci`: the ID is the CNCI workload's. -/
  | getWorkload (cnci : Bool)
  | getWorkloads | getTenantWorkloads
  | releaseTenantIP (parsed found : Bool)
  /-- `parsed`: the tenant's network parses. -/
  | allocateTenantIPPool (found parsed : Bool)
  | allocateTenantIP (found parsed : Bool)
  | getAllInstances | getAllCNCIInstances | getInstance | getTenantInstance
  | getAllInstancesFromTenant | getTenantCNCIs | getAllInstancesByNode
  | addInstance (stored : Bool)
  /-- `fatal`: the reason is fatal and the instance is not migrating. -/
  | startFailure (found fatal : Bool) (deletion : DeletePath)
  | attachVolumeFailure (found present stored tenantFound instanceFound : Bool)
  | deleteInstance (found : Bool) (deletion : DeletePath)
  | instanceRestarting (stored cached : Bool)
  /-- `onNode`: the instance had a node; `nodeCached`: the node is cached. -/
  | instanceStopped (stored cached onNode nodeCached : Bool)
  | deleteNode (cached : Bool)
  | addNode | getNode
  /-- `load`: the stat's load is not `-1`; `stats`: the passes of `addInstanceStats`. -/
  | handleStats (load stored : Bool) (stats : List StatPass)
  | getInstanceLastStats (stats : List CiaoServerStats) (nodeID : String)
  | getNodeLastStats | getTenantUsage | getTenantCNCISummary | getNodeSummary
  | addBlockDevice (stored tenantFound : Bool)
  | deleteBlockDevice (found stored tenantFound : Bool)
  | getBlockDevices | getBlockDevice
  | updateBlockDevice (present stored tenantFound : Bool)
  /-- `present`, `updated` and `tenantFound`: the path of `UpdateBlockDevice`. -/
  | createStorageAttachment (stored found present updated tenantFound : Bool)
  | getStorageAttachments | getStorageAttachment
  | deleteStorageAttachment (stored : Bool)
  | getVolumeAttachments
  | getPool | getPools
  /-- `checked`: every subnet or address of the pool passes its checks. -/
  | addPool (checked stored : Bool)
  | deletePool
  | addExternalSubnet (parsed : Bool)
  | addExternalIPs | deleteSubnet | deleteExternalIP | getMappedIPs | getMappedIP
  | mapExternalIP (found : Bool)
  | unMapExternalIP | resolveInstance
  /-- `fresh`: no image has the ID; `unnamed` and `unused`: `ResolveImage` finds no image by the
  name, then by the ID; `tenanted`: the image has a tenant. -/
  | addImage (fresh unnamed unused stored tenanted : Bool)
  /-- `kept`: the cache has the image and its tenant and visibility are unchanged. -/
  | updateImage (kept renamed : Bool)
  | getImage | resolveImage
  | getImages (tenanted : Bool)
  | deleteImage (found tenanted : Bool)

def Call.path : Call → Path
  | .addTenant | .deleteTenant | .jsonPatchTenant => .ret (exclusively .tenants)
  | .getTenant => .ret getTenantLocks
  | .addWorkload stored isPublic =>
    .ret (.lock .workloads :: (if stored && !isPublic then exclusively .tenants else []) ++ [.unlock .workloads])
  | .deleteWorkload removable isPublic =>
    .ret ([.lock .workloads,.rlock .instances] ++ (if removable && !isPublic then exclusively .tenants else []) ++
      [.runlock .instances,.unlock .workloads])
  | .getWorkload cnci => .ret (if cnci then [] else reading .workloads)
  | .getWorkloads | .getTenantWorkloads => .ret [.rlock .workloads,.rlock .tenants,.runlock .tenants,.runlock .workloads]
  | .releaseTenantIP parsed found => .ret (releaseTenantIPLocks parsed found)
  | .allocateTenantIPPool found parsed | .allocateTenantIP found parsed =>
    .ret (getTenantLocks ++ if found && parsed then exclusively .tenants else [])
  | .getAllInstances | .getAllCNCIInstances | .getTenantInstance | .getTenantCNCISummary => .ret (reading .instances)
  | .getInstance => .ret getInstanceLocks
  | .getAllInstancesFromTenant | .getTenantCNCIs | .getBlockDevices | .resolveInstance | .resolveImage =>
    .ret (reading .tenants)
  | .getAllInstancesByNode | .getNode | .getNodeSummary => .ret (reading .nodes)
  | .addInstance stored => .ret (if stored then addInstanceLocks else [])
  | .startFailure found fatal deletion =>
    .ret getInstanceLocks ++ if found then
      (if fatal then deleteInstanceLocks deletion else .ret []) ++
        if fatal && deletion.fails then .ret [] else .ret (exclusively .nodes)
    else .ret []
  | .attachVolumeFailure found present stored tenantFound instanceFound =>
    .ret getBlockDeviceLocks ++ if found then
      updateBlockDeviceLocks present stored tenantFound ++ if present && stored then
        .ret (getInstanceLocks ++ if instanceFound then exclusively .nodes else [])
      else .ret []
    else .ret []
  | .deleteInstance found deletion => .ret getInstanceLocks ++ if found then deleteInstanceLocks deletion else .ret []
  | .instanceRestarting stored cached =>
    .ret (updateInstanceStatusLocks stored) ++ if stored then .derefUnder .instances cached else .ret []
  | .instanceStopped stored cached onNode nodeCached =>
    .ret (updateInstanceStatusLocks stored) ++ if stored then
      .derefUnder .instances cached ++ if onNode then .derefUnder .nodes nodeCached else .ret []
    else .ret []
  | .deleteNode cached => .derefUnder .nodes cached ++ .ret (exclusively .nodeLastStat)
  | .addNode => .ret (exclusively .nodes)
  | .handleStats load stored stats =>
    .ret (if load then addNodeStatLocks else []) ++ if load && !stored then .ret [] else addInstanceStatsLocks stats
  | .getInstanceLastStats stats nodeID => .ret (getInstanceLastStatsLocks stats nodeID)
  | .getNodeLastStats => .ret (reading .nodeLastStat)
  | .getTenantUsage => .ret (reading .tenantUsage)
  | .addBlockDevice stored tenantFound => addBlockDeviceLocks stored tenantFound
  | .deleteBlockDevice found stored tenantFound =>
    .ret (exclusively .bd) ++ if found && stored then
      .ret [.lock .bd] ++ .derefUnder .tenants tenantFound ++ .ret [.unlock .bd]
    else .ret []
  | .getBlockDevice => .ret getBlockDeviceLocks
  | .updateBlockDevice present stored tenantFound => updateBlockDeviceLocks present stored tenantFound
  | .createStorageAttachment stored found present updated tenantFound =>
    if stored then .ret getBlockDeviceLocks ++ if found then
      updateBlockDeviceLocks present updated tenantFound ++ if present && updated then .ret (exclusively .attach) else .ret []
    else .ret [] else .ret []
  | .getStorageAttachments | .getStorageAttachment | .getVolumeAttachments => .ret (reading .attach)
  | .deleteStorageAttachment stored => .ret (if stored then exclusively .attach else [])
  | .getPool | .getPools | .getMappedIPs | .getMappedIP => .ret (reading .pools)
  | .addPool checked stored => .ret (exclusively .pools ++ if checked && !stored then exclusively .pools else [])
  | .deletePool | .addExternalIPs | .deleteSubnet | .deleteExternalIP | .unMapExternalIP => .ret (exclusively .pools)
  | .addExternalSubnet parsed => .ret (if parsed then exclusively .pools else [])
  | .mapExternalIP found => .ret (getInstanceLocks ++ if found then exclusively .pools else [])
  | .addImage fresh unnamed unused stored tenanted =>
    .ret (.lock .image :: (if fresh then reading .tenants ++ if unnamed then
      reading .tenants ++ if unused && stored && tenanted then exclusively .tenants else []
    else [] else []) ++ [.unlock .image])
  | .updateImage kept renamed => .ret (.lock .image :: (if kept && renamed then reading .tenants else []) ++ [.unlock .image])
  | .getImage => .ret (reading .image)
  | .getImages tenanted => .ret (.rlock .image :: (if tenanted then reading .tenants else []) ++ [.runlock .image])
  | .deleteImage found tenanted =>
    .ret (.lock .image :: (if found && tenanted then exclusively .tenants else []) ++ [.unlock .image])

/-- The order in which the methods nest the mutexes: each method takes a mutex only while it holds
mutexes of lower rank. The methods disagree only on `instancesLock` and `instanceLastStatLock`:
`AddInstance` takes the second inside the first and `GetInstanceLastStats` the first inside the
second; `lastStatsFirst` picks the order of the two. -/
def lockRank (lastStatsFirst : Bool) : Mutex → Nat
  | .attach => 0 | .image => 1 | .bd => 2 | .workloads => 3
  | .instances => if lastStatsFirst then 5 else 4
  | .instanceLastStat => if lastStatsFirst then 4 else 5
  | .tenantUsage => 6 | .nodes => 7 | .nodeLastStat => 8 | .pools => 9 | .tenants => 10

/-- Whether the call nests `instancesLock` and `instanceLastStatLock` against the order that
`lastStatsFirst` picks. -/
def Call.crosses (lastStatsFirst : Bool) : Call → Bool
  | .addInstance stored => stored && lastStatsFirst
  | .getInstanceLastStats .. => !lastStatsFirst
  | _ => false

/-- Whenever the path returns, its lock calls take each mutex above every mutex held and release
only held ones, from the mutexes `held` to `held'`. -/
def Path.Leads (p : Path) (rank : Mutex → Nat) (held held' : List (Mutex × Bool)) : Prop :=
  p.returns = true → afterCalls rank held p.calls = some held'

instance (p : Path) (rank : Mutex → Nat) (held held' : List (Mutex × Bool)) : Decidable (p.Leads rank held held') :=
  inferInstanceAs (Decidable (_ → _))

section Leads
variable {rank : Mutex → Nat} {held : List (Mutex × Bool)}

theorem Path.Leads.seq {p q : Path} {held' held'' : List (Mutex × Bool)} (hp : p.Leads rank held held')
    (hq : q.Leads rank held' held'') : (p ++ q).Leads rank held held'' := by
  show (Path.seq p q).Leads rank held held''
  unfold Path.seq
  split
  · rename_i first
    exact fun rest => by rw [afterCalls_append,hp first,Option.some_bind]; exact hq rest
  · rename_i stopped
    exact fun returned => absurd returned stopped

theorem Path.Leads.ite {p q : Path} {held' : List (Mutex × Bool)} (c : Bool) (hp : p.Leads rank held held')
    (hq : q.Leads rank held held') : (if c then p else q).Leads rank held held' := by
  cases c <;> assumption

theorem Path.Leads.all {ps : List Path} (each : ∀ p ∈ ps, p.Leads rank held held) : (Path.all ps).Leads rank held held := by
  induction ps with
  | nil => exact fun _ => rfl
  | cons p ps ih =>
    obtain ⟨first,rest⟩ := List.forall_mem_cons.mp each
    exact first.seq (ih rest)

private theorem Path.all_returns {ps : List Path} (each : ∀ p ∈ ps, p.returns = true) : (Path.all ps).returns = true := by
  induction ps with
  | nil => rfl
  | cons p ps ih =>
    obtain ⟨first,rest⟩ := List.forall_mem_cons.mp each
    show (Path.seq p (Path.all ps)).returns = true
    rw [Path.seq,if_pos first]
    exact ih rest

end Leads

section Ranks
variable (lastStatsFirst : Bool)

private theorem updateStorageAttachmentsLocks_ranked (attachments : List AttachmentPass) :
    (updateStorageAttachmentsLocks attachments).Leads (lockRank lastStatsFirst) [] [] := by
  have pass : ∀ a, (attachmentPassLocks a).Leads (lockRank lastStatsFirst) [(.attach,true)] [(.attach,true)] := by
    rintro ⟨found,present,stored,tenantFound⟩; revert lastStatsFirst found present stored tenantFound; decide
  have taken : (Path.ret [.lock .attach]).Leads (lockRank lastStatsFirst) [] [(.attach,true)] := fun _ => rfl
  have released : (Path.ret [.unlock .attach]).Leads (lockRank lastStatsFirst) [(.attach,true)] [] := fun _ => rfl
  exact (taken.seq (.all (List.forall_mem_map.mpr fun a _ => pass a))).seq released

private theorem deleteInstanceLocks_ranked (p : DeletePath) : (deleteInstanceLocks p).Leads (lockRank lastStatsFirst) [] [] := by
  unfold deleteInstanceLocks
  refine .ite _ (.seq ?_ (updateStorageAttachmentsLocks_ranked _ _)) fun _ => rfl
  obtain ⟨_,cached,onNode,nodeCached,cnci,parsed,found,_,_⟩ := p
  dsimp only
  revert lastStatsFirst cached onNode nodeCached cnci parsed found; decide

private theorem addInstanceStatsLocks_ranked (stats : List StatPass) :
    (addInstanceStatsLocks stats).Leads (lockRank lastStatsFirst) [] [] := by
  have pass : ∀ s, (instanceStatPassLocks s).Leads (lockRank lastStatsFirst) [] [] := by
    rintro ⟨needed,found,nodeCached⟩; revert lastStatsFirst needed found nodeCached; decide
  exact .all (List.forall_mem_map.mpr fun s _ => pass s)

end Ranks

private theorem getInstanceLastStatsLocks_ranked (stats : List CiaoServerStats) (nodeID : String) :
    Ranked (lockRank true) (getInstanceLastStatsLocks stats nodeID) := by
  have pass : afterCalls (lockRank true) [(.instanceLastStat,false)] getInstanceLocks = some [(.instanceLastStat,false)] := by
    decide
  rw [Ranked,getInstanceLastStatsLocks,List.cons_append,afterCalls,if_pos List.all_nil,afterCalls_append,
    afterCalls_flatten fun _ _ => pass]
  rfl

/-- Every method, on every path that returns, takes its mutexes in the order of either rank it
does not cross, and releases each. -/
theorem Call.ranked (c : Call) (lastStatsFirst : Bool) (fits : c.crosses lastStatsFirst = false) :
    c.path.Leads (lockRank lastStatsFirst) [] [] := by
  cases c with
  | getInstanceLastStats stats nodeID =>
    obtain rfl : lastStatsFirst = true := by simpa [Call.crosses] using fits
    exact fun _ => getInstanceLastStatsLocks_ranked stats nodeID
  | addInstance stored => revert stored lastStatsFirst; decide
  | startFailure found fatal deletion =>
    clear fits
    refine .seq ?_ (.ite _ (.seq (.ite _ (deleteInstanceLocks_ranked _ _) fun _ => rfl) (.ite _ (fun _ => rfl) ?_))
      fun _ => rfl) <;>
      revert lastStatsFirst <;> decide
  | deleteInstance found deletion =>
    clear fits
    exact .seq (by revert lastStatsFirst; decide) (.ite _ (deleteInstanceLocks_ranked _ _) fun _ => rfl)
  | handleStats load stored stats =>
    clear fits
    exact .seq (by revert lastStatsFirst load; decide) (.ite _ (fun _ => rfl) (addInstanceStatsLocks_ranked _ _))
  | addWorkload a b | deleteWorkload a b | releaseTenantIP a b | allocateTenantIPPool a b | allocateTenantIP a b
  | instanceRestarting a b | addBlockDevice a b | addPool a b | updateImage a b
  | deleteImage a b => clear fits; revert lastStatsFirst a b; decide
  | getWorkload a | deleteNode a | deleteStorageAttachment a
  | addExternalSubnet a | mapExternalIP a | getImages a => clear fits; revert lastStatsFirst a; decide
  | deleteBlockDevice a b c | updateBlockDevice a b c => clear fits; revert lastStatsFirst a b c; decide
  | instanceStopped a b c d => clear fits; revert lastStatsFirst a b c d; decide
  | attachVolumeFailure a b c d e | createStorageAttachment a b c d e => clear fits; revert lastStatsFirst a b c d e; decide
  | addImage a b c d e => clear fits; revert lastStatsFirst a b c d e; decide
  | _ => clear fits; revert lastStatsFirst; decide

private theorem Call.crosses_false {c : Call} (other : ∀ stats nodeID, c ≠ .getInstanceLastStats stats nodeID) :
    c.crosses false = false := by
  cases c with
  | getInstanceLastStats stats nodeID => exact absurd rfl (other stats nodeID)
  | addInstance stored => exact Bool.and_false stored
  | _ => rfl

private theorem Call.crosses_true {c : Call} (noAdd : c ≠ .addInstance true) : c.crosses true = false := by
  cases c with
  | addInstance stored => simpa [Call.crosses] using noAdd
  | _ => rfl

/-- The lock calls of a thread that makes the calls one after another, up to the first that
panics. -/
def threadLocks (calls : List Call) : List LockCall := (Path.all (calls.map Call.path)).calls

private theorem threadLocks_ranked {threads : List (List Call)} (lastStatsFirst : Bool)
    (returns : ∀ calls ∈ threads, ∀ c ∈ calls, c.path.returns = true)
    (fits : ∀ calls ∈ threads, ∀ c ∈ calls, c.crosses lastStatsFirst = false) :
    ∀ locks ∈ threads.map threadLocks, Ranked (lockRank lastStatsFirst) locks := fun locks listed => by
  obtain ⟨calls,mem,rfl⟩ := List.mem_map.mp listed
  exact Path.Leads.all (List.forall_mem_map.mpr fun c called => c.ranked lastStatsFirst (fits calls mem c called))
    (Path.all_returns (List.forall_mem_map.mpr (returns calls mem)))

/-- Threads that each make any number of the datastore's calls other than `GetInstanceLastStats`,
each on a path that returns, started together with every mutex free, never reach a deadlock in
any interleaving. -/
theorem datastore_deadlock_free {threads : List (List Call)}
    (returns : ∀ calls ∈ threads, ∀ c ∈ calls, c.path.returns = true)
    (other : ∀ calls ∈ threads, ∀ c ∈ calls, ∀ stats nodeID, c ≠ .getInstanceLastStats stats nodeID) {cfg : Config}
    (run : Relation.ReflTransGen Steps (.start (threads.map threadLocks)) cfg) : ¬ Deadlocked cfg :=
  (disciplined_reachable (threadLocks_ranked false returns fun calls mem c called =>
    Call.crosses_false (other calls mem c called)) run).not_deadlocked

/-- `AddInstance` and `DeleteInstance` of a CNCI with no node and no attachment, run at once. -/
def addDeleteRace : Config :=
  .start ([[.addInstance true],[.deleteInstance true ⟨true,true,false,true,true,true,true,[],true⟩]].map threadLocks)

/-- Once `DeleteInstance` holds `instanceLastStatLock` and `AddInstance` holds `instancesLock`,
`AddInstance` waits, and yet the two are not deadlocked. -/
theorem addDeleteRace_waits : ∃ cfg, Relation.ReflTransGen Steps addDeleteRace cfg ∧ step cfg 0 = none ∧
    ¬ Deadlocked cfg := by
  obtain ⟨cfg,run,waits⟩ : ∃ cfg, Relation.ReflTransGen Steps addDeleteRace cfg ∧ step cfg 0 = none :=
    ⟨_,.tail (.tail (.tail (.tail (.tail (.tail .refl ⟨1,rfl⟩) ⟨1,rfl⟩) ⟨1,rfl⟩) ⟨1,rfl⟩) ⟨0,rfl⟩) ⟨0,rfl⟩,rfl⟩
  exact ⟨cfg,run,waits,datastore_deadlock_free (by decide) (by simp) run⟩

/-- `AddBlockDevice` of a device whose tenant is not cached, and `GetTenant`, run at once. -/
def addBlockDevicePanic : Config := .start ([[.addBlockDevice true false],[.getTenant]].map threadLocks)

/-- `AddBlockDevice` panics holding `tenantsLock`, and `GetTenant` waits for it for ever. -/
theorem addBlockDevice_panic_blocks : ∃ cfg, Relation.ReflTransGen Steps addBlockDevicePanic cfg ∧ Deadlocked cfg :=
  ⟨_,.tail (.tail (.tail (.tail (.tail (.tail (.tail (.tail .refl ⟨0,rfl⟩) ⟨0,rfl⟩) ⟨0,rfl⟩) ⟨0,rfl⟩) ⟨0,rfl⟩)
    ⟨0,rfl⟩) ⟨0,rfl⟩) ⟨0,rfl⟩,⟨1,by decide,by decide⟩,fun t bound => by
      match t,bound with
      | 0,_ => rfl
      | 1,_ => rfl⟩

/-- Threads that each make any number of the datastore's calls other than `GetInstanceLastStats`,
each on a path that returns, started together with every mutex free, make all their calls in
every schedule: no schedule runs for ever, and none stops before every call is made. -/
theorem datastore_calls_finish {threads : List (List Call)}
    (returns : ∀ calls ∈ threads, ∀ c ∈ calls, c.path.returns = true)
    (other : ∀ calls ∈ threads, ∀ c ∈ calls, ∀ stats nodeID, c ≠ .getInstanceLastStats stats nodeID) :
    Finishes (.start (threads.map threadLocks)) :=
  (Disciplined.start (threadLocks_ranked false returns fun calls mem c called =>
    Call.crosses_false (other calls mem c called))).finishes

theorem addDeleteRace_finishes : Finishes addDeleteRace :=
  datastore_calls_finish (by decide) (by simp)

/-- Threads that make any of the datastore's calls, `GetInstanceLastStats` among them, but no
`AddInstance` that stores its instance, each on a path that returns, make all their calls in every
schedule. With `datastore_calls_finish`, a schedule of calls that return stops short only when
`AddInstance` and `GetInstanceLastStats` run at once, as `lock_order_deadlock` shows they can. -/
theorem calls_finish_without_addInstance {threads : List (List Call)}
    (returns : ∀ calls ∈ threads, ∀ c ∈ calls, c.path.returns = true)
    (noAdd : ∀ calls ∈ threads, ∀ c ∈ calls, c ≠ .addInstance true) : Finishes (.start (threads.map threadLocks)) :=
  (Disciplined.start (threadLocks_ranked true returns fun calls mem c called =>
    Call.crosses_true (noAdd calls mem c called))).finishes

/-- `GetInstanceLastStats` of a node with one stat, and `DeleteInstance`, run at once. -/
def lastStatsDeleteRace : Config :=
  .start ([[.getInstanceLastStats [⟨"i","n","t",0,"running",0,0,0⟩] "n"],
    [.deleteInstance true ⟨true,true,false,true,true,true,true,[],true⟩]].map threadLocks)

theorem lastStatsDeleteRace_finishes : Finishes lastStatsDeleteRace :=
  calls_finish_without_addInstance (by decide) (by simp)

end CiaoDatastore.Locks
