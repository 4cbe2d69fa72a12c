import CiaoDatastore.InstanceLinks

/-! The last stat of each live instance, and the tenant it names, which is where
`addInstanceStats` sends the instance's usage. `AddInstance` records the instance's tenant in
the stat, and `addInstanceStats` carries over the tenant of the stat it replaces; but
`updateInstanceStatus`, behind `InstanceStopped` and `InstanceRestarting`, writes a stat with no
tenant, and `Init` starts with no stat at all. -/
namespace CiaoDatastore

/-- Every live instance has a last stat, which names the instance's tenant. -/
def StatsTenanted (c : Cache) : Prop :=
  ∀ k p, c.instances.get k = some p →
    ∃ s, c.instanceLastStat.get k = some s ∧ s.tenantID = (c.heap p).tenantID

private theorem Datastore.addInstanceStat_tables {c c' : Cache} {nodeID : String} {now : Int}
    {stat : InstanceStat} (run : Datastore.addInstanceStat c nodeID now stat = some c') :
    let last := (c.instanceLastStat.get stat.instanceUUID).getD default
    c'.instances = c.instances ∧ (∀ p, (c'.heap p).tenantID = (c.heap p).tenantID) ∧
      (∃ s : CiaoServerStats, c'.instanceLastStat = c.instanceLastStat.insert stat.instanceUUID s ∧
        s.tenantID = last.tenantID) ∧
      ∃ delta, c'.tenantUsage = Datastore.updateTenantUsage c.tenantUsage delta last.tenantID now := by
  unfold Datastore.addInstanceStat at run
  dsimp only at run
  split at run
  · cases run; exact ⟨rfl,fun _ => rfl,⟨_,rfl,rfl⟩,_,rfl⟩
  · split at run
    · cases run
    · cases run
      refine ⟨rfl,fun q => ?_,⟨_,rfl,rfl⟩,_,rfl⟩
      simp only [Datastore.setInstance,Function.update_apply]
      split
      · rename_i here; subst here; rfl
      · rfl

namespace StatsTenanted
variable {c c' : Cache}

theorem of_same (h : StatsTenanted c) (instances : c'.instances = c.instances)
    (heap : ∀ p, (c'.heap p).tenantID = (c.heap p).tenantID)
    (stats : c'.instanceLastStat = c.instanceLastStat) : StatsTenanted c' := fun k p got => by
  rw [instances] at got; rw [stats,heap]; exact h k p got

theorem of_volumesOnly (h : StatsTenanted c) (same : VolumesOnly c c') : StatsTenanted c' := by
  obtain ⟨_,_,_,_,rfl,-⟩ := same
  exact h

theorem add (h : StatsTenanted c) (allocated : ∀ k p, c.instances.get k = some p → p < c.next)
    {i : Instance} {stat : CiaoServerStats} (named : stat.tenantID = i.tenantID) :
    StatsTenanted {c with
      heap := Function.update c.heap c.next i
      next := c.next + 1
      instances := c.instances.insert i.id c.next
      instanceLastStat := c.instanceLastStat.insert i.id stat} := fun k p got => by
  simp only [GoMap.get_insert] at got ⊢
  split at got
  · cases got; rename_i fresh; simp [fresh,named]
  · rename_i other
    obtain ⟨s,stat,same⟩ := h k p got
    rw [if_neg other,Function.update_noteq (allocated k p got).ne]
    exact ⟨s,stat,same⟩

theorem unlink {k : String} {i : Instance} (h : StatsTenanted c)
    (unlinked : Datastore.unlinkInstance c k i = some c') : StatsTenanted c' := fun k' p got => by
  obtain ⟨_,_,rfl⟩ := Datastore.unlinkInstance_shape unlinked
  simp only [GoMap.get_delete] at got ⊢
  split at got
  · cases got
  · rename_i other; rw [if_neg other]; exact h k' p got

theorem report {nodeID : String} {now : Int} {stat : InstanceStat} (h : StatsTenanted c)
    (run : Datastore.addInstanceStat c nodeID now stat = some c') : StatsTenanted c' := by
  obtain ⟨instances,heap,⟨s,stats,named⟩,-⟩ := Datastore.addInstanceStat_tables run
  intro k p got
  rw [instances] at got
  obtain ⟨old,present,owns⟩ := h k p got
  rw [stats,heap,GoMap.get_insert]
  split
  · rename_i here; subst here
    rw [present] at named
    exact ⟨s,rfl,named.trans owns⟩
  · exact ⟨old,present,owns⟩

private theorem usage_tenant {nodeID : String} {now : Int} {stat : InstanceStat} {p : Ptr}
    (h : StatsTenanted c) (live : c.instances.get stat.instanceUUID = some p)
    (run : Datastore.addInstanceStat c nodeID now stat = some c') :
    ∃ delta, c'.tenantUsage = Datastore.updateTenantUsage c.tenantUsage delta (c.heap p).tenantID now := by
  obtain ⟨-,-,-,delta,usage⟩ := Datastore.addInstanceStat_tables run
  obtain ⟨s,present,owns⟩ := h _ p live
  rw [present,Option.getD_some,owns] at usage
  exact ⟨delta,usage⟩

end StatsTenanted

namespace Datastore
variable {σ : Type} (P : PersistentStore σ) {ds ds' : Datastore σ}

private theorem addInstance_stats {i : Instance} {now : Int} (h : StatsTenanted ds.cache)
    (allocated : ∀ k p, ds.cache.instances.get k = some p → p < ds.cache.next) :
    StatsTenanted (ds.addInstance P i now).1.cache := by
  have added := @StatsTenanted.add _ h allocated i {(default : CiaoServerStats) with
    id := i.id, tenantID := i.tenantID, nodeID := i.nodeID, timestamp := now, status := i.state} rfl
  unfold addInstance
  dsimp only [call]
  split
  · exact h
  · split
    · exact added
    · exact added.of_same rfl (fun _ => rfl) rfl

private theorem deleteInstance_stats {k tenantID : String} {order : List Attachment} {err : Option Error}
    (h : StatsTenanted ds.cache) (run : ds.deleteInstance P k order = some (ds',tenantID,err)) :
    StatsTenanted ds'.cache := by
  rcases deleteInstance_cases P run with same | ⟨p,c,ds₁,-,unlinked,⟨tenants,shape,same⟩,cascaded⟩
  · rw [same]; exact h
  · have released : VolumesOnly c ds₁.cache := ⟨_,_,_,_,shape,same⟩
    exact (h.unlink unlinked).of_volumesOnly
      (released.trans (updateStorageAttachments_volumesOnly P cascaded))

private theorem DeleteInstance_stats {k : String} {order : List Attachment} {err : Option Error}
    (h : StatsTenanted ds.cache) (run : ds.DeleteInstance P k order = some (ds',err)) :
    StatsTenanted ds'.cache := by
  rcases DeleteInstance_cases P run with same | ⟨ds₁,_,_,deleted,same⟩ <;> rw [same]
  · exact h
  · exact deleteInstance_stats P h deleted

private theorem countFailure_stats {c : Cache} (h : StatsTenanted c) (nodeID : String) (count : Node → Node) :
    StatsTenanted (countFailure c nodeID count) := by
  unfold countFailure
  split
  · exact h
  · exact h.of_same rfl (fun _ => rfl) rfl

private theorem startFailure_stats {k nodeID : String} {reason : StartFailureReason} {migration : Bool}
    {order : List Attachment} {err : Option Error} (h : StatsTenanted ds.cache)
    (run : ds.startFailure P k reason migration nodeID order = some (ds',err)) :
    StatsTenanted ds'.cache := by
  obtain ⟨ds₁,deleted,counted⟩ := startFailure_cases P run
  have h₁ : StatsTenanted ds₁.cache := by
    rcases deleted with rfl | ⟨_,_,deleted⟩
    · exact h
    · exact deleteInstance_stats P h deleted
  rcases counted with same | same <;> rw [same]
  · exact h₁
  · exact countFailure_stats h₁ _ _

private theorem addInstanceStatList_stats {c c' : Cache} {nodeID : String} {now : Int}
    {stats : List InstanceStat} (h : StatsTenanted c)
    (run : addInstanceStatList nodeID now c stats = some c') : StatsTenanted c' := by
  induction stats generalizing c with
  | nil => cases run; exact h
  | cons stat rest ih =>
    simp only [addInstanceStatList] at run
    split at run
    · cases run
    · rename_i c₁ reported
      exact ih (h.report reported) run

private theorem handleStats_stats {stat : Stat} {now : Int} {err : Option Error} (h : StatsTenanted ds.cache)
    (run : ds.handleStats P stat now = some (ds',err)) : StatsTenanted ds'.cache := by
  obtain ⟨ds₁,noded,reported⟩ := handleStats_cases P run
  have h₁ : StatsTenanted ds₁.cache := by
    rcases noded with rfl | rfl
    · exact h
    · exact h.of_same rfl (fun _ => rfl) rfl
  rcases reported with same | listed
  · rw [same]; exact h₁
  · exact addInstanceStatList_stats h₁ listed

private theorem deleteNode_stats {nodeID : String} {err : Option Error} (h : StatsTenanted ds.cache)
    (run : ds.deleteNode nodeID = some (ds',err)) : StatsTenanted ds'.cache := by
  unfold deleteNode at run
  split at run
  · cases run
  · cases run
    refine h.of_same rfl (fun p => ?_) rfl
    show (if _ then _ else _ : Instance).tenantID = _
    split <;> rfl

private theorem build_next (rows : Rows) (order : List String) :
    (build rows order).next = rows.instances.length := by
  unfold build
  rw [linkInstances_next]
  exact ((initImageList_sameLinks _ _).trans (initWorkloadList_sameLinks _ _)).next

end Datastore

/-- The lifecycle calls but `InstanceStopped` and `InstanceRestarting`, with the preconditions of
`instanceOps`. -/
def statOps (c : Cache) : Op → Bool
  | .instanceStopped .. | .instanceRestarting .. => false
  | op => instanceOps c op

private theorem statOps_instanceOps {c : Cache} {op : Op} (admitted : statOps c op = true) :
    instanceOps c op = true := by
  cases op <;> first | exact admitted | cases admitted

/-- Every admitted call keeps the stats tenanted, given the links of the state it starts from. -/
private theorem Op.run_stats {σ : Type} (P : PersistentStore σ) {ds ds' : Datastore σ} {op : Op}
    {err : Option Error} (h : StatsTenanted ds.cache) (linked : InstanceLinks ds.cache)
    (admitted : statOps ds.cache op = true) (run : op.run P ds = some (ds',err)) :
    StatsTenanted ds'.cache := by
  cases op <;> first | exact absurd admitted Bool.false_ne_true |
    (unfold Op.run at run; simp only [Option.some.injEq,Prod.mk.injEq] at run)
  case addTenant id config =>
    rw [← run.1]
    obtain ⟨_,shape⟩ := Datastore.addTenant_cache P ds id config
    rw [shape]; exact h.of_same rfl (fun _ => rfl) rfl
  case deleteTenant id =>
    obtain rfl : (ds.deleteTenant P id).1 = ds' := by rw [run]
    obtain ⟨_,shape⟩ := Datastore.deleteTenant_cache P ds id
    rw [shape]; exact h.of_same rfl (fun _ => rfl) rfl
  case addInstance i now =>
    obtain rfl : (ds.addInstance P i now).1 = ds' := by rw [run]
    exact Datastore.addInstance_stats P h linked.allocated
  case deleteInstance => exact Datastore.DeleteInstance_stats P h run
  case startFailure => exact Datastore.startFailure_stats P h run
  case handleStats => exact Datastore.handleStats_stats P h run
  case addNode =>
    rw [← run.1]; unfold Datastore.addNode
    split <;> split <;> exact h.of_same rfl (fun _ => rfl) rfl
  case deleteNode => exact Datastore.deleteNode_stats h run

/-- No instance is stored when `Init` runs. -/
def NoStoredInstances (rows : Datastore.Rows) : Prop := rows.instances = []

/-- In every state the lifecycle calls but `InstanceStopped` and `InstanceRestarting` reach from
a store with no instance, every live instance's last stat names its tenant, and the usage of a
stat of a live instance goes to that instance's own tenant. -/
theorem stats_tenanted_reachable {σ : Type} (P : PersistentStore σ) {ds : Datastore σ}
    (reach : Reachable P NoStoredInstances statOps ds) :
    StatsTenanted ds.cache ∧ ∀ (stat : InstanceStat) (nodeID : String) (now : Int) (p : Ptr) (c' : Cache),
      ds.cache.instances.get stat.instanceUUID = some p →
      Datastore.addInstanceStat ds.cache nodeID now stat = some c' →
      ∃ delta, c'.tenantUsage =
        Datastore.updateTenantUsage ds.cache.tenantUsage delta (ds.cache.heap p).tenantID now := by
  have h : InstanceLinks ds.cache ∧ StatsTenanted ds.cache := by
    induction reach with
    | init booted =>
      obtain ⟨_,_,rows,order,-,none,rfl⟩ := booted
      have linked := build_links rows order fun _ mem => by rw [none] at mem; cases mem
      refine ⟨linked,fun k p got => absurd (linked.allocated k p got) ?_⟩
      rw [Datastore.build_next,none]; exact Nat.not_lt_zero p
    | step _ admitted run ih =>
      exact ⟨Op.run_links P ih.1 (statOps_instanceOps admitted) run,Op.run_stats P ih.2 ih.1 admitted run⟩
  exact ⟨h.2,fun _ _ _ _ _ live run => h.2.usage_tenant live run⟩

/-- A node's report that the instance `i` runs and uses some processor. -/
def usageReport : Stat := ⟨"n","","",0,0,0,0,0,0,[⟨"i",running,"",0,0,0,5⟩]⟩

/-- A tenant with an instance, then the instance reported in use. -/
def reportedInstance : List Op :=
  [.addTenant "t" ⟨"t",24⟩,.addInstance {(default : Instance) with id := "i", tenantID := "t"} 0,
    .handleStats usageReport 1]

theorem stats_tenanted_reported : ∃ ds, runOps rowStore statOps emptyDatastore reportedInstance = some ds ∧
    StatsTenanted ds.cache ∧ ∀ (stat : InstanceStat) (nodeID : String) (now : Int) (p : Ptr) (c' : Cache),
      ds.cache.instances.get stat.instanceUUID = some p →
      Datastore.addInstanceStat ds.cache nodeID now stat = some c' →
      ∃ delta, c'.tenantUsage =
        Datastore.updateTenantUsage ds.cache.tenantUsage delta (ds.cache.heap p).tenantID now :=
  ⟨_,rfl,stats_tenanted_reachable rowStore
    (@Reachable.of_runOps _ rowStore NoStoredInstances statOps _ _ reportedInstance
      (.init (booted_rowStore Db.empty [] rfl)) rfl)⟩

/-- The same tenant and instance, with the instance stopped before it is reported. -/
def stoppedThenReported : List Op :=
  [.addTenant "t" ⟨"t",24⟩,.addInstance {(default : Instance) with id := "i", tenantID := "t"} 0,
    .instanceStopped "i" 1,.handleStats usageReport 2]

/-- `InstanceStopped` leaves the live instance a stat with no tenant: the usage reported next
goes to the empty tenant id, and none to the instance's tenant. -/
theorem stopped_instance_usage_untenanted : ∃ ds,
    runOps rowStore (fun _ _ => true) emptyDatastore stoppedThenReported = some ds ∧
    (ds.cache.instances.get "i").map (fun p => (ds.cache.heap p).tenantID) = some "t" ∧
    (ds.cache.instanceLastStat.get "i").map (·.tenantID) = some "" ∧
    ds.cache.tenantUsage.get "t" = none ∧ (ds.cache.tenantUsage.get "").isSome :=
  ⟨_,rfl,by decide,by decide,by decide,by decide⟩

end CiaoDatastore
