import CiaoDatastore.PoolFrame
import CiaoDatastore.SubnetScans

/-! The address accounting of the external pools. Each pool is cached under its own id, its
`Free` count is its `TotalIPs` less the addresses mapped from it, and every mapping names a
cached pool (`Accounted`). Every call keeps this on a store whose pool updates succeed
(`pools_accounted_reachable`): `MapExternalIP` and `UnMapExternalIP` cache the mapping before
they write the pool's new count, so only that write's failure leaves a count off by one, while a
failed `AddPool` is undone by `DeletePool` and the subnet and address removals keep the counts
when their write fails. -/
namespace CiaoDatastore

/-- The addresses mapped from the pool `id`. -/
def mappedFrom (mapped : GoMap String MappedIP) (id : String) : Finset String :=
  mapped.keys.filter fun a => (mapped.get a).map (·.poolID) = some id

private theorem mem_mappedFrom {mapped : GoMap String MappedIP} {id a : String} :
    a ∈ mappedFrom mapped id ↔ ∃ m, mapped.get a = some m ∧ m.poolID = id := by
  rw [mappedFrom,Finset.mem_filter,GoMap.mem_keys_iff]
  constructor
  · rintro ⟨⟨m,got⟩,named⟩; rw [got] at named; exact ⟨m,got,Option.some.inj named⟩
  · rintro ⟨m,got,rfl⟩; exact ⟨⟨m,got⟩,by rw [got]; rfl⟩

private theorem mappedFrom_insert {mapped : GoMap String MappedIP} {a : String} (fresh : a ∉ mapped.keys)
    (m : MappedIP) (id : String) :
    ((mappedFrom (mapped.insert a m) id).card : Int) = (mappedFrom mapped id).card + if m.poolID = id then 1 else 0 := by
  have outside : a ∉ mappedFrom mapped id := fun mem =>
    fresh ((GoMap.mem_keys_iff _ _).mpr (by obtain ⟨m',got,-⟩ := mem_mappedFrom.mp mem; exact ⟨m',got⟩))
  split
  · rename_i named
    have grown : mappedFrom (mapped.insert a m) id = insert a (mappedFrom mapped id) := by
      ext x; by_cases same : x = a <;> simp [mem_mappedFrom,same,named]
    rw [grown,Finset.card_insert_of_not_mem outside]; push_cast; rfl
  · rename_i other
    have kept : mappedFrom (mapped.insert a m) id = mappedFrom mapped id := by
      ext x; by_cases same : x = a
      · subst same
        simp only [outside,iff_false,mem_mappedFrom,GoMap.get_insert,↓reduceIte,Option.some.injEq,not_exists,
          not_and]
        rintro _ rfl; exact other
      · simp [mem_mappedFrom,same]
    rw [kept]; simp

private theorem mappedFrom_delete {mapped : GoMap String MappedIP} {a : String} {m : MappedIP}
    (found : mapped.get a = some m) (id : String) :
    ((mappedFrom (mapped.delete a) id).card : Int) + (if m.poolID = id then 1 else 0) = (mappedFrom mapped id).card := by
  have shrunk : mappedFrom (mapped.delete a) id = (mappedFrom mapped id).erase a := by
    ext x; by_cases same : x = a <;> simp [mem_mappedFrom,same]
  rw [shrunk]
  split
  · rename_i named
    rw [Finset.card_erase_of_mem (mem_mappedFrom.mpr ⟨m,found,named⟩)]
    have := Finset.card_pos.mpr ⟨a,mem_mappedFrom.mpr ⟨m,found,named⟩⟩
    omega
  · rename_i other
    rw [Finset.erase_eq_of_not_mem fun mem => by
      obtain ⟨m',got,named⟩ := mem_mappedFrom.mp mem; rw [found] at got; cases got; exact other named]
    simp

/-- The counts the pool calls keep: each pool is stored under its own id, its free count is its
total less the addresses mapped from it, and every mapping names a stored pool. -/
structure Accounted (pools : GoMap String Pool) (mapped : GoMap String MappedIP) : Prop where
  keyed : ∀ id p, pools.get id = some p → p.id = id
  balance : ∀ id p, pools.get id = some p → p.free + (mappedFrom mapped id).card = p.totalIPs
  owned : ∀ a m, mapped.get a = some m → m.poolID ∈ pools.keys

namespace Accounted
variable {pools : GoMap String Pool} {mapped : GoMap String MappedIP}

private theorem mappedFrom_absent (h : Accounted pools mapped) {id : String} (absent : id ∉ pools.keys) :
    mappedFrom mapped id = ∅ :=
  Finset.eq_empty_of_forall_not_mem fun a mem => by
    obtain ⟨m,got,rfl⟩ := mem_mappedFrom.mp mem; exact absent (h.owned a m got)

private theorem setPool (h : Accounted pools mapped) {id : String} {p p' : Pool} (found : pools.get id = some p)
    (same : p'.id = p.id) (shift : p'.totalIPs - p'.free = p.totalIPs - p.free) :
    Accounted (pools.insert id p') mapped where
  keyed k q got := by
    rw [GoMap.get_insert] at got; split at got
    · cases got; rw [same]; exact h.keyed id p found ▸ (by subst_vars; rfl)
    · exact h.keyed k q got
  balance k q got := by
    rw [GoMap.get_insert] at got; split at got
    · cases got; subst_vars; have := h.balance _ p found; omega
    · exact h.balance k q got
  owned a m got := by rw [GoMap.keys_insert]; exact Finset.mem_insert_of_mem (h.owned a m got)

theorem addPool (h : Accounted pools mapped) {pool : Pool} (fresh : pool.id ∉ pools.keys)
    (full : pool.free = pool.totalIPs) : Accounted (pools.insert pool.id pool) mapped where
  keyed k q got := by
    rw [GoMap.get_insert] at got; split at got
    · rename_i same; cases got; exact same.symm
    · exact h.keyed k q got
  balance k q got := by
    rw [GoMap.get_insert] at got; split at got
    · cases got; subst_vars; rw [h.mappedFrom_absent fresh]; simp [full]
    · exact h.balance k q got
  owned a m got := by rw [GoMap.keys_insert]; exact Finset.mem_insert_of_mem (h.owned a m got)

theorem deletePool (h : Accounted pools mapped) {id : String} {p : Pool} (found : pools.get id = some p)
    (full : p.free = p.totalIPs) : Accounted (pools.delete id) mapped where
  keyed k q got := by
    rw [GoMap.get_delete] at got; split at got
    · cases got
    · exact h.keyed k q got
  balance k q got := by
    rw [GoMap.get_delete] at got; split at got
    · cases got
    · exact h.balance k q got
  owned a m got := by
    rw [GoMap.keys_delete,Finset.mem_erase]
    refine ⟨fun named => ?_,h.owned a m got⟩
    have unmapped := h.balance id p found
    rw [full,add_right_eq_self,Nat.cast_eq_zero,Finset.card_eq_zero] at unmapped
    exact Finset.not_mem_empty a (unmapped ▸ mem_mappedFrom.mpr ⟨m,got,named⟩)

theorem map (h : Accounted pools mapped) {a : String} {m : MappedIP} {pool : Pool} (fresh : a ∉ mapped.keys)
    (found : pools.get pool.id = some pool) (owner : m.poolID = pool.id) :
    Accounted (pools.insert pool.id {pool with free := pool.free - 1}) (mapped.insert a m) where
  keyed k q got := by
    rw [GoMap.get_insert] at got; split at got
    · cases got; subst_vars; exact h.keyed _ pool found
    · exact h.keyed k q got
  balance k q got := by
    rw [mappedFrom_insert fresh,owner]
    rw [GoMap.get_insert] at got; split at got
    · cases got; subst_vars; have := h.balance _ pool found; simp only [↓reduceIte]; omega
    · rename_i other; rw [if_neg (Ne.symm other)]; simpa using h.balance k q got
  owned b n got := by
    rw [GoMap.keys_insert]
    rw [GoMap.get_insert] at got; split at got
    · cases got; rw [owner]; exact Finset.mem_insert_self _ _
    · exact Finset.mem_insert_of_mem (h.owned b n got)

private theorem unmap (h : Accounted pools mapped) {a : String} {m : MappedIP} {pool : Pool}
    (held : mapped.get a = some m) (found : pools.get m.poolID = some pool) :
    Accounted (pools.insert pool.id {pool with free := pool.free + 1}) (mapped.delete a) where
  keyed k q got := by
    rw [GoMap.get_insert] at got; split at got
    · rename_i same; cases got; exact same.symm
    · exact h.keyed k q got
  balance k q got := by
    have count := mappedFrom_delete held k
    rw [GoMap.get_insert] at got; split at got
    · rename_i same
      cases got
      rw [same,h.keyed _ pool found] at count ⊢
      rw [if_pos rfl] at count
      have := h.balance _ pool found
      dsimp only; omega
    · rename_i other
      rw [if_neg fun named => other (named.symm.trans (h.keyed _ pool found).symm)] at count
      have := h.balance k q got; omega
  owned b n got := by
    rw [GoMap.keys_insert,h.keyed _ pool found]
    rw [GoMap.get_delete] at got; split at got
    · cases got
    · exact Finset.mem_insert_of_mem (h.owned b n got)

theorem empty : Accounted .empty .empty := ⟨nofun,nofun,nofun⟩

private theorem of_poolTables {c c' : Cache} (h : Accounted c.pools c.mappedIPs) (same : poolTables c' = poolTables c) :
    Accounted c'.pools c'.mappedIPs := by
  obtain ⟨pools,mapped⟩ := Prod.mk.inj same
  rw [pools,mapped]; exact h

end Accounted

namespace Datastore
variable {σ : Type} (P : PersistentStore σ)

private theorem deletePool_accounted {ds : Datastore σ} (h : Accounted ds.cache.pools ds.cache.mappedIPs) (id : String) :
    Accounted (ds.deletePool P id).1.cache.pools (ds.deletePool P id).1.cache.mappedIPs := by
  unfold deletePool
  split
  · exact h
  · rename_i p found
    split
    · exact h
    · exact h.deletePool found (not_not.mp ‹_›)

private theorem addExternalSubnet_accounted {ds ds' : Datastore σ} {poolID subnet uuid : String} {err : Option Error}
    (h : Accounted ds.cache.pools ds.cache.mappedIPs) (run : ds.addExternalSubnet P poolID subnet uuid = some (ds',err)) :
    Accounted ds'.cache.pools ds'.cache.mappedIPs := by
  unfold addExternalSubnet at run
  dsimp only [call] at run
  split at run
  · cases run; exact h
  · split at run
    · cases run; exact h
    · rename_i p found
      repeat' split at run
      all_goals (cases run; try exact h)
      exact h.setPool found rfl (by dsimp only; omega)

private theorem addExternalIPList_counts {c : Cache} {uuid : Nat → String} {index : Nat} {lastIP : String}
    {p p' : Pool} {IPs : List String} (h : addExternalIPList c uuid index lastIP p IPs = some (.ok p')) :
    p'.id = p.id ∧ p'.totalIPs - p'.free = p.totalIPs - p.free := by
  induction IPs generalizing index lastIP p with
  | nil => cases h; exact ⟨rfl,rfl⟩
  | cons ip rest ih =>
    simp only [addExternalIPList] at h
    repeat' split at h
    all_goals first | cases h | skip
    obtain ⟨same,shift⟩ := ih h
    exact ⟨same,by rw [shift]; dsimp only; omega⟩

private theorem addExternalIPs_accounted {ds ds' : Datastore σ} {poolID : String} {IPs : List String}
    {uuid : Nat → String} {err : Option Error}
    (h : Accounted ds.cache.pools ds.cache.mappedIPs) (run : ds.addExternalIPs P poolID IPs uuid = some (ds',err)) :
    Accounted ds'.cache.pools ds'.cache.mappedIPs := by
  unfold addExternalIPs at run
  dsimp only [call] at run
  split at run
  · cases run; exact h
  · rename_i p found
    split at run
    · cases run
    · cases run; exact h
    · rename_i p' listed
      obtain ⟨same,shift⟩ := addExternalIPList_counts listed
      split at run <;> cases run
      · exact h
      · exact h.setPool found same shift

private theorem deleteSubnet_accounted {ds ds' : Datastore σ} {poolID subnetID : String} {err : Option Error}
    (h : Accounted ds.cache.pools ds.cache.mappedIPs) (run : ds.deleteSubnet P poolID subnetID = some (ds',err)) :
    Accounted ds'.cache.pools ds'.cache.mappedIPs := by
  unfold deleteSubnet at run
  dsimp only [call] at run
  split at run
  · cases run; exact h
  · rename_i p found
    repeat' split at run
    all_goals (cases run; try exact h)
    · exact h.setPool found rfl rfl
    · exact h.setPool found rfl (by dsimp only; omega)

private theorem deleteExternalIP_accounted {ds : Datastore σ} (h : Accounted ds.cache.pools ds.cache.mappedIPs)
    (poolID addrID : String) :
    Accounted (ds.deleteExternalIP P poolID addrID).1.cache.pools (ds.deleteExternalIP P poolID addrID).1.cache.mappedIPs := by
  unfold deleteExternalIP
  dsimp only [call]
  split
  · exact h
  · rename_i p found
    repeat' split
    all_goals first | exact h | exact h.setPool found rfl rfl | exact h.setPool found rfl (by dsimp only; omega)

private theorem addPoolSubnets_poolTables {c c' : Cache} {subnets : List ExternalSubnet} {e : Option Error}
    (h : addPoolSubnets c subnets = some (c',e)) : poolTables c' = poolTables c := by
  induction subnets generalizing c with
  | nil => cases h; rfl
  | cons sub rest ih =>
    simp only [addPoolSubnets] at h
    repeat' split at h
    all_goals first | (cases h; rfl) | cases h | exact (ih h).trans rfl

private theorem addPool_accounted {ds ds' : Datastore σ} {pool : Pool} {err : Option Error}
    (h : Accounted ds.cache.pools ds.cache.mappedIPs) (fresh : pool.id ∉ ds.cache.pools.keys)
    (full : pool.free = pool.totalIPs) (run : ds.addPool P pool = some (ds',err)) :
    Accounted ds'.cache.pools ds'.cache.mappedIPs := by
  unfold addPool at run
  generalize checks : (ite (pool.subnets ≠ []) _ _ : Option (Cache × Option Error)) = checked at run
  have same : ∀ {c e}, checked = some (c,e) → poolTables c = poolTables ds.cache := by
    intro c e got
    subst checks
    repeat' split at got
    all_goals first | exact addPoolSubnets_poolTables got | (cases got; rfl) | cases got
  dsimp only [call] at run
  split at run
  · cases run
  · cases run; exact h.of_poolTables (same rfl)
  · rename_i c
    have kept : poolTables c = poolTables ds.cache := same rfl
    have grown := (h.of_poolTables kept).addPool (by rwa [(Prod.mk.inj kept).1]) full
    split at run <;> cases run
    · exact grown
    · exact deletePool_accounted P grown pool.id

private theorem mapExternalIP_accounted (updates : ∀ db p, (P.call db (.updatePool p)).2 = none)
    {ds ds' : Datastore σ} {poolID instanceID uuid : String} {r : Except Error MappedIP}
    (h : Accounted ds.cache.pools ds.cache.mappedIPs) (run : ds.mapExternalIP P poolID instanceID uuid = some (ds',r)) :
    Accounted ds'.cache.pools ds'.cache.mappedIPs := by
  unfold mapExternalIP at run
  dsimp only [call] at run
  split at run
  · cases run; exact h
  split at run
  · cases run; exact h
  rename_i pool found
  split at run
  · cases run; exact h
  split at run
  all_goals try (cases run <;> exact h)
  rename_i addr chosen
  split at run
  · cases run; exact h
  rw [updates] at run
  cases run
  dsimp only [withCache_cache]
  have named := h.keyed poolID pool found
  rw [← named] at found ⊢
  exact h.map (chosen_address_inPool chosen).2 found rfl

private theorem unMapExternalIP_accounted (updates : ∀ db p, (P.call db (.updatePool p)).2 = none) {ds : Datastore σ}
    (h : Accounted ds.cache.pools ds.cache.mappedIPs) (address : String) :
    Accounted (ds.unMapExternalIP P address).1.cache.pools (ds.unMapExternalIP P address).1.cache.mappedIPs := by
  unfold unMapExternalIP
  dsimp only [call]
  split
  · exact h
  rename_i m held
  split
  · exact h
  rename_i pool found
  split
  · exact h
  rw [updates]
  exact h.unmap held found

end Datastore

private theorem build_poolTables (rows : Datastore.Rows) (order : List String) :
    poolTables (Datastore.build rows order) = (rows.pools,rows.mappedIPs) := by
  have linked : ∀ c es, poolTables (Datastore.linkInstances c es) = poolTables c := fun c es => by
    obtain ⟨_,_,shape,-⟩ := Datastore.linkInstances_shape c es; rw [shape]; rfl
  have workloads : ∀ c ws, poolTables (Datastore.initWorkloadList c ws) = poolTables c := fun c ws => by
    obtain ⟨_,_,_,shape,-⟩ := Datastore.initWorkloadList_shape c ws; rw [shape]; rfl
  have images : ∀ c is, poolTables (Datastore.initImageList c is) = poolTables c := fun c is => by
    obtain ⟨_,_,_,_,shape,-⟩ := Datastore.initImageList_shape c is; rw [shape]; rfl
  unfold Datastore.build
  rw [linked,workloads,images]; rfl

/-- Every call, with the precondition `AddPool`'s callers keep: a new pool comes under a fresh id
with all its addresses free. -/
def poolOps (c : Cache) : Op → Bool
  | .addPool pool => decide (pool.id ∉ c.pools.keys ∧ pool.free = pool.totalIPs)
  | _ => true

open Datastore in
/-- Every admitted call keeps the pools accounted for, on a store whose pool updates succeed. -/
private theorem Op.run_accounted {σ : Type} (P : PersistentStore σ) (updates : ∀ db p, (P.call db (.updatePool p)).2 = none)
    {ds ds' : Datastore σ} {op : Op} {err : Option Error} (h : Accounted ds.cache.pools ds.cache.mappedIPs)
    (admitted : poolOps ds.cache op = true) (run : op.run P ds = some (ds',err)) :
    Accounted ds'.cache.pools ds'.cache.mappedIPs := by
  cases other : op.poolCall
  · exact h.of_poolTables (Op.run_poolTables P other run)
  cases op <;> first | exact absurd other Bool.false_ne_true | unfold Op.run at run
  case addPool pool =>
    obtain ⟨fresh,full⟩ := of_decide_eq_true admitted
    exact addPool_accounted P h fresh full run
  case deletePool id =>
    obtain rfl : (ds.deletePool P id).1 = ds' := by rw [Option.some.inj run]
    exact deletePool_accounted P h id
  case addExternalSubnet => exact addExternalSubnet_accounted P h run
  case addExternalIPs => exact addExternalIPs_accounted P h run
  case deleteSubnet => exact deleteSubnet_accounted P h run
  case deleteExternalIP poolID addrID =>
    obtain rfl : (ds.deleteExternalIP P poolID addrID).1 = ds' := by rw [Option.some.inj run]
    exact deleteExternalIP_accounted P h poolID addrID
  case mapExternalIP =>
    obtain ⟨⟨_,_⟩,mapped,same⟩ := Option.map_eq_some'.mp run
    cases same; exact mapExternalIP_accounted P updates h mapped
  case unMapExternalIP address =>
    obtain rfl : (ds.unMapExternalIP P address).1 = ds' := by rw [Option.some.inj run]
    exact unMapExternalIP_accounted P updates h address

/-- On a store whose pool updates succeed, in every state the calls reach from accounted rows,
each pool's free count is its total less the addresses mapped from it, and every mapping names
a stored pool. -/
theorem pools_accounted_reachable {σ : Type} (P : PersistentStore σ)
    (updates : ∀ db p, (P.call db (.updatePool p)).2 = none) {ds : Datastore σ}
    (reach : Reachable P (fun rows => Accounted rows.pools rows.mappedIPs) poolOps ds) :
    Accounted ds.cache.pools ds.cache.mappedIPs := by
  induction reach with
  | init booted =>
    obtain ⟨_,_,rows,order,-,accounted,rfl⟩ := booted
    obtain ⟨pools,mapped⟩ := Prod.mk.inj (build_poolTables rows order)
    exact pools ▸ mapped ▸ accounted
  | step _ admitted run ih => exact Op.run_accounted P updates ih admitted run

theorem pools_accounted_mappedPool : ∃ ds, runOps rowStore poolOps emptyDatastore mappedPool = some ds ∧
    (ds.cache.pools.get "p").map (·.free) = some 0 ∧ Accounted ds.cache.pools ds.cache.mappedIPs := by
  obtain ⟨ds,run,emptied⟩ : ∃ ds, runOps rowStore poolOps emptyDatastore mappedPool = some ds ∧
      (ds.cache.pools.get "p").map (·.free) = some 0 := ⟨_,rfl,by decide⟩
  exact ⟨ds,run,emptied,pools_accounted_reachable rowStore (fun _ _ => rfl)
    (.of_runOps (.init (booted_rowStore Db.empty [] Accounted.empty)) run)⟩

end CiaoDatastore
