import CiaoDatastore.Frame
import CiaoDatastore.RowStore

/-! The instance indexes: `instances`, each tenant's map and each node's map share the
pointers to the instances in `heap`. From a store whose instances all belong to stored tenants,
every state the instance lifecycle reaches keeps each tenant's map equal to its live instances
and keeps every live instance with a node in that node's map (`instance_links_reachable`). A
node's map is not cleared when another node reports the instance, and an instance reported as
exited is linked like a running one, so node maps are not exact (`stale_node_listing`). -/
namespace CiaoDatastore

/-- What the instance indexes read of an instance: its id, tenant and node. -/
def Instance.links (i : Instance) : String × String × String := (i.id,i.tenantID,i.nodeID)

/-- How the instance indexes agree with `instances` in every state the lifecycle calls reach
from a consistent store: each live instance is stored under its own id at an allocated
pointer; tenants' maps hold exactly their live instances; a live instance with a node is in
that node's map. -/
structure InstanceLinks (c : Cache) : Prop where
  ids : ∀ k p, c.instances.get k = some p → (c.heap p).id = k
  allocated : ∀ k p, c.instances.get k = some p → p < c.next
  owned : ∀ k p, c.instances.get k = some p → (c.heap p).tenantID ∈ c.tenants.keys
  tenant : ∀ tid t k p, c.tenants.get tid = some t →
    (t.instances.get k = some p ↔ c.instances.get k = some p ∧ (c.heap p).tenantID = tid)
  node : ∀ k p, c.instances.get k = some p → (c.heap p).nodeID ≠ "" →
    ∃ n, c.nodes.get (c.heap p).nodeID = some n ∧ n.instances.get k = some p

/-- `c'` has the instance tables of `c`: the same live instances with the same ids, tenants and
nodes, the same tenants with the same instance maps, and every node of `c` with its map. -/
structure SameLinks (c c' : Cache) : Prop where
  instances : c'.instances = c.instances
  next : c'.next = c.next
  heap : ∀ p, (c'.heap p).links = (c.heap p).links
  tenants : TenantsAgree (·.instances) c.tenants c'.tenants
  nodes : ∀ nid n, c.nodes.get nid = some n → ∃ n', c'.nodes.get nid = some n' ∧ n'.instances = n.instances

namespace SameLinks

theorem refl (c : Cache) : SameLinks c c :=
  ⟨rfl,rfl,fun _ => rfl,fun _ => rfl,fun _ n got => ⟨n,got,rfl⟩⟩

theorem trans {c c' c'' : Cache} (h : SameLinks c c') (h' : SameLinks c' c'') : SameLinks c c'' := by
  refine ⟨h'.instances.trans h.instances,h'.next.trans h.next,fun p => (h'.heap p).trans (h.heap p),
    h.tenants.trans h'.tenants,fun nid n got => ?_⟩
  obtain ⟨n',got',same⟩ := h.nodes nid n got
  obtain ⟨n'',got'',same'⟩ := h'.nodes nid n' got'
  exact ⟨n'',got'',same'.trans same⟩

theorem of_fields {c c' : Cache} (instances : c'.instances = c.instances) (next : c'.next = c.next)
    (heap : c'.heap = c.heap) (tenants : c'.tenants = c.tenants) (nodes : c'.nodes = c.nodes) :
    SameLinks c c' :=
  ⟨instances,next,fun _ => by rw [heap],fun _ => by rw [tenants],fun _ n got => ⟨n,nodes ▸ got,rfl⟩⟩

theorem insert_node {c c' : Cache} {nid : String} {n' : Node}
    (keeps : ∀ n, c.nodes.get nid = some n → n'.instances = n.instances)
    (nodes : c'.nodes = c.nodes.insert nid n') (instances : c'.instances = c.instances)
    (next : c'.next = c.next) (heap : c'.heap = c.heap) (tenants : c'.tenants = c.tenants) :
    SameLinks c c' := by
  refine ⟨instances,next,fun _ => by rw [heap],fun _ => by rw [tenants],fun nid' n got => ?_⟩
  rw [nodes,GoMap.get_insert]
  split
  · rename_i here; subst here; exact ⟨n',rfl,keeps n got⟩
  · exact ⟨n,got,rfl⟩

theorem insert_tenant {c c' : Cache} {tid : String} {t t' : Tenant} (present : c.tenants.get tid = some t)
    (tenants : c'.tenants = c.tenants.insert tid t') (instances : c'.instances = c.instances)
    (next : c'.next = c.next) (heap : c'.heap = c.heap) (nodes : c'.nodes = c.nodes)
    (same : t'.instances = t.instances) : SameLinks c c' := by
  refine ⟨instances,next,fun _ => by rw [heap],fun tid' => ?_,fun _ n got => ⟨n,nodes ▸ got,rfl⟩⟩
  rw [tenants,GoMap.get_insert]
  split
  · rename_i here; subst here; simp [present,same]
  · rfl

theorem of_volumesOnly {c c' : Cache} (h : VolumesOnly c c') : SameLinks c c' := by
  obtain ⟨_,_,_,_,rfl,same⟩ := h
  exact ⟨rfl,rfl,fun _ => rfl,same.map fun m : String × GoMap String Ptr × List String × List String => m.2.1,
    fun _ n got => ⟨n,got,rfl⟩⟩

end SameLinks

private theorem Instance.links_eq {i i' : Instance} (h : i'.links = i.links) :
    i'.id = i.id ∧ i'.tenantID = i.tenantID ∧ i'.nodeID = i.nodeID := by
  simpa [Instance.links] using h

theorem InstanceLinks.of_same {c c' : Cache} (h : InstanceLinks c) (same : SameLinks c c') :
    InstanceLinks c' := by
  have heap := fun p => Instance.links_eq (same.heap p)
  have keys := same.tenants.keys
  constructor
  · intro k p got
    rw [same.instances] at got
    rw [(heap p).1]; exact h.ids k p got
  · intro k p got
    rw [same.instances] at got
    rw [same.next]; exact h.allocated k p got
  · intro k p got
    rw [same.instances] at got
    rw [(heap p).2.1,keys]; exact h.owned k p got
  · intro tid t' k p got'
    obtain ⟨t,got,agree⟩ := same.tenants.get got'
    rw [same.instances,(heap p).2.1,← agree]
    exact h.tenant tid t k p got
  · intro k p got placed
    rw [same.instances] at got
    rw [(heap p).2.2] at placed ⊢
    obtain ⟨n,present,linked⟩ := h.node k p got placed
    obtain ⟨n',present',agree⟩ := same.nodes _ n present
    exact ⟨n',present',agree ▸ linked⟩


namespace InstanceLinks
variable {c c' : Cache}

theorem insert_tenant {id : String} {t : Tenant} (h : InstanceLinks c) (fresh : id ∉ c.tenants.keys)
    (empty : t.instances = .empty) : InstanceLinks {c with tenants := c.tenants.insert id t} := by
  refine ⟨h.ids,h.allocated,fun k p got => Finset.mem_insert_of_mem (h.owned k p got),?_,h.node⟩
  intro tid t' k p got'
  simp only [GoMap.get_insert] at got'
  split at got'
  · subst tid; cases got'
    rw [empty,GoMap.get_empty]
    constructor
    · intro impossible; cases impossible
    · rintro ⟨got,owns⟩; exact absurd (owns ▸ h.owned k p got) fresh
  · exact h.tenant tid t' k p got'

theorem delete_tenant {id : String} {t : Tenant} (h : InstanceLinks c) (present : c.tenants.get id = some t)
    (empty : t.instances.len = 0) : InstanceLinks {c with tenants := c.tenants.delete id} := by
  have unowned : ∀ k p, c.instances.get k = some p → (c.heap p).tenantID ≠ id := by
    intro k p got same
    have := (h.tenant id t k p present).mpr ⟨got,same⟩
    rw [(GoMap.len_eq_zero _).mp empty k] at this
    cases this
  refine ⟨h.ids,h.allocated,fun k p got => ?_,fun tid t' k p got' => ?_,h.node⟩
  · simp only [GoMap.keys_delete,Finset.mem_erase]
    exact ⟨unowned k p got,h.owned k p got⟩
  · simp only [GoMap.get_delete] at got'
    split at got'
    · cases got'
    · exact h.tenant tid t' k p got'

theorem add {i : Instance} {t : Tenant} (h : InstanceLinks c) (fresh : c.instances.get i.id = none)
    (unplaced : i.nodeID = "") (owner : c.tenants.get i.tenantID = some t)
    (instances : c'.instances = c.instances.insert i.id c.next)
    (heap : c'.heap = Function.update c.heap c.next i) (next : c'.next = c.next + 1)
    (tenants : c'.tenants = c.tenants.insert i.tenantID {t with instances := t.instances.insert i.id c.next})
    (nodes : c'.nodes = c.nodes) : InstanceLinks c' := by
  have old : ∀ k p, c.instances.get k = some p → c'.heap p = c.heap p := fun k p got => by
    rw [heap]; exact Function.update_noteq (h.allocated k p got).ne _ _
  have other : ∀ k p, c.instances.get k = some p → k ≠ i.id := by
    rintro k p got rfl; rw [fresh] at got; cases got
  have live : ∀ k p, c'.instances.get k = some p ↔
      (k = i.id ∧ p = c.next) ∨ (c.instances.get k = some p) := by
    intro k p
    rw [instances,GoMap.get_insert]
    by_cases same : k = i.id
    · subst same; simp [fresh,eq_comm]
    · simp [same]
  have new : c'.heap c.next = i := by rw [heap]; exact Function.update_same _ _ _
  constructor
  · intro k p got
    rcases (live k p).mp got with ⟨rfl,rfl⟩ | got
    · rw [new]
    · rw [old k p got]; exact h.ids k p got
  · intro k p got
    rw [next]
    rcases (live k p).mp got with ⟨-,rfl⟩ | got
    · exact Nat.lt_succ_self _
    · exact Nat.lt_succ_of_lt (h.allocated k p got)
  · intro k p got
    rw [tenants,GoMap.keys_insert]
    rcases (live k p).mp got with ⟨-,rfl⟩ | got
    · rw [new]; exact Finset.mem_insert_self _ _
    · rw [old k p got]; exact Finset.mem_insert_of_mem (h.owned k p got)
  · intro tid t' k p got'
    rw [live]
    rw [tenants,GoMap.get_insert] at got'
    by_cases here : tid = i.tenantID
    · simp only [if_pos here,Option.some.injEq] at got'
      subst t' tid
      simp only [GoMap.get_insert]
      by_cases same : k = i.id
      · subst k
        simp only [↓reduceIte,Option.some.injEq,true_and,fresh]
        constructor
        · rintro rfl; exact ⟨.inl rfl,by rw [new]⟩
        · rintro ⟨rfl | impossible,-⟩
          · rfl
          · cases impossible
      · simp only [same,false_and,false_or,↓reduceIte,h.tenant _ t k p owner]
        exact ⟨fun ⟨got,owns⟩ => ⟨got,by rw [old k p got,owns]⟩,
          fun ⟨got,owns⟩ => ⟨got,by rw [← old k p got,owns]⟩⟩
    · simp only [if_neg here] at got'
      rw [h.tenant tid t' k p got']
      constructor
      · rintro ⟨got,owns⟩; exact ⟨.inr got,by rw [old k p got,owns]⟩
      · rintro ⟨⟨rfl,rfl⟩ | got,owns⟩
        · rw [new] at owns; exact absurd owns.symm here
        · exact ⟨got,by rw [← old k p got,owns]⟩
  · intro k p got placed
    rcases (live k p).mp got with ⟨-,rfl⟩ | got
    · rw [new] at placed; exact absurd unplaced placed
    · rw [old k p got] at placed ⊢
      rw [nodes]
      exact h.node k p got placed

theorem drop {k : String} {p : Ptr} {t : Tenant} (h : InstanceLinks c) (got : c.instances.get k = some p)
    (owner : c.tenants.get (c.heap p).tenantID = some t)
    (instances : c'.instances = c.instances.delete k) (heap : c'.heap = c.heap) (next : c'.next = c.next)
    (tenants : c'.tenants = c.tenants.insert (c.heap p).tenantID {t with instances := t.instances.delete k})
    (nodes : c'.nodes = c.nodes) : InstanceLinks c' := by
  have live : ∀ k' q, c'.instances.get k' = some q ↔ k' ≠ k ∧ c.instances.get k' = some q := by
    intro k' q; rw [instances,GoMap.get_delete]; split <;> simp_all
  constructor
  · intro k' q got'; rw [heap]; exact h.ids k' q ((live k' q).mp got').2
  · intro k' q got'; rw [next]; exact h.allocated k' q ((live k' q).mp got').2
  · intro k' q got'
    rw [heap,tenants,GoMap.keys_insert]
    exact Finset.mem_insert_of_mem (h.owned k' q ((live k' q).mp got').2)
  · intro tid t' k' q got'
    rw [live,heap]
    rw [tenants,GoMap.get_insert] at got'
    by_cases here : tid = (c.heap p).tenantID
    · simp only [here,↓reduceIte,Option.some.injEq] at got'
      subst t' tid
      rw [GoMap.get_delete]
      by_cases same : k' = k
      · simp [same]
      · simp only [same,↓reduceIte,ne_eq,not_false_eq_true,true_and]
        exact h.tenant _ t k' q owner
    · simp only [here,↓reduceIte] at got'
      rw [h.tenant tid t' k' q got']
      constructor
      · rintro ⟨got',owns⟩
        refine ⟨⟨?_,got'⟩,owns⟩
        rintro rfl
        rw [got] at got'; cases got'
        exact here owns.symm
      · rintro ⟨⟨-,got'⟩,owns⟩; exact ⟨got',owns⟩
  · intro k' q got' placed
    rw [heap] at placed ⊢
    rw [nodes]
    exact h.node k' q ((live k' q).mp got').2 placed

private theorem unlink_node {k nid : String} {n : Node} (h : InstanceLinks c)
    (free : ∀ q, c.instances.get k = some q → (c.heap q).nodeID = "") (present : c.nodes.get nid = some n) :
    InstanceLinks {c with nodes := c.nodes.insert nid {n with instances := n.instances.delete k}} := by
  refine ⟨h.ids,h.allocated,h.owned,h.tenant,fun k' q got placed => ?_⟩
  have other : k' ≠ k := by rintro rfl; exact placed (free q got)
  obtain ⟨m,linked,holds⟩ := h.node k' q got placed
  simp only [GoMap.get_insert]
  split
  · rename_i here
    rw [here,present] at linked
    cases linked
    exact ⟨_,rfl,by simpa [other] using holds⟩
  · exact ⟨m,linked,holds⟩

theorem unlink {k : String} {p : Ptr} (h : InstanceLinks c) (got : c.instances.get k = some p)
    (unlinked : Datastore.unlinkInstance c k (c.heap p) = some c') : InstanceLinks c' := by
  obtain ⟨t,owner⟩ := (c.tenants.mem_keys_iff _).mp (h.owned k p got)
  unfold Datastore.unlinkInstance at unlinked
  simp only [owner] at unlinked
  have dropped : InstanceLinks {c with
      instanceLastStat := c.instanceLastStat.delete k
      instances := c.instances.delete k
      tenants := c.tenants.insert (c.heap p).tenantID {t with instances := t.instances.delete k}} :=
    h.drop got owner rfl rfl rfl rfl rfl
  split at unlinked
  · cases unlinked; exact dropped
  · split at unlinked
    · cases unlinked
    · rename_i n present
      cases unlinked
      exact dropped.unlink_node (fun q got' => by simp at got') present

private theorem owner_update {p q : Ptr} {i : Instance}
    (same : i.id = (c.heap p).id ∧ i.tenantID = (c.heap p).tenantID) :
    (if q = p then i else c.heap q).id = (c.heap q).id ∧
      (if q = p then i else c.heap q).tenantID = (c.heap q).tenantID := by
  split
  · subst q; exact same
  · exact ⟨rfl,rfl⟩

theorem stop {p : Ptr} {i : Instance} (h : InstanceLinks c)
    (same : i.id = (c.heap p).id ∧ i.tenantID = (c.heap p).tenantID) (unplaced : i.nodeID = "") :
    InstanceLinks (Datastore.setInstance c p i) := by
  have heap : ∀ q, (Datastore.setInstance c p i).heap q = if q = p then i else c.heap q := fun q => by
    simp [Datastore.setInstance,Function.update_apply]
  refine ⟨fun k' q got' => ?_,h.allocated,fun k' q got' => ?_,fun tid t k' q present => ?_,
    fun k' q got' placed => ?_⟩
  · rw [heap,(owner_update same).1]; exact h.ids k' q got'
  · rw [heap,(owner_update same).2]; exact h.owned k' q got'
  · rw [heap,(owner_update same).2]; exact h.tenant tid t k' q present
  · rw [heap] at placed ⊢
    split at placed
    · exact absurd unplaced placed
    · rename_i other
      simp only [other,↓reduceIte]
      exact h.node k' q got' placed

theorem report {k nid : String} {p : Ptr} {n : Node} {i : Instance} (h : InstanceLinks c)
    (got : c.instances.get k = some p) (present : c.nodes.get nid = some n)
    (same : i.id = (c.heap p).id ∧ i.tenantID = (c.heap p).tenantID) (placed : i.nodeID = nid)
    (instances : c'.instances = c.instances) (next : c'.next = c.next) (tenants : c'.tenants = c.tenants)
    (heap : c'.heap = Function.update c.heap p i)
    (nodes : c'.nodes = c.nodes.insert nid {n with instances := n.instances.insert i.id p}) :
    InstanceLinks c' := by
  have heap : ∀ q, c'.heap q = if q = p then i else c.heap q := fun q => by
    simp [heap,Function.update_apply]
  have key : i.id = k := same.1.trans (h.ids k p got)
  refine ⟨fun k' q got' => ?_,fun k' q got' => ?_,fun k' q got' => ?_,fun tid t k' q present' => ?_,
    fun k' q got' placed' => ?_⟩
  all_goals try rw [instances] at got'
  · rw [heap,(owner_update same).1]; exact h.ids k' q got'
  · rw [next]; exact h.allocated k' q got'
  · rw [heap,tenants,(owner_update same).2]; exact h.owned k' q got'
  · rw [tenants] at present'
    rw [heap,(owner_update same).2,instances]; exact h.tenant tid t k' q present'
  · rw [heap] at placed' ⊢
    rw [nodes]
    split
    · subst q
      have : k' = k := (h.ids k' p got').symm.trans (h.ids k p got)
      subst k'
      simp [placed,key]
    · rename_i other
      simp only [other,↓reduceIte] at placed' ⊢
      have apart : k' ≠ i.id := by
        rintro rfl; rw [key,got] at got'; cases got'; exact other rfl
      obtain ⟨m,linked,holds⟩ := h.node k' q got' placed'
      simp only [GoMap.get_insert]
      split
      · rename_i here
        rw [here,present] at linked
        cases linked
        exact ⟨_,rfl,by simpa [apart] using holds⟩
      · exact ⟨m,linked,holds⟩

private theorem remove_node {nid : String} {n : Node} (h : InstanceLinks c) (present : c.nodes.get nid = some n)
    (heap : ∀ q, c'.heap q = if decide (∃ k ∈ n.instances.keys, n.instances.get k = some q)
      then {Datastore.transitionInstanceState (c.heap q) missing with nodeID := ""} else c.heap q)
    (instances : c'.instances = c.instances) (next : c'.next = c.next) (tenants : c'.tenants = c.tenants)
    (nodes : c'.nodes = c.nodes.delete nid) : InstanceLinks c' := by
  have kept : ∀ q, (c'.heap q).id = (c.heap q).id ∧ (c'.heap q).tenantID = (c.heap q).tenantID := by
    intro q; rw [heap]; split <;> simp [Datastore.transitionInstanceState]
  refine ⟨fun k q got => ?_,fun k q got => ?_,fun k q got => ?_,fun tid t k q got => ?_,
    fun k q got placed => ?_⟩
  · rw [(kept q).1]; exact h.ids k q (instances ▸ got)
  · rw [next]; exact h.allocated k q (instances ▸ got)
  · rw [(kept q).2,tenants]; exact h.owned k q (instances ▸ got)
  · rw [instances,(kept q).2]; exact h.tenant tid t k q (tenants ▸ got)
  · rw [instances] at got
    rw [heap] at placed ⊢
    split at placed
    · exact absurd rfl placed
    · rename_i off
      rw [if_neg off]
      obtain ⟨m,linked,holds⟩ := h.node k q got placed
      have apart : (c.heap q).nodeID ≠ nid := by
        rintro here
        rw [here,present] at linked
        cases linked
        exact off (decide_eq_true ⟨k,(n.instances.mem_keys_iff k).mpr ⟨q,holds⟩,holds⟩)
      rw [nodes,GoMap.get_delete,if_neg apart]
      exact ⟨m,linked,holds⟩

end InstanceLinks

namespace Datastore
variable {σ : Type} (P : PersistentStore σ) {ds ds' : Datastore σ}

private theorem addTenant_links {id : String} {config : TenantConfig} (h : InstanceLinks ds.cache) :
    InstanceLinks (ds.addTenant P id config).1.cache := by
  unfold addTenant
  split
  · exact h
  · rename_i fresh
    dsimp only [call]
    split
    · exact h
    · split
      · exact h
      · exact h
      · exact h.insert_tenant fresh rfl

private theorem deleteTenant_links {id : String} (h : InstanceLinks ds.cache)
    (empty : ∀ t, ds.cache.tenants.get id = some t → t.instances.len = 0) :
    InstanceLinks (ds.deleteTenant P id).1.cache := by
  unfold deleteTenant
  split
  · exact h
  · rename_i present
    obtain ⟨t,got⟩ := (ds.cache.tenants.mem_keys_iff id).mp (not_not.mp present)
    exact h.delete_tenant got (empty t got)

private theorem addInstance_links {i : Instance} {now : Int} (h : InstanceLinks ds.cache)
    (fresh : ds.cache.instances.get i.id = none) (unplaced : i.nodeID = "")
    (owned : i.tenantID ∈ ds.cache.tenants.keys) : InstanceLinks (ds.addInstance P i now).1.cache := by
  obtain ⟨t,owner⟩ := (ds.cache.tenants.mem_keys_iff _).mp owned
  unfold addInstance
  dsimp only [call]
  split
  · exact h
  · simp only [owner]
    exact h.add fresh unplaced owner rfl rfl rfl rfl rfl

private theorem deleteInstance_links {k : String} {order : List Attachment} {tenantID : String}
    {err : Option Error} (h : InstanceLinks ds.cache)
    (run : ds.deleteInstance P k order = some (ds',tenantID,err)) : InstanceLinks ds'.cache := by
  rcases deleteInstance_cases P run with same | ⟨p,c,ds₁,got,unlinked,⟨tenants,shape,same⟩,cascaded⟩
  · rw [same]; exact h
  · have released : VolumesOnly c ds₁.cache := ⟨_,_,_,_,shape,same⟩
    exact (h.unlink got unlinked).of_same (SameLinks.of_volumesOnly
      (released.trans (updateStorageAttachments_volumesOnly P cascaded)))

private theorem DeleteInstance_links {k : String} {order : List Attachment} {err : Option Error}
    (h : InstanceLinks ds.cache) (run : ds.DeleteInstance P k order = some (ds',err)) :
    InstanceLinks ds'.cache := by
  rcases DeleteInstance_cases P run with same | ⟨ds₁,_,_,deleted,same⟩ <;> rw [same]
  · exact h
  · exact deleteInstance_links P h deleted

theorem countFailure_sameLinks (c : Cache) (nodeID : String) (count : Node → Node)
    (keeps : ∀ n, (count n).instances = n.instances) : SameLinks c (countFailure c nodeID count) := by
  unfold countFailure
  split
  · exact .refl c
  · rename_i n present
    refine ⟨rfl,rfl,fun _ => rfl,fun _ => rfl,fun nid m got => ?_⟩
    simp only [GoMap.get_insert]
    split
    · rename_i here; subst here; rw [present] at got; cases got; exact ⟨_,rfl,keeps _⟩
    · exact ⟨m,got,rfl⟩

private theorem startFailure_links {k nodeID : String} {reason : StartFailureReason} {migration : Bool}
    {order : List Attachment} {err : Option Error} (h : InstanceLinks ds.cache)
    (run : ds.startFailure P k reason migration nodeID order = some (ds',err)) :
    InstanceLinks ds'.cache := by
  obtain ⟨ds₁,deleted,counted⟩ := startFailure_cases P run
  have h₁ : InstanceLinks ds₁.cache := by
    rcases deleted with rfl | ⟨_,_,deleted⟩
    · exact h
    · exact deleteInstance_links P h deleted
  rcases counted with same | same <;> rw [same]
  · exact h₁
  · exact h₁.of_same (countFailure_sameLinks _ _ _ fun _ => rfl)

private theorem updateInstanceStatus_sameLinks (status k : String) (now : Int) :
    SameLinks ds.cache (ds.updateInstanceStatus P status k now).1.cache := by
  obtain ⟨_,shape⟩ := updateInstanceStatus_cache P ds status k now
  rw [shape]; exact .of_fields rfl rfl rfl rfl rfl

private theorem instanceRestarting_links {k : String} {now : Int} {err : Option Error}
    (h : InstanceLinks ds.cache) (run : ds.instanceRestarting P k now = some (ds',err)) :
    InstanceLinks ds'.cache := by
  unfold instanceRestarting at run
  have marked : InstanceLinks (ds.updateInstanceStatus P pending k now).1.cache :=
    h.of_same (updateInstanceStatus_sameLinks P pending k now)
  split at run
  · rename_i ds₁ e status
    cases run
    rw [status] at marked; exact marked
  · rename_i ds₁ status
    rw [status] at marked
    split at run
    · cases run
    · cases run
      rename_i p _
      refine marked.of_same ⟨rfl,rfl,fun q => ?_,fun _ => rfl,fun _ n got => ⟨n,got,rfl⟩⟩
      simp only [setInstance,withCache_cache,Function.update_apply]
      split
      · subst q; rfl
      · rfl

private theorem instanceStopped_links {k : String} {now : Int} {err : Option Error}
    (h : InstanceLinks ds.cache) (run : ds.instanceStopped P k now = some (ds',err)) :
    InstanceLinks ds'.cache := by
  unfold instanceStopped at run
  have marked : InstanceLinks (ds.updateInstanceStatus P exited k now).1.cache :=
    h.of_same (updateInstanceStatus_sameLinks P exited k now)
  split at run
  · rename_i status
    cases run
    rw [status] at marked; exact marked
  · rename_i ds₁ status
    rw [status] at marked
    split at run
    · cases run
    · rename_i p got
      have stopped := marked.stop (p := p) (i := {ds₁.cache.heap p with nodeID := "", state := exited})
        ⟨rfl,rfl⟩ rfl
      dsimp only at run
      split at run
      · cases run; exact stopped
      · split at run
        · cases run
        · rename_i placed n present
          cases run
          exact stopped.unlink_node (fun q got' => by
            change ds₁.cache.instances.get k = some q at got'
            rw [got] at got'; cases got'
            simp [setInstance]) present

private theorem deleteNode_links {nodeID : String} {err : Option Error} (h : InstanceLinks ds.cache)
    (run : ds.deleteNode nodeID = some (ds',err)) : InstanceLinks ds'.cache := by
  unfold deleteNode at run
  split at run
  · cases run
  · rename_i n present
    cases run
    exact h.remove_node present (fun _ => rfl) rfl rfl rfl rfl

private theorem addNode_sameLinks (nodeID : String) (nodeType : Resource) :
    SameLinks ds.cache (ds.addNode nodeID nodeType).cache := by
  unfold addNode
  split <;> split <;> exact .insert_node (fun m got => by simp_all) rfl rfl rfl rfl rfl

private theorem addNodeStat_sameLinks (stat : Stat) : SameLinks ds.cache (ds.addNodeStat P stat).1.cache :=
  .insert_node (fun n got => by simp [got]) rfl rfl rfl rfl rfl

private theorem addInstanceStat_links {c c' : Cache} {nodeID : String} {now : Int} {stat : InstanceStat}
    (h : InstanceLinks c) (run : addInstanceStat c nodeID now stat = some c') : InstanceLinks c' := by
  unfold addInstanceStat at run
  dsimp only at run
  split at run
  · cases run; exact h.of_same (.of_fields rfl rfl rfl rfl rfl)
  · rename_i p got
    split at run
    · cases run
    · rename_i n present
      cases run
      exact h.report
        (i := {c.heap p with state := stat.state, nodeID := nodeID, sshIP := stat.sshIP, sshPort := stat.sshPort})
        got present ⟨rfl,rfl⟩ rfl rfl rfl rfl rfl rfl

private theorem addInstanceStatList_links {c c' : Cache} {nodeID : String} {now : Int} {stats : List InstanceStat}
    (h : InstanceLinks c) (run : addInstanceStatList nodeID now c stats = some c') : InstanceLinks c' := by
  induction stats generalizing c with
  | nil => cases run; exact h
  | cons stat rest ih =>
    simp only [addInstanceStatList] at run
    split at run
    · cases run
    · rename_i c₁ reported
      exact ih (addInstanceStat_links h reported) run

private theorem addInstanceStats_links {stats : List InstanceStat} {nodeID : String} {now : Int}
    {err : Option Error} (h : InstanceLinks ds.cache)
    (run : ds.addInstanceStats P stats nodeID now = some (ds',err)) : InstanceLinks ds'.cache := by
  unfold addInstanceStats at run
  split at run
  · cases run
  · rename_i c reported
    cases run
    exact addInstanceStatList_links h reported

private theorem handleStats_links {stat : Stat} {now : Int} {err : Option Error} (h : InstanceLinks ds.cache)
    (run : ds.handleStats P stat now = some (ds',err)) : InstanceLinks ds'.cache := by
  unfold handleStats at run
  have finish : ∀ ds₁ : Datastore σ, InstanceLinks ds₁.cache →
      (match ds₁.addInstanceStats P stat.instances stat.nodeUUID now with
        | none => none
        | some (ds,err) => some (ds,Error.wrapNil "error updating stats" err)) = some (ds',err) →
      InstanceLinks ds'.cache := by
    intro ds₁ linked run
    split at run
    · cases run
    · rename_i reported
      cases run
      exact addInstanceStats_links P linked reported
  split at run
  · have linked := h.of_same (addNodeStat_sameLinks P stat)
    rcases added : ds.addNodeStat P stat with ⟨ds₁,_ | e⟩ <;> rw [added] at run linked <;>
      simp only at run
    · exact finish ds₁ linked run
    · cases run; exact linked
  · exact finish ds h run

end Datastore

namespace Datastore

theorem initImageList_sameLinks (c : Cache) (images : List Image) :
    SameLinks c (initImageList c images) := by
  obtain ⟨_,_,_,_,shape,agree⟩ := initImageList_shape c images
  rw [shape]
  exact ⟨rfl,rfl,fun _ => rfl,agree.map Tenant.instances,fun _ n got => ⟨n,got,rfl⟩⟩

theorem initWorkloadList_sameLinks (c : Cache) (workloads : List Workload) :
    SameLinks c (initWorkloadList c workloads) := by
  obtain ⟨_,_,_,shape,agree⟩ := initWorkloadList_shape c workloads
  rw [shape]
  exact ⟨rfl,rfl,fun _ => rfl,agree.map Tenant.instances,fun _ n got => ⟨n,got,rfl⟩⟩

/-- `Init`'s node index loop after it has visited the pointers `done`: `instances` is `M`,
and the tenants' and nodes' maps hold the visited live instances. -/
structure LinkLoop (M : GoMap String Ptr) (objects : Ptr → Instance) (done : Ptr → Prop) (c : Cache) :
    Prop where
  instances : c.instances = M
  heap : ∀ p, (c.heap p).links = (objects p).links
  owned : ∀ k p, M.get k = some p → (objects p).tenantID ∈ c.tenants.keys
  tenant : ∀ tid t k p, c.tenants.get tid = some t →
    (t.instances.get k = some p ↔ M.get k = some p ∧ (objects p).tenantID = tid ∧ done p)
  node : ∀ k p, M.get k = some p → done p → (objects p).nodeID ≠ "" →
    ∃ n, c.nodes.get (objects p).nodeID = some n ∧ n.instances.get k = some p

theorem LinkLoop.link {M : GoMap String Ptr} {objects : Ptr → Instance} {done : Ptr → Prop} {c : Cache}
    {j : Ptr} {i : Instance} (h : LinkLoop M objects done c)
    (ids : ∀ k p, M.get k = some p → (objects p).id = k) (entry : objects j = i) :
    LinkLoop M objects (fun p => done p ∨ p = j)
      (if c.instances.get i.id = some j then linkInstance c i.id j else c) := by
  have key : ∀ k, M.get k = some j → k = i.id := fun k got => entry ▸ (ids k j got).symm
  have apart : ∀ k p, M.get k = some p → k ≠ i.id → p ≠ j := by
    rintro k p got other rfl; exact other (key k got)
  split
  · rename_i live
    rw [h.instances] at live
    have node : ∀ k p, M.get k = some p → done p ∨ p = j → (objects p).nodeID ≠ "" →
        ∃ n, (c.nodes.insert i.nodeID {(c.nodes.get i.nodeID).getD ⟨i.nodeID,"",0,0,0,0,0,.empty⟩ with
          instances := ((c.nodes.get i.nodeID).getD ⟨i.nodeID,"",0,0,0,0,0,.empty⟩).instances.insert i.id j}).get
            (objects p).nodeID = some n ∧ n.instances.get k = some p := by
      intro k p got visited placed
      by_cases here : k = i.id
      · subst k
        rw [got] at live; cases live
        simp [entry]
      · obtain ⟨m,linked,holds⟩ := h.node k p got (visited.resolve_right (apart k p got here)) placed
        rw [GoMap.get_insert]
        split
        · rename_i at_node
          rw [at_node] at linked
          simp [linked,here,holds]
        · exact ⟨m,linked,holds⟩
    have other : ∀ tid t k p, c.tenants.get tid = some t → tid ≠ i.tenantID →
        (t.instances.get k = some p ↔ M.get k = some p ∧ (objects p).tenantID = tid ∧ (done p ∨ p = j)) := by
      intro tid t k p got elsewhere
      rw [h.tenant tid t k p got]
      exact and_congr_right fun _ => and_congr_right fun owns =>
        (or_iff_left fun at_j => elsewhere (by rw [← owns,at_j,entry])).symm
    obtain ⟨same_id,same_tenant,same_node⟩ := Instance.links_eq (h.heap j)
    rw [entry] at same_id same_tenant same_node
    unfold linkInstance
    simp only [same_id,same_tenant,same_node]
    split
    · rename_i absent
      refine ⟨h.instances,h.heap,h.owned,fun tid t k p got => other tid t k p got ?_,node⟩
      rintro rfl; rw [absent] at got; cases got
    · rename_i t present
      refine ⟨h.instances,h.heap,fun k p got => Finset.mem_insert_of_mem (h.owned k p got),
        fun tid t' k p got => ?_,node⟩
      simp only [GoMap.get_insert] at got
      split at got
      · rename_i here
        subst here
        cases got
        simp only [GoMap.get_insert]
        by_cases same : k = i.id
        · subst same
          rw [live]
          simp only [↓reduceIte,Option.some.injEq,true_and]
          constructor
          · rintro rfl; exact ⟨rfl,entry ▸ rfl,.inr rfl⟩
          · rintro ⟨rfl,-⟩; rfl
        · simp only [same,↓reduceIte,h.tenant _ t k p present]
          exact and_congr_right fun got => and_congr_right fun _ => (or_iff_left (apart k p got same)).symm
      · rename_i elsewhere
        exact other tid t' k p got elsewhere
  · rename_i dead
    rw [h.instances] at dead
    have fresh : ∀ k p, M.get k = some p → p ≠ j := by
      rintro k p got rfl; exact dead (key k got ▸ got)
    refine ⟨h.instances,h.heap,h.owned,fun tid t k p got => ?_,fun k p got visited =>
      h.node k p got (visited.resolve_right (fresh k p got))⟩
    rw [h.tenant tid t k p got]
    exact and_congr_right fun got => and_congr_right fun _ => (or_iff_left (fresh k p got)).symm

theorem LinkLoop.congr {M : GoMap String Ptr} {objects : Ptr → Instance} {done done' : Ptr → Prop}
    {c : Cache} (h : LinkLoop M objects done c) (same : ∀ p, done p ↔ done' p) :
    LinkLoop M objects done' c :=
  ⟨h.instances,h.heap,h.owned,fun tid t k p got => by rw [h.tenant tid t k p got,same],
    fun k p got visited => h.node k p got ((same p).mpr visited)⟩

theorem LinkLoop.run {M : GoMap String Ptr} {objects : Ptr → Instance}
    (ids : ∀ k p, M.get k = some p → (objects p).id = k) :
    ∀ (es : List (Nat × Instance)) (done : Ptr → Prop) (c : Cache), LinkLoop M objects done c →
      (∀ e ∈ es, objects e.1 = e.2) →
      LinkLoop M objects (fun p => done p ∨ ∃ i, (p,i) ∈ es) (linkInstances c es)
  | [],done,c,h,_ => h.congr fun p => by simp
  | (j,i) :: rest,done,c,h,entries => by
    have step := h.link ids (entries (j,i) (List.mem_cons_self _ _))
    refine (LinkLoop.run ids rest _ _ step fun e mem => entries e (List.mem_cons_of_mem _ mem)).congr
      fun p => ?_
    simp only [List.mem_cons,Prod.mk.injEq]
    constructor
    · rintro ((visited | rfl) | ⟨i',mem⟩)
      · exact .inl visited
      · exact .inr ⟨i,.inl ⟨rfl,rfl⟩⟩
      · exact .inr ⟨i',.inr mem⟩
    · rintro (visited | ⟨i',⟨rfl,rfl⟩ | mem⟩)
      · exact .inl (.inl visited)
      · exact .inl (.inr rfl)
      · exact .inr ⟨i',mem⟩

private theorem instanceTable_get (L : List Instance) {k : String} {p : Ptr}
    (got : (L.enum.foldl (fun m entry => m.insert entry.2.id entry.1) GoMap.empty).get k = some p) :
    p < L.length ∧ (L.getD p default).id = k := by
  have fold : ∀ (es : List (Nat × Instance)) (m : GoMap String Ptr),
      (∀ k p, m.get k = some p → p < L.length ∧ (L.getD p default).id = k) →
      (∀ e ∈ es, e.1 < L.length ∧ (L.getD e.1 default).id = e.2.id) →
      ∀ k p, (es.foldl (fun m entry => m.insert entry.2.id entry.1) m).get k = some p →
        p < L.length ∧ (L.getD p default).id = k := by
    intro es
    induction es with
    | nil => exact fun m hm _ => hm
    | cons e rest ih =>
      intro m hm entries
      refine ih _ (fun k p got => ?_) fun e' mem => entries e' (List.mem_cons_of_mem _ mem)
      simp only [GoMap.get_insert] at got
      split at got
      · rename_i here; cases got; rw [here]; exact entries e (List.mem_cons_self _ _)
      · exact hm k p got
  refine fold _ _ (fun _ _ got => by simp at got) (fun e mem => ?_) k p got
  have bound := List.fst_lt_of_mem_enum mem
  exact ⟨bound,by rw [List.getD_eq_getElem?_getD,List.getElem?_eq_getElem bound,Option.getD_some,
    ← List.snd_eq_of_mem_enum mem]⟩

theorem LinkLoop.of_same {M : GoMap String Ptr} {objects : Ptr → Instance} {done : Ptr → Prop}
    {c c' : Cache} (h : LinkLoop M objects done c) (same : SameLinks c c') : LinkLoop M objects done c' := by
  have keys := same.tenants.keys
  refine ⟨same.instances.trans h.instances,fun p => (same.heap p).trans (h.heap p),
    fun k p got => (keys _).mpr (h.owned k p got),fun tid t' k p got' => ?_,fun k p got visited placed => ?_⟩
  · obtain ⟨t,got,agree⟩ := same.tenants.get got'
    rw [← agree]; exact h.tenant tid t k p got
  · obtain ⟨n,present,linked⟩ := h.node k p got visited placed
    obtain ⟨n',present',agree⟩ := same.nodes _ n present
    exact ⟨n',present',agree ▸ linked⟩

theorem linkInstances_next (c : Cache) (es : List (Nat × Instance)) : (linkInstances c es).next = c.next := by
  obtain ⟨_,_,shape,-⟩ := linkInstances_shape c es
  rw [shape]

end Datastore

private theorem InstanceLinks.of_loop {L : List Instance} {c : Cache}
    (h : Datastore.LinkLoop (L.enum.foldl (fun m entry => m.insert entry.2.id entry.1) GoMap.empty)
      (fun p => L.getD p default) (fun p => False ∨ ∃ i, (p,i) ∈ L.enum) c)
    (next : c.next = L.length) : InstanceLinks c := by
  have table := fun {k p} got => Datastore.instanceTable_get L (k := k) (p := p) got
  have visited : ∀ p, p < L.length → False ∨ ∃ i, (p,i) ∈ L.enum := fun p bound =>
    .inr ⟨L[p],List.mem_enum_iff_getElem?.mpr (List.getElem?_eq_getElem bound)⟩
  refine ⟨fun k p got => ?_,fun k p got => ?_,fun k p got => ?_,fun tid t k p present => ?_,
    fun k p got placed => ?_⟩
  all_goals try rw [h.instances] at got
  · rw [(Instance.links_eq (h.heap p)).1]; exact (table got).2
  · rw [next]; exact (table got).1
  · rw [(Instance.links_eq (h.heap p)).2.1]; exact h.owned k p got
  · rw [h.tenant tid t k p present,h.instances,(Instance.links_eq (h.heap p)).2.1]
    exact ⟨fun ⟨got,owns,_⟩ => ⟨got,owns⟩,fun ⟨got,owns⟩ => ⟨got,owns,visited p (table got).1⟩⟩
  · rw [(Instance.links_eq (h.heap p)).2.2] at placed ⊢
    exact h.node k p got (visited p (table got).1) placed

/-- Every stored instance belongs to a stored tenant. -/
def InstancesOwned (rows : Datastore.Rows) : Prop :=
  ∀ i ∈ rows.instances, ∃ row ∈ rows.tenants, row.id = i.tenantID

/-- `Init` on a store whose instances all belong to stored tenants builds linked indexes. -/
theorem build_links (rows : Datastore.Rows) (order : List String) (owned : InstancesOwned rows) :
    InstanceLinks (Datastore.build rows order) := by
  unfold Datastore.build
  dsimp only
  refine InstanceLinks.of_loop (Datastore.LinkLoop.run (fun k p got => (Datastore.instanceTable_get _ got).2)
    _ _ _ ?_ fun e mem => ?_) ?_
  · refine Datastore.LinkLoop.of_same ?_
      ((Datastore.initImageList_sameLinks _ _).trans (Datastore.initWorkloadList_sameLinks _ _))
    refine ⟨rfl,fun _ => rfl,fun k p got => ?_,fun tid t k p present => ?_,fun _ _ _ never => never.elim⟩
    · obtain ⟨bound,-⟩ := Datastore.instanceTable_get _ got
      refine (Datastore.tenantTable_keys _ _).mpr (owned _ ?_)
      rw [List.getD_eq_getElem?_getD,List.getElem?_eq_getElem bound,Option.getD_some]
      exact List.getElem_mem bound
    · obtain ⟨row,rfl⟩ := Datastore.tenantTable_get _ present
      simp [Datastore.tenantOfRow]
  · have bound := List.fst_lt_of_mem_enum mem
    rw [List.getD_eq_getElem?_getD,List.getElem?_eq_getElem bound,Option.getD_some,
      List.snd_eq_of_mem_enum mem]
  · rw [Datastore.linkInstances_next]
    exact ((Datastore.initImageList_sameLinks _ _).trans (Datastore.initWorkloadList_sameLinks _ _)).next

/-- The calls of the instance lifecycle, with the preconditions the indexes need: a tenant is
deleted only when it has no instance, and an instance is added under a fresh id, with no node,
for a cached tenant. -/
def instanceOps (c : Cache) : Op → Bool
  | .addTenant _ _ => true
  | .deleteTenant id => match c.tenants.get id with
    | some t => decide (t.instances.len = 0)
    | none => true
  | .addInstance i _ => decide (c.instances.get i.id = none ∧ i.nodeID = "" ∧ i.tenantID ∈ c.tenants.keys)
  | .deleteInstance _ _ | .startFailure .. | .instanceStopped .. | .instanceRestarting ..
  | .handleStats .. | .addNode .. | .deleteNode _ => true
  | _ => false

/-- Every admitted lifecycle call keeps the instance indexes linked. -/
theorem Op.run_links {σ : Type} (P : PersistentStore σ) {ds ds' : Datastore σ} {op : Op}
    {err : Option Error} (h : InstanceLinks ds.cache) (admitted : instanceOps ds.cache op = true)
    (run : op.run P ds = some (ds',err)) : InstanceLinks ds'.cache := by
  cases op <;> first | exact absurd admitted Bool.false_ne_true |
    (unfold Op.run at run; simp only [Option.some.injEq,Prod.mk.injEq] at run)
  case addTenant => rw [← run.1]; exact Datastore.addTenant_links P h
  case deleteTenant id =>
    obtain rfl : (ds.deleteTenant P id).1 = ds' := by rw [run]
    refine Datastore.deleteTenant_links P h fun t got => of_decide_eq_true ?_
    unfold instanceOps at admitted
    simpa only [got] using admitted
  case addInstance i now =>
    obtain ⟨fresh,unplaced,owned⟩ := of_decide_eq_true admitted
    obtain rfl : (ds.addInstance P i now).1 = ds' := by rw [run]
    exact Datastore.addInstance_links P h fresh unplaced owned
  case deleteInstance => exact Datastore.DeleteInstance_links P h run
  case startFailure => exact Datastore.startFailure_links P h run
  case instanceStopped => exact Datastore.instanceStopped_links P h run
  case instanceRestarting => exact Datastore.instanceRestarting_links P h run
  case handleStats => exact Datastore.handleStats_links P h run
  case addNode => rw [← run.1]; exact h.of_same (Datastore.addNode_sameLinks _ _)
  case deleteNode => exact Datastore.deleteNode_links h run

/-- In every state the lifecycle calls reach from a store whose instances belong to stored
tenants, each tenant's map holds exactly its live instances, and each live instance with a node
is in that node's map. -/
theorem instance_links_reachable {σ : Type} (P : PersistentStore σ) {ds : Datastore σ}
    (reach : Reachable P InstancesOwned instanceOps ds) : InstanceLinks ds.cache := by
  induction reach with
  | init booted =>
    obtain ⟨_,_,rows,order,-,owned,rfl⟩ := booted
    exact build_links rows order owned
  | step _ admitted run ih => exact Op.run_links P ih admitted run

/-- A store with a tenant and one of its instances, placed on node "n". -/
def placedInstance : Db :=
  {Db.empty with
    tenants := [⟨"t",⟨"t",24⟩,.empty,.empty⟩]
    instances := [{(default : Instance) with id := "i", tenantID := "t", nodeID := "n"}]}

theorem instance_links_placed : InstanceLinks (Datastore.build placedInstance.rows []) :=
  instance_links_reachable rowStore (.init (booted_rowStore placedInstance [] (by
    unfold InstancesOwned; decide)))

/-- A report from `node` that the instance `i` is running. -/
def reportFrom (node : String) : Stat :=
  ⟨node,"","",0,0,0,0,0,0,[⟨"i",running,"",0,0,0,0⟩]⟩

/-- A report from `node` that the instance `i` has exited. -/
def exitReportFrom (node : String) : Stat :=
  ⟨node,"","",0,0,0,0,0,0,[⟨"i",exited,"",0,0,0,0⟩]⟩

end CiaoDatastore
