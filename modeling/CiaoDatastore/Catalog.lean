import CiaoDatastore.Frame
import CiaoDatastore.RowStore

/-! The catalog indexes: `publicImages`, `internalImages` and `publicWorkloads`, and each
tenant's `images` and `workloads` lists, against the `images` and `workloads` tables. Every one
of them is an instance of `Lists`, and the three ways the calls change a list (an entry added
under a fresh key, replaced under its key, deleted) are one lemma each, shared by the image and
the workload lists. A tenant lists all of its images, its public and internal ones included,
but only its private workloads. -/
namespace CiaoDatastore

/-- `ids` lists, once each, exactly the keys of `table` whose entries satisfy `p`. -/
structure Lists {α : Type} (table : GoMap String α) (p : α → Prop) (ids : List String) : Prop where
  nodup : ids.Nodup
  mem : ∀ id, id ∈ ids ↔ ∃ x, table.get id = some x ∧ p x

/-- `l` holds, once each, exactly the entries of `table` that satisfy `p`. -/
structure Entries {α : Type} (table : GoMap String α) (p : α → Prop) (l : List α) : Prop where
  nodup : l.Nodup
  mem : ∀ x, x ∈ l ↔ (∃ id, table.get id = some x) ∧ p x

/-- Every entry of `table` is stored under its own key. -/
def Keyed {α : Type} (table : GoMap String α) (key : α → String) : Prop :=
  ∀ id x, table.get id = some x → key x = id

section Tables
variable {α : Type} {table : GoMap String α} {p q : α → Prop} {ids : List String}

theorem Keyed.insert {key : α → String} (h : Keyed table key) (x : α) :
    Keyed (table.insert (key x) x) key := fun id y got => by
  simp only [GoMap.get_insert] at got
  split at got
  · rename_i at_k; cases got; exact at_k.symm
  · exact h id y got

theorem Keyed.delete {key : α → String} (h : Keyed table key) (k : String) :
    Keyed (table.delete k) key := fun id y got => by
  simp only [GoMap.get_delete] at got
  split at got
  · cases got
  · exact h id y got

namespace Lists

theorem empty : Lists (.empty : GoMap String α) p [] := ⟨List.nodup_nil,by simp⟩

private theorem not_mem (h : Lists table p ids) {k : String} (absent : table.get k = none) : k ∉ ids :=
  fun mem => by
    obtain ⟨_,got,-⟩ := (h.mem k).mp mem
    rw [absent] at got; cases got

theorem add [DecidablePred p] (h : Lists table p ids) {k : String} {x : α}
    (fresh : table.get k = none) : Lists (table.insert k x) p (if p x then ids ++ [k] else ids) := by
  have absent := h.not_mem fresh
  constructor
  · split
    · exact h.nodup.append (List.nodup_singleton k) (List.disjoint_singleton.mpr absent)
    · exact h.nodup
  · intro id
    by_cases at_k : id = k
    · subst at_k
      split <;> simp_all
    · simp only [GoMap.get_insert,at_k,if_false,← h.mem]
      split <;> simp [at_k]

private theorem replace (h : Lists table p ids) {k : String} {x old : α} (present : table.get k = some old)
    (same : p x ↔ p old) : Lists (table.insert k x) p ids := by
  refine ⟨h.nodup,fun id => ?_⟩
  rw [h.mem]
  by_cases at_k : id = k
  · subst at_k; simp [present,same]
  · simp [at_k]

theorem remove [DecidablePred p] (h : Lists table p ids) {k : String} {old : α}
    (present : table.get k = some old) :
    Lists (table.delete k) p (if p old then ids.erase k else ids) := by
  constructor
  · split
    · exact h.nodup.erase k
    · exact h.nodup
  · intro id
    by_cases at_k : id = k
    · subst at_k
      split
      · simp [h.nodup.not_mem_erase]
      · rename_i unsat
        rw [h.mem]; simp [present,unsat]
    · simp only [GoMap.get_delete,at_k,if_false,← h.mem]
      split
      · exact List.mem_erase_of_ne at_k
      · rfl

theorem entries {key : α → String} (h : Lists table p ids) (keyed : Keyed table key) (d : α) :
    Entries table p (ids.map fun id => (table.get id).getD d) := by
  have lookup : ∀ id ∈ ids, ∃ x, table.get id = some x ∧ p x := fun id mem => (h.mem id).mp mem
  constructor
  · refine h.nodup.map_on fun a mem b mem' same => ?_
    obtain ⟨x,got,-⟩ := lookup a mem
    obtain ⟨y,got',-⟩ := lookup b mem'
    rw [got,got',Option.getD_some,Option.getD_some] at same
    rw [← keyed a x got,← keyed b y got',same]
  · intro x
    simp only [List.mem_map]
    constructor
    · rintro ⟨id,mem,rfl⟩
      obtain ⟨y,got,sat⟩ := lookup id mem
      rw [got]; exact ⟨⟨id,got⟩,sat⟩
    · rintro ⟨⟨id,got⟩,sat⟩
      exact ⟨id,(h.mem id).mpr ⟨x,got,sat⟩,by rw [got]; rfl⟩

end Lists

theorem Entries.append {l l' : List α} (h : Entries table p l) (h' : Entries table q l')
    (apart : ∀ x, p x → ¬ q x) : Entries table (fun x => p x ∨ q x) (l ++ l') := by
  constructor
  · exact h.nodup.append h'.nodup fun x mem mem' => apart x ((h.mem x).mp mem).2 ((h'.mem x).mp mem').2
  · intro x; rw [List.mem_append,h.mem,h'.mem]; exact and_or_left.symm

theorem Entries.nil (none : ∀ x, ¬ p x) : Entries table p [] := ⟨List.nodup_nil,by simp [none]⟩

theorem Entries.congr {l : List α} (h : Entries table p l) (same : ∀ x, p x ↔ q x) :
    Entries table q l :=
  ⟨h.nodup,fun x => by rw [h.mem,same]⟩

end Tables

/-- `tenants'` has the tenants of `tenants`, each one's list `ids` rewritten by `f`. -/
def Relisted (ids : Tenant → List String) (f : String → List String → List String)
    (tenants tenants' : GoMap String Tenant) : Prop :=
  ∀ tid, (tenants'.get tid).map ids = (tenants.get tid).map fun t => f tid (ids t)

namespace Relisted
variable {ids : Tenant → List String} {f : String → List String → List String}
  {m m' : GoMap String Tenant}

theorem get (h : Relisted ids f m m') {tid : String} {t' : Tenant} (got : m'.get tid = some t') :
    ∃ t, m.get tid = some t ∧ ids t' = f tid (ids t) := by
  have := h tid
  rw [got] at this
  cases old : m.get tid <;> simp_all

theorem keys (h : Relisted ids f m m') (tid : String) : tid ∈ m'.keys ↔ tid ∈ m.keys := by
  have := congrArg Option.isSome (h tid)
  simp only [Option.isSome_map'] at this
  simp only [GoMap.mem_keys_iff,← Option.isSome_iff_exists,this]

theorem self (unchanged : ∀ tid l, f tid l = l) : Relisted ids f m m := fun tid => by
  cases m.get tid <;> simp [unchanged]

theorem insert {k : String} {t t' : Tenant} (present : m.get k = some t) (new : ids t' = f k (ids t))
    (unchanged : ∀ tid, tid ≠ k → ∀ l, f tid l = l) : Relisted ids f m (m.insert k t') := by
  intro tid
  by_cases at_k : tid = k
  · subst at_k; simp [present,new]
  · simp only [GoMap.get_insert,at_k,if_false]
    cases m.get tid <;> simp [unchanged tid at_k]

end Relisted

/-- Each cached tenant's list `ids` lists exactly the entries of `table` that `p` assigns to it. -/
def TenantLists {α : Type} (tenants : GoMap String Tenant) (ids : Tenant → List String)
    (table : GoMap String α) (p : String → α → Prop) : Prop :=
  ∀ tid t, tenants.get tid = some t → Lists table (p tid) (ids t)

namespace TenantLists
variable {α : Type} {tenants tenants' : GoMap String Tenant} {ids : Tenant → List String}
  {table : GoMap String α} {p : String → α → Prop}

theorem add [∀ tid, DecidablePred (p tid)] (h : TenantLists tenants ids table p) {k : String} {x : α}
    (fresh : table.get k = none)
    (relisted : Relisted ids (fun tid l => if p tid x then l ++ [k] else l) tenants tenants') :
    TenantLists tenants' ids (table.insert k x) p := fun tid t' got' => by
  obtain ⟨t,got,new⟩ := relisted.get got'
  rw [new]; exact (h tid t got).add fresh

private theorem replace (h : TenantLists tenants ids table p) {k : String} {x old : α}
    (present : table.get k = some old) (same : ∀ tid, p tid x ↔ p tid old) :
    TenantLists tenants ids (table.insert k x) p := fun tid t got =>
  (h tid t got).replace present (same tid)

theorem remove [∀ tid, DecidablePred (p tid)] (h : TenantLists tenants ids table p) {k : String}
    {old : α} (present : table.get k = some old)
    (relisted : Relisted ids (fun tid l => if p tid old then l.erase k else l) tenants tenants') :
    TenantLists tenants' ids (table.delete k) p := fun tid t' got' => by
  obtain ⟨t,got,new⟩ := relisted.get got'
  rw [new]; exact (h tid t got).remove present

theorem insert_tenant (h : TenantLists tenants ids table p) {k : String} {t : Tenant}
    (empty : ids t = []) (unassigned : ∀ id x, table.get id = some x → ¬ p k x) :
    TenantLists (tenants.insert k t) ids table p := fun tid t' got' => by
  simp only [GoMap.get_insert] at got'
  split at got'
  · rename_i at_k
    subst at_k; cases got'
    rw [empty]
    exact ⟨List.nodup_nil,fun id => by simpa using unassigned id⟩
  · exact h tid t' got'

theorem delete_tenant (h : TenantLists tenants ids table p) (k : String) :
    TenantLists (tenants.delete k) ids table p := fun tid t got => by
  simp only [GoMap.get_delete] at got
  split at got
  · cases got
  · exact h tid t got

private theorem of_agree (h : TenantLists tenants ids table p) (agree : TenantsAgree ids tenants tenants') :
    TenantLists tenants' ids table p := fun tid t' got' => by
  obtain ⟨t,got,same⟩ := agree.get got'
  rw [← same]; exact h tid t got

end TenantLists

/-- Where `Init` and the image calls list an image: under its tenant, when it has one. -/
abbrev listsImage (tid : String) (i : Image) : Prop := i.tenantID = tid ∧ tid ≠ ""

/-- Where `Init` and the workload calls list a workload that is not public: under its tenant. -/
abbrev listsWorkload (tid : String) (w : Workload) : Prop :=
  w.visibility ≠ publicVisibility ∧ w.tenantID = tid

/-- The image index: the public and internal lists and each tenant's list hold, once each,
exactly the cached images they should, and every image with a tenant has it cached. -/
structure ImageIndex (c : Cache) : Prop where
  keyed : Keyed c.images (·.id)
  public : Lists c.images (·.visibility = publicVisibility) c.publicImages
  internal : Lists c.images (·.visibility = internalVisibility) c.internalImages
  tenant : TenantLists c.tenants (·.images) c.images listsImage
  owned : ∀ id i, c.images.get id = some i → i.tenantID ≠ "" → i.tenantID ∈ c.tenants.keys

/-- The workload index: the public list and each tenant's list hold, once each, exactly the
cached workloads they should, and every workload that is not public has its tenant cached. -/
structure WorkloadIndex (c : Cache) : Prop where
  keyed : Keyed c.workloads (·.id)
  public : Lists c.workloads (·.visibility = publicVisibility) c.publicWorkloads
  tenant : TenantLists c.tenants (·.workloads) c.workloads listsWorkload
  owned : ∀ id w, c.workloads.get id = some w → w.visibility ≠ publicVisibility →
    w.tenantID ∈ c.tenants.keys

structure CatalogIndex (c : Cache) : Prop where
  images : ImageIndex c
  workloads : WorkloadIndex c

/-- `c'` has the image tables of `c` and tenants with the same image lists. -/
structure SameImages (c c' : Cache) : Prop where
  images : c'.images = c.images
  publicImages : c'.publicImages = c.publicImages
  internalImages : c'.internalImages = c.internalImages
  tenants : TenantsAgree (·.images) c.tenants c'.tenants

/-- `c'` has the workload tables of `c` and tenants with the same workload lists. -/
structure SameWorkloads (c c' : Cache) : Prop where
  workloads : c'.workloads = c.workloads
  publicWorkloads : c'.publicWorkloads = c.publicWorkloads
  tenants : TenantsAgree (·.workloads) c.tenants c'.tenants

namespace ImageIndex
variable {c c' : Cache}

theorem of_same (h : ImageIndex c) (same : SameImages c c') : ImageIndex c' := by
  obtain ⟨images,publicImages,internalImages,tenants⟩ := same
  refine ⟨?_,?_,?_,?_,fun id i got named => ?_⟩
  · rw [images]; exact h.keyed
  · rw [images,publicImages]; exact h.public
  · rw [images,internalImages]; exact h.internal
  · rw [images]; exact h.tenant.of_agree tenants
  · rw [images] at got; rw [tenants.keys]; exact h.owned id i got named

theorem insert_tenant (h : ImageIndex c) {id : String} {t : Tenant} (fresh : id ∉ c.tenants.keys)
    (empty : t.images = []) : ImageIndex {c with tenants := c.tenants.insert id t} where
  keyed := h.keyed
  public := h.public
  internal := h.internal
  tenant := h.tenant.insert_tenant empty fun _ i got ⟨owns,named⟩ => by
    subst owns; exact fresh (h.owned _ i got named)
  owned := fun id' i got named => Finset.mem_insert_of_mem (h.owned id' i got named)

theorem delete_tenant (h : ImageIndex c) {id : String} {t : Tenant} (present : c.tenants.get id = some t)
    (empty : t.images = []) : ImageIndex {c with tenants := c.tenants.delete id} where
  keyed := h.keyed
  public := h.public
  internal := h.internal
  tenant := h.tenant.delete_tenant id
  owned := fun id' i got named => by
    simp only [GoMap.keys_delete,Finset.mem_erase]
    refine ⟨fun owns => ?_,h.owned id' i got named⟩
    have := ((h.tenant id t present).mem id').mpr ⟨i,got,owns,owns ▸ named⟩
    simp [empty] at this

theorem add (h : ImageIndex c) {i : Image} {tenants : GoMap String Tenant}
    (fresh : c.images.get i.id = none) (owner : i.tenantID ≠ "" → i.tenantID ∈ c.tenants.keys)
    (relisted : Relisted (·.images) (fun tid l => if listsImage tid i then l ++ [i.id] else l)
      c.tenants tenants) :
    ImageIndex (Datastore.indexImage {c with tenants} i) where
  keyed := h.keyed.insert i
  public := h.public.add fresh
  internal := h.internal.add fresh
  tenant := h.tenant.add fresh relisted
  owned := fun id i' got named => by
    show _ ∈ tenants.keys
    rw [relisted.keys]
    simp only [Datastore.indexImage,GoMap.get_insert] at got
    split at got
    · cases got; exact owner named
    · exact h.owned id i' got named

private theorem replace (h : ImageIndex c) {i old : Image} (present : c.images.get i.id = some old)
    (tenant : old.tenantID = i.tenantID) (visibility : old.visibility = i.visibility) :
    ImageIndex {c with images := c.images.insert i.id i} where
  keyed := h.keyed.insert i
  public := h.public.replace present (by rw [visibility])
  internal := h.internal.replace present (by rw [visibility])
  tenant := h.tenant.replace present fun tid => by unfold listsImage; rw [tenant]
  owned := fun id i' got named => by
    simp only [GoMap.get_insert] at got
    split at got
    · cases got; rw [← tenant] at named ⊢; exact h.owned _ old present named
    · exact h.owned id i' got named

theorem remove (h : ImageIndex c) {id : String} {old : Image} (present : c.images.get id = some old)
    (images : c'.images = c.images.delete id)
    (publicImages : c'.publicImages =
      if old.visibility = publicVisibility then c.publicImages.erase id else c.publicImages)
    (internalImages : c'.internalImages =
      if old.visibility = internalVisibility then c.internalImages.erase id else c.internalImages)
    (relisted : Relisted (·.images) (fun tid l => if listsImage tid old then l.erase id else l)
      c.tenants c'.tenants) : ImageIndex c' where
  keyed := images ▸ h.keyed.delete id
  public := images ▸ publicImages ▸ h.public.remove present
  internal := images ▸ internalImages ▸ h.internal.remove present
  tenant := images ▸ h.tenant.remove present relisted
  owned := fun id' i got named => by
    rw [relisted.keys]
    rw [images,GoMap.get_delete] at got
    split at got
    · cases got
    · exact h.owned id' i got named

end ImageIndex

namespace WorkloadIndex
variable {c c' : Cache}

theorem of_same (h : WorkloadIndex c) (same : SameWorkloads c c') : WorkloadIndex c' := by
  obtain ⟨workloads,publicWorkloads,tenants⟩ := same
  refine ⟨?_,?_,?_,fun id w got priv => ?_⟩
  · rw [workloads]; exact h.keyed
  · rw [workloads,publicWorkloads]; exact h.public
  · rw [workloads]; exact h.tenant.of_agree tenants
  · rw [workloads] at got; rw [tenants.keys]; exact h.owned id w got priv

theorem insert_tenant (h : WorkloadIndex c) {id : String} {t : Tenant} (fresh : id ∉ c.tenants.keys)
    (empty : t.workloads = []) : WorkloadIndex {c with tenants := c.tenants.insert id t} where
  keyed := h.keyed
  public := h.public
  tenant := h.tenant.insert_tenant empty fun _ w got ⟨priv,owns⟩ => by
    subst owns; exact fresh (h.owned _ w got priv)
  owned := fun id' w got priv => Finset.mem_insert_of_mem (h.owned id' w got priv)

theorem delete_tenant (h : WorkloadIndex c) {id : String} {t : Tenant}
    (present : c.tenants.get id = some t) (empty : t.workloads = []) :
    WorkloadIndex {c with tenants := c.tenants.delete id} where
  keyed := h.keyed
  public := h.public
  tenant := h.tenant.delete_tenant id
  owned := fun id' w got priv => by
    simp only [GoMap.keys_delete,Finset.mem_erase]
    refine ⟨fun owns => ?_,h.owned id' w got priv⟩
    have := ((h.tenant id t present).mem id').mpr ⟨w,got,priv,owns⟩
    simp [empty] at this

theorem add (h : WorkloadIndex c) {w : Workload} (fresh : c.workloads.get w.id = none)
    (owner : w.visibility ≠ publicVisibility → w.tenantID ∈ c.tenants.keys)
    (workloads : c'.workloads = c.workloads.insert w.id w)
    (publicWorkloads : c'.publicWorkloads =
      if w.visibility = publicVisibility then c.publicWorkloads ++ [w.id] else c.publicWorkloads)
    (relisted : Relisted (·.workloads) (fun tid l => if listsWorkload tid w then l ++ [w.id] else l)
      c.tenants c'.tenants) : WorkloadIndex c' where
  keyed := workloads ▸ h.keyed.insert w
  public := workloads ▸ publicWorkloads ▸ h.public.add fresh
  tenant := workloads ▸ h.tenant.add fresh relisted
  owned := fun id w' got priv => by
    rw [relisted.keys]
    rw [workloads,GoMap.get_insert] at got
    split at got
    · cases got; exact owner priv
    · exact h.owned id w' got priv

theorem remove (h : WorkloadIndex c) {id : String} {old : Workload}
    (present : c.workloads.get id = some old) (workloads : c'.workloads = c.workloads.delete id)
    (publicWorkloads : c'.publicWorkloads =
      if old.visibility = publicVisibility then c.publicWorkloads.erase id else c.publicWorkloads)
    (relisted : Relisted (·.workloads) (fun tid l => if listsWorkload tid old then l.erase id else l)
      c.tenants c'.tenants) : WorkloadIndex c' where
  keyed := workloads ▸ h.keyed.delete id
  public := workloads ▸ publicWorkloads ▸ h.public.remove present
  tenant := workloads ▸ h.tenant.remove present relisted
  owned := fun id' w got priv => by
    rw [relisted.keys]
    rw [workloads,GoMap.get_delete] at got
    split at got
    · cases got
    · exact h.owned id' w got priv

end WorkloadIndex

private theorem CatalogIndex.of_images {c c' : Cache} (h : CatalogIndex c) (images : ImageIndex c')
    (same : SameWorkloads c c') : CatalogIndex c' :=
  ⟨images,h.workloads.of_same same⟩

private theorem CatalogIndex.of_workloads {c c' : Cache} (h : CatalogIndex c) (workloads : WorkloadIndex c')
    (same : SameImages c c') : CatalogIndex c' :=
  ⟨h.images.of_same same,workloads⟩

namespace Datastore
variable {σ : Type} (P : PersistentStore σ) {ds : Datastore σ}

private theorem relistImage_some {c c' : Cache} {i : Image} {f : List String → List String}
    (listed : relistImage c i f = some c') : ∃ tenants, c' = {c with tenants} ∧
      (i.tenantID ≠ "" → i.tenantID ∈ c.tenants.keys) ∧
      Relisted (·.images) (fun tid l => if listsImage tid i then f l else l) c.tenants tenants ∧
      TenantsAgree (·.workloads) c.tenants tenants := by
  unfold relistImage at listed
  split at listed
  · rename_i untenanted
    cases listed
    refine ⟨_,rfl,fun named => absurd untenanted named,Relisted.self fun tid l => if_neg ?_,.refl _ _⟩
    rintro ⟨owns,named⟩; exact named (owns ▸ untenanted)
  · rename_i named
    split at listed
    · cases listed
    · rename_i t present
      cases listed
      refine ⟨_,rfl,fun _ => (GoMap.mem_keys_iff _ _).mpr ⟨t,present⟩,
        Relisted.insert present (if_pos ⟨rfl,named⟩).symm fun tid other l => if_neg ?_,.insert present rfl⟩
      rintro ⟨owns,-⟩; exact other owns.symm

private theorem addTenant_catalog {id : String} {config : TenantConfig} (h : CatalogIndex ds.cache) :
    CatalogIndex (ds.addTenant P id config).1.cache := by
  unfold addTenant
  split
  · exact h
  · rename_i fresh
    dsimp only [call]
    split
    · exact h
    · split
      · exact h
      · exact h
      · exact ⟨h.images.insert_tenant fresh rfl,h.workloads.insert_tenant fresh rfl⟩

private theorem deleteTenant_catalog {id : String} (h : CatalogIndex ds.cache)
    (empty : ∀ t, ds.cache.tenants.get id = some t → t.images = [] ∧ t.workloads = []) :
    CatalogIndex (ds.deleteTenant P id).1.cache := by
  unfold deleteTenant
  split
  · exact h
  · rename_i present
    obtain ⟨t,got⟩ := (ds.cache.tenants.mem_keys_iff id).mp (not_not.mp present)
    exact ⟨h.images.delete_tenant got (empty t got).1,h.workloads.delete_tenant got (empty t got).2⟩

private theorem addWorkload_catalog {w : Workload} (h : CatalogIndex ds.cache)
    (fresh : w.id ∉ ds.cache.workloads.keys)
    (owner : w.visibility ≠ publicVisibility → w.tenantID ∈ ds.cache.tenants.keys) :
    CatalogIndex (ds.addWorkload P w).1.cache := by
  have fresh := (GoMap.get_eq_none _ _).mpr fresh
  unfold addWorkload
  dsimp only [call]
  split
  · exact h
  · split
    · rename_i pub
      exact h.of_workloads (h.workloads.add fresh owner rfl (if_pos pub).symm
        (Relisted.self fun tid l => if_neg fun listed => listed.1 pub)) ⟨rfl,rfl,rfl,.refl _ _⟩
    · rename_i priv
      split
      · rename_i absent
        exact absurd (owner priv) ((GoMap.get_eq_none _ _).mp absent)
      · rename_i t present
        exact h.of_workloads (h.workloads.add fresh owner rfl (if_neg priv).symm
          (Relisted.insert present (if_pos ⟨priv,rfl⟩).symm fun tid other l =>
            if_neg fun listed => other listed.2.symm)) ⟨rfl,rfl,rfl,.insert present rfl⟩

private theorem deleteWorkload_catalog {id : String} (h : CatalogIndex ds.cache) :
    CatalogIndex (ds.deleteWorkload P id).1.cache := by
  unfold deleteWorkload
  split
  · exact h
  · split
    · exact h
    · rename_i old present
      dsimp only [call]
      split
      · exact h
      · split
        · rename_i pub
          exact h.of_workloads (h.workloads.remove present rfl (if_pos pub).symm
            (Relisted.self fun tid l => if_neg fun listed => listed.1 pub)) ⟨rfl,rfl,rfl,.refl _ _⟩
        · rename_i priv
          split
          · exact h
          · rename_i t got
            exact h.of_workloads (h.workloads.remove present rfl (if_neg priv).symm
              (Relisted.insert got (if_pos ⟨priv,rfl⟩).symm fun tid other l =>
                if_neg fun listed => other listed.2.symm)) ⟨rfl,rfl,rfl,.insert got rfl⟩

private theorem addImage_catalog {i : Image} (h : CatalogIndex ds.cache) :
    CatalogIndex (ds.addImage P i).1.cache := by
  unfold addImage
  split
  · exact h
  · rename_i fresh
    split
    · exact h
    · split
      · exact h
      · dsimp only [call]
        split
        · exact h
        · split
          · exact h
          · rename_i c listed
            obtain ⟨tenants,rfl,owner,relisted,agree⟩ := relistImage_some listed
            exact h.of_images (h.images.add ((GoMap.get_eq_none _ _).mpr fresh) owner relisted)
              ⟨rfl,rfl,agree⟩

private theorem updateImage_catalog {i : Image} (h : CatalogIndex ds.cache) :
    CatalogIndex (ds.updateImage P i).1.cache := by
  unfold updateImage
  split
  · exact h
  · rename_i old present
    split
    · exact h
    · rename_i same
      push_neg at same
      split
      · exact h
      · dsimp only [call]
        split
        · exact h
        · exact h.of_images (h.images.replace present same.1 same.2) ⟨rfl,rfl,.refl _ _⟩

private theorem deleteImage_catalog {id : String} (h : CatalogIndex ds.cache) :
    CatalogIndex (ds.deleteImage id).1.cache := by
  unfold deleteImage
  split
  · exact h
  · rename_i old present
    split
    · exact h
    · rename_i c listed
      obtain ⟨tenants,rfl,-,relisted,agree⟩ := relistImage_some listed
      exact h.of_images (h.images.remove present rfl rfl rfl relisted) ⟨rfl,rfl,agree⟩

/-- `DeleteImage` never asks the store to delete the image: `Init` on the store it leaves brings
the image back. -/
theorem deleted_image_restored : ∃ ds₁ ds₂ ds₃,
    (Op.addImage ⟨"i","","i",publicVisibility⟩).run rowStore emptyDatastore = some (ds₁,none) ∧
    (Op.deleteImage "i").run rowStore ds₁ = some (ds₂,none) ∧ ds₂.cache.images.get "i" = none ∧
    Datastore.init rowStore ds₂.db [] = .ok ds₃ ∧
    ds₃.cache.images.get "i" = some ⟨"i","","i",publicVisibility⟩ :=
  ⟨_,_,_,rfl,rfl,by decide,rfl,by decide⟩

private theorem initImageList_index {c : Cache} (h : ImageIndex c) (images : List Image)
    (nodup : (images.map (·.id)).Nodup) (fresh : ∀ i ∈ images, c.images.get i.id = none)
    (owned : ∀ i ∈ images, i.tenantID ≠ "" → i.tenantID ∈ c.tenants.keys) :
    ImageIndex (initImageList c images) := by
  induction images generalizing c with
  | nil => exact h
  | cons i rest ih =>
    simp only [List.map_cons,List.nodup_cons,List.mem_map,not_exists,not_and] at nodup
    have fresh' : ∀ j ∈ rest, (c.images.insert i.id i).get j.id = none := fun j mem => by
      rw [GoMap.get_insert,if_neg (nodup.1 j mem)]
      exact fresh j (List.mem_cons_of_mem _ mem)
    have owned' : ∀ j ∈ rest, j.tenantID ≠ "" → j.tenantID ∈ c.tenants.keys :=
      fun j mem => owned j (List.mem_cons_of_mem _ mem)
    have head := List.mem_cons_self i rest
    simp only [initImageList]
    split
    · rename_i untenanted
      refine ih (h.add (fresh i head) (owned i head) (Relisted.self fun tid l => if_neg ?_)) nodup.2
        fresh' owned'
      rintro ⟨owns,named⟩; exact named (owns ▸ untenanted)
    · rename_i named
      split
      · rename_i absent
        obtain ⟨t,present⟩ := (GoMap.mem_keys_iff _ _).mp (owned i head named)
        cases present.symm.trans absent
      · rename_i t present
        have relisted := @Relisted.insert (·.images)
          (fun tid l => if listsImage tid i then l ++ [i.id] else l) _ _ _
          {t with images := t.images ++ [i.id]} present (if_pos ⟨rfl,named⟩).symm
          fun tid other l => if_neg fun listed => other listed.1.symm
        exact ih (h.add (fresh i head) (owned i head) relisted) nodup.2 fresh'
          fun j mem named' => (relisted.keys _).mpr (owned' j mem named')

private theorem initWorkloadList_index {c : Cache} (h : WorkloadIndex c) (workloads : List Workload)
    (nodup : (workloads.map (·.id)).Nodup) (fresh : ∀ w ∈ workloads, c.workloads.get w.id = none)
    (untenanted : ∀ w ∈ workloads, w.visibility = publicVisibility → w.tenantID = "")
    (owned : ∀ w ∈ workloads, w.visibility ≠ publicVisibility →
      w.tenantID ≠ "" ∧ w.tenantID ∈ c.tenants.keys) :
    WorkloadIndex (initWorkloadList c workloads) := by
  induction workloads generalizing c with
  | nil => exact h
  | cons w rest ih =>
    simp only [List.map_cons,List.nodup_cons,List.mem_map,not_exists,not_and] at nodup
    have fresh' : ∀ j ∈ rest, (c.workloads.insert w.id w).get j.id = none := fun j mem => by
      rw [GoMap.get_insert,if_neg (nodup.1 j mem)]
      exact fresh j (List.mem_cons_of_mem _ mem)
    have head := List.mem_cons_self w rest
    have owner := fun priv => (owned w head priv).2
    simp only [initWorkloadList]
    split
    · rename_i none
      have pub : w.visibility = publicVisibility := by
        by_contra priv; exact (owned w head priv).1 none
      exact ih (h.add (fresh w head) owner rfl rfl
        (Relisted.self fun tid l => if_neg fun listed => listed.1 pub)) nodup.2 fresh'
        (fun j mem => untenanted j (List.mem_cons_of_mem _ mem))
        fun j mem => owned j (List.mem_cons_of_mem _ mem)
    · rename_i named
      have priv : w.visibility ≠ publicVisibility := fun pub => named (untenanted w head pub)
      split
      · rename_i absent
        obtain ⟨t,present⟩ := (GoMap.mem_keys_iff _ _).mp (owned w head priv).2
        cases present.symm.trans absent
      · rename_i t present
        have relisted := @Relisted.insert (·.workloads)
          (fun tid l => if listsWorkload tid w then l ++ [w.id] else l) _ _ _
          {t with workloads := t.workloads ++ [w.id]} present (if_pos ⟨priv,rfl⟩).symm
          fun tid other l => if_neg fun listed => other listed.2.symm
        refine ih (h.add (fresh w head) owner rfl rfl relisted) nodup.2 fresh'
          (fun j mem => untenanted j (List.mem_cons_of_mem _ mem)) fun j mem priv' => ?_
        have := owned j (List.mem_cons_of_mem _ mem) priv'
        exact ⟨this.1,(relisted.keys _).mpr this.2⟩

private theorem initial_catalog {c : Cache} (images : c.images = .empty) (publicImages : c.publicImages = [])
    (internalImages : c.internalImages = []) (workloads : c.workloads = .empty)
    (publicWorkloads : c.publicWorkloads = [])
    (tenants : ∀ tid t, c.tenants.get tid = some t → t.images = [] ∧ t.workloads = []) :
    CatalogIndex c := by
  refine ⟨⟨?_,?_,?_,fun tid t got => ?_,fun id i got => ?_⟩,⟨?_,?_,fun tid t got => ?_,fun id w got => ?_⟩⟩
  all_goals first
    | rw [images] at got; cases got
    | rw [workloads] at got; cases got
    | skip
  · rw [images]; exact fun _ _ got => by cases got
  · rw [images,publicImages]; exact Lists.empty
  · rw [images,internalImages]; exact Lists.empty
  · show Lists _ _ t.images
    rw [images,(tenants tid t got).1]; exact Lists.empty
  · rw [workloads]; exact fun _ _ got => by cases got
  · rw [workloads,publicWorkloads]; exact Lists.empty
  · show Lists _ _ t.workloads
    rw [workloads,(tenants tid t got).2]; exact Lists.empty

end Datastore

/-- Stored rows the catalog indexes are built right from: no image or workload id repeats, every
image with a tenant and every workload that is not public has a stored tenant, and no public
workload has one. -/
structure CatalogConsistent (rows : Datastore.Rows) : Prop where
  imageIds : (rows.images.map (·.id)).Nodup
  workloadIds : (rows.workloads.map (·.id)).Nodup
  imageOwners : ∀ i ∈ rows.images, i.tenantID ≠ "" → ∃ row ∈ rows.tenants, row.id = i.tenantID
  publicWorkloads : ∀ w ∈ rows.workloads, w.visibility = publicVisibility → w.tenantID = ""
  workloadOwners : ∀ w ∈ rows.workloads, w.visibility ≠ publicVisibility →
    w.tenantID ≠ "" ∧ ∃ row ∈ rows.tenants, row.id = w.tenantID

namespace Datastore

private theorem init_catalog {c : Cache} {rows : Rows} (consistent : CatalogConsistent rows)
    (h : CatalogIndex c) (images : c.images = .empty) (workloads : c.workloads = .empty)
    (keys : ∀ tid, tid ∈ c.tenants.keys ↔ ∃ row ∈ rows.tenants, row.id = tid)
    (es : List (Nat × Instance)) :
    CatalogIndex (linkInstances (initWorkloadList (initImageList c rows.images) rows.workloads) es) := by
  obtain ⟨_,_,_,_,shape₁,agree₁⟩ := initImageList_shape c rows.images
  obtain ⟨_,_,_,shape₂,agree₂⟩ := initWorkloadList_shape (initImageList c rows.images) rows.workloads
  obtain ⟨_,_,shape₃,agree₃⟩ :=
    linkInstances_shape (initWorkloadList (initImageList c rows.images) rows.workloads) es
  have images₁ : ImageIndex (initImageList c rows.images) :=
    initImageList_index h.images _ consistent.imageIds (fun _ _ => by rw [images]; rfl)
      fun i mem named => (keys _).mpr (consistent.imageOwners i mem named)
  have workloads₁ : WorkloadIndex (initImageList c rows.images) := by
    refine h.workloads.of_same ?_
    rw [shape₁]; exact ⟨rfl,rfl,agree₁.map Tenant.workloads⟩
  have keys₁ : ∀ tid, tid ∈ (initImageList c rows.images).tenants.keys ↔ tid ∈ c.tenants.keys := by
    rw [shape₁]; exact agree₁.keys
  have workloads₂ := initWorkloadList_index workloads₁ _ consistent.workloadIds
    (fun _ _ => by rw [shape₁]; show c.workloads.get _ = none; rw [workloads]; rfl)
    consistent.publicWorkloads fun w mem priv => by
      obtain ⟨named,owner⟩ := consistent.workloadOwners w mem priv
      exact ⟨named,(keys₁ _).mpr ((keys _).mpr owner)⟩
  have images₂ : ImageIndex (initWorkloadList (initImageList c rows.images) rows.workloads) := by
    refine images₁.of_same ?_
    rw [shape₂]; exact ⟨rfl,rfl,rfl,agree₂.map Tenant.images⟩
  rw [shape₃]
  exact ⟨images₂.of_same ⟨rfl,rfl,rfl,agree₃.map Tenant.images⟩,
    workloads₂.of_same ⟨rfl,rfl,agree₃.map Tenant.workloads⟩⟩

private theorem build_catalog (rows : Rows) (order : List String) (consistent : CatalogConsistent rows) :
    CatalogIndex (build rows order) := by
  unfold build
  refine init_catalog consistent (initial_catalog rfl rfl rfl rfl rfl fun tid t got => ?_) rfl rfl
    (tenantTable_keys _) _
  obtain ⟨row,rfl⟩ := tenantTable_get _ got
  exact ⟨rfl,rfl⟩

end Datastore

/-- The catalog calls, with the preconditions the indexes need: a tenant is deleted only when it
lists no image or workload, and a workload is added under a fresh id, for a cached tenant when
it is not public. -/
def catalogOps (c : Cache) : Op → Bool
  | .addTenant _ _ | .addImage _ | .updateImage _ | .deleteImage _ | .deleteWorkload _ => true
  | .deleteTenant id => match c.tenants.get id with
    | some t => decide (t.images = [] ∧ t.workloads = [])
    | none => true
  | .addWorkload w => decide (w.id ∉ c.workloads.keys ∧
      (w.visibility ≠ publicVisibility → w.tenantID ∈ c.tenants.keys))
  | _ => false

/-- Every admitted catalog call keeps the indexes. -/
private theorem Op.run_catalog {σ : Type} (P : PersistentStore σ) {ds ds' : Datastore σ} {op : Op}
    {err : Option Error} (h : CatalogIndex ds.cache) (admitted : catalogOps ds.cache op = true)
    (run : op.run P ds = some (ds',err)) : CatalogIndex ds'.cache := by
  cases op <;> first | exact absurd admitted Bool.false_ne_true |
    (unfold Op.run at run; simp only [Option.some.injEq,Prod.mk.injEq] at run)
  case addTenant => rw [← run.1]; exact Datastore.addTenant_catalog P h
  case deleteTenant id =>
    obtain rfl : (ds.deleteTenant P id).1 = ds' := by rw [run]
    refine Datastore.deleteTenant_catalog P h fun t got => of_decide_eq_true ?_
    unfold catalogOps at admitted
    simpa only [got] using admitted
  case addWorkload w =>
    obtain ⟨fresh,owner⟩ := of_decide_eq_true admitted
    obtain rfl : (ds.addWorkload P w).1 = ds' := by rw [run]
    exact Datastore.addWorkload_catalog P h fresh owner
  case deleteWorkload id =>
    obtain rfl : (ds.deleteWorkload P id).1 = ds' := by rw [run]
    exact Datastore.deleteWorkload_catalog P h
  case addImage i =>
    obtain rfl : (ds.addImage P i).1 = ds' := by rw [run]
    exact Datastore.addImage_catalog P h
  case updateImage i =>
    obtain rfl : (ds.updateImage P i).1 = ds' := by rw [run]
    exact Datastore.updateImage_catalog P h
  case deleteImage id =>
    obtain rfl : (ds.deleteImage id).1 = ds' := by rw [run]
    exact Datastore.deleteImage_catalog h

private theorem publicVisibility_ne_internal : publicVisibility ≠ internalVisibility := by decide

/-- `GetImages` lists, once each, the tenant's own images, then, once each, the public images and,
for an admin, the internal ones: a tenant's own public or internal image is in both parts. -/
private theorem ImageIndex.getImages_entries {c : Cache} (h : ImageIndex c) {tid : String} {admin : Bool}
    {l : List Image} (listed : Datastore.getImages c tid admin = .ok l) :
    ∃ own shared, l = own ++ shared ∧ Entries c.images (listsImage tid) own ∧
      Entries c.images (fun i => admin ∧ i.visibility = internalVisibility ∨
        i.visibility = publicVisibility) shared := by
  have public := h.public.entries h.keyed default
  have shared : Entries c.images (fun i => admin ∧ i.visibility = internalVisibility ∨
      i.visibility = publicVisibility)
      ((if admin then c.internalImages.map fun id => (c.images.get id).getD default else []) ++
        c.publicImages.map fun id => (c.images.get id).getD default) := by
    cases admin
    · exact ((Entries.nil fun _ => id).append public fun _ f => f.elim).congr (by simp)
    · refine ((h.internal.entries h.keyed default).append public fun i internal public => ?_).congr
        (by simp)
      exact publicVisibility_ne_internal (public.symm.trans internal)
  by_cases untenanted : tid = ""
  · simp only [Datastore.getImages,untenanted,if_true,Except.ok.injEq] at listed
    subst listed
    exact ⟨[],_,rfl,Entries.nil fun i listed => listed.2 untenanted,shared⟩
  · cases got : c.tenants.get tid with
    | none => simp [Datastore.getImages,untenanted,got] at listed
    | some t =>
      simp only [Datastore.getImages,untenanted,got,if_false,Except.ok.injEq] at listed
      subst listed
      exact ⟨_,_,List.append_assoc _ _ _,(h.tenant tid t got).entries h.keyed default,shared⟩

/-- `GetWorkloads` lists, once each, exactly the public workloads when asked for and the
workloads the tenant lists. -/
private theorem WorkloadIndex.getWorkloads_entries {c : Cache} (h : WorkloadIndex c) (tid : String)
    (includePublic : Bool) :
    Entries c.workloads (fun w => includePublic ∧ w.visibility = publicVisibility ∨
      tid ∈ c.tenants.keys ∧ listsWorkload tid w) (Datastore.getWorkloads c tid includePublic) := by
  have public : Entries c.workloads (fun w => includePublic ∧ w.visibility = publicVisibility)
      (if includePublic then c.publicWorkloads.map fun id => (c.workloads.get id).getD default
        else []) := by
    cases includePublic
    · exact Entries.nil fun _ listed => Bool.false_ne_true listed.1
    · exact (h.public.entries h.keyed default).congr (by simp)
  unfold Datastore.getWorkloads
  cases got : c.tenants.get tid with
  | none => exact public.congr fun w => by simp [(GoMap.get_eq_none _ _).mp got]
  | some t =>
    refine (public.append ((h.tenant tid t got).entries h.keyed default) fun w pub priv => ?_).congr
      fun w => by simp [(GoMap.mem_keys_iff _ _).mpr ⟨t,got⟩]
    exact priv.1 pub.2

theorem CatalogIndex.reachable {σ : Type} {P : PersistentStore σ} {ds : Datastore σ}
    (reach : Reachable P CatalogConsistent catalogOps ds) : CatalogIndex ds.cache := by
  induction reach with
  | init booted =>
    obtain ⟨_,_,rows,order,-,consistent,rfl⟩ := booted
    exact Datastore.build_catalog rows order consistent
  | step _ admitted run ih => exact Op.run_catalog P ih admitted run

/-- In every state the catalog calls reach from a consistent store the catalog indexes hold;
`GetImages` lists no missing image, and each image at most once in the tenant's part and at most
once in the shared part; `GetWorkloads` lists, once each, exactly the workloads it should. -/
theorem catalog_index_reachable {σ : Type} (P : PersistentStore σ) {ds : Datastore σ}
    (reach : Reachable P CatalogConsistent catalogOps ds) :
    CatalogIndex ds.cache ∧
      (∀ (tid : String) (admin : Bool) (l : List Image), Datastore.getImages ds.cache tid admin = .ok l →
        ∃ own shared,
        l = own ++ shared ∧ Entries ds.cache.images (listsImage tid) own ∧
        Entries ds.cache.images (fun i => admin ∧ i.visibility = internalVisibility ∨
          i.visibility = publicVisibility) shared) ∧
      ∀ (tid : String) (includePublic : Bool), Entries ds.cache.workloads (fun w => includePublic ∧
        w.visibility = publicVisibility ∨ tid ∈ ds.cache.tenants.keys ∧ listsWorkload tid w)
        (Datastore.getWorkloads ds.cache tid includePublic) := by
  have h := CatalogIndex.reachable reach
  exact ⟨h,fun _ _ _ listed => h.images.getImages_entries listed,h.workloads.getWorkloads_entries⟩

/-- A store with a tenant, a public and a private image, and a public and a private workload. -/
def seededCatalog : Db :=
  {Db.empty with
    tenants := [⟨"t",⟨"t",24⟩,.empty,.empty⟩]
    images := [⟨"a","","a",publicVisibility⟩,⟨"b","t","b","private"⟩]
    workloads := [⟨"w","",publicVisibility⟩,⟨"v","t","private"⟩]}

theorem catalog_index_seeded : CatalogIndex (Datastore.build seededCatalog.rows []) :=
  (catalog_index_reachable rowStore (.init (booted_rowStore seededCatalog []
    ⟨by decide,by decide,by decide,by decide,by decide⟩))).1

/-- Each cached image listed once: in `publicImages` when it is public, in `internalImages` when
it is internal, and under its tenant otherwise. -/
structure ImagesListedOnce (c : Cache) : Prop where
  public : Lists c.images (·.visibility = publicVisibility) c.publicImages
  internal : Lists c.images (·.visibility = internalVisibility) c.internalImages
  tenant : TenantLists c.tenants (·.images) c.images fun tid i =>
    i.visibility ≠ publicVisibility ∧ i.visibility ≠ internalVisibility ∧ i.tenantID = tid

/-- A tenant and a public image of its own, which `AddImage` lists both as public and under
the tenant. -/
def sharedImage : List Op :=
  [.addTenant "t" ⟨"t",24⟩,.addImage ⟨"i","t","i",publicVisibility⟩]

theorem images_listed_once_refuted : ¬ ∀ ds : Datastore Db,
    Reachable rowStore CatalogConsistent catalogOps ds → ImagesListedOnce ds.cache := by
  intro claim
  obtain ⟨ds,run,listed,cached⟩ : ∃ ds, runOps rowStore catalogOps
      ⟨Db.empty,Datastore.build Db.empty.rows []⟩ sharedImage = some ds ∧
      (ds.cache.tenants.get "t").map (·.images) = some ["i"] ∧
      ds.cache.images.get "i" = some ⟨"i","t","i",publicVisibility⟩ :=
    ⟨_,rfl,by decide,by decide⟩
  have reach : Reachable rowStore CatalogConsistent catalogOps ds :=
    .of_runOps (.init (booted_rowStore Db.empty [] ⟨.nil,.nil,nofun,nofun,nofun⟩)) run
  cases tenant : ds.cache.tenants.get "t" with
  | none => simp [tenant] at listed
  | some t =>
    simp only [tenant,Option.map_some',Option.some.injEq] at listed
    obtain ⟨i,got,priv,-⟩ := (((claim ds reach).tenant "t" t tenant).mem "i").mp (by simp [listed])
    rw [cached] at got; cases got
    exact priv rfl

/-- A private image of tenant "t" named "foo", then a public image of no tenant with the same
name. -/
def shadowingImages : List Op :=
  [.addImage ⟨"a","t","foo",privateVisibility⟩,.addImage ⟨"b","","foo",publicVisibility⟩]

/-- `AddImage` checks a new image's name in its own tenant's namespace only: the public image
"b" passes, since no public or internal image is named "foo", and tenant "t" then has two images
named "foo" in its resolution namespace, its private "a" and the public "b". -/
theorem image_name_shadowed : ∃ ds, runOps rowStore (fun _ _ => true) oneTenantDatastore shadowingImages = some ds ∧
    (ds.cache.tenants.get "t").map (·.images) = some ["a"] ∧ ds.cache.publicImages = ["b"] ∧
    (ds.cache.images.get "a").map (·.name) = some "foo" ∧ (ds.cache.images.get "b").map (·.name) = some "foo" :=
  ⟨_,rfl,by decide,by decide,by decide,by decide⟩

end CiaoDatastore
