import CiaoDatastore.Tenant

/-! A tenant's network map, `subnet base ↦ marked hosts`, read as a set of marked addresses.
`AllocateTenantIPPool` marks a host under its subnet, `ReleaseTenantIP` and `cleanTenantIPs`
unmark it and drop a subnet with its last host. A network with no empty host set is determined
by the hosts it marks, so releasing the claims of an allocation, in any order, gives back the
network it started from. -/
namespace CiaoDatastore
namespace Datastore

/-- The hosts a network marks in subnet `s`; a subnet with no map marks none. -/
def hostsIn (network : GoMap UInt32 (Finset UInt32)) (s : UInt32) : Finset UInt32 :=
  (network.get s).getD ∅

/-- The mark `AllocateTenantIPPool`'s host loop makes for one claimed address. -/
def markHost (network : GoMap UInt32 (Finset UInt32)) (ip : TenantIP) : GoMap UInt32 (Finset UInt32) :=
  network.insert ip.subnet (insert ip.host (hostsIn network ip.subnet))

/-- The representation invariant of a tenant network: no subnet keeps an empty host set. -/
def NoEmptySubnet (network : GoMap UInt32 (Finset UInt32)) : Prop :=
  ∀ s hosts, network.get s = some hosts → hosts.Nonempty

section
variable {N : GoMap UInt32 (Finset UInt32)}

@[simp] theorem hostsIn_markHost (ip : TenantIP) (s : UInt32) :
    hostsIn (markHost N ip) s = if s = ip.subnet then insert ip.host (hostsIn N s) else hostsIn N s := by
  by_cases same : s = ip.subnet <;> simp [hostsIn,markHost,same]

@[simp] theorem hostsIn_releaseHost (subnet host s : UInt32) :
    hostsIn (releaseHost N subnet host) s = if s = subnet then (hostsIn N s).erase host else hostsIn N s := by
  unfold releaseHost hostsIn
  by_cases emptied : ((N.get subnet).getD ∅).erase host = ∅
  · by_cases same : s = subnet
    · subst same; simp [emptied]
    · simp [emptied,same]
  · by_cases same : s = subnet <;> simp [emptied,same]

theorem mem_hostsIn_markHosts (ips : List TenantIP) (s a : UInt32) :
    a ∈ hostsIn (ips.foldl markHost N) s ↔ a ∈ hostsIn N s ∨ ⟨s,a⟩ ∈ ips := by
  induction ips generalizing N with
  | nil => simp
  | cons ip ips ih =>
    obtain ⟨subnet,host⟩ := ip
    rw [List.foldl_cons,ih]
    by_cases same : s = subnet <;> simp [same]
    tauto

private theorem mem_hostsIn_cleanTenantIPs (ips : List TenantIP) (s a : UInt32) :
    a ∈ hostsIn (cleanTenantIPs N ips) s ↔ a ∈ hostsIn N s ∧ ⟨s,a⟩ ∉ ips := by
  induction ips generalizing N with
  | nil => simp [cleanTenantIPs]
  | cons ip ips ih =>
    obtain ⟨subnet,host⟩ := ip
    simp only [cleanTenantIPs,List.foldl_cons] at ih ⊢
    rw [ih]
    by_cases same : s = subnet <;> simp [same]
    tauto

theorem NoEmptySubnet.markHost (clean : NoEmptySubnet N) (ip : TenantIP) : NoEmptySubnet (markHost N ip) := by
  intro s hosts found
  simp only [Datastore.markHost,GoMap.get_insert] at found
  split at found
  · cases found; exact Finset.insert_nonempty _ _
  · exact clean s hosts found

theorem NoEmptySubnet.releaseHost (clean : NoEmptySubnet N) (subnet host : UInt32) :
    NoEmptySubnet (releaseHost N subnet host) := by
  intro s hosts found
  simp only [Datastore.releaseHost] at found
  split at found
  · simp only [GoMap.get_delete] at found
    split at found
    · cases found
    · exact clean s hosts found
  · rename_i kept
    simp only [GoMap.get_insert] at found
    split at found
    · cases found; exact Finset.card_pos.mp (Nat.pos_of_ne_zero kept)
    · exact clean s hosts found

private theorem NoEmptySubnet.markHosts (clean : NoEmptySubnet N) (ips : List TenantIP) :
    NoEmptySubnet (ips.foldl Datastore.markHost N) := by
  induction ips generalizing N with
  | nil => exact clean
  | cons ip ips ih => exact ih (clean.markHost ip)

theorem NoEmptySubnet.cleanTenantIPs (clean : NoEmptySubnet N) (ips : List TenantIP) :
    NoEmptySubnet (Datastore.cleanTenantIPs N ips) := by
  induction ips generalizing N with
  | nil => exact clean
  | cons ip ips ih => exact ih (clean.releaseHost ip.subnet ip.host)

theorem NoEmptySubnet.ext {N' : GoMap UInt32 (Finset UInt32)} (clean : NoEmptySubnet N)
    (clean' : NoEmptySubnet N') (same : ∀ s, hostsIn N s = hostsIn N' s) : N = N' := by
  ext1 s
  have hosts := same s
  unfold hostsIn at hosts
  cases found : N.get s <;> cases found' : N'.get s <;> simp only [found,found',Option.getD] at hosts
  · rfl
  · exact absurd hosts.symm (clean' s _ found').ne_empty
  · exact absurd hosts (clean s _ found).ne_empty
  · rw [hosts]

/-- Releasing the claims of a batch of fresh marks, in any order, restores the network. -/
theorem cleanTenantIPs_markHosts (clean : NoEmptySubnet N) {ips : List TenantIP}
    (fresh : ∀ ip ∈ ips, ip.host ∉ hostsIn N ip.subnet) (released : List TenantIP)
    (same : ∀ ip, ip ∈ released ↔ ip ∈ ips) : cleanTenantIPs (ips.foldl markHost N) released = N := by
  refine ((clean.markHosts ips).cleanTenantIPs released).ext clean fun s => Finset.ext fun a => ?_
  rw [mem_hostsIn_cleanTenantIPs,mem_hostsIn_markHosts,same]
  constructor
  · rintro ⟨marked | claimed,unclaimed⟩
    · exact marked
    · exact absurd claimed unclaimed
  · intro marked
    exact ⟨.inl marked,fun claimed => fresh _ claimed marked⟩

theorem firstSubnet_key {maxHosts : Nat} {order : List UInt32} {k : UInt32}
    (first : firstSubnet N maxHosts order = some k) : ∃ hosts, N.get k = some hosts := by
  induction order with
  | nil => cases first
  | cons s order ih =>
    simp only [firstSubnet] at first
    split at first
    · split at first
      · cases first; exact ⟨_,‹_›⟩
      · exact ih first
    · exact ih first

end

section
variable {σ : Type} (P : PersistentStore σ) {ds : Datastore σ} {tenantID : String} {t : Tenant}

@[simp] theorem setNetwork_db (N : GoMap UInt32 (Finset UInt32)) : (ds.setNetwork tenantID t N).db = ds.db := rfl

theorem setNetwork_self (cached : ds.cache.tenants.get tenantID = some t) : ds.setNetwork tenantID t t.network = ds := by
  simp only [setNetwork,withCache]
  rw [GoMap.insert_get cached]

theorem GetTenant_cached (cached : ds.cache.tenants.get tenantID = some t) :
    ds.GetTenant P tenantID = (ds,.ok (some t)) := by
  simp [GetTenant,getTenant,cached]

theorem activateSubnets_cached (IPs : List UInt32) (cached : ds.cache.tenants.get tenantID = some t) :
    ∃ err, ds.activateSubnets tenantID IPs = some err := by
  simp only [activateSubnets,cached]
  split <;> exact ⟨_,rfl⟩

end

end Datastore
end CiaoDatastore
