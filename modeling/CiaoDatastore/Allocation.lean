import CiaoDatastore.TenantNetwork
import CiaoDatastore.Address
import CiaoDatastore.RowStore

/-! `AllocateTenantIPPool` against its contract. The scan's state always holds the old network
with exactly the claims made so far marked, each claim a fresh host of its subnet at an offset
`2 .. maxHosts - 2`; the host loop keeps this for every host it visits, the subnet loop for
every subnet, and the subnet loop stops within its `2^32` rounds because `start` rises by a
whole subnet and cannot pass `2^32` below the range's end. So the allocation returns `num`
addresses claimed in one store call, or fails leaving the tenant's network as it was. The scan
looks for a host only under its own subnet's base: the addresses are unmarked anywhere in the
network only when every host is marked under the base of its subnet, which a change of
`SubnetBits` breaks (`allocation_fresh_refuted`). The deferred activation's error never reaches
the caller (`activation_error_dropped`). -/
namespace CiaoDatastore
namespace Datastore

/-- A host the scan may claim, for a network `N` and prefix length `ones`: inside the subnet
`c.subnet`, at an offset `2 .. 2^(32-ones) - 2` from its base, and not marked in `N`. -/
structure Claimable (ones : Nat) (N : GoMap UInt32 (Finset UInt32)) (c : TenantIP) : Prop where
  subnet : c.host &&& Net.mask ones = c.subnet
  offset : 2 ≤ c.host.toNat - c.subnet.toNat ∧ c.host.toNat - c.subnet.toNat ≤ 2 ^ (32 - ones) - 2
  unmarked : c.host ∉ hostsIn N c.subnet

/-- Every host of the network is marked under the base of its subnet, for a prefix length `ones`. -/
def Placed (ones : Nat) (N : GoMap UInt32 (Finset UInt32)) : Prop :=
  ∀ s hosts, N.get s = some hosts → ∀ a ∈ hosts, a &&& Net.mask ones = s

/-- What the scan keeps true of its state, started on the network `N`: the network is `N`
with exactly the claims marked, the addresses and the count are the claims', and each claim
is a distinct claimable host. -/
structure Tracks (ones : Nat) (N : GoMap UInt32 (Finset UInt32)) (scan : Scan) : Prop where
  network : scan.network = scan.claims.foldl markHost N
  addrs : scan.addrs = scan.claims.map TenantIP.host
  count : scan.count = scan.claims.length
  nodup : scan.addrs.Nodup
  claimable : ∀ c ∈ scan.claims, Claimable ones N c

/-- Where a loop of the scan ends: with `num` addresses marked (`.inl`), or with fewer. -/
def Scanned (ones : Nat) (N : GoMap UInt32 (Finset UInt32)) (num : Int) : Scan ⊕ Scan → Prop
  | .inl scan => Tracks ones N scan ∧ scan.count = num
  | .inr scan => Tracks ones N scan ∧ scan.count < num

/-- The claims `AllocateTenantIPPool` makes for its addresses, each under its subnet base. -/
def claimsOf (ones : Nat) (addrs : List UInt32) : List TenantIP :=
  addrs.map fun a => ⟨a &&& Net.mask ones,a⟩

/-- What `AllocateTenantIPPool` promises for the cached tenant `t`: it returns, either `num`
distinct claimable addresses, marked under their subnet bases in `t`'s network and claimed in
one `claimTenantIPs` call that succeeded; or "out of addrs" with nothing changed; or the
claim's error with the caches as they were. -/
def AllocationContract {σ : Type} (P : PersistentStore σ) (ds : Datastore σ) (tenantID : String)
    (t : Tenant) (num : Int) : Outcome σ (Except Error (List UInt32)) → Prop
  | .returns ds' (.ok addrs) => (addrs.length : Int) = num ∧ addrs.Nodup ∧
    (∀ a ∈ addrs, Claimable t.config.subnetBits.toNat t.network ⟨a &&& Net.mask t.config.subnetBits.toNat,a⟩) ∧
    (P.call ds.db (.claimTenantIPs tenantID (claimsOf t.config.subnetBits.toNat addrs))).2 = none ∧
    ds' = ((ds.setNetwork tenantID t ((claimsOf t.config.subnetBits.toNat addrs).foldl markHost t.network)).call P
      (.claimTenantIPs tenantID (claimsOf t.config.subnetBits.toNat addrs))).1
  | .returns ds' (.error e) => (ds' = ds ∧ e = .new "out of addrs") ∨
    ∃ claims, (P.call ds.db (.claimTenantIPs tenantID claims)).2 = some e ∧
      ds' = ⟨(P.call ds.db (.claimTenantIPs tenantID claims)).1,ds.cache⟩
  | _ => False

section
variable {ones : Nat} {N : GoMap UInt32 (Finset UInt32)}

theorem Tracks.start : Tracks ones N ⟨N,[],[],0⟩ :=
  ⟨rfl,rfl,rfl,List.nodup_nil,fun _ mem => nomatch mem⟩

theorem Tracks.mark {scan : Scan} (tracks : Tracks ones N scan) {c : TenantIP}
    (claimable : Claimable ones scan.network c) :
    Tracks ones N ⟨markHost scan.network c,scan.addrs ++ [c.host],scan.claims ++ [c],scan.count + 1⟩ := by
  have older : ∀ s, hostsIn N s ⊆ hostsIn scan.network s := fun s a marked => by
    rw [tracks.network,mem_hostsIn_markHosts]; exact .inl marked
  have unclaimed : c.host ∉ scan.addrs := by
    rw [tracks.addrs]
    intro mem
    obtain ⟨d,claimed,same⟩ := List.mem_map.mp mem
    have at_subnet : d = c := by
      have subnets := (tracks.claimable _ claimed).subnet
      rw [same,claimable.subnet] at subnets
      cases d; cases c; simp_all
    apply claimable.unmarked
    rw [tracks.network,mem_hostsIn_markHosts,← at_subnet]
    exact .inr claimed
  refine ⟨by simp [tracks.network],by simp [tracks.addrs],by simp [tracks.count],
    List.nodup_append.mpr ⟨tracks.nodup,List.nodup_singleton _,by simpa using unclaimed⟩,?_⟩
  intro d mem
  rcases List.mem_append.mp mem with old | new
  · exact tracks.claimable d old
  · obtain rfl := List.mem_singleton.mp new
    exact ⟨claimable.subnet,claimable.offset,fun marked => claimable.unmarked (older _ marked)⟩

private theorem Tracks.claims_eq {scan : Scan} (tracks : Tracks ones N scan) : scan.claims = claimsOf ones scan.addrs := by
  rw [tracks.addrs,claimsOf,List.map_map]
  conv_lhs => rw [← List.map_id scan.claims]
  exact List.map_congr_left fun c mem => by
    obtain ⟨subnet,host⟩ := c
    have masked : host &&& Net.mask ones = subnet := (tracks.claimable _ mem).subnet
    simp [masked]

private theorem scanHosts_scanned {num : Int} {start : UInt32} (small : ones ≤ 32)
    (aligned : start.toNat % 2 ^ (32 - ones) = 0) (fuel host : Nat) (scan : Scan)
    (tracks : Tracks ones N scan) (below : scan.count < num) (first : 2 ≤ host)
    (last : host + fuel ≤ 2 ^ (32 - ones) - 1) :
    Scanned ones N num (scanHosts num start start host fuel scan) := by
  induction fuel generalizing host scan with
  | zero => exact ⟨tracks,below⟩
  | succ fuel ih =>
    obtain ⟨sum,masked⟩ := Net.offset_in_subnet host small aligned (by omega)
    simp only [scanHosts]
    split
    · exact ih (host + 1) scan tracks below (by omega) (by omega)
    · rename_i fresh
      have marked := tracks.mark (c := ⟨start,start + UInt32.ofNat host⟩)
        ⟨masked,by simp only [sum]; omega,fresh⟩
      split
      · exact ⟨marked,‹_›⟩
      · exact ih (host + 1) _ marked (by simp only at *; omega) (by omega) (by omega)

private theorem scanHosts_absent_subnet {num : Int} {start subnet : UInt32} {host fuel : Nat} {scan : Scan}
    (absent : scan.network.get subnet = none) :
    scanHosts num start subnet host (fuel + 1) {scan with network := scan.network.insert subnet ∅} =
      scanHosts num start subnet host (fuel + 1) scan := by
  simp [scanHosts,absent]

/-- The subnet loop keeps the invariant and stops while `start` stays aligned below `stop`,
with more rounds of fuel than addresses between them. -/
private theorem scanSubnets_scanned {num : Int} {stop : UInt32} (small : ones ≤ 30)
    (room : stop.toNat + 2 ^ (32 - ones) ≤ 2 ^ 32) (fuel : Nat) (start : UInt32) (scan : Scan)
    (tracks : Tracks ones N scan) (below : scan.count < num)
    (aligned : start.toNat % 2 ^ (32 - ones) = 0) (enough : stop.toNat - start.toNat < fuel) :
    ∃ r, scanSubnets num (2 ^ (32 - ones)) (Net.mask ones) stop fuel start scan = some r ∧
      Scanned ones N num r := by
  have four : 4 ≤ 2 ^ (32 - ones) :=
    le_trans (by norm_num) (Nat.pow_le_pow_right (by norm_num) (show 2 ≤ 32 - ones by omega))
  induction fuel generalizing start scan with
  | zero => omega
  | succ fuel ih =>
    simp only [scanSubnets]
    split
    · exact ⟨_,rfl,tracks,below⟩
    · rename_i running
      rw [Net.le_iff] at running
      have hosts : scanHosts num start (start &&& Net.mask ones) 2 (2 ^ (32 - ones) - 3)
          (if scan.network.get (start &&& Net.mask ones) = none
            then {scan with network := scan.network.insert (start &&& Net.mask ones) ∅} else scan) =
          scanHosts num start start 2 (2 ^ (32 - ones) - 3) scan := by
        rw [Net.masked_of_aligned (by omega) aligned,show 2 ^ (32 - ones) - 3 = (2 ^ (32 - ones) - 4) + 1 by omega]
        split
        · exact scanHosts_absent_subnet ‹_›
        · rfl
      rw [hosts]
      have scanned := scanHosts_scanned (by omega) aligned (2 ^ (32 - ones) - 3) 2 scan tracks below le_rfl (by omega)
      revert scanned
      cases scanHosts num start start 2 (2 ^ (32 - ones) - 3) scan with
      | inl done => exact fun scanned => ⟨_,rfl,scanned⟩
      | inr next =>
        rintro ⟨tracks',below'⟩
        have sum : (start + UInt32.ofNat (2 ^ (32 - ones))).toNat = start.toNat + 2 ^ (32 - ones) := by
          rw [Net.toNat_add,UInt32.toNat_ofNat_of_lt (show _ < 2 ^ 32 by omega)]
          exact Nat.mod_eq_of_lt (by omega)
        refine ih _ next tracks' below' ?_ ?_
        · rw [sum,Nat.add_mod_right,aligned]
        · rw [sum]; omega

end

private theorem tenantRange_stop : ∀ n ≤ 32,
    ((((2886729728 : UInt32) &&& Net.mask n) >>> 20 + 1) <<< 20).toNat ≤ 2887778304 := by decide

section
variable {σ : Type} (P : PersistentStore σ)

private theorem allocation_contract (ds : Datastore σ) {tenantID : String} {t : Tenant} (num : Int)
    (order : List UInt32) (cached : ds.cache.tenants.get tenantID = some t)
    (bits : 4 ≤ t.config.subnetBits ∧ t.config.subnetBits ≤ 30)
    (aligned : ∀ s hosts, t.network.get s = some hosts → s &&& Net.mask t.config.subnetBits.toNat = s)
    (clean : NoEmptySubnet t.network) (positive : 1 ≤ num) :
    AllocationContract P ds tenantID t num (ds.allocateTenantIPPool P tenantID num order) := by
  obtain ⟨low,high⟩ := bits
  have parse : Net.ParseCIDR ("172.16.0.0/" ++ toString t.config.subnetBits) =
      some (2886729728,⟨2886729728 &&& Net.mask t.config.subnetBits.toNat,t.config.subnetBits.toNat⟩) := by
    have range := Net.ParseCIDR_tenantRange t.config.subnetBits.toNat (by omega)
    rwa [Int.toNat_of_nonneg (by omega)] at range
  have room : ((((2886729728 : UInt32) &&& Net.mask t.config.subnetBits.toNat) >>> 20 + 1) <<< 20).toNat +
      2 ^ (32 - t.config.subnetBits.toNat) ≤ 2 ^ 32 := by
    have := tenantRange_stop t.config.subnetBits.toNat (by omega)
    have : 2 ^ (32 - t.config.subnetBits.toNat) ≤ 2 ^ 28 := Nat.pow_le_pow_right (by norm_num) (by omega)
    omega
  have start : ((firstSubnet t.network (2 ^ (32 - t.config.subnetBits.toNat)) order).getD
      (2886729728 &&& Net.mask t.config.subnetBits.toNat)).toNat % 2 ^ (32 - t.config.subnetBits.toNat) = 0 := by
    cases first : firstSubnet t.network (2 ^ (32 - t.config.subnetBits.toNat)) order with
    | none => exact Net.mask_aligned _ (by omega)
    | some k =>
      obtain ⟨hosts,found⟩ := firstSubnet_key first
      exact Net.aligned_of_masked (by omega) (aligned k hosts found)
  obtain ⟨r,scan_eq,scanned⟩ := scanSubnets_scanned (show t.config.subnetBits.toNat ≤ 30 by omega) room (2 ^ 32) _ _
    (Tracks.start (N := t.network)) (show (0 : Int) < num by omega) start (by omega)
  have restored : ∀ scan, Tracks t.config.subnetBits.toNat t.network scan →
      cleanTenantIPs scan.network scan.claims = t.network :=
    fun scan tracks => tracks.network ▸ cleanTenantIPs_markHosts clean
      (fun c mem => (tracks.claimable c mem).unmarked) _ fun _ => Iff.rfl
  simp only [allocateTenantIPPool,GetTenant_cached P cached,parse,cached,scan_eq]
  rcases r with scan | scan <;> obtain ⟨tracks,count⟩ := scanned <;>
    simp only [restored scan tracks,call_reply,setNetwork_db]
  · have claims := tracks.claims_eq
    have network := tracks.network
    rw [claims] at network
    cases reply : (P.call ds.db (.claimTenantIPs tenantID scan.claims)).2 with
    | some e =>
      refine .inr ⟨_,reply,?_⟩
      simp only [setNetwork,withCache,call,GoMap.insert_insert]
      rw [GoMap.insert_get cached]
    | none =>
      have cached' : ((ds.setNetwork tenantID t scan.network).call P
          (.claimTenantIPs tenantID scan.claims)).1.cache.tenants.get tenantID = some {t with network := scan.network} := by
        simp [setNetwork,withCache]
      obtain ⟨err,activated⟩ := activateSubnets_cached scan.addrs cached'
      simp only [activated,AllocationContract]
      refine ⟨?_,tracks.nodup,fun a mem => tracks.claimable _ ?_,claims ▸ reply,by rw [network,← claims]⟩
      · rw [tracks.addrs,List.length_map,← tracks.count,count]
      · rw [claims]; exact List.mem_map_of_mem _ mem
  · exact .inl ⟨setNetwork_self cached,rfl⟩

private theorem aligned_of_placed {ones : Nat} {N : GoMap UInt32 (Finset UInt32)} (placed : Placed ones N)
    (clean : NoEmptySubnet N) (s : UInt32) (hosts : Finset UInt32) (got : N.get s = some hosts) :
    s &&& Net.mask ones = s := by
  obtain ⟨a,mem⟩ := clean s hosts got
  rw [← placed s hosts got a mem,Net.mask_nested a le_rfl]

private theorem unmarked_of_placed {ones : Nat} {N : GoMap UInt32 (Finset UInt32)} (placed : Placed ones N) {c : TenantIP}
    (claimable : Claimable ones N c) (s : UInt32) : c.host ∉ hostsIn N s := by
  intro marked
  cases got : N.get s with
  | none => simp [hostsIn,got] at marked
  | some hosts =>
    have base := placed s hosts got c.host (by simpa [hostsIn,got] using marked)
    rw [claimable.subnet] at base
    exact claimable.unmarked (base ▸ marked)

/-- For a cached tenant with `SubnetBits` in `[4, 30]` whose network marks every host under the
base of its subnet and keeps no empty subnet, `AllocateTenantIPPool` meets its contract, and
none of the addresses it returns was marked anywhere in the network. -/
theorem allocateTenantIPPool_meets_contract (ds : Datastore σ) {tenantID : String} {t : Tenant} (num : Int)
    (order : List UInt32) (cached : ds.cache.tenants.get tenantID = some t)
    (bits : 4 ≤ t.config.subnetBits ∧ t.config.subnetBits ≤ 30) (placed : Placed t.config.subnetBits.toNat t.network)
    (clean : NoEmptySubnet t.network) (positive : 1 ≤ num) :
    AllocationContract P ds tenantID t num (ds.allocateTenantIPPool P tenantID num order) ∧
      ∀ ds' addrs, ds.allocateTenantIPPool P tenantID num order = .returns ds' (.ok addrs) →
        ∀ a ∈ addrs, ∀ s, a ∉ hostsIn t.network s := by
  have contract := allocation_contract P ds num order cached bits (aligned_of_placed placed clean) clean positive
  refine ⟨contract,fun ds' addrs allocated a mem => ?_⟩
  rw [allocated] at contract
  exact unmarked_of_placed placed (contract.2.2.1 a mem)

private theorem releaseTenantIP_cached {ds : Datastore σ} {tenantID : String} {t : Tenant} (a : UInt32)
    (cached : ds.cache.tenants.get tenantID = some t) (low : 0 ≤ t.config.subnetBits) (high : t.config.subnetBits ≤ 32) :
    ds.releaseTenantIP P tenantID (Net.ipString a) = some ((ds.setNetwork tenantID t
      (releaseHost t.network (a &&& Net.mask t.config.subnetBits.toNat) a)).call P
        (.releaseTenantIP tenantID (a &&& Net.mask t.config.subnetBits.toNat) a)) := by
  simp [releaseTenantIP,Net.ParseIP_ipString,GetTenant_cached P cached,Net.cidrMask_eq low high,cached]

/-- Releasing addresses one after another unmarks them all, whatever the store answers. -/
private theorem runOps_releaseTenantIP {t : Tenant} (tenantID : String) (low : 0 ≤ t.config.subnetBits)
    (high : t.config.subnetBits ≤ 32) (released : List UInt32) (ds : Datastore σ)
    (N : GoMap UInt32 (Finset UInt32)) (cached : ds.cache.tenants.get tenantID = some {t with network := N}) :
    ∃ ds', runOps P (fun _ _ => true) ds (released.map fun a => .releaseTenantIP tenantID (Net.ipString a)) = some ds' ∧
      ds'.cache.tenants.get tenantID = some {t with network := cleanTenantIPs N (claimsOf t.config.subnetBits.toNat released)} := by
  induction released generalizing ds N with
  | nil => exact ⟨ds,rfl,cached⟩
  | cons a released ih =>
    rw [List.map_cons,runOps,if_pos rfl]
    unfold Op.run
    dsimp only
    rw [releaseTenantIP_cached P a cached low high]
    exact ih _ _ (by simp [setNetwork,withCache])

end

theorem allocate_two_for_fresh_tenant :
    AllocationContract rowStore oneTenantDatastore "t" (tenantOfRow ⟨"t",⟨"t",24⟩,.empty,.empty⟩) 2
      (oneTenantDatastore.allocateTenantIPPool rowStore "t" 2 []) ∧
    ∀ ds' addrs, oneTenantDatastore.allocateTenantIPPool rowStore "t" 2 [] = .returns ds' (.ok addrs) →
      ∀ a ∈ addrs, ∀ s, a ∉ hostsIn (tenantOfRow ⟨"t",⟨"t",24⟩,.empty,.empty⟩).network s :=
  allocateTenantIPPool_meets_contract rowStore oneTenantDatastore 2 [] rfl ⟨by decide,by decide⟩
    (fun _ _ found => by cases found) (fun _ _ found => by cases found) (by decide)

/-- A tenant of `SubnetBits` 24 given the 17 addresses 172.16.0.2 to 172.16.0.18, then patched to
`SubnetBits` 28, which `JSONPatchTenant` allows while the tenant has no instance. -/
def patchedTenantOps : List Op :=
  [.addTenant "t" ⟨"t",24⟩,.allocateTenantIPPool "t" 17 [],.jsonPatchTenant "t" (.ok ⟨none,some (some 28)⟩)]

/-- The hosts stay marked under 172.16.0.0, the base of their /24 and of a /28. The next
allocation finds that /28 full, moves on to 172.16.0.16, which has no host set, and returns
172.16.0.18 a second time, although the network's keys are aligned and its host sets non-empty. -/
theorem allocation_fresh_refuted : ¬ ∀ (ds : Datastore Db) (tenantID : String) (t : Tenant) (num : Int)
    (order : List UInt32) (ds' : Datastore Db) (addrs : List UInt32), ds.cache.tenants.get tenantID = some t →
    4 ≤ t.config.subnetBits ∧ t.config.subnetBits ≤ 30 →
    (∀ s hosts, t.network.get s = some hosts → s &&& Net.mask t.config.subnetBits.toNat = s) →
    NoEmptySubnet t.network → 1 ≤ num → ds.allocateTenantIPPool rowStore tenantID num order = .returns ds' (.ok addrs) →
    ∀ a ∈ addrs, ∀ s, a ∉ hostsIn t.network s := by
  intro claim
  obtain ⟨ds,t,ds',-,cached,bits,keys,marked,allocated⟩ : ∃ ds t ds',
      runOps rowStore (fun _ _ => true) emptyDatastore patchedTenantOps = some ds ∧
      ds.cache.tenants.get "t" = some t ∧ t.config.subnetBits = 28 ∧ t.network.keys = {2886729728} ∧
      2886729746 ∈ hostsIn t.network 2886729728 ∧
      ds.allocateTenantIPPool rowStore "t" 1 [2886729728] = .returns ds' (.ok [2886729746]) :=
    ⟨_,_,_,rfl,rfl,rfl,by decide,by decide,rfl⟩
  have base : ∀ s hosts, t.network.get s = some hosts → s = 2886729728 := fun s hosts got =>
    Finset.mem_singleton.mp (keys ▸ (GoMap.mem_keys_iff _ _).mpr ⟨hosts,got⟩)
  refine claim ds "t" t 1 [2886729728] ds' [2886729746] cached (by rw [bits]; decide) (fun s hosts got => ?_)
    (fun s hosts got => ?_) le_rfl allocated _ (List.mem_singleton_self _) _ marked
  · rw [base s hosts got,bits]; decide
  · obtain rfl := base s hosts got
    exact ⟨_,by simpa [hostsIn,got] using marked⟩

/-- A tenant of `SubnetBits` 30 whose only marked host, 172.31.255.254, is the last usable
one of the tenant range `172.16.0.0/12`. -/
def lastHostStore : Db :=
  {Db.empty with tenants := [⟨"t",⟨"t",30⟩,GoMap.empty.insert 2887778300 {2887778302},.empty⟩]}

/-- The scan starts at the subnet the map offers, 172.31.255.252, whose `1 < maxHosts` entries
pass the start check although its one usable host is taken, and it never wraps back to
172.16.0.0, whose host 172.16.0.2 is free. -/
theorem out_of_addrs_with_free_host : ∃ t ds',
    (build lastHostStore.rows []).tenants.get "t" = some t ∧ t.config.subnetBits = 30 ∧
    t.network.Enumerates [2887778300] ∧
    (∀ s hosts, t.network.get s = some hosts → s &&& Net.mask 30 = s) ∧ NoEmptySubnet t.network ∧
    Claimable 30 t.network ⟨2886729728,2886729730⟩ ∧
    (⟨lastHostStore,build lastHostStore.rows []⟩ : Datastore Db).allocateTenantIPPool rowStore "t" 1 [2887778300] =
      .returns ds' (.error (.new "out of addrs")) := by
  refine ⟨tenantOfRow ⟨"t",⟨"t",30⟩,GoMap.empty.insert 2887778300 {2887778302},.empty⟩,_,rfl,rfl,
    by unfold GoMap.Enumerates; exact ⟨List.nodup_singleton _,fun k => by simp [tenantOfRow]⟩,
    fun s hosts found => ?_,fun s hosts found => ?_,⟨by decide,by decide,by decide⟩,rfl⟩ <;>
  · simp only [tenantOfRow,GoMap.get_insert,GoMap.get_empty] at found
    split at found
    · rename_i same; cases found; subst same; decide
    · cases found

section
variable {σ : Type} (P : PersistentStore σ)

theorem release_restores_network (ds : Datastore σ) {tenantID : String} {t : Tenant} {num : Int}
    {order : List UInt32} {ds' : Datastore σ} {addrs released : List UInt32}
    (cached : ds.cache.tenants.get tenantID = some t)
    (bits : 4 ≤ t.config.subnetBits ∧ t.config.subnetBits ≤ 30)
    (aligned : ∀ s hosts, t.network.get s = some hosts → s &&& Net.mask t.config.subnetBits.toNat = s)
    (clean : NoEmptySubnet t.network) (positive : 1 ≤ num)
    (allocated : ds.allocateTenantIPPool P tenantID num order = .returns ds' (.ok addrs))
    (reordered : released.Perm addrs) :
    ∃ ds'', runOps P (fun _ _ => true) ds' (released.map fun a => .releaseTenantIP tenantID (Net.ipString a)) = some ds'' ∧
      ds''.cache.tenants.get tenantID = some t := by
  have contract := allocation_contract P ds num order cached bits aligned clean positive
  rw [allocated] at contract
  obtain ⟨-,-,claimable,-,rfl⟩ := contract
  have fresh : ∀ ip ∈ claimsOf t.config.subnetBits.toNat addrs, ip.host ∉ hostsIn t.network ip.subnet := by
    simp only [claimsOf,List.mem_map]
    rintro _ ⟨a,mem,rfl⟩
    exact (claimable a mem).unmarked
  obtain ⟨ds'',run,found⟩ := runOps_releaseTenantIP P (t := t) tenantID (by omega) (by omega) released
    ((ds.setNetwork tenantID t ((claimsOf t.config.subnetBits.toNat addrs).foldl markHost t.network)).call P
      (.claimTenantIPs tenantID (claimsOf t.config.subnetBits.toNat addrs))).1
    ((claimsOf t.config.subnetBits.toNat addrs).foldl markHost t.network) (by simp [setNetwork,withCache])
  refine ⟨ds'',run,found.trans ?_⟩
  rw [cleanTenantIPs_markHosts clean fresh (claimsOf _ released) fun _ => (reordered.map _).mem_iff]

end

theorem release_after_allocate_fresh_tenant : ∃ ds' ds'',
    oneTenantDatastore.allocateTenantIPPool rowStore "t" 1 [] = .returns ds' (.ok [2886729730]) ∧
    runOps rowStore (fun _ _ => true) ds' [.releaseTenantIP "t" (Net.ipString 2886729730)] = some ds'' ∧
    ds''.cache.tenants.get "t" = some (tenantOfRow ⟨"t",⟨"t",24⟩,.empty,.empty⟩) := by
  obtain ⟨ds',allocated⟩ : ∃ ds', oneTenantDatastore.allocateTenantIPPool rowStore "t" 1 [] =
      .returns ds' (.ok [2886729730]) := ⟨_,rfl⟩
  have cached : oneTenantDatastore.cache.tenants.get "t" = some (tenantOfRow ⟨"t",⟨"t",24⟩,.empty,.empty⟩) := rfl
  obtain ⟨ds'',run,restored⟩ := release_restores_network rowStore oneTenantDatastore cached ⟨by decide,by decide⟩
    (fun _ _ found => by cases found) (fun _ _ found => by cases found) le_rfl allocated (List.Perm.refl _)
  exact ⟨ds',ds'',allocated,run,restored⟩

/-- A CNCI controller whose subnets never become active. -/
def inactiveCnci : CnciCtrl := ⟨fun _ => some (.new "subnet not active"),fun _ => none⟩

/-- `oneTenantDatastore` with that controller attached to "t". -/
def cnciTenantDatastore : Datastore Db :=
  let t : Tenant := {tenantOfRow ⟨"t",⟨"t",24⟩,.empty,.empty⟩ with cnciCtrl := some inactiveCnci}
  oneTenantDatastore.withCache {oneTenantDatastore.cache with tenants := oneTenantDatastore.cache.tenants.insert "t" t}

/-- The allocation claims 172.16.0.2 and returns it with no error, although activating its
subnet fails. -/
theorem activation_error_dropped : ∃ ds',
    cnciTenantDatastore.allocateTenantIPPool rowStore "t" 1 [] = .returns ds' (.ok [2886729730]) ∧
    ds'.activateSubnets "t" [2886729730] = some (some (.new "subnet not active")) :=
  ⟨_,rfl,rfl⟩

end Datastore
end CiaoDatastore
