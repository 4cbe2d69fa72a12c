import CiaoDatastore.RowStore
import CiaoDatastore.Address

/-! The address scans of the external pools. `DeleteSubnet` walks a subnet from its network
address and `MapExternalIP` from the address after it, both with `incrementIP` while
`IPNet.Contains` holds. The walk of `MapExternalIP` reaches the broadcast address, which
`AddExternalSubnet` did not count among the subnet's `2^(32-n) - 2` usable ones. A `/0` subnet
contains every address, and `incrementIP` wraps from 255.255.255.255 to 0.0.0.0, so a walk over
it stops only at a mapped address: `AddExternalSubnet` admits `0.0.0.0/0`, and `DeleteSubnet`
of it never returns. The check of `isDuplicateSubnet` is exact: it rejects a subnet that
shares an address with a registered one, and only such a subnet. -/
namespace CiaoDatastore
namespace Datastore
variable {σ : Type} (P : PersistentStore σ)

private theorem contains_whole_space (a ip : UInt32) : (⟨a,0⟩ : Net.IPNet).contains ip = true := by
  have zero : Net.mask 0 = 0 := rfl
  simp only [Net.IPNet.contains,zero,beq_iff_eq]
  exact UInt32.toNat.inj (by rw [UInt32.and_toNat,UInt32.and_toNat]; simp)

private theorem subnetMapped_whole_space (mapped : GoMap String MappedIP) (unmapped : mapped.keys = ∅)
    (a : UInt32) (fuel : Nat) (ip : UInt32) : subnetMapped mapped ⟨a,0⟩ fuel ip = none := by
  induction fuel generalizing ip with
  | zero => rfl
  | succ fuel ih => simp [subnetMapped,contains_whole_space,unmapped,ih]

/-- `DeleteSubnet` of a `0.0.0.0/0` subnet never returns while no address is mapped. -/
private theorem deleteSubnet_whole_space {ds : Datastore σ} {poolID subnetID : String} {p : Pool} {i : Nat}
    (found : ds.cache.pools.get poolID = some p) (first : p.subnets.findIdx? (·.id = subnetID) = some i)
    (whole : (p.subnets.getD i default).cidr = "0.0.0.0/0") (unmapped : ds.cache.mappedIPs.keys = ∅) :
    ds.deleteSubnet P poolID subnetID = none := by
  have parsed : Net.ParseCIDR "0.0.0.0/0" = some (0,⟨0 &&& Net.mask 0,0⟩) := rfl
  simp only [deleteSubnet,found,first,whole,parsed,subnetMapped_whole_space _ unmapped]

/-- Where `MapExternalIP` may take an address from: an address of a subnet of the pool, or one
of the pool's own addresses. -/
def InPool (pool : Pool) (addr : String) : Prop :=
  (∃ sub ∈ pool.subnets, ∃ ip ipNet a, Net.ParseCIDR sub.cidr = some (ip,ipNet) ∧
    addr = Net.ipString a ∧ ipNet.contains a = true) ∨
  ∃ x ∈ pool.ips, x.address = addr

private theorem firstFree_found {mapped : GoMap String MappedIP} {ipNet : Net.IPNet} {fuel : Nat} {ip : UInt32}
    {addr : String} (found : firstFree mapped ipNet fuel ip = some (some addr)) :
    ∃ a, addr = Net.ipString a ∧ ipNet.contains a = true ∧ addr ∉ mapped.keys := by
  induction fuel generalizing ip with
  | zero => cases found
  | succ fuel ih =>
    simp only [firstFree] at found
    split at found
    · cases found
    · rename_i inside
      split at found
      · cases found; exact ⟨ip,rfl,by simpa using inside,‹_›⟩
      · exact ih found

private theorem freeInSubnets_found {mapped : GoMap String MappedIP} {subnets : List ExternalSubnet} {addr : String}
    (found : freeInSubnets mapped subnets = some (.ok (some addr))) :
    (∃ sub ∈ subnets, ∃ ip ipNet a, Net.ParseCIDR sub.cidr = some (ip,ipNet) ∧
      addr = Net.ipString a ∧ ipNet.contains a = true) ∧ addr ∉ mapped.keys := by
  induction subnets with
  | nil => cases found
  | cons sub rest ih =>
    simp only [freeInSubnets] at found
    split at found
    · cases found
    · rename_i ip ipNet parsed
      split at found
      · cases found
      · rename_i walked
        cases found
        obtain ⟨a,rfl,inside,free⟩ := firstFree_found walked
        exact ⟨⟨sub,List.mem_cons_self _ _,ip,ipNet,a,parsed,rfl,inside⟩,free⟩
      · obtain ⟨⟨s,mem,rest⟩,free⟩ := ih found
        exact ⟨⟨s,List.mem_cons_of_mem _ mem,rest⟩,free⟩

/-- The address `MapExternalIP` picks, from the walk of the subnets or else from the pool's own
addresses, is of the pool and unmapped. -/
theorem chosen_address_inPool {mapped : GoMap String MappedIP} {pool : Pool} {addr : String}
    (chosen : (match freeInSubnets mapped pool.subnets with
      | some (.ok none) => some (.ok ((pool.ips.find? fun ip => ip.address ∉ mapped.keys).map (·.address)))
      | other => other) = some (.ok (some addr))) :
    InPool pool addr ∧ addr ∉ mapped.keys := by
  split at chosen
  · obtain ⟨x,found,rfl⟩ := Option.map_eq_some'.mp (Except.ok.inj (Option.some.inj chosen))
    exact ⟨.inr ⟨x,List.mem_of_find?_eq_some found,rfl⟩,by simpa using List.find?_some found⟩
  · obtain ⟨inSubnet,free⟩ := freeInSubnets_found chosen
    exact ⟨.inl inSubnet,free⟩

/-- A mapping `MapExternalIP` returns is of an address of the pool that no mapping held, and it
is cached under that address. -/
theorem mapExternalIP_fresh {ds ds' : Datastore σ} {poolID instanceID uuid : String} {m : MappedIP}
    (mapped : ds.mapExternalIP P poolID instanceID uuid = some (ds',.ok m)) :
    ∃ pool, ds.cache.pools.get poolID = some pool ∧ InPool pool m.externalIP ∧
      m.externalIP ∉ ds.cache.mappedIPs.keys ∧ m.instanceID = instanceID ∧ m.poolID = pool.id ∧
      ds'.cache.mappedIPs.get m.externalIP = some m := by
  unfold mapExternalIP at mapped
  split at mapped
  · cases mapped
  · split at mapped
    · cases mapped
    · rename_i pool found
      split at mapped
      · cases mapped
      · dsimp only [call] at mapped
        split at mapped
        · cases mapped
        · cases mapped
        · cases mapped
        · rename_i addr chosen
          obtain ⟨inPool,free⟩ := chosen_address_inPool chosen
          split at mapped
          · cases mapped
          · split at mapped
            · cases mapped
            · cases mapped
              exact ⟨pool,found,inPool,free,rfl,rfl,by simp⟩

/-- `isDuplicateSubnet`, once every registered subnet parses, answers whether one of them
shares an address with the new subnet. -/
theorem isDuplicateSubnet_iff_overlap {c : Cache} {new : Net.IPNet} {dup : Bool}
    (checked : isDuplicateSubnet c new = some dup) :
    dup = true ↔ ∃ s ∈ c.externalSubnets, ∃ subnet ∈ (Net.ParseCIDR s).map Prod.snd,
      ∃ x, subnet.contains x = true ∧ new.contains x = true := by
  unfold isDuplicateSubnet at checked
  split at checked
  · cases checked
    rw [decide_eq_true_iff]
    constructor
    · rintro ⟨s,registered,subnet,parsed,inSubnet | inNew⟩
      · exact ⟨s,registered,subnet,parsed,new.ip,inSubnet,new.contains_self⟩
      · exact ⟨s,registered,subnet,parsed,subnet.ip,subnet.contains_self,inNew⟩
    · rintro ⟨s,registered,subnet,parsed,x,inSubnet,inNew⟩
      exact ⟨s,registered,subnet,parsed,Net.contains_ip_of_shared inSubnet inNew⟩
  · cases checked

/-- The pool subnet `10.0.0.0/24`. -/
def slash24Subnet : Cache := {emptyDatastore.cache with externalSubnets := {"10.0.0.0/24"}}

/-- `10.0.0.128/25` lies inside `10.0.0.0/24`. -/
theorem isDuplicateSubnet_nested : isDuplicateSubnet slash24Subnet ⟨167772288,25⟩ = some true ∧
    ∃ s ∈ slash24Subnet.externalSubnets, ∃ subnet ∈ (Net.ParseCIDR s).map Prod.snd,
      ∃ x, subnet.contains x = true ∧ (⟨167772288,25⟩ : Net.IPNet).contains x = true := by
  have checked : isDuplicateSubnet slash24Subnet ⟨167772288,25⟩ = some true := by decide
  exact ⟨checked,(isDuplicateSubnet_iff_overlap checked).mp rfl⟩

/-- A pool given the subnet `0.0.0.0/0`. -/
def wholeSpacePool : List Op :=
  [.addPool ⟨"p","pool",0,0,[],[]⟩,.addExternalSubnet "p" "0.0.0.0/0" "s"]

/-- `AddExternalSubnet` admits `0.0.0.0/0`, with `2^32 - 2` usable addresses, and `DeleteSubnet`
of it then never returns. -/
theorem whole_space_subnet_scan_loops : ∃ ds,
    runOps rowStore (fun _ _ => true) emptyDatastore wholeSpacePool = some ds ∧
    ds.cache.pools.get "p" = some ⟨"p","pool",4294967294,4294967294,[⟨"s","0.0.0.0/0"⟩],[]⟩ ∧
    ds.deleteSubnet rowStore "p" "s" = none :=
  ⟨_,rfl,rfl,deleteSubnet_whole_space rowStore rfl rfl rfl rfl⟩

/-- A pool of one address, 10.0.1.1, and the subnet 10.0.0.0/30, whose usable addresses are
10.0.0.1 and 10.0.0.2, with two of its addresses mapped. -/
def broadcastPool : List Op :=
  [.addPool ⟨"p","pool",1,1,[],[⟨"x","10.0.1.1"⟩]⟩,.addExternalSubnet "p" "10.0.0.0/30" "s",
    .addInstance {(default : Instance) with id := "i"} 0,.mapExternalIP "p" "i" "m1",
    .mapExternalIP "p" "i" "m2"]

/-- The pool counts three usable addresses. The third mapping is the broadcast address
10.0.0.3 of the subnet, and a fourth fails with `ErrPoolEmpty` while 10.0.1.1 is unmapped. -/
theorem broadcast_address_mapped : ∃ ds ds' m ds'',
    runOps rowStore (fun _ _ => true) emptyDatastore broadcastPool = some ds ∧
    (ds.cache.pools.get "p").map (·.totalIPs) = some 3 ∧
    ds.mapExternalIP rowStore "p" "i" "m3" = some (ds',.ok m) ∧ m.externalIP = "10.0.0.3" ∧
    ds'.mapExternalIP rowStore "p" "i" "m4" = some (ds'',.error (.sentinel .errPoolEmpty)) ∧
    "10.0.1.1" ∉ ds''.cache.mappedIPs.keys :=
  ⟨_,_,_,_,rfl,rfl,rfl,rfl,rfl,by decide⟩

theorem third_mapping_fresh : ∃ ds ds' m, runOps rowStore (fun _ _ => true) emptyDatastore broadcastPool = some ds ∧
    ds.mapExternalIP rowStore "p" "i" "m3" = some (ds',.ok m) ∧
    ∃ pool, ds.cache.pools.get "p" = some pool ∧ InPool pool m.externalIP ∧
      m.externalIP ∉ ds.cache.mappedIPs.keys ∧ m.instanceID = "i" ∧ m.poolID = pool.id ∧
      ds'.cache.mappedIPs.get m.externalIP = some m :=
  ⟨_,_,_,rfl,rfl,mapExternalIP_fresh rowStore rfl⟩

end Datastore
end CiaoDatastore
