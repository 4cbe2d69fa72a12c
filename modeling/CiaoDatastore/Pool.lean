import CiaoDatastore.Instance

/-! External IP pools. The cached `Pool` is a Go struct value whose `Subnets` and `IPs`
slices share their backing arrays with every copy; `DeleteSubnet` and `DeleteExternalIP`
remove an element with `append(s[:i], s[i+1:]...)` on such a copy, which shifts the cached
pool's elements too, so when the store then fails the cached pool keeps a shifted list with its
last element twice. The scans over a subnet's addresses advance with `incrementIP` and are run
on a counter of `2^32` rounds: an address cycles with period `2^32`. A key of
`externalSubnets` that does not parse makes the duplicate checks panic (`none`); the stored
keys are the CIDRs the pools were admitted with. -/
namespace CiaoDatastore
namespace Datastore
variable {σ : Type} (P : PersistentStore σ)

/-- `net.ParseCIDR`'s error. -/
def cidrError (text : String) : Error := .new ("invalid CIDR address: " ++ text)

/-- The next address, as `incrementIP` makes it on the four bytes of `net.IP`. -/
def nextIP (ip : UInt32) : UInt32 := Net.ofBytes (Net.incrementIP (Net.toBytes ip))

/-- `isDuplicateSubnet`: some pool subnet contains the new one's address or the other way. -/
def isDuplicateSubnet (c : Cache) (new : Net.IPNet) : Option Bool :=
  if (∀ s ∈ c.externalSubnets, Net.ParseCIDR s ≠ none) then
    some (decide (∃ s ∈ c.externalSubnets, ∃ subnet ∈ (Net.ParseCIDR s).map Prod.snd,
      subnet.contains new.ip = true ∨ new.contains subnet.ip = true))
  else none

/-- `isDuplicateIP`: the address is in a pool subnet or is already a pool's. -/
def isDuplicateIP (c : Cache) (new : UInt32) : Option Bool :=
  if (∀ s ∈ c.externalSubnets, Net.ParseCIDR s ≠ none) then
    some (decide ((∃ s ∈ c.externalSubnets, ∃ subnet ∈ (Net.ParseCIDR s).map Prod.snd,
      subnet.contains new = true) ∨ Net.ipString new ∈ c.externalIPs))
  else none

/-- The subnet loop of `AddPool`: each subnet is checked against the ones registered so far,
its own predecessors included, and registered at once. -/
def addPoolSubnets (c : Cache) : List ExternalSubnet → Option (Cache × Option Error)
  | [] => some (c,none)
  | subnet :: rest =>
    match Net.ParseCIDR subnet.cidr with
    | none => some (c,some (.wrap ("unable to parse subnet CIDR (" ++ subnet.cidr ++ ")")
        (cidrError subnet.cidr)))
    | some (_,newSubnet) =>
      match isDuplicateSubnet c newSubnet with
      | none => none
      | some true => some (c,some (.sentinel .errDuplicateSubnet))
      | some false => addPoolSubnets {c with externalSubnets := insert subnet.cidr c.externalSubnets} rest

/-- The address loop of `AddPool`: the addresses, or the first error. -/
def addPoolIPs (c : Cache) : List ExternalIP → Option (Except Error (List UInt32))
  | [] => some (.ok [])
  | newIP :: rest =>
    match Net.ParseIP newIP.address with
    | none => some (.error (.sentinel .errInvalidIP))
    | some ip =>
      match isDuplicateIP c ip with
      | none => none
      | some true => some (.error (.sentinel .errDuplicateIP))
      | some false => (addPoolIPs c rest).map fun rest => rest.map (ip :: ·)

/-- `DeletePool`: the cached pool goes whether or not the store deletes it. -/
def deletePool (ds : Datastore σ) (id : String) : Datastore σ × Option Error :=
  match ds.cache.pools.get id with
  | none => (ds,some (.sentinel .errPoolNotFound))
  | some p =>
    if p.free ≠ p.totalIPs then (ds,some (.sentinel .errPoolNotEmpty)) else
    let (ds,err) := ds.call P (.deletePool id)
    (ds.withCache {ds.cache with
      externalSubnets := p.subnets.foldl (fun s subnet => s.erase subnet.cidr) ds.cache.externalSubnets
      externalIPs := p.ips.foldl (fun s ip => s.erase ip.address) ds.cache.externalIPs
      pools := ds.cache.pools.delete id},
      Error.wrapNil ("error deleting pool (" ++ id ++ ") from database") err)

/-- `AddPool`: a pool with subnets registers them one by one and keeps those registered before
a rejected one; otherwise its addresses are all checked, then registered. A failed store write
is undone by `DeletePool`. -/
def addPool (ds : Datastore σ) (pool : Pool) : Option (Datastore σ × Option Error) :=
  let checked : Option (Cache × Option Error) :=
    if pool.subnets ≠ [] then addPoolSubnets ds.cache pool.subnets
    else if pool.ips ≠ [] then
      match addPoolIPs ds.cache pool.ips with
      | none => none
      | some (.error e) => some (ds.cache,some e)
      | some (.ok newIPs) => some ({ds.cache with
          externalIPs := newIPs.foldl (fun s ip => insert (Net.ipString ip) s) ds.cache.externalIPs},none)
    else some (ds.cache,none)
  match checked with
  | none => none
  | some (c,some e) => some (ds.withCache c,some e)
  | some (c,none) =>
    let (ds,err) := (ds.withCache {c with pools := c.pools.insert pool.id pool}).call P (.addPool pool)
    match err with
    | none => some (ds,none)
    | some e => some ((ds.deletePool P pool.id).1,some (.wrap "error adding pool to database" e))

/-- The number of usable addresses `(1 << (32 - ones)) - 2` of a prefix. -/
def usable (ones : Nat) : Int := 2 ^ (32 - ones) - 2

/-- `AddExternalSubnet`, with `uuid` the id it generates; `none` when it panics. -/
def addExternalSubnet (ds : Datastore σ) (poolID subnet uuid : String) :
    Option (Datastore σ × Option Error) :=
  let sub : ExternalSubnet := ⟨uuid,subnet⟩
  match Net.ParseCIDR subnet with
  | none => some (ds,some (.wrap ("unable to parse subnet CIDR (" ++ subnet ++ ")") (cidrError subnet)))
  | some (_,ipNet) =>
    match ds.cache.pools.get poolID with
    | none => some (ds,some (.sentinel .errPoolNotFound))
    | some p =>
      match isDuplicateSubnet ds.cache ipNet with
      | none => none
      | some true => some (ds,some (.sentinel .errDuplicateSubnet))
      | some false =>
        let newIPs := usable ipNet.ones
        if newIPs ≤ 0 then some (ds,some (.sentinel .errSubnetTooSmall)) else
        let p := {p with
          totalIPs := p.totalIPs + newIPs
          free := p.free + newIPs
          subnets := p.subnets ++ [sub]}
        let (ds,err) := ds.call P (.updatePool p)
        match err with
        | some e => some (ds,some (.wrap "error updating pool in database" e))
        | none => some (ds.withCache {ds.cache with
            pools := ds.cache.pools.insert poolID p
            externalSubnets := insert sub.cidr ds.cache.externalSubnets},none)

/-- The address loop of `AddExternalIPs` over the sorted texts, `uuid i` being the id generated
for the `i`-th: the grown pool, or the first error. -/
def addExternalIPList (c : Cache) (uuid : Nat → String) :
    (index : Nat) → (lastIP : String) → Pool → List String → Option (Except Error Pool)
  | _,_,p,[] => some (.ok p)
  | index,lastIP,p,newIP :: rest =>
    if lastIP = newIP then some (.error (.sentinel .errDuplicateIP)) else
    match Net.ParseIP newIP with
    | none => some (.error (.sentinel .errInvalidIP))
    | some ip =>
      match isDuplicateIP c ip with
      | none => none
      | some true => some (.error (.sentinel .errDuplicateIP))
      | some false =>
        let p := {p with
          totalIPs := p.totalIPs + 1
          free := p.free + 1
          ips := p.ips ++ [⟨uuid index,Net.ipString ip⟩]}
        addExternalIPList c uuid (index + 1) newIP p rest

/-- `AddExternalIPs`, the texts sorted as `sort.Strings` sorts them; `none` when it panics. -/
def addExternalIPs (ds : Datastore σ) (poolID : String) (IPs : List String) (uuid : Nat → String) :
    Option (Datastore σ × Option Error) :=
  match ds.cache.pools.get poolID with
  | none => some (ds,some (.sentinel .errPoolNotFound))
  | some p =>
    match addExternalIPList ds.cache uuid 0 "" p
        (IPs.mergeSort fun a b => @decide (String.le a b) (String.decLE a b)) with
    | none => none
    | some (.error e) => some (ds,some e)
    | some (.ok p) =>
      let (ds,err) := ds.call P (.updatePool p)
      match err with
      | some e => some (ds,some (.wrap "error updating pool in database" e))
      | none => some (ds.withCache {ds.cache with
          externalIPs := p.ips.foldl (fun s ip => insert ip.address s) ds.cache.externalIPs
          pools := ds.cache.pools.insert poolID p},none)

/-- Whether an address from `ip` on in the subnet is mapped: `some true` at the first mapped
one, `some false` once the scan leaves the subnet, `none` when it never does. -/
def subnetMapped (mapped : GoMap String MappedIP) (ipNet : Net.IPNet) : (fuel : Nat) → UInt32 → Option Bool
  | 0,_ => none
  | fuel + 1,ip =>
    if ¬ipNet.contains ip then some false
    else if Net.ipString ip ∈ mapped.keys then some true
    else subnetMapped mapped ipNet fuel (nextIP ip)

/-- What remains of a slice after `append(s[:i], s[i+1:]...)`, and what a copy of the old
slice header sees of the shared backing array afterwards. -/
def removeAt {α : Type} (s : List α) (i : Nat) : List α := s.take i ++ s.drop (i + 1)

def shiftedView {α : Type} (s : List α) (i : Nat) : List α :=
  match s.getLast? with
  | none => s
  | some last => if i + 1 < s.length then removeAt s i ++ [last] else s

/-- `DeleteSubnet`; `none` when its scan of the subnet never ends. -/
def deleteSubnet (ds : Datastore σ) (poolID subnetID : String) : Option (Datastore σ × Option Error) :=
  match ds.cache.pools.get poolID with
  | none => some (ds,some (.sentinel .errPoolNotFound))
  | some p =>
    match p.subnets.findIdx? (·.id = subnetID) with
    | none => some (ds,some (.sentinel .errInvalidPoolAddress))
    | some i =>
      let sub := p.subnets.getD i default
      match Net.ParseCIDR sub.cidr with
      | none => some (ds,some (.wrap ("unable to parse subnet CIDR (" ++ sub.cidr ++ ")") (cidrError sub.cidr)))
      | some (ip,ipNet) =>
        match subnetMapped ds.cache.mappedIPs ipNet (2 ^ 32) (ip &&& Net.mask ipNet.ones) with
        | none => none
        | some true => some (ds,some (.sentinel .errPoolNotEmpty))
        | some false =>
          let numIPs := usable ipNet.ones
          let p' := {p with
            totalIPs := p.totalIPs - numIPs
            free := p.free - numIPs
            subnets := removeAt p.subnets i}
          let (ds,err) := ds.call P (.updatePool p')
          match err with
          | some e => some (ds.withCache {ds.cache with
              pools := ds.cache.pools.insert poolID {p with subnets := shiftedView p.subnets i}},
              some (.wrap "error updating pool in database" e))
          | none => some (ds.withCache {ds.cache with
              externalSubnets := ds.cache.externalSubnets.erase sub.cidr
              pools := ds.cache.pools.insert poolID p'},none)

def deleteExternalIP (ds : Datastore σ) (poolID addrID : String) : Datastore σ × Option Error :=
  match ds.cache.pools.get poolID with
  | none => (ds,some (.sentinel .errPoolNotFound))
  | some p =>
    match p.ips.findIdx? (·.id = addrID) with
    | none => (ds,some (.sentinel .errInvalidPoolAddress))
    | some i =>
      let extIP := p.ips.getD i default
      if extIP.address ∈ ds.cache.mappedIPs.keys then (ds,some (.sentinel .errPoolNotEmpty)) else
      let p' := {p with totalIPs := p.totalIPs - 1, free := p.free - 1, ips := removeAt p.ips i}
      let (ds,err) := ds.call P (.updatePool p')
      match err with
      | some e => (ds.withCache {ds.cache with
          pools := ds.cache.pools.insert poolID {p with ips := shiftedView p.ips i}},
          some (.wrap "error updating pool in database" e))
      | none => (ds.withCache {ds.cache with
          externalIPs := ds.cache.externalIPs.erase extIP.address
          pools := ds.cache.pools.insert poolID p'},none)

/-- The first unmapped address of a subnet scan from `ip`: `some (some a)`, `some none` once
the scan leaves the subnet, `none` when it never does. -/
def firstFree (mapped : GoMap String MappedIP) (ipNet : Net.IPNet) :
    (fuel : Nat) → UInt32 → Option (Option String)
  | 0,_ => none
  | fuel + 1,ip =>
    if ¬ipNet.contains ip then some none
    else if Net.ipString ip ∉ mapped.keys then some (some (Net.ipString ip))
    else firstFree mapped ipNet fuel (nextIP ip)

/-- The subnet loop of `MapExternalIP`: the first free address of the first subnet that has
one, after its network address; an unparsable subnet ends the search with its error. -/
def freeInSubnets (mapped : GoMap String MappedIP) : List ExternalSubnet → Option (Except Error (Option String))
  | [] => some (.ok none)
  | sub :: rest =>
    match Net.ParseCIDR sub.cidr with
    | none => some (.error (.wrap ("error parsing subnet CIDR (" ++ sub.cidr ++ ")") (cidrError sub.cidr)))
    | some (ip,ipNet) =>
      match firstFree mapped ipNet (2 ^ 32) (nextIP (ip &&& Net.mask ipNet.ones)) with
      | none => none
      | some (some addr) => some (.ok (some addr))
      | some none => freeInSubnets mapped rest

/-- `MapExternalIP`, with `uuid` the id it generates; `none` when a scan never ends. The mapping
is cached once the store has it, before the pool's new count is written. -/
def mapExternalIP (ds : Datastore σ) (poolID instanceID uuid : String) :
    Option (Datastore σ × Except Error MappedIP) :=
  match getInstance ds.cache instanceID with
  | .error e => some (ds,.error (.wrap ("error getting instance (" ++ instanceID ++ ")") e))
  | .ok ptr =>
    let inst := ds.cache.heap ptr
    match ds.cache.pools.get poolID with
    | none => some (ds,.error (.sentinel .errPoolNotFound))
    | some pool =>
      if pool.free = 0 then some (ds,.error (.sentinel .errPoolEmpty)) else
      let found : Option (Except Error (Option String)) :=
        match freeInSubnets ds.cache.mappedIPs pool.subnets with
        | some (.ok none) =>
          some (.ok ((pool.ips.find? fun ip => ip.address ∉ ds.cache.mappedIPs.keys).map (·.address)))
        | other => other
      match found with
      | none => none
      | some (.error e) => some (ds,.error e)
      | some (.ok none) => some (ds,.error (.sentinel .errPoolEmpty))
      | some (.ok (some addr)) =>
        let m : MappedIP := ⟨uuid,addr,inst.ipAddress,instanceID,inst.tenantID,pool.id,pool.name⟩
        let pool := {pool with free := pool.free - 1}
        let (ds,err) := ds.call P (.addMappedIP m)
        match err with
        | some e => some (ds,.error (.wrap "error adding IP mapping to database" e))
        | none =>
          let ds := ds.withCache {ds.cache with mappedIPs := ds.cache.mappedIPs.insert addr m}
          let (ds,err) := ds.call P (.updatePool pool)
          match err with
          | some e => some (ds,.error (.wrap "error updating pool in database" e))
          | none => some (ds.withCache {ds.cache with pools := ds.cache.pools.insert poolID pool},.ok m)

/-- `UnMapExternalIP`: the mapping is dropped once the store drops it, before the pool's new
count is written. -/
def unMapExternalIP (ds : Datastore σ) (address : String) : Datastore σ × Option Error :=
  match ds.cache.mappedIPs.get address with
  | none => (ds,some (.sentinel .errAddressNotFound))
  | some m =>
    match ds.cache.pools.get m.poolID with
    | none => (ds,some (.sentinel .errPoolNotFound))
    | some pool =>
      let pool := {pool with free := pool.free + 1}
      let (ds,err) := ds.call P (.deleteMappedIP m.id)
      match err with
      | some e => (ds,some (.wrap "error deleting IP mapping from database" e))
      | none =>
        let ds := ds.withCache {ds.cache with mappedIPs := ds.cache.mappedIPs.delete address}
        let (ds,err) := ds.call P (.updatePool pool)
        match err with
        | some e => (ds,some (.wrap "error updating pool in database" e))
        | none => (ds.withCache {ds.cache with pools := ds.cache.pools.insert pool.id pool},none)

end Datastore
end CiaoDatastore
