import CiaoDatastore.Store

/-! Tenants and their private addresses. `AllocateTenantIPPool` scans subnets from the first
one the map's iteration order offers with room (the order is an argument), marks free hosts
`2 .. maxHosts - 2` of each, and claims the whole batch in one store call; on running out of
addresses or a failed claim it unmarks what it marked. Its deferred `activateSubnets` assigns
its error to `retval` after the results were already set, so that error never reaches the
caller. The outer loop is run on a counter of `2^32` rounds: its start only moves by
`maxHosts` modulo `2^32`, so a loop that has not stopped by then never stops. -/
namespace CiaoDatastore
namespace Datastore
variable {σ : Type} (P : PersistentStore σ)

/-- Modelled from the spec: the cache's tenant built from a stored row; the datastore adds
its instances, workloads and images itself, and no network controller is attached yet. -/
def tenantOfRow (row : TenantRow) : Tenant where
  id := row.id
  config := row.config
  cnciCtrl := none
  network := row.network
  instances := .empty
  devices := row.devices
  workloads := []
  images := []

def addTenant (ds : Datastore σ) (id : String) (config : TenantConfig) :
    Datastore σ × Except Error (Option Tenant) :=
  if id ∈ ds.cache.tenants.keys then (ds,.error (.new "Duplicate Tenant ID")) else
  let (ds,err) := ds.call P (.addTenant id config)
  match err with
  | some e => (ds,.error (.wrap ("error adding tenant (" ++ id ++ ") to database") e))
  | none =>
    let (ds,reply) := ds.call P (.getTenant id)
    match reply with
    | .error e => (ds,.error e)
    | .ok none => (ds,.ok none)
    | .ok (some row) =>
      (ds.withCache {ds.cache with tenants := ds.cache.tenants.insert id (tenantOfRow row)},
        .ok (some (tenantOfRow row)))

/-- `DeleteTenant` drops the cached tenant before it asks the store to. -/
def deleteTenant (ds : Datastore σ) (id : String) : Datastore σ × Option Error :=
  if id ∉ ds.cache.tenants.keys then (ds,some errNoTenant) else
  (ds.withCache {ds.cache with tenants := ds.cache.tenants.delete id}).call P (.deleteTenant id)

/-- `getTenant`: the cached tenant, or else the store's, which is not cached. -/
def getTenant (ds : Datastore σ) (id : String) : Datastore σ × Except Error (Option Tenant) :=
  match ds.cache.tenants.get id with
  | some t => (ds,.ok (some t))
  | none =>
    let (ds,reply) := ds.call P (.getTenant id)
    match reply with
    | .ok row => (ds,.ok (row.map tenantOfRow))
    | .error e => (ds,.error (.wrap ("error getting tenant (" ++ id ++ ") from database") e))

def GetTenant (ds : Datastore σ) (id : String) : Datastore σ × Except Error (Option Tenant) :=
  ds.getTenant P id

/-- A JSON merge patch of `TenantConfig` as `jsonpatch.MergePatch` and `json.Unmarshal` read
it: for each field, `none` keeps it, `some none` (a JSON null) resets it to its zero value and
`some (some v)` sets it. -/
structure ConfigPatch where
  name : Option (Option String)
  subnetBits : Option (Option Int)
  deriving DecidableEq, Repr

def ConfigPatch.apply (patch : ConfigPatch) (old : TenantConfig) : TenantConfig where
  name := match patch.name with | none => old.name | some v => v.getD ""
  subnetBits := match patch.subnetBits with | none => old.subnetBits | some v => v.getD 0

/-- `JSONPatchTenant`; `patch` is the merged configuration, or the error of marshalling,
merging or unmarshalling it. The new configuration is cached before the store is asked. -/
def jsonPatchTenant (ds : Datastore σ) (id : String) (patch : Except Error ConfigPatch) :
    Datastore σ × Option Error :=
  match ds.cache.tenants.get id with
  | none => (ds,some errNoTenant)
  | some tenant =>
    match patch with
    | .error e => (ds,some (.wrap "error updating tenant" e))
    | .ok patch =>
      let config := patch.apply tenant.config
      if 0 < tenant.instances.len ∧ tenant.config.subnetBits ≠ config.subnetBits then
        (ds,some (.new "Unable to update with active instances"))
      else
        (ds.withCache {ds.cache with
          tenants := ds.cache.tenants.insert id {tenant with config := config}}).call P
          (.updateTenant tenant.id config)

/-- Unmarks one host of a subnet map and drops the subnet once it is empty. -/
def releaseHost (network : GoMap UInt32 (Finset UInt32)) (subnet host : UInt32) :
    GoMap UInt32 (Finset UInt32) :=
  let hosts := ((network.get subnet).getD ∅).erase host
  if hosts.card = 0 then network.delete subnet else network.insert subnet hosts

/-- The cache with one tenant's network replaced. -/
def setNetwork (ds : Datastore σ) (tenantID : String) (t : Tenant)
    (network : GoMap UInt32 (Finset UInt32)) : Datastore σ :=
  ds.withCache {ds.cache with tenants := ds.cache.tenants.insert tenantID {t with network := network}}

/-- `ReleaseTenantIP`; `none` when it panics, on a tenant the store returns as nil or on a
`SubnetBits` outside `[0, 32]`, whose nil mask `binary.BigEndian.Uint32` cannot read. The
network controller's `ScheduleRemoveSubnet` is only asked for its error, which is logged. -/
def releaseTenantIP (ds : Datastore σ) (tenantID ip : String) : Option (Datastore σ × Option Error) :=
  match Net.ParseIP ip with
  | none => some (ds,some (.new "Invalid IPv4 Address"))
  | some hostInt =>
    match ds.GetTenant P tenantID with
    | (ds,.error e) => some (ds,some e)
    | (_,.ok none) => none
    | (ds,.ok (some tenant)) =>
      match Net.cidrMask tenant.config.subnetBits with
      | none => none
      | some subMask =>
        let subnetInt := hostInt &&& subMask
        let ds := match ds.cache.tenants.get tenantID with
          | none => ds
          | some t => ds.setNetwork tenantID t (releaseHost t.network subnetInt hostInt)
        some (ds.call P (.releaseTenantIP tenantID subnetInt hostInt))

/-- `cleanTenantIPs` on the network of the tenant whose lock is held. -/
def cleanTenantIPs (network : GoMap UInt32 (Finset UInt32)) (IPs : List TenantIP) :
    GoMap UInt32 (Finset UInt32) :=
  IPs.foldl (fun network ip => releaseHost network ip.subnet ip.host) network

/-- Asks the controller to wait for each address's subnet, stopping at the first error. -/
def waitForSubnets (mgr : CnciCtrl) (subnet : UInt32 → String) : List UInt32 → Option Error
  | [] => none
  | ip :: rest =>
    match mgr.waitForActive (subnet ip) with
    | some e => some e
    | none => waitForSubnets mgr subnet rest

/-- `activateSubnets`; `none` when the tenant is not cached (a nil dereference). -/
def activateSubnets (ds : Datastore σ) (tenantID : String) (IPs : List UInt32) :
    Option (Option Error) :=
  match ds.cache.tenants.get tenantID with
  | none => none
  | some tenant =>
    match tenant.cnciCtrl with
    | none => some none
    | some mgr =>
      let subnet := fun ip => match Net.cidrMask tenant.config.subnetBits with
        | some m => (Net.IPNet.mk (ip &&& m) tenant.config.subnetBits.toNat).toString
        | none => "<nil>"
      some (waitForSubnets mgr subnet IPs)

/-- The state of `AllocateTenantIPPool`'s scan: the network it marks, `addrs`,
`tenantAddrs` and `hostCount`. -/
structure Scan where
  network : GoMap UInt32 (Finset UInt32)
  addrs : List UInt32
  claims : List TenantIP
  count : Int

/-- The first subnet, in the iteration order `order`, whose host map has fewer than
`maxHosts` entries. -/
def firstSubnet (network : GoMap UInt32 (Finset UInt32)) (maxHosts : Nat) :
    List UInt32 → Option UInt32
  | [] => none
  | k :: rest =>
    match network.get k with
    | some v => if v.card < maxHosts then some k else firstSubnet network maxHosts rest
    | none => firstSubnet network maxHosts rest

/-- The host loop over one subnet, from `host` on with `fuel` hosts left: `.inl` once
`hostCount` reaches `num`, `.inr` when the subnet is done. -/
def scanHosts (num : Int) (start subnet : UInt32) : (host fuel : Nat) → Scan → Scan ⊕ Scan
  | _,0,scan => .inr scan
  | host,fuel + 1,scan =>
    let addr := start + UInt32.ofNat host
    let hosts := (scan.network.get subnet).getD ∅
    if addr ∈ hosts then scanHosts num start subnet (host + 1) fuel scan else
    let scan : Scan := ⟨scan.network.insert subnet (insert addr hosts),scan.addrs ++ [addr],
      scan.claims ++ [⟨subnet,addr⟩],scan.count + 1⟩
    if scan.count = num then .inl scan else scanHosts num start subnet (host + 1) fuel scan

/-- The subnet loop from `start` with `fuel` rounds left: `some (.inl _)` when `num`
addresses are marked, `some (.inr _)` when `start` reaches `stop`, `none` when it never
stops. -/
def scanSubnets (num : Int) (maxHosts : Nat) (mask stop : UInt32) :
    (fuel : Nat) → (start : UInt32) → Scan → Option (Scan ⊕ Scan)
  | 0,_,_ => none
  | fuel + 1,start,scan =>
    if stop ≤ start then some (.inr scan) else
    let subnet := start &&& mask
    let scan := if scan.network.get subnet = none
      then {scan with network := scan.network.insert subnet ∅} else scan
    match scanHosts num start subnet 2 (maxHosts - 3) scan with
    | .inl scan => some (.inl scan)
    | .inr scan => scanSubnets num maxHosts mask stop fuel (start + UInt32.ofNat maxHosts) scan

/-- `AllocateTenantIPPool`, with `order` the iteration order of the tenant's subnet map. -/
def allocateTenantIPPool (ds : Datastore σ) (tenantID : String) (num : Int) (order : List UInt32) :
    Outcome σ (Except Error (List UInt32)) :=
  match ds.GetTenant P tenantID with
  | (ds,.error e) => .returns ds (.error e)
  | (_,.ok none) => .panics
  | (ds,.ok (some tenant)) =>
    let cidr := "172.16.0.0/" ++ toString tenant.config.subnetBits
    match Net.ParseCIDR cidr with
    | none => .returns ds (.error (.new ("invalid CIDR address: " ++ cidr)))
    | some (ip,ipNet) =>
      let start := ip &&& Net.mask ipNet.ones
      let stop := ((start >>> 20) + 1) <<< 20
      let maxHosts := 2 ^ (32 - ipNet.ones)
      match ds.cache.tenants.get tenantID with
      | none => .panics
      | some t =>
        let start := (firstSubnet t.network maxHosts order).getD start
        match scanSubnets num maxHosts (Net.mask ipNet.ones) stop (2 ^ 32) start ⟨t.network,[],[],0⟩ with
        | none => .loops
        | some (.inr scan) =>
          .returns (ds.setNetwork tenantID t (cleanTenantIPs scan.network scan.claims))
            (.error (.new "out of addrs"))
        | some (.inl scan) =>
          let (ds',err) := (ds.setNetwork tenantID t scan.network).call P
            (.claimTenantIPs tenantID scan.claims)
          match err with
          | some e => .returns (ds'.setNetwork tenantID t (cleanTenantIPs scan.network scan.claims)) (.error e)
          | none =>
            match ds'.activateSubnets tenantID scan.addrs with
            | none => .panics
            | some _ => .returns ds' (.ok scan.addrs)

/-- `AllocateTenantIP`: one address of `AllocateTenantIPPool`. -/
def allocateTenantIP (ds : Datastore σ) (tenantID : String) (order : List UInt32) :
    Outcome σ (Except Error UInt32) :=
  match ds.allocateTenantIPPool P tenantID 1 order with
  | .returns ds (.error e) => .returns ds (.error e)
  | .returns ds (.ok (ip :: _)) => .returns ds (.ok ip)
  | .returns _ (.ok []) => .panics
  | .panics => .panics
  | .loops => .loops

end Datastore
end CiaoDatastore
