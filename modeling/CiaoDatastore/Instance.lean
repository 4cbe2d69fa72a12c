import CiaoDatastore.Tenant
import CiaoDatastore.Volume

/-! Instances, nodes and statistics. Instances live in `heap`; `instances`, each tenant's and
each node's `instances` hold pointers to them, so a write through one pointer is seen through
every map that holds it. A dereference of a missing entry is a nil dereference: the model
returns `none` there. `deleteInstance` wraps its address-release failure around its own `err`,
which is still nil at that point, and so reports no error for it. -/
namespace CiaoDatastore
namespace Datastore
variable {σ : Type} (P : PersistentStore σ)

/-- Writes `ptr.field = ...` through an instance pointer. -/
def setInstance (c : Cache) (ptr : Ptr) (i : Instance) : Cache :=
  {c with heap := Function.update c.heap ptr i}

/-- Modelled from the spec: `TransitionInstanceState` moves the instance to the new state. -/
def transitionInstanceState (i : Instance) (state : String) : Instance := {i with state := state}

/-- `AddInstance`, with `now` the clock reading `time.Now()` gives. -/
def addInstance (ds : Datastore σ) (inst : Instance) (now : Int) : Datastore σ × Option Error :=
  let (ds,err) := ds.call P (.addInstance inst)
  match err with
  | some e => (ds,some (.wrap "Error adding instance to database" e))
  | none =>
    let ptr := ds.cache.next
    let stat : CiaoServerStats := {(default : CiaoServerStats) with
      id := inst.id
      tenantID := inst.tenantID
      nodeID := inst.nodeID
      timestamp := now
      status := inst.state}
    let c : Cache := {ds.cache with
      heap := Function.update ds.cache.heap ptr inst
      next := ptr + 1
      instances := ds.cache.instances.insert inst.id ptr
      instanceLastStat := ds.cache.instanceLastStat.insert inst.id stat}
    match c.tenants.get inst.tenantID with
    | none => (ds.withCache c,none)
    | some t =>
      (ds.withCache {c with
        tenants := c.tenants.insert inst.tenantID {t with instances := t.instances.insert inst.id ptr}},none)

def getInstance (c : Cache) (id : String) : Except Error Ptr :=
  match c.instances.get id with
  | some ptr => .ok ptr
  | none => .error (.sentinel .errInstanceNotFound)

/-- The tables `deleteInstance` takes the instance `i` out of, under the key `instanceID`;
`none` when its node is not cached (a nil dereference). -/
def unlinkInstance (c : Cache) (instanceID : String) (i : Instance) : Option Cache :=
  let c : Cache := {c with
    instanceLastStat := c.instanceLastStat.delete instanceID
    instances := c.instances.delete instanceID}
  let c := match c.tenants.get i.tenantID with
    | none => c
    | some t => {c with
        tenants := c.tenants.insert i.tenantID {t with instances := t.instances.delete instanceID}}
  if i.nodeID = "" then some c else
  match c.nodes.get i.nodeID with
  | none => none
  | some n => some {c with
      nodes := c.nodes.insert i.nodeID {n with instances := n.instances.delete instanceID}}

/-- `deleteInstance`, with `order` the iteration order of its attachment cascade; the tenant
id and the error, or `none` when it panics. -/
def deleteInstance (ds : Datastore σ) (instanceID : String) (order : List Attachment) :
    Option (Datastore σ × String × Option Error) :=
  let (ds,err) := ds.call P (.deleteInstance instanceID)
  match err with
  | some e =>
    some (ds,"",some (.wrap ("error deleting instance from database (" ++ instanceID ++ ")") e))
  | none =>
    match ds.cache.instances.get instanceID with
    | none => none
    | some ptr =>
      let i := ds.cache.heap ptr
      match unlinkInstance ds.cache instanceID i with
      | none => none
      | some c =>
        let (ds,tmpErr) := (ds.withCache c).call P (.deleteInstance i.id)
        let err := Error.wrapNil ("error deleting instance from database (" ++ i.id ++ ")") tmpErr
        let released : Option (Datastore σ × Option Error) := if i.cnci then some (ds,err) else
          match ds.releaseTenantIP P i.tenantID i.ipAddress with
          | none => none
          | some (ds,none) => some (ds,err)
          | some (ds,some _) => some (ds,
              if err = none then Error.wrapNil ("error releasing IP for instance (" ++ i.id ++ ")") err
              else err)
        match released with
        | none => none
        | some (ds,err) =>
          match ds.updateStorageAttachments P instanceID order with
          | none => none
          | some ds => some (ds,i.tenantID,err)

/-- `DeleteInstance`; `none` when it panics. -/
def DeleteInstance (ds : Datastore σ) (instanceID : String) (order : List Attachment) :
    Option (Datastore σ × Option Error) :=
  match getInstance ds.cache instanceID with
  | .error e => some (ds,some (.wrap "error deleting instance" e))
  | .ok ptr =>
    let nodeID := (ds.cache.heap ptr).nodeID
    match ds.deleteInstance P instanceID order with
    | none => none
    | some (ds,_,some e) => some (ds,some (.wrap "error deleting instance" e))
    | some (ds,tenantID,none) =>
      let e : LogEntry := ⟨tenantID,"info","Deleted Instance " ++ instanceID,nodeID⟩
      let (ds,err) := ds.call P (.logEvent e)
      some (ds,Error.wrapNil "Error logging event" err)

/-- Adds one to a node's failure counters when the node is cached. -/
def countFailure (c : Cache) (nodeID : String) (count : Node → Node) : Cache :=
  match c.nodes.get nodeID with
  | none => c
  | some n => {c with nodes := c.nodes.insert nodeID (count n)}

/-- `StartFailure`; `none` when it panics. -/
def startFailure (ds : Datastore σ) (instanceID : String) (reason : StartFailureReason)
    (migration : Bool) (nodeID : String) (order : List Attachment) :
    Option (Datastore σ × Option Error) :=
  match getInstance ds.cache instanceID with
  | .error e => some (ds,some (.wrap ("error getting instance (" ++ instanceID ++ ")") e))
  | .ok ptr =>
    let deleted : Option (Datastore σ × Option Error) :=
      if reason.fatal ∧ ¬migration then
        match ds.deleteInstance P instanceID order with
        | none => none
        | some (ds,_,some e) => some (ds,some (.wrap "Error deleting instance" e))
        | some (ds,_,none) => some (ds,none)
      else some (ds,none)
    match deleted with
    | none => none
    | some (ds,some e) => some (ds,some e)
    | some (ds,none) =>
      let ds := ds.withCache (countFailure ds.cache nodeID fun n =>
        {n with totalFailures := n.totalFailures + 1, startFailures := n.startFailures + 1})
      let e : LogEntry := ⟨(ds.cache.heap ptr).tenantID,"error",
        "Start Failure " ++ instanceID ++ ": " ++ reason.text,nodeID⟩
      let (ds,err) := ds.call P (.logEvent e)
      some (ds,Error.wrapNil "Error logging event" err)

/-- `AttachVolumeFailure`; `none` when it panics. -/
def attachVolumeFailure (ds : Datastore σ) (instanceID volumeID reason : String) :
    Option (Datastore σ × Option Error) :=
  match getBlockDevice ds.cache volumeID with
  | .error e =>
    some (ds,some (.wrap ("error getting block device for volume (" ++ volumeID ++ ")") e))
  | .ok data =>
    match ds.updateBlockDevice P {data with state := available} with
    | none => none
    | some (ds,some e) =>
      some (ds,some (.wrap ("error updating block device for volume (" ++ volumeID ++ ")") e))
    | some (ds,none) =>
      match getInstance ds.cache instanceID with
      | .error e => some (ds,some (.wrap ("error getting instance (" ++ instanceID ++ ")") e))
      | .ok ptr =>
        let i := ds.cache.heap ptr
        let ds := ds.withCache (countFailure ds.cache i.nodeID fun n =>
          {n with totalFailures := n.totalFailures + 1, attachVolumeFailures := n.attachVolumeFailures + 1})
        let e : LogEntry := ⟨i.tenantID,"error",
          "Attach Volume Failure " ++ volumeID ++ " to " ++ instanceID ++ ": " ++ reason,i.nodeID⟩
        let (ds,err) := ds.call P (.logEvent e)
        some (ds,Error.wrapNil "Error logging event" err)

/-- `updateInstanceStatus`: the last-stat record it writes carries no tenant id. -/
def updateInstanceStatus (ds : Datastore σ) (status instanceID : String) (now : Int) :
    Datastore σ × Option Error :=
  let stat : InstanceStat := {(default : InstanceStat) with instanceUUID := instanceID, state := status}
  let (ds,err) := ds.call P (.addInstanceStats [stat] "")
  match err with
  | some e => (ds,some (.wrap "error adding instance stats to database" e))
  | none =>
    let last : CiaoServerStats :=
      {(default : CiaoServerStats) with id := instanceID, timestamp := now, status := status}
    (ds.withCache {ds.cache with instanceLastStat := ds.cache.instanceLastStat.insert instanceID last},none)

/-- `InstanceRestarting`; `none` when it panics. -/
def instanceRestarting (ds : Datastore σ) (instanceID : String) (now : Int) :
    Option (Datastore σ × Option Error) :=
  match ds.updateInstanceStatus P pending instanceID now with
  | (ds,some e) => some (ds,some (.wrap "Error marking instance as restarting" e))
  | (ds,none) =>
    match ds.cache.instances.get instanceID with
    | none => none
    | some ptr => some (ds.withCache (setInstance ds.cache ptr {ds.cache.heap ptr with state := pending}),none)

/-- `InstanceStopped`; `none` when it panics. -/
def instanceStopped (ds : Datastore σ) (instanceID : String) (now : Int) :
    Option (Datastore σ × Option Error) :=
  match ds.updateInstanceStatus P exited instanceID now with
  | (ds,some e) => some (ds,some (.wrap "Error marked instance as stopped" e))
  | (ds,none) =>
    match ds.cache.instances.get instanceID with
    | none => none
    | some ptr =>
      let oldNodeID := (ds.cache.heap ptr).nodeID
      let c := setInstance ds.cache ptr {ds.cache.heap ptr with nodeID := "", state := exited}
      if oldNodeID = "" then some (ds.withCache c,none) else
      match c.nodes.get oldNodeID with
      | none => none
      | some n =>
        some (ds.withCache {c with
          nodes := c.nodes.insert oldNodeID {n with instances := n.instances.delete instanceID}},none)

/-- `DeleteNode`; `none` when the node is not cached. Every instance the node's map points to
is marked `Missing` and loses its node. -/
def deleteNode (ds : Datastore σ) (nodeID : String) : Option (Datastore σ × Option Error) :=
  match ds.cache.nodes.get nodeID with
  | none => none
  | some n =>
    let onNode := fun ptr => decide (∃ k ∈ n.instances.keys, n.instances.get k = some ptr)
    let heap := fun ptr => if onNode ptr
      then {transitionInstanceState (ds.cache.heap ptr) missing with nodeID := ""}
      else ds.cache.heap ptr
    some (ds.withCache {ds.cache with
      heap := heap
      nodes := ds.cache.nodes.delete nodeID
      nodeLastStat := ds.cache.nodeLastStat.delete nodeID},none)

/-- `AddNode`: the node's role bits grow to all the roles it was reported with. -/
def addNode (ds : Datastore σ) (nodeID : String) (nodeType : Resource) : Datastore σ :=
  let role := match nodeType with
    | .computeNode => agentRole
    | .networkNode => netAgentRole
    | .other => 0
  match ds.cache.nodes.get nodeID with
  | some n => ds.withCache {ds.cache with
      nodes := ds.cache.nodes.insert nodeID {n with nodeRole := n.nodeRole ||| role}}
  | none => ds.withCache {ds.cache with
      nodes := ds.cache.nodes.insert nodeID ⟨nodeID,"",role,0,0,0,0,.empty⟩}

/-- `addNodeStat`: an unknown node gets an empty entry. -/
def addNodeStat (ds : Datastore σ) (stat : Stat) : Datastore σ × Option Error :=
  let old := (ds.cache.nodes.get stat.nodeUUID).getD ⟨"","",0,0,0,0,0,.empty⟩
  let n := {old with id := stat.nodeUUID, hostname := stat.nodeHostName}
  let cnStat : CiaoNode := ⟨stat.nodeUUID,n.hostname,stat.status,stat.load,stat.memTotalMB,
    stat.memAvailableMB,stat.diskTotalMB,stat.diskAvailableMB,stat.cpusOnline,n.totalFailures,
    n.startFailures,n.attachVolumeFailures,n.deleteFailures⟩
  let ds := ds.withCache {ds.cache with
    nodes := ds.cache.nodes.insert stat.nodeUUID n
    nodeLastStat := ds.cache.nodeLastStat.insert stat.nodeUUID cnStat}
  let (ds,err) := ds.call P (.addNodeStat stat)
  (ds,Error.wrapNil "error adding node stats to database" err)

/-- `tenantUsagePeriodMinutes`, with the clock counting nanoseconds. -/
def tenantUsagePeriod : Int := 5 * 60 * 1000000000

def updateTenantUsageNeeded (delta : CiaoUsage) : Bool :=
  ¬(delta.vcpu = 0 ∧ delta.memory = 0 ∧ delta.disk = 0)

/-- `updateTenantUsage` on the history map. -/
def updateTenantUsage (usage : GoMap String (List CiaoUsage)) (delta : CiaoUsage)
    (tenantID : String) (now : Int) : GoMap String (List CiaoUsage) :=
  if ¬updateTenantUsageNeeded delta then usage else
  let history := (usage.get tenantID).getD []
  let lastUsage := history.getLastD default
  let createNewUsage := history = [] ∨ ¬(now - lastUsage.timestamp < tenantUsagePeriod)
  let newUsage : CiaoUsage := ⟨lastUsage.vcpu + delta.vcpu,lastUsage.memory + delta.memory,
    lastUsage.disk + delta.disk,if createNewUsage then now else lastUsage.timestamp⟩
  if createNewUsage then usage.insert tenantID (history ++ [newUsage])
  else usage.insert tenantID (history.dropLast ++ [newUsage])

/-- `GetTenantUsage`; `none` when the slice bounds `[first:last]` are out of order (a panic). -/
def getTenantUsage (c : Cache) (tenantID : String) (start stop : Int) : Option (List CiaoUsage) :=
  let history := (c.tenantUsage.get tenantID).getD []
  match history.head?,history.getLast? with
  | some firstUsage,some lastUsage =>
    if stop < firstUsage.timestamp ∨ lastUsage.timestamp < start then some [] else
    let first := history.countP fun u => u.timestamp < start
    let last := history.countP fun u => u.timestamp < stop
    if first ≤ last then some ((history.take last).drop first) else none
  | _,_ => some []

def reduceToZero (v : Int) : Int := if v < 0 then 0 else v

/-- One stat of `addInstanceStats`; `none` when it panics. -/
def addInstanceStat (c : Cache) (nodeID : String) (now : Int) (stat : InstanceStat) : Option Cache :=
  let instanceStat : CiaoServerStats := ⟨stat.instanceUUID,nodeID,"",now,stat.state,
    reduceToZero stat.cpuUsage,reduceToZero stat.memoryUsageMB,reduceToZero stat.diskUsageMB⟩
  let lastInstanceStat := (c.instanceLastStat.get stat.instanceUUID).getD default
  let deltaUsage : CiaoUsage := ⟨instanceStat.vcpuUsage - lastInstanceStat.vcpuUsage,
    instanceStat.memUsage - lastInstanceStat.memUsage,
    instanceStat.diskUsage - lastInstanceStat.diskUsage,0⟩
  let c := {c with
    tenantUsage := updateTenantUsage c.tenantUsage deltaUsage lastInstanceStat.tenantID now
    instanceLastStat := c.instanceLastStat.insert stat.instanceUUID
      {instanceStat with tenantID := lastInstanceStat.tenantID}}
  match c.instances.get stat.instanceUUID with
  | none => some c
  | some ptr =>
    let inst := {c.heap ptr with state := stat.state, nodeID := nodeID, sshIP := stat.sshIP, sshPort := stat.sshPort}
    let c := setInstance c ptr inst
    match c.nodes.get nodeID with
    | none => none
    | some n => some {c with
        nodes := c.nodes.insert nodeID {n with instances := n.instances.insert inst.id ptr}}

/-- The loop of `addInstanceStats` over its stats. -/
def addInstanceStatList (nodeID : String) (now : Int) : Cache → List InstanceStat → Option Cache
  | c,[] => some c
  | c,stat :: rest =>
    match addInstanceStat c nodeID now stat with
    | none => none
    | some c => addInstanceStatList nodeID now c rest

/-- `addInstanceStats`; `none` when it panics. -/
def addInstanceStats (ds : Datastore σ) (stats : List InstanceStat) (nodeID : String) (now : Int) :
    Option (Datastore σ × Option Error) :=
  match addInstanceStatList nodeID now ds.cache stats with
  | none => none
  | some c =>
    let (ds,err) := (ds.withCache c).call P (.addInstanceStats stats nodeID)
    some (ds,Error.wrapNil "error adding instance stats to database" err)

/-- `HandleStats`; `none` when it panics. A node load of `-1` skips the node's own stat. -/
def handleStats (ds : Datastore σ) (stat : Stat) (now : Int) : Option (Datastore σ × Option Error) :=
  let noded : Datastore σ × Option Error :=
    if stat.load ≠ -1 then
      match ds.addNodeStat P stat with
      | (ds,some e) => (ds,some (.wrap "error updating node stats" e))
      | (ds,none) => (ds,none)
    else (ds,none)
  match noded with
  | (ds,some e) => some (ds,some e)
  | (ds,none) =>
    match ds.addInstanceStats P stat.instances stat.nodeUUID now with
    | none => none
    | some (ds,err) => some (ds,Error.wrapNil "error updating stats" err)

/-- `GetInstanceLastStats`, visiting `instanceLastStat` in `order`: the node's last stats of
cached instances that are not network controllers. -/
def getInstanceLastStats (c : Cache) (nodeID : String) (order : List String) : List CiaoServerStats :=
  order.filterMap fun id =>
    match c.instanceLastStat.get id with
    | none => none
    | some stat =>
      if stat.nodeID ≠ nodeID then none else
      match getInstance c stat.id with
      | .error _ => none
      | .ok ptr => if (c.heap ptr).cnci then none else some stat

end Datastore
end CiaoDatastore
