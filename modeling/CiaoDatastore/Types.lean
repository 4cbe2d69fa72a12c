import CiaoDatastore.GoMap

/-! The records of the `types` and `payloads` packages that the datastore reads and writes,
with the fields its functions use; the others are left out. Go embeds
`TenantConfig` in `types.Tenant` and `types.Tenant` in the cache's `tenant`; here the three are
flattened into `Tenant`. The instance states, volume states and visibilities are Go strings,
so they are strings here, with the package constants as definitions. -/
namespace CiaoDatastore

/- A record's `default` is Go's zero value, which a lookup of an absent key returns. -/

/-- A `*types.Instance`: the datastore's maps share instance objects, so they hold pointers
into a heap. -/
abbrev Ptr := Nat

/-- Sentinel errors of the `types` and `api` packages. Go compares them by identity, so they
are modelled by name. -/
inductive Sentinel
  | errWorkloadInUse | errWorkloadNotFound | errTenantNotFound | errInstanceNotFound
  | errPoolNotFound | errPoolNotEmpty | errPoolEmpty | errDuplicateSubnet | errDuplicateIP
  | errInvalidIP | errSubnetTooSmall | errInvalidPoolAddress | errAddressNotFound
  | errNoImage | errAlreadyExists
  deriving DecidableEq, Repr

inductive Error
  | sentinel (name : Sentinel)
  /-- `errors.New` or `fmt.Errorf` with this text. -/
  | new (text : String)
  /-- `errors.Wrap(cause, context)`. -/
  | wrap (context : String) (cause : Error)
  deriving DecidableEq, Repr

namespace Error

/-- `errors.Wrap`: a nil error stays nil. -/
def wrapNil (context : String) : Option Error → Option Error
  | none => none
  | some cause => some (.wrap context cause)

@[simp] theorem wrapNil_none (context : String) : wrapNil context none = none := rfl

@[simp] theorem wrapNil_eq_none (context : String) (e : Option Error) :
    wrapNil context e = none ↔ e = none := by
  cases e <;> simp [wrapNil]

end Error

/-- The datastore's own sentinels, with their texts. -/
def errNoTenant : Error := .new "Tenant not found"
def errNoBlockData : Error := .new "Block Device not found"
def errNoStorageAttachment : Error := .new "No Volume Attached"

/-- Instance states of the `payloads` package. -/
def pending : String := "pending"
def running : String := "running"
def exited : String := "exited"
def missing : String := "missing"

/-- Volume states and visibilities of the `types` package. -/
def available : String := "available"
def inUse : String := "in-use"
def publicVisibility : String := "public"
def privateVisibility : String := "private"
def internalVisibility : String := "internal"

structure Instance where
  id : String
  tenantID : String
  workloadID : String
  nodeID : String
  ipAddress : String
  macAddress : String
  state : String
  cnci : Bool
  sshIP : String
  sshPort : Int
  name : String
  deriving DecidableEq, Repr, Inhabited

structure TenantConfig where
  name : String
  subnetBits : Int
  deriving DecidableEq, Repr

/-- The tenant network controller handle `CNCIctrl`: the datastore only asks it to wait for a
subnet to become active and to schedule a subnet's removal, and reads the errors back. -/
structure CnciCtrl where
  waitForActive : String → Option Error
  scheduleRemoveSubnet : String → Option Error

structure Volume where
  id : String
  tenantID : String
  state : String
  deriving DecidableEq, Repr, Inhabited

structure Workload where
  id : String
  tenantID : String
  visibility : String
  deriving DecidableEq, Repr, Inhabited

structure Image where
  id : String
  tenantID : String
  name : String
  visibility : String
  deriving DecidableEq, Repr, Inhabited

structure StorageAttachment where
  id : String
  instanceID : String
  blockID : String
  ephemeral : Bool
  boot : Bool
  deriving DecidableEq, Repr, Inhabited

/-- The key of `instanceVolumes`. -/
structure Attachment where
  instanceID : String
  volumeID : String
  deriving DecidableEq, Repr

structure ExternalSubnet where
  id : String
  cidr : String
  deriving DecidableEq, Repr, Inhabited

structure ExternalIP where
  id : String
  address : String
  deriving DecidableEq, Repr, Inhabited

structure Pool where
  id : String
  name : String
  free : Int
  totalIPs : Int
  subnets : List ExternalSubnet
  ips : List ExternalIP
  deriving DecidableEq, Repr, Inhabited

structure MappedIP where
  id : String
  externalIP : String
  internalIP : String
  instanceID : String
  tenantID : String
  poolID : String
  poolName : String
  deriving DecidableEq, Repr, Inhabited

structure CiaoServerStats where
  id : String
  nodeID : String
  tenantID : String
  timestamp : Int
  status : String
  vcpuUsage : Int
  memUsage : Int
  diskUsage : Int
  deriving DecidableEq, Repr, Inhabited

structure CiaoUsage where
  vcpu : Int
  memory : Int
  disk : Int
  timestamp : Int
  deriving DecidableEq, Repr, Inhabited

structure CiaoNode where
  id : String
  hostname : String
  status : String
  load : Int
  memTotal : Int
  memAvailable : Int
  diskTotal : Int
  diskAvailable : Int
  onlineCPUs : Int
  totalFailures : Int
  startFailures : Int
  attachVolumeFailures : Int
  deleteFailures : Int
  deriving DecidableEq, Repr, Inhabited

structure LogEntry where
  tenantID : String
  eventType : String
  message : String
  nodeID : String
  deriving DecidableEq, Repr, Inhabited

structure InstanceStat where
  instanceUUID : String
  state : String
  sshIP : String
  sshPort : Int
  memoryUsageMB : Int
  diskUsageMB : Int
  cpuUsage : Int
  deriving DecidableEq, Repr, Inhabited

structure Stat where
  nodeUUID : String
  nodeHostName : String
  status : String
  load : Int
  memTotalMB : Int
  memAvailableMB : Int
  diskTotalMB : Int
  diskAvailableMB : Int
  cpusOnline : Int
  instances : List InstanceStat
  deriving DecidableEq, Repr

structure StorageResource where
  id : String
  ephemeral : Bool
  bootable : Bool
  deriving DecidableEq, Repr

/-- A `payloads.StartFailureReason`: its `String()` text and whether `IsFatal()` holds. -/
structure StartFailureReason where
  text : String
  fatal : Bool
  deriving DecidableEq, Repr

/-- The node kinds `AddNode` distinguishes, and the `ssntp` role bits it records for them. -/
inductive Resource
  | computeNode | networkNode | other
  deriving DecidableEq, Repr

def agentRole : Nat := 0x4
def netAgentRole : Nat := 0x10

/-- The cache's `tenant`: `types.Tenant` with its relations. A subnet's host map only ever
holds `true`, so it is the set of hosts in use. -/
structure Tenant where
  id : String
  config : TenantConfig
  cnciCtrl : Option CnciCtrl
  network : GoMap UInt32 (Finset UInt32)
  instances : GoMap String Ptr
  devices : GoMap String Volume
  workloads : List String
  images : List String

/-- The cache's `node`: `types.Node` with the instances last reported on it. -/
structure Node where
  id : String
  hostname : String
  nodeRole : Nat
  totalFailures : Int
  startFailures : Int
  attachVolumeFailures : Int
  deleteFailures : Int
  instances : GoMap String Ptr
  deriving DecidableEq

end CiaoDatastore
