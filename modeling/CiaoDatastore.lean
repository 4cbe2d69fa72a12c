import CiaoDatastore.GoMap
import CiaoDatastore.Types
import CiaoDatastore.Net
import CiaoDatastore.Store
import CiaoDatastore.Tenant
import CiaoDatastore.Workload
import CiaoDatastore.Volume
import CiaoDatastore.Instance
import CiaoDatastore.Pool
import CiaoDatastore.Image
import CiaoDatastore.Init
import CiaoDatastore.System
import CiaoDatastore.RowStore
import CiaoDatastore.Frame
import CiaoDatastore.InstanceLinks
import CiaoDatastore.Attachments
import CiaoDatastore.Catalog
import CiaoDatastore.Failures
import CiaoDatastore.LastStats
import CiaoDatastore.Locks
import CiaoDatastore.Address
import CiaoDatastore.TenantNetwork
import CiaoDatastore.Allocation
import CiaoDatastore.Usage
import CiaoDatastore.NilDereference
import CiaoDatastore.SubnetScans
import CiaoDatastore.DeleteCascade
import CiaoDatastore.DeletionErrors
import CiaoDatastore.PoolFrame
import CiaoDatastore.PoolAccounts
import CiaoDatastore.InstanceFrame
import CiaoDatastore.Listings
import CiaoDatastore.LockOrder
import CiaoDatastore.CallLocks
