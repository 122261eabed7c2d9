import Gokube.Go
import Gokube.Api
import Gokube.Json
import Gokube.Store
import Gokube.Names
import Gokube.Runtime
import Gokube.Program
import Gokube.Storage
import Gokube.Path
import Gokube.Registry
import Gokube.Controller
import Gokube.Convergence
import Gokube.Writes
import Gokube.Handlers
import Gokube.Kubelet
import Gokube.Scheduler
import Gokube.Cluster
import Gokube.Trace
import Gokube.Footprint
import Gokube.LostUpdate
import Gokube.PodUpdates
import Gokube.ReplicaSetStatus
import Gokube.ControllerTick
import Gokube.StatusReport
import Gokube.NameFormat
import Gokube.Scheduling
import Gokube.NodeKeys
import Gokube.Keyspace
import Gokube.PodRunners
import Gokube.RequestWrites
import Gokube.Exclusion
import Gokube.Locking
