import Gokube.Controller
import Gokube.Scheduler
import Gokube.Handlers
import Gokube.Trace

/-! `pkg/kubelet`: the node agent. It registers its node, polls the API server
for pods and starts a runner for each pod it does not track yet, and each tick
PUTs back every tracked pod whose status changed. Its `pods` map is the
world's memory of agent `agent`; each loop is modelled by its rounds. -/

namespace Gokube

/-- `containerState`. -/
structure ContainerState where
  «exists» : Bool
  running : Bool
  exitCode : Int
  deriving DecidableEq, Repr

def allContainersSucceeded (states : List ContainerState) : Bool := states.all (·.exitCode == 0)

def anyContainerRunning (states : List ContainerState) : Bool := states.any (·.running)

def allContainersFailed (states : List ContainerState) : Bool :=
  states.all fun state => !(state.exists && state.exitCode == 0)

def anyContainerExists (states : List ContainerState) : Bool := states.any (·.exists)

def determinePodStatus (states : List ContainerState) : Bytes :=
  if anyContainerRunning states then podRunning
  else if allContainersFailed states && anyContainerExists states then podFailed
  else if allContainersSucceeded states then podSucceeded
  else podScheduled

/-- `ContainerStatus` of `ListContainers`. -/
structure ContainerStatus where
  podName : Bytes
  containerName : Bytes
  containerID : Bytes
  status : Bytes
  deriving DecidableEq, Repr

def labelPodName : Bytes := lit "gokube.pod.name"
def labelPodNamespace : Bytes := lit "gokube.pod.namespace"
def labelContainerName : Bytes := lit "gokube.container.name"

/-- `c.Labels[key]`: the empty string for a missing label. -/
def label (c : DockerContainer) (key : Bytes) : Bytes := (c.labels.lookup key).getD []

/-- The error `encoding/json` gives for a body that holds an error's text. -/
def invalidJSON (text : Bytes) : GoError :=
  plain (lit "invalid character '" ++ text.take 1 ++ lit "' looking for beginning of value")

structure Kubelet where
  /-- Which agent's `pods` map of the world is this one's. -/
  agent : Nat
  nodeName : Bytes
  /-- The API server at `apiServerURL`. -/
  apiServer : ApiServer
  deriving DecidableEq, Repr

def agentOn (agent : Nat) (name : Bytes) : Kubelet := ⟨agent,name,sampleServer⟩

namespace Kubelet
variable (k : Kubelet)

def registerNode : Go Unit := do
  match ← Go.call .dial with
  | .error e => throw (plain (lit "failed to send request to API server: " ++ e))
  | .ok () =>
    let resp ← k.apiServer.nodeHandler.createNode (Node.json ⟨⟨k.nodeName,[]⟩,⟨false,[]⟩,nodeReady⟩)
    if resp.status ≠ statusCreated then
      throw (plain (lit "failed to register node, status code: " ++ lit (toString resp.status)))

/-- `getPodAssignments`: `GET /pods?nodeName=…`, whose handler ignores the
query; the body is decoded whatever the status code. -/
def getPodAssignments : Go (List Pod) := do
  match ← Go.call .dial with
  | .error e => throw (plain e)
  | .ok () =>
    let resp ← k.apiServer.podHandler.listPods
    match resp.body with
    | .ok pods :: _ => pure (pods.map Pod.json)
    | .error text :: _ => throw (invalidJSON text)
    | [] => throw (plain (lit "EOF"))

/-- `runNewPods`: each pod whose name the map does not hold is recorded and
gets a runner. -/
def runNewPods : List Pod → Go Unit
  | [] => pure ()
  | pod :: rest => do
    if (← Go.call (.lookupPod k.agent pod.objectMeta.name)).isNone then
      Go.call (.trackPod k.agent pod)
      Go.call (.spawnRunner k.agent pod)
    runNewPods rest

/-- One round of `watchPods`: an error is logged and the round ends. -/
def watchPodsRound : Go Unit := do
  match ← Go.attempt k.getPodAssignments with
  | .error _ => pure ()
  | .ok pods => discard (Go.attempt (k.runNewPods pods))

def watchPods : (rounds : Nat) → Go Unit
  | 0 => pure ()
  | rounds + 1 => do k.watchPodsRound; watchPods rounds

end Kubelet

def webOnSelf : Pod := {podNamed (lit "web") nginx with nodeName := lit "self",status := podScheduled}

def peerPolled : World := ((agentOn 1 (lit "peer")).runNewPods [webOnSelf]).after (World.start Store.empty [] [])

/-- Agents on nodes `peer` and `self` each get `webOnSelf` from a poll: both
record it and spawn a runner for it. -/
theorem runNewPods_launches_pod_of_other_node :
    ((agentOn 1 (lit "peer")).runNewPods [webOnSelf]).exec (World.start Store.empty [] []) =
        some (.returned (.ok ()),peerPolled) ∧
      ((agentOn 0 (lit "self")).runNewPods [webOnSelf]).exec peerPolled =
        some (.returned (.ok ()),((agentOn 0 (lit "self")).runNewPods [webOnSelf]).after peerPolled) ∧
      (((agentOn 0 (lit "self")).runNewPods [webOnSelf]).after peerPolled).runners = [(1,webOnSelf),(0,webOnSelf)] := by
  decide

namespace Kubelet
variable (k : Kubelet)

/-- `StartContainer`. A failed `ImagePull` panics. -/
def startContainer (_ : Kubelet) (pod : Pod) (containerName imageName : Bytes) : Go Unit := do
  match ← Go.call (.docker (.imagePull imageName)) with
  | .error e => Go.fatal (lit "panic: " ++ e)
  | .ok () =>
  match ← Go.call (.docker (.readPull imageName)) with
  | .error e => throw (plain (lit "failed to pull image " ++ imageName ++ lit ": " ++ e))
  | .ok () =>
  let labels := [(labelPodName,pod.objectMeta.name),(labelPodNamespace,pod.objectMeta.namespace),
    (labelContainerName,containerName)]
  let uniqueContainerName ← ExceptT.lift (generateName (pod.objectMeta.name ++ lit "-" ++ containerName))
  match ← Go.call (.docker (.containerCreate imageName labels uniqueContainerName)) with
  | .error e => throw (plain (lit "failed to create container " ++ containerName ++ lit ": " ++ e))
  | .ok id =>
  match ← Go.call (.docker (.containerStart id)) with
  | .error e => throw (plain (lit "failed to start container " ++ containerName ++ lit ": " ++ e))
  | .ok () => pure ()

/-- The loop of `runPod` over the containers; a failure is logged. -/
def startContainers (pod : Pod) : List Container → Go Unit
  | [] => pure ()
  | container :: rest => do
    discard (Go.attempt (k.startContainer pod container.name container.image))
    startContainers pod rest

def runPod (pod : Pod) : Go Unit := k.startContainers pod (items pod.spec.containers)

def getContainerState (_ : Kubelet) (containerName : Bytes) : Go ContainerState := do
  match ← Go.call (.docker (.containerInspect containerName)) with
  | .error e => throw (plain e)
  | .ok none => pure ⟨false,false,0⟩
  | .ok (some (running,exitCode)) => pure ⟨true,running,exitCode⟩

/-- The loop of `getPodStatus`: each container is inspected by its name. -/
def getContainerStates : List Container → Go (List ContainerState)
  | [] => pure []
  | container :: rest => do
    match ← Go.attempt (k.getContainerState container.name) with
    | .error err => throw ⟨err.chain,lit "failed to get state for container " ++ container.name ++ lit ": " ++ err.text⟩
    | .ok state => pure (state :: (← getContainerStates rest))

def getPodStatus (pod : Pod) : Go Bytes := do
  let containerStates ← k.getContainerStates (items pod.spec.containers)
  pure (determinePodStatus containerStates)

end Kubelet

def webRunning : World := ((agentOn 0 (lit "self")).runPod webOnSelf).after (World.start Store.empty [0] [])

/-- The runner creates and starts `web-nginxbbbbb`; the status reporter
inspects `nginx`, finds nothing, and reports `Succeeded`. -/
theorem getPodStatus_misses_runner_container :
    ((agentOn 0 (lit "self")).runPod webOnSelf).exec (World.start Store.empty [0] []) =
        some (.returned (.ok ()),webRunning) ∧
      webRunning.runtime.containers.map (fun c => (c.name,c.running)) = [(lit "web-nginxbbbbb",true)] ∧
      ((agentOn 0 (lit "self")).getPodStatus webOnSelf).exec webRunning =
        some (.returned (.ok podSucceeded),webRunning) := by
  decide

namespace Kubelet
variable (k : Kubelet)

def updatePodStatus (pod : Pod) : Go Unit := do
  match ← Go.call .dial with
  | .error e => throw (plain (lit "failed to send request to API server: " ++ e))
  | .ok () =>
    let resp ← k.apiServer.podHandler.putPodRoute pod.objectMeta.name pod.json
    if resp.status ≠ statusOK then
      throw (plain (lit "failed to update pod status, status code: " ++ lit (toString resp.status)))

/-- The loop of one `updatePodStatuses` tick over the tracked pods. -/
def reportStatuses : List Pod → Go Unit
  | [] => pure ()
  | pod :: rest => do
    match ← Go.attempt (k.getPodStatus pod) with
    | .error _ => pure ()
    | .ok status =>
      if pod.status ≠ status then
        Go.call (.setPodStatus k.agent pod.objectMeta.name status)
        discard (Go.attempt (k.updatePodStatus {pod with status := status}))
    reportStatuses rest

def updatePodStatusesRound : Go Unit := do
  let pods ← Go.call (.trackedPods k.agent)
  k.reportStatuses pods

def updatePodStatuses : (rounds : Nat) → Go Unit
  | 0 => pure ()
  | rounds + 1 => do k.updatePodStatusesRound; updatePodStatuses rounds

end Kubelet

def webWithNode : Store :=
  (Store.empty.put (sampleController.replicaSetRegistry.generateKey (lit "web")) (.replicaSet (webReplicaSet 1 [nginx]))).put
    (generateKey nodePrefix (lit "self")) (.node (readyNode (lit "self")))

def bindingStart : World := World.start webWithNode [0] [0]

def podCreated : World := (sampleController.reconcile (webReplicaSet 1 [nginx])).after bindingStart

def agentPolled : World := (agentOn 0 (lit "self")).watchPodsRound.after podCreated

def podBound : World := sampleScheduler.schedulePendingPods.after agentPolled

def statusReported : World := (agentOn 0 (lit "self")).updatePodStatusesRound.after podBound

def bindingRun : Cluster :=
  ⟨bindingStart,[(sampleController.reconcile (webReplicaSet 1 [nginx])).run,
    (agentOn 0 (lit "self")).watchPodsRound.run,sampleScheduler.schedulePendingPods.run,
    (agentOn 0 (lit "self")).updatePodStatusesRound.run],0⟩

def selfRunner (_ : Nat) (pod : Pod) : Go Unit := (agentOn 0 (lit "self")).runPod pod

/-- The goroutines run one after the other: `Reconcile` creates `webbbbbb`
pending on no node, the scheduler binds it to `self` as `Scheduled`, and the
status reporter stores it again with no node and the status `Succeeded`. -/
theorem agent_unbinds_scheduled_pod :
    Cluster.Reaches selfRunner bindingRun
        ⟨statusReported,[.done (.ok ()),.done (.ok ()),.done (.ok ()),.done (.ok ())],0⟩ ∧
      podCreated.store.get (podPrefix ++ lit "webbbbbb") = some (.pod (podNamed (lit "webbbbbb") nginx)) ∧
      podBound.store.get (podPrefix ++ lit "webbbbbb") =
        some (.pod {podNamed (lit "webbbbbb") nginx with nodeName := lit "self",status := podScheduled}) ∧
      statusReported.store.get (podPrefix ++ lit "webbbbbb") =
        some (.pod {podNamed (lit "webbbbbb") nginx with status := podSucceeded}) := by
  have created : Cluster.Reaches selfRunner bindingRun ⟨podCreated,bindingRun.threads.set 0 (.done (.ok ())),0⟩ :=
    Cluster.reaches_go_done rfl (by decide)
  have polled : Cluster.Reaches selfRunner ⟨podCreated,bindingRun.threads.set 0 (.done (.ok ())),0⟩
      ⟨agentPolled,(bindingRun.threads.set 0 (.done (.ok ()))).set 1 (.done (.ok ())),0⟩ :=
    Cluster.reaches_go_done rfl (by decide)
  have bound : Cluster.Reaches selfRunner
      ⟨agentPolled,(bindingRun.threads.set 0 (.done (.ok ()))).set 1 (.done (.ok ())),0⟩
      ⟨podBound,((bindingRun.threads.set 0 (.done (.ok ()))).set 1 (.done (.ok ()))).set 2 (.done (.ok ())),0⟩ :=
    Cluster.reaches_go_done rfl (by decide)
  have reported : Cluster.Reaches selfRunner
      ⟨podBound,((bindingRun.threads.set 0 (.done (.ok ()))).set 1 (.done (.ok ()))).set 2 (.done (.ok ())),0⟩
      ⟨statusReported,(((bindingRun.threads.set 0 (.done (.ok ()))).set 1 (.done (.ok ()))).set 2
        (.done (.ok ()))).set 3 (.done (.ok ())),0⟩ :=
    Cluster.reaches_go_done rfl (by decide)
  exact ⟨((created.trans polled).trans bound).trans reported,by decide,by decide,by decide⟩

namespace Kubelet
variable (k : Kubelet)

/-- The loop of `ListContainers`: containers of pods this agent tracks and
that are bound to its node, matched to their spec by the container label. -/
def containerStatuses : List DockerContainer → Go (List ContainerStatus)
  | [] => pure []
  | c :: rest => do
    match c.labels.lookup labelPodName with
    | none => containerStatuses rest
    | some podName =>
      match ← Go.call (.lookupPod k.agent podName) with
      | some pod =>
        if pod.nodeName = k.nodeName then
          match (items pod.spec.containers).find? (·.name = label c labelContainerName) with
          | some spec =>
            let status : ContainerStatus :=
              ⟨podName,spec.name,c.name,if c.running then lit "running" else lit "exited"⟩
            pure (status :: (← containerStatuses rest))
          | none => containerStatuses rest
        else containerStatuses rest
      | none => containerStatuses rest

def listContainers : Go (List ContainerStatus) := do
  match ← Go.call (.docker (.containerList false)) with
  | .error e => throw (plain (lit "failed to list containers: " ++ e))
  | .ok containers => k.containerStatuses containers

/-- The loop of `CleanupContainers`: a removal error is logged. -/
def removeContainers : List DockerContainer → Go Unit
  | [] => pure ()
  | c :: rest => do
    match c.labels.lookup labelPodName with
    | some podName =>
      match ← Go.call (.lookupPod k.agent podName) with
      | some pod =>
        if pod.nodeName = k.nodeName then discard (Go.call (.docker (.containerRemove c.name true)))
      | none => pure ()
    | none => pure ()
    removeContainers rest

def cleanupContainers : Go Unit := do
  match ← Go.call (.docker (.containerList true)) with
  | .error e => throw (plain (lit "error listing containers for cleanup: " ++ e))
  | .ok containers => k.removeContainers containers

end Kubelet

def selfAndPeer (agent : Nat) : Kubelet := if agent = 0 then agentOn 0 (lit "self") else agentOn 1 (lit "peer")

def selfAndPeerRunner (agent : Nat) (pod : Pod) : Go Unit := (selfAndPeer agent).runPod pod

def apiPending : Pod := podNamed (lit "api") redis

def cleanupStart : Cluster :=
  ⟨World.start Store.empty [0,1,2] [],
    [((agentOn 0 (lit "self")).runNewPods [webOnSelf,apiPending]).run,
      ((agentOn 1 (lit "peer")).runNewPods [webOnSelf]).run,(agentOn 0 (lit "self")).cleanupContainers.run],0⟩

def polled : Cluster := (cleanupStart.scheduled (List.replicate 6 0 ++ List.replicate 3 1)).2

def containersStarted : Cluster :=
  ((polled.launchAll selfAndPeerRunner).scheduled (List.replicate 5 3 ++ List.replicate 5 4 ++ List.replicate 5 5)).2

def cleanedUp : Cluster := (containersStarted.scheduled (List.replicate 6 2)).2

/-- The runners of `self` start `web-nginxbbbbb` and `api-rediscbbbb`, the
runner of `peer` starts `web-nginxdbbbb`. Every removal of `self`'s cleanup
succeeds, and what is left is `self`'s own container for `api`: `peer`'s
container is gone. -/
theorem cleanup_removes_other_agents_container :
    Cluster.Reaches selfAndPeerRunner cleanupStart cleanedUp ∧
      polled.world.runners = [(0,webOnSelf),(0,apiPending),(1,webOnSelf)] ∧
      containersStarted.world.runtime.containers.map (fun c => (c.name,label c labelPodName)) =
        [(lit "web-nginxbbbbb",lit "web"),(lit "api-rediscbbbb",lit "api"),(lit "web-nginxdbbbb",lit "web")] ∧
      cleanedUp.returned 2 = true ∧
      cleanedUp.world.runtime.containers.map (·.name) = [lit "api-rediscbbbb"] :=
  have polling : Cluster.Reaches selfAndPeerRunner cleanupStart polled :=
    (Cluster.run_scheduled _ _ (by decide)).reaches
  have running : Cluster.Reaches selfAndPeerRunner (polled.launchAll selfAndPeerRunner) containersStarted :=
    (Cluster.run_scheduled _ _ (by decide)).reaches
  have cleaning : Cluster.Reaches selfAndPeerRunner containersStarted cleanedUp :=
    (Cluster.run_scheduled _ _ (by decide)).reaches
  ⟨((polling.trans (Cluster.reaches_launchAll polled)).trans running).trans cleaning,by decide,by decide,by decide,
    by decide⟩

end Gokube
