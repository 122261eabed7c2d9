import Gokube.Trace
import Gokube.Path

/-! `pkg/registry`: one registry per kind over the shared storage. Each keys
its objects by name under its prefix. The pod and ReplicaSet registries hold a
`sync.RWMutex`; the node registry has none and keys with `path.Join`. -/

namespace Gokube

def podPrefix : Bytes := lit "/pods/"
def nodePrefix : Bytes := lit "/registry/nodes/"
def replicaSetPrefix : Bytes := lit "/replicasets"

/-- The shape the three `Create`s share: a `Get` without error counts as
present; otherwise `prepare` prepares the object and an unconditional put
stores it. -/
def createChecked {α : Type} (key : Bytes) (decode : Object → Except Bytes α) (present : GoError)
    (prepare : Except GoError α) (encode : α → Object) : Go α := do
  match ← Go.attempt (EtcdStorage.get key decode) with
  | .ok _ => throw present
  | .error _ =>
    let obj ← Go.ofExcept prepare
    EtcdStorage.create key (encode obj)
    pure obj

theorem exec_createChecked {α : Type} (key : Bytes) (decode : Object → Except Bytes α) (present : GoError)
    (prepare : Except GoError α) (encode : α → Object) (w : World) :
    (createChecked key decode present prepare encode).exec w =
      if !w.fails.1 && (EtcdStorage.read key decode w.store).toBool then
        some (.returned (.error present),w.fails.2)
      else
        match prepare with
        | .error e => some (.returned (.error e),w.fails.2)
        | .ok obj => (EtcdStorage.create key (encode obj) >>= fun _ => pure obj).exec w.fails.2 := by
  rw [createChecked,Go.exec_bind,Go.exec_attempt,EtcdStorage.exec_get]
  cases w.fails.1
  · cases EtcdStorage.read key decode w.store <;> cases prepare <;> rfl
  · cases prepare <;> rfl

/-- A `PodRegistry`; `mutex` names its lock. -/
structure PodRegistry where
  mutex : Nat
  deriving DecidableEq, Repr

namespace PodRegistry

def generateKey (_ : PodRegistry) (podName : Bytes) : Bytes := podPrefix ++ podName

/-- The part of `CreatePod` after the existence check: the status defaults to
`Pending`, then the pod is validated. -/
def prepare (pod : Pod) : Except GoError Pod :=
  let pod := if pod.status = [] then {pod with status := podPending} else pod
  match pod.validate with
  | .error e => .error (wrap .podInvalid e.text)
  | .ok () => .ok pod

theorem prepare_ok {pod stored : Pod} (prepared : prepare pod = .ok stored) :
    stored = if pod.status = [] then {pod with status := podPending} else pod := by
  dsimp only [prepare] at prepared
  split at prepared <;> cases prepared
  rfl

/-- `CreatePod`; it returns the pod as stored, its status defaulted. -/
def createPod (r : PodRegistry) (pod : Pod) : Go Pod :=
  withLock r.mutex (createChecked (r.generateKey pod.objectMeta.name) decodePod
    (wrap .podAlreadyExists pod.objectMeta.name) (prepare pod) .pod)

def getPod (r : PodRegistry) (name : Bytes) : Go Pod :=
  withRLock r.mutex do
    match ← Go.attempt (EtcdStorage.get (r.generateKey name) decodePod) with
    | .ok pod => pure pod
    | .error err =>
      if err.is .notFound then throw (wrap .podNotFound name)
      else throw (wrap .internal (lit "failed to get pod: " ++ err.text))

def updatePod (r : PodRegistry) (pod : Pod) : Go Unit :=
  withLock r.mutex do
    match pod.validate with
    | .error e => throw (wrap .podInvalid e.text)
    | .ok () => EtcdStorage.update (r.generateKey pod.objectMeta.name) (.pod pod)

def deletePod (r : PodRegistry) (name : Bytes) : Go Unit :=
  withLock r.mutex (EtcdStorage.delete (r.generateKey name))

def listPods (r : PodRegistry) : Go (List Pod) :=
  withRLock r.mutex do
    match ← Go.attempt (EtcdStorage.list podPrefix decodePod) with
    | .error err => throw (wrap .listPodsFailed err.text)
    | .ok pods => pure pods

def listPodsByStatus (r : PodRegistry) (status : Bytes) : Go (List Pod) := do
  match ← Go.attempt r.listPods with
  | .error err => throw (wrap .listPodsFailed err.text)
  | .ok pods => pure (pods.filter (·.status = status))

def listUnassignedPods (r : PodRegistry) : Go (List Pod) := r.listPodsByStatus podPending

def listPendingPods (r : PodRegistry) : Go (List Pod) := r.listPodsByStatus podPending

end PodRegistry

/-- The package-level `generateKey(prefix, name)` of the node registry. -/
def generateKey (pre name : Bytes) : Bytes := Path.join [pre,name]

/-- A `NodeRegistry`: storage only, no lock. -/
structure NodeRegistry where
  deriving DecidableEq, Repr

namespace NodeRegistry

def prepare (node : Node) : Except GoError Node :=
  match node.validate with
  | .error e => .error (wrap .nodeInvalid e.text)
  | .ok () => .ok node

def createNode (_ : NodeRegistry) (node : Node) : Go Node :=
  createChecked (generateKey nodePrefix node.objectMeta.name) decodeNode
    (wrap .nodeAlreadyExists node.objectMeta.name) (prepare node) .node

def getNode (_ : NodeRegistry) (name : Bytes) : Go Node := do
  match ← Go.attempt (EtcdStorage.get (generateKey nodePrefix name) decodeNode) with
  | .ok node => pure node
  | .error err =>
    if err.is .notFound then throw (wrap .nodeNotFound name)
    else throw (wrap .internal (lit "failed to get node: " ++ err.text))

def updateNode (_ : NodeRegistry) (node : Node) : Go Unit :=
  match node.validate with
  | .error e => throw (wrap .nodeInvalid e.text)
  | .ok () => EtcdStorage.update (generateKey nodePrefix node.objectMeta.name) (.node node)

def deleteNode (_ : NodeRegistry) (name : Bytes) : Go Unit :=
  EtcdStorage.delete (generateKey nodePrefix name)

def listNodes (_ : NodeRegistry) : Go (List Node) := do
  match ← Go.attempt (EtcdStorage.list nodePrefix decodeNode) with
  | .error err => throw (wrap .listNodesFailed err.text)
  | .ok nodes => pure nodes

end NodeRegistry

def createNodeClient (node : Node) : Go Unit := discard ((⟨⟩ : NodeRegistry).createNode node)

def nodeCreates : Cluster :=
  ⟨World.start Store.empty [] [],
    [(createNodeClient (readyNode (lit "self"))).run,(createNodeClient (readyNode (lit "self"))).run],0⟩

/-- Both `Get`s run before either put: both find nothing, both put, and both
`CreateNode`s return nil. -/
theorem concurrent_createNode_both_succeed :
    Cluster.Run (fun _ _ => pure ()) nodeCreates (nodeCreates.scheduled [0,1,0,1]).1
        (nodeCreates.scheduled [0,1,0,1]).2 ∧
      (nodeCreates.scheduled [0,1,0,1]).1.map (fun entry => (entry.1,entry.2.effect)) =
        [(0,.etcd (.get (generateKey nodePrefix (lit "self")))),(1,.etcd (.get (generateKey nodePrefix (lit "self")))),
          (0,.etcd (.put (generateKey nodePrefix (lit "self")) (.node (readyNode (lit "self"))))),
          (1,.etcd (.put (generateKey nodePrefix (lit "self")) (.node (readyNode (lit "self")))))] ∧
      (nodeCreates.scheduled [0,1,0,1]).2.returned 0 = true ∧ (nodeCreates.scheduled [0,1,0,1]).2.returned 1 = true :=
  ⟨Cluster.run_scheduled _ _ (by decide),by decide,by decide,by decide⟩

/-- A `ReplicaSetRegistry`; it validates nothing. -/
structure ReplicaSetRegistry where
  mutex : Nat
  deriving DecidableEq, Repr

namespace ReplicaSetRegistry

def generateKey (_ : ReplicaSetRegistry) (name : Bytes) : Bytes := replicaSetPrefix ++ lit "/" ++ name

theorem generateKey_outside_pods (r : ReplicaSetRegistry) (name : Bytes) :
    hasPrefix (r.generateKey name) podPrefix = false := rfl

def create (r : ReplicaSetRegistry) (rs : ReplicaSet) : Go ReplicaSet :=
  withLock r.mutex (createChecked (r.generateKey rs.objectMeta.name) decodeReplicaSet
    (wrap .replicaSetExists rs.objectMeta.name) (.ok rs) .replicaSet)

/-- `Get`: every storage error reads as not found. -/
def get (r : ReplicaSetRegistry) (name : Bytes) : Go ReplicaSet :=
  withRLock r.mutex do
    match ← Go.attempt (EtcdStorage.get (r.generateKey name) decodeReplicaSet) with
    | .ok rs => pure rs
    | .error _ => throw (wrap .replicaSetNotFound name)

/-- `Update`: an existence check, then an unconditional put. -/
def update (r : ReplicaSetRegistry) (rs : ReplicaSet) : Go Unit :=
  withLock r.mutex do
    match ← Go.attempt (EtcdStorage.get (r.generateKey rs.objectMeta.name) decodeReplicaSet) with
    | .error _ => throw (wrap .replicaSetNotFound rs.objectMeta.name)
    | .ok _ => EtcdStorage.update (r.generateKey rs.objectMeta.name) (.replicaSet rs)

def delete (r : ReplicaSetRegistry) (name : Bytes) : Go Unit :=
  withLock r.mutex (EtcdStorage.delete (r.generateKey name))

def list (r : ReplicaSetRegistry) : Go (List ReplicaSet) :=
  withRLock r.mutex do
    match ← Go.attempt (EtcdStorage.list replicaSetPrefix decodeReplicaSet) with
    | .error _ => throw Sentinel.listReplicaSets.error
    | .ok rss => pure rss

end ReplicaSetRegistry

/-! ### Calls made alone in a world where no call fails -/

section Quiet
variable {w : World} (quiet : w.failures = [])
include quiet

theorem PodRegistry.exec_createPod_quiet (r : PodRegistry) (pod : Pod) (free : r.mutex ∉ w.writers ∧ r.mutex ∉ w.readers) :
    (r.createPod pod).exec w =
      match EtcdStorage.read (r.generateKey pod.objectMeta.name) decodePod w.store,prepare pod with
      | .ok _,_ => some (.returned (.error (wrap .podAlreadyExists pod.objectMeta.name)),w)
      | .error _,.error e => some (.returned (.error e),w)
      | .error _,.ok stored =>
        some (.returned (.ok stored),{w with store := w.store.put (r.generateKey pod.objectMeta.name) (.pod stored)}) := by
  have locked : ({w with writers := r.mutex :: w.writers} : World).failures = [] := quiet
  rw [createPod,Go.exec_withLock _ _ _ free,exec_createChecked,World.fails_quiet locked]
  cases EtcdStorage.read (r.generateKey pod.objectMeta.name) decodePod w.store <;> cases prepare pod <;>
    simp [Except.toBool,Go.exec_bind,EtcdStorage.exec_put_quiet _ _ locked,List.erase_cons_head]

theorem PodRegistry.exec_listPods_quiet (r : PodRegistry) (free : r.mutex ∉ w.writers) :
    r.listPods.exec w =
      some (.returned (match EtcdStorage.listed podPrefix decodePod w.store with
        | .error err => .error (wrap .listPodsFailed err.text)
        | .ok pods => .ok pods),w) := by
  have locked : ({w with readers := r.mutex :: w.readers} : World).failures = [] := quiet
  rw [listPods,Go.exec_withRLock _ _ _ free,Go.exec_bind,Go.exec_attempt,EtcdStorage.exec_list_quiet _ _ locked]
  cases EtcdStorage.listed podPrefix decodePod w.store <;> simp [List.erase_cons_head]

theorem ReplicaSetRegistry.exec_get_quiet (r : ReplicaSetRegistry) (name : Bytes) (free : r.mutex ∉ w.writers) :
    (r.get name).exec w =
      some (.returned (match EtcdStorage.read (r.generateKey name) decodeReplicaSet w.store with
        | .error _ => .error (wrap .replicaSetNotFound name)
        | .ok rs => .ok rs),w) := by
  have locked : ({w with readers := r.mutex :: w.readers} : World).failures = [] := quiet
  rw [get,Go.exec_withRLock _ _ _ free,Go.exec_bind,Go.exec_attempt,EtcdStorage.exec_get_quiet _ _ locked]
  cases EtcdStorage.read (r.generateKey name) decodeReplicaSet w.store <;> simp [List.erase_cons_head]

theorem ReplicaSetRegistry.exec_update_quiet (r : ReplicaSetRegistry) (rs : ReplicaSet)
    (free : r.mutex ∉ w.writers ∧ r.mutex ∉ w.readers) :
    (r.update rs).exec w =
      match EtcdStorage.read (r.generateKey rs.objectMeta.name) decodeReplicaSet w.store with
      | .error _ => some (.returned (.error (wrap .replicaSetNotFound rs.objectMeta.name)),w)
      | .ok _ =>
        some (.returned (.ok ()),{w with store := w.store.put (r.generateKey rs.objectMeta.name) (.replicaSet rs)}) := by
  have locked : ({w with writers := r.mutex :: w.writers} : World).failures = [] := quiet
  rw [update,Go.exec_withLock _ _ _ free,Go.exec_bind,Go.exec_attempt,EtcdStorage.exec_get_quiet _ _ locked]
  cases EtcdStorage.read (r.generateKey rs.objectMeta.name) decodeReplicaSet w.store <;>
    simp [EtcdStorage.update_eq_create,EtcdStorage.exec_put_quiet _ _ locked,List.erase_cons_head]

theorem PodRegistry.exec_updatePod_quiet (r : PodRegistry) (pod : Pod) (free : r.mutex ∉ w.writers ∧ r.mutex ∉ w.readers) :
    (r.updatePod pod).exec w =
      match pod.validate with
      | .error e => some (.returned (.error (wrap .podInvalid e.text)),w)
      | .ok () => some (.returned (.ok ()),{w with store := w.store.put (r.generateKey pod.objectMeta.name) (.pod pod)}) := by
  have locked : ({w with writers := r.mutex :: w.writers} : World).failures = [] := quiet
  rw [updatePod,Go.exec_withLock _ _ _ free]
  cases pod.validate with
  | error e => simp [List.erase_cons_head]
  | ok u => simp [EtcdStorage.update_eq_create,EtcdStorage.exec_put_quiet _ _ locked,List.erase_cons_head]

theorem NodeRegistry.exec_listNodes_quiet (r : NodeRegistry) :
    r.listNodes.exec w =
      some (.returned (match EtcdStorage.listed nodePrefix decodeNode w.store with
        | .error err => .error (wrap .listNodesFailed err.text)
        | .ok nodes => .ok nodes),w) := by
  rw [listNodes,Go.exec_bind,Go.exec_attempt,EtcdStorage.exec_list_quiet _ _ quiet]
  cases EtcdStorage.listed nodePrefix decodeNode w.store <;> rfl

end Quiet

/-! Inversions: a call that returned took its mutex, so the mutex was free. -/

section Inversions
variable {w w' : World}

theorem PodRegistry.createPod_ok_quiet {r : PodRegistry} {pod stored : Pod}
    (ran : (r.createPod pod).exec w = some (.returned (.ok stored),w')) (quiet : w.failures = []) :
    (EtcdStorage.read (r.generateKey pod.objectMeta.name) decodePod w.store).toBool = false ∧ prepare pod = .ok stored ∧
      w' = {w with store := w.store.put (r.generateKey pod.objectMeta.name) (.pod stored)} := by
  by_cases free : r.mutex ∉ w.writers ∧ r.mutex ∉ w.readers
  · rw [exec_createPod_quiet quiet r pod free] at ran
    revert ran
    cases EtcdStorage.read (r.generateKey pod.objectMeta.name) decodePod w.store <;> cases prepare pod <;>
      rintro ⟨⟩
    exact ⟨rfl,rfl,rfl⟩
  · rw [createPod,Go.exec_withLock_held _ _ _ (by tauto)] at ran; cases ran

theorem PodRegistry.listPods_ok_quiet {r : PodRegistry} {pods : List Pod}
    (ran : r.listPods.exec w = some (.returned (.ok pods),w')) (quiet : w.failures = []) :
    r.mutex ∉ w.writers ∧ EtcdStorage.listed podPrefix decodePod w.store = .ok pods ∧ w' = w := by
  by_cases free : r.mutex ∈ w.writers
  · rw [listPods,Go.exec_withRLock_held _ _ _ free] at ran; cases ran
  · rw [exec_listPods_quiet quiet r free] at ran
    revert ran
    cases EtcdStorage.listed podPrefix decodePod w.store <;> rintro ⟨⟩
    exact ⟨free,rfl,rfl⟩

theorem ReplicaSetRegistry.get_ok_quiet {r : ReplicaSetRegistry} {name : Bytes} {rs : ReplicaSet}
    (ran : (r.get name).exec w = some (.returned (.ok rs),w')) (quiet : w.failures = []) :
    r.mutex ∉ w.writers ∧ EtcdStorage.read (r.generateKey name) decodeReplicaSet w.store = .ok rs ∧ w' = w := by
  by_cases free : r.mutex ∈ w.writers
  · rw [get,Go.exec_withRLock_held _ _ _ free] at ran; cases ran
  · rw [exec_get_quiet quiet r name free] at ran
    revert ran
    cases EtcdStorage.read (r.generateKey name) decodeReplicaSet w.store <;> rintro ⟨⟩
    exact ⟨free,rfl,rfl⟩

theorem ReplicaSetRegistry.update_ok_quiet {r : ReplicaSetRegistry} {rs : ReplicaSet}
    (ran : (r.update rs).exec w = some (.returned (.ok ()),w')) (quiet : w.failures = []) :
    w' = {w with store := w.store.put (r.generateKey rs.objectMeta.name) (.replicaSet rs)} := by
  by_cases free : r.mutex ∉ w.writers ∧ r.mutex ∉ w.readers
  · rw [exec_update_quiet quiet r rs free] at ran
    revert ran
    cases EtcdStorage.read (r.generateKey rs.objectMeta.name) decodeReplicaSet w.store <;> rintro ⟨⟩
    rfl
  · rw [update,Go.exec_withLock_held _ _ _ (by tauto)] at ran; cases ran

/-! The same with any pattern of failed calls: what a call that returned read,
and what it left in the store. -/

theorem ReplicaSetRegistry.get_ok {r : ReplicaSetRegistry} {name : Bytes} {rs : ReplicaSet}
    (ran : (r.get name).exec w = some (.returned (.ok rs),w')) :
    EtcdStorage.read (r.generateKey name) decodeReplicaSet w.store = .ok rs ∧ w'.store = w.store := by
  by_cases free : r.mutex ∈ w.writers
  · rw [get,Go.exec_withRLock_held _ _ _ free] at ran; cases ran
  · rw [get,Go.exec_withRLock _ _ _ free,Go.exec_bind,Go.exec_attempt,EtcdStorage.exec_get] at ran
    simp only [World.fails] at ran
    split at ran
    · simp at ran
    · cases read : EtcdStorage.read (r.generateKey name) decodeReplicaSet w.store <;> simp [read] at ran
      obtain ⟨rfl,rfl⟩ := ran
      exact ⟨rfl,rfl⟩

theorem PodRegistry.listPods_ok {r : PodRegistry} {pods : List Pod}
    (ran : r.listPods.exec w = some (.returned (.ok pods),w')) :
    EtcdStorage.listed podPrefix decodePod w.store = .ok pods ∧ w'.store = w.store := by
  by_cases free : r.mutex ∈ w.writers
  · rw [listPods,Go.exec_withRLock_held _ _ _ free] at ran; cases ran
  · rw [listPods,Go.exec_withRLock _ _ _ free,Go.exec_bind,Go.exec_attempt,EtcdStorage.exec_list] at ran
    simp only [World.fails] at ran
    split at ran
    · simp at ran
    · cases listed : EtcdStorage.listed podPrefix decodePod w.store <;> simp [listed] at ran
      obtain ⟨rfl,rfl⟩ := ran
      exact ⟨rfl,rfl⟩

theorem ReplicaSetRegistry.update_ok {r : ReplicaSetRegistry} {rs : ReplicaSet}
    (ran : (r.update rs).exec w = some (.returned (.ok ()),w')) :
    w'.store = w.store.put (r.generateKey rs.objectMeta.name) (.replicaSet rs) := by
  by_cases free : r.mutex ∉ w.writers ∧ r.mutex ∉ w.readers
  · rw [update,Go.exec_withLock _ _ _ free,Go.exec_bind,Go.exec_attempt,EtcdStorage.exec_get] at ran
    simp only [World.fails] at ran
    split at ran
    · simp at ran
    · cases read : EtcdStorage.read (r.generateKey rs.objectMeta.name) decodeReplicaSet w.store <;>
        simp only [read,Option.map_some',Option.some_bind] at ran
      · cases ran
      · rw [EtcdStorage.update_eq_create,EtcdStorage.exec_put] at ran
        simp only [World.fails] at ran
        split at ran <;> obtain ⟨rfl⟩ := ran
        rfl
  · rw [update,Go.exec_withLock_held _ _ _ (by tauto)] at ran; cases ran

end Inversions

end Gokube
