import Gokube.Footprint
import Gokube.NodeKeys
import Gokube.Kubelet
import Gokube.Controller
import Gokube.Scheduling

/-! The etcd key space across every run of the control plane. Each registry
puts under its own prefix an object of its kind under the name it was given,
and the pod and node registries put only objects that pass `Validate`, so the
three `List`s never meet a document they cannot decode. A name reads back
coerced to valid UTF-8. -/

namespace Gokube

/-- What the registries put: under each prefix an object of its kind, under
the name it is encoded with, and pods and nodes that pass `Validate`. -/
structure Keyed (key : Bytes) (value : Object) : Prop where
  underPods : hasPrefix key podPrefix = true →
    ∃ pod, value = .pod pod ∧ key = podPrefix ++ pod.objectMeta.name ∧ pod.validate = .ok ()
  underNodes : hasPrefix key nodePrefix = true →
    ∃ node, value = .node node ∧ key = nodePrefix ++ node.objectMeta.name ∧ node.validate = .ok ()
  underReplicaSets : hasPrefix key replicaSetPrefix = true →
    ∃ rs, value = .replicaSet rs ∧ key = replicaSetPrefix ++ lit "/" ++ rs.objectMeta.name

def Store.keyed (s : Store) : Prop := ∀ key value, s.get key = some value → Keyed key value

namespace Keyed

private theorem not_under {key pre : Bytes} {P : Prop} (outside : hasPrefix key pre = false) :
    hasPrefix key pre = true → P := by
  rw [outside]; nofun

theorem ofPod {pod : Pod} (valid : pod.validate = .ok ()) : Keyed (podPrefix ++ pod.objectMeta.name) (.pod pod) :=
  ⟨fun _ => ⟨pod,rfl,rfl,valid⟩,not_under rfl,not_under rfl⟩

theorem ofReplicaSet (r : ReplicaSetRegistry) (rs : ReplicaSet) :
    Keyed (r.generateKey rs.objectMeta.name) (.replicaSet rs) :=
  ⟨not_under rfl,not_under rfl,fun _ => ⟨rs,rfl,rfl⟩⟩

theorem ofNode {node : Node} (noSlash : Path.slash ∉ node.objectMeta.name) (valid : node.validate = .ok ()) :
    Keyed (generateKey nodePrefix node.objectMeta.name) (.node node) := by
  rw [generateKey_nodePrefix noSlash]
  split_ifs
  · exact ⟨not_under (by decide),not_under (by decide),not_under (by decide)⟩
  · exact ⟨not_under (by decide),not_under (by decide),not_under (by decide)⟩
  · exact ⟨not_under rfl,fun _ => ⟨node,rfl,rfl,valid⟩,not_under rfl⟩

end Keyed

/-! ### The store -/

section Store
variable {s : Store}

theorem Store.keyed_put {key : Bytes} {value : Object} (keyed : s.keyed) (put : Keyed key value) :
    (s.put key value).keyed := by
  intro k v found
  rw [Store.get_put] at found
  split at found
  · next same => cases found; rw [same]; exact put
  · exact keyed k v found

theorem Store.keyed_delete (keyed : s.keyed) (key : Bytes) : (s.delete key).keyed := by
  intro k v found
  rw [Store.get_delete] at found
  split at found
  · cases found
  · exact keyed k v found

theorem Store.keyed_deleteRange (keyed : s.keyed) (pre : Bytes) : (s.deleteRange pre).keyed := by
  intro k v found
  rw [Store.get_deleteRange] at found
  split at found
  · cases found
  · exact keyed k v found

/-- Every etcd call that puts only what the registries put keeps the store as
they write it. -/
theorem Store.keyed_apply {call : Call} (allowed : PutAllowed Keyed (.etcd call)) (keyed : s.keyed) :
    (call.apply s).2.keyed := by
  cases call with
  | get _ | range _ => exact keyed
  | put _ _ => exact s.keyed_put keyed allowed
  | delete key => exact s.keyed_delete keyed key
  | deleteRange pre => exact s.keyed_deleteRange keyed pre

private theorem Store.listed_of_each {α : Type} {pre : Bytes} {decode : Object → Except Bytes α}
    (each : ∀ key value, s.get key = some value → hasPrefix key pre = true → (decode value).toBool = true) :
    ∃ objs, EtcdStorage.listed pre decode s = .ok objs := by
  obtain ⟨objs,ok⟩ := decodeAll_of_decodes fun entry mem =>
    let ⟨stored,under⟩ := Store.mem_range.mp mem
    each _ _ (Store.get_of_mem stored) under
  exact ⟨objs,by rw [EtcdStorage.listed,ok]⟩

theorem Store.keyed_listed (keyed : s.keyed) :
    (∃ pods, EtcdStorage.listed podPrefix decodePod s = .ok pods) ∧
      (∃ nodes, EtcdStorage.listed nodePrefix decodeNode s = .ok nodes) ∧
      (∃ rss, EtcdStorage.listed replicaSetPrefix decodeReplicaSet s = .ok rss) ∧ s.podsByRegistry = true := by
  refine ⟨Store.listed_of_each fun key value found under => ?_,Store.listed_of_each fun key value found under => ?_,
    Store.listed_of_each fun key value found under => ?_,List.all_eq_true.mpr fun entry mem => ?_⟩
  · obtain ⟨pod,rfl,-⟩ := (keyed key value found).underPods under; rfl
  · obtain ⟨node,rfl,-⟩ := (keyed key value found).underNodes under; rfl
  · obtain ⟨rs,rfl,-⟩ := (keyed key value found).underReplicaSets under; rfl
  · obtain ⟨k,v⟩ := entry
    obtain ⟨stored,under⟩ := Store.mem_range.mp mem
    obtain ⟨pod,rfl,rfl,valid⟩ := (keyed _ _ (Store.get_of_mem stored)).underPods under
    simp [valid]

/-- A pod read under the pod prefix passes `Validate`, and its key holds the
name it was encoded with, which it reads back coerced. -/
theorem Store.keyed_read_pod (keyed : s.keyed) {key : Bytes} {pod : Pod}
    (read : EtcdStorage.read key decodePod s = .ok pod) (under : hasPrefix key podPrefix = true) :
    pod.validate = .ok () ∧ ∃ name, key = podPrefix ++ name ∧ pod.objectMeta.name = Utf8.coerce name := by
  obtain ⟨value,found,decoded⟩ := EtcdStorage.read_ok.mp read
  obtain ⟨q,rfl,rfl,valid⟩ := (keyed key value found).underPods under
  cases decoded
  exact ⟨by rw [Pod.validate_json,valid],_,rfl,rfl⟩

end Store

/-! ### What each goroutine puts -/

theorem PodRegistry.prepare_valid {pod stored : Pod} (prepared : PodRegistry.prepare pod = .ok stored) :
    stored.validate = .ok () ∧ stored.objectMeta.name = pod.objectMeta.name := by
  dsimp only [PodRegistry.prepare] at prepared
  split at prepared <;> cases prepared
  exact ⟨‹_›,by split <;> rfl⟩

theorem NodeRegistry.prepare_valid {node stored : Node} (prepared : NodeRegistry.prepare node = .ok stored) :
    stored.validate = .ok () ∧ stored = node := by
  dsimp only [NodeRegistry.prepare] at prepared
  split at prepared <;> cases prepared
  exact ⟨‹_›,rfl⟩

theorem PodRegistry.putsWithin_createPod_keyed (r : PodRegistry) (pod : Pod) : (r.createPod pod).PutsWithin Keyed :=
  r.putsWithin_createPod fun _ prepared => by
    obtain ⟨valid,same⟩ := PodRegistry.prepare_valid prepared
    rw [PodRegistry.generateKey,← same]
    exact Keyed.ofPod valid

theorem PodRegistry.putsWithin_updatePod_keyed (r : PodRegistry) (pod : Pod) : (r.updatePod pod).PutsWithin Keyed :=
  r.putsWithin_updatePod_of_valid Keyed.ofPod

theorem NodeRegistry.putsWithin_createNode_keyed (r : NodeRegistry) {node : Node}
    (noSlash : Path.slash ∉ node.objectMeta.name) : (r.createNode node).PutsWithin Keyed :=
  r.putsWithin_createNode fun _ prepared => by
    obtain ⟨valid,rfl⟩ := NodeRegistry.prepare_valid prepared
    exact Keyed.ofNode noSlash valid

namespace PodHandler
variable (h : PodHandler)

theorem putsWithin_loadPodIntoRequest {α : Type} (name : Bytes) {next : Pod → Go (Response α)}
    (rest : ∀ pod, (next pod).PutsWithin Keyed) : (h.loadPodIntoRequest name next).PutsWithin Keyed := by
  refine Go.within_bind (Go.within_attempt (h.podRegistry.putsWithin_getPod name)) fun result => ?_
  cases result with
  | error _ => show (if _ then _ else _ : Go (Response α)).PutsWithin Keyed; split <;> trivial
  | ok pod => exact rest pod

theorem putsWithin_createPod (pod : Pod) : (h.createPod pod).PutsWithin Keyed := by
  refine Go.within_bind (Go.within_attempt (h.podRegistry.putsWithin_createPod_keyed pod)) fun result => ?_
  cases result with
  | error _ =>
    show (if _ then _ else if _ then _ else _ : Go (Response Pod)).PutsWithin Keyed
    split
    · trivial
    · split <;> trivial
  | ok _ => trivial

theorem putsWithin_putPodRoute (name : Bytes) (body : Pod) : (h.putPodRoute name body).PutsWithin Keyed := by
  refine h.putsWithin_loadPodIntoRequest name fun existing => ?_
  show (if _ then _ else _ : Go (Response Pod)).PutsWithin Keyed
  split
  · trivial
  · refine Go.within_bind (Go.within_attempt (h.podRegistry.putsWithin_updatePod_keyed body)) fun result => ?_
    cases result with
    | error _ => show (if _ then _ else _ : Go (Response Pod)).PutsWithin Keyed; split <;> trivial
    | ok _ => trivial

theorem putsWithin_deletePodRoute (name : Bytes) : (h.deletePodRoute name).PutsWithin Keyed :=
  h.putsWithin_loadPodIntoRequest name fun pod =>
    Go.within_bind (Go.within_attempt (h.podRegistry.putsWithin_deletePod _)) fun result => by cases result <;> trivial

theorem within_listPods {allowed : Effect → Prop} (locks : allowed (.rLock h.podRegistry.mutex))
    (unlocks : allowed (.rUnlock h.podRegistry.mutex)) (ranges : allowed (.etcd (.range podPrefix))) :
    h.listPods.run.Within allowed :=
  Go.within_bind (Go.within_attempt (h.podRegistry.within_listPods locks unlocks ranges)) fun result => by
    cases result <;> trivial

theorem putsWithin_listPods : h.listPods.PutsWithin Keyed := h.within_listPods trivial trivial trivial

theorem putsWithin_listUnassignedPods : h.listUnassignedPods.PutsWithin Keyed :=
  Go.within_bind (Go.within_attempt (h.podRegistry.putsWithin_listPodsByStatus _)) fun result => by
    cases result <;> trivial

end PodHandler

namespace NodeHandler
variable (h : NodeHandler)

theorem putsWithin_loadNodeIntoRequest {α : Type} (name : Bytes) {next : Node → Go (Response α)}
    (rest : ∀ node, (next node).PutsWithin Keyed) : (h.loadNodeIntoRequest name next).PutsWithin Keyed := by
  refine Go.within_bind (Go.within_attempt (h.nodeRegistry.putsWithin_getNode name)) fun result => ?_
  cases result with
  | error _ => show (if _ then _ else _ : Go (Response α)).PutsWithin Keyed; split <;> trivial
  | ok node => exact rest node

theorem putsWithin_createNode {node : Node} (noSlash : Path.slash ∉ node.objectMeta.name) :
    (h.createNode node).PutsWithin Keyed := by
  refine Go.within_bind (Go.within_attempt (h.nodeRegistry.putsWithin_createNode_keyed noSlash)) fun result => ?_
  cases result with
  | error _ =>
    show (if _ then _ else if _ then _ else _ : Go (Response Node)).PutsWithin Keyed
    split
    · trivial
    · split <;> trivial
  | ok _ => trivial

theorem putsWithin_putNodeRoute (name : Bytes) {node : Node} (noSlash : Path.slash ∉ node.objectMeta.name) :
    (h.putNodeRoute name node).PutsWithin Keyed := by
  refine h.putsWithin_loadNodeIntoRequest name fun existing => ?_
  show (if _ then _ else _ : Go (Response Node)).PutsWithin Keyed
  split
  · trivial
  · refine Go.within_bind (Go.within_attempt (h.nodeRegistry.putsWithin_updateNode (Keyed.ofNode noSlash)))
      fun result => ?_
    cases result with
    | error _ => show (if _ then _ else _ : Go (Response Node)).PutsWithin Keyed; split <;> trivial
    | ok _ => trivial

theorem putsWithin_deleteNodeRoute (name : Bytes) : (h.deleteNodeRoute name).PutsWithin Keyed :=
  h.putsWithin_loadNodeIntoRequest name fun _ =>
    Go.within_bind (Go.within_attempt (h.nodeRegistry.putsWithin_deleteNode _)) fun result => by cases result <;> trivial

theorem putsWithin_listNodes : h.listNodes.PutsWithin Keyed :=
  Go.within_bind (Go.within_attempt h.nodeRegistry.putsWithin_listNodes) fun result => by cases result <;> trivial

end NodeHandler

namespace ReplicasetHandler
variable (h : ReplicasetHandler)

theorem putsWithin_loadReplicasetIntoRequest {α : Type} (name : Bytes) {next : ReplicaSet → Go (Response α)}
    (rest : ∀ rs, (next rs).PutsWithin Keyed) : (h.loadReplicasetIntoRequest name next).PutsWithin Keyed := by
  refine Go.within_bind (Go.within_attempt (h.replicasetRegistry.putsWithin_get name)) fun result => ?_
  cases result with
  | error _ => show (if _ then _ else _ : Go (Response α)).PutsWithin Keyed; split <;> trivial
  | ok rs => exact rest rs

theorem putsWithin_putReplicasetRoute (name : Bytes) (rs : ReplicaSet) :
    (h.putReplicasetRoute name rs).PutsWithin Keyed := by
  refine h.putsWithin_loadReplicasetIntoRequest name fun existing => ?_
  show (if _ then _ else _ : Go (Response ReplicaSet)).PutsWithin Keyed
  split
  · trivial
  · exact Go.within_bind (Go.within_attempt (h.replicasetRegistry.putsWithin_update (Keyed.ofReplicaSet _ rs)))
      fun result => by cases result <;> trivial

theorem putsWithin_createReplicaset (rs : ReplicaSet) : (h.createReplicaset rs).PutsWithin Keyed := by
  refine Go.within_bind (Go.within_attempt (h.replicasetRegistry.putsWithin_create (Keyed.ofReplicaSet _ rs)))
    fun result => ?_
  cases result with
  | error _ => show (if _ then _ else _ : Go (Response ReplicaSet)).PutsWithin Keyed; split <;> trivial
  | ok _ => trivial

theorem putsWithin_deleteReplicasetRoute (name : Bytes) : (h.deleteReplicasetRoute name).PutsWithin Keyed :=
  h.putsWithin_loadReplicasetIntoRequest name fun _ =>
    Go.within_bind (Go.within_attempt (h.replicasetRegistry.putsWithin_delete _)) fun result => by
      cases result <;> trivial

theorem putsWithin_listReplicasets : h.listReplicasets.PutsWithin Keyed :=
  Go.within_bind (Go.within_attempt h.replicasetRegistry.putsWithin_list) fun result => by cases result <;> trivial

end ReplicasetHandler

/-- A request whose body's node name holds no `/` puts only what the
registries put. -/
theorem ApiServer.putsWithin_serve (s : ApiServer) (req : Request)
    (plain : ∀ name, req.nodeName? = some name → Path.slash ∉ name) : (s.serve req).PutsWithin Keyed := by
  cases req with
  | healthz => trivial
  | createPod pod => exact Go.within_map _ (s.podHandler.putsWithin_createPod pod)
  | listPods => exact Go.within_map _ s.podHandler.putsWithin_listPods
  | getPod name => exact Go.within_map _ (s.podHandler.putsWithin_loadPodIntoRequest name fun _ => trivial)
  | updatePod name pod => exact Go.within_map _ (s.podHandler.putsWithin_putPodRoute name pod)
  | deletePod name => exact Go.within_map _ (s.podHandler.putsWithin_deletePodRoute name)
  | listUnassignedPods => exact Go.within_map _ s.podHandler.putsWithin_listUnassignedPods
  | createNode node => exact Go.within_map _ (s.nodeHandler.putsWithin_createNode (plain _ rfl))
  | listNodes => exact Go.within_map _ s.nodeHandler.putsWithin_listNodes
  | getNode name => exact Go.within_map _ (s.nodeHandler.putsWithin_loadNodeIntoRequest name fun _ => trivial)
  | updateNode name node => exact Go.within_map _ (s.nodeHandler.putsWithin_putNodeRoute name (plain _ rfl))
  | deleteNode name => exact Go.within_map _ (s.nodeHandler.putsWithin_deleteNodeRoute name)
  | createReplicaset rs => exact Go.within_map _ (s.replicasetHandler.putsWithin_createReplicaset rs)
  | listReplicasets => exact Go.within_map _ s.replicasetHandler.putsWithin_listReplicasets
  | getReplicaset name =>
    exact Go.within_map _ (s.replicasetHandler.putsWithin_loadReplicasetIntoRequest name fun _ => trivial)
  | updateReplicaset name rs => exact Go.within_map _ (s.replicasetHandler.putsWithin_putReplicasetRoute name rs)
  | deleteReplicaset name => exact Go.within_map _ (s.replicasetHandler.putsWithin_deleteReplicasetRoute name)

namespace Kubelet
variable (k : Kubelet)

section Runtime
variable {allowed : Effect → Prop}

/-! What the node agent's goroutines call, whatever the replies: the API
server's `ListPods`, Docker, the name source and the agent's own pod map. -/

theorem within_getPodAssignments (dials : allowed .dial)
    (locks : allowed (.rLock k.apiServer.podHandler.podRegistry.mutex))
    (unlocks : allowed (.rUnlock k.apiServer.podHandler.podRegistry.mutex))
    (ranges : allowed (.etcd (.range podPrefix))) : k.getPodAssignments.run.Within allowed := by
  refine Go.within_bind (Go.within_call dials) fun dialed => ?_
  rcases dialed with _ | _
  · trivial
  refine Go.within_bind (k.apiServer.podHandler.within_listPods locks unlocks ranges) fun resp => ?_
  show (match resp.body with
    | .ok pods :: _ => pure (pods.map Pod.json)
    | .error text :: _ => throw (invalidJSON text)
    | [] => throw (plain (lit "EOF")) : Go (List Pod)).run.Within allowed
  split <;> trivial

theorem within_startContainer (docker : ∀ call, allowed (.docker call)) (draws : ∀ n, allowed (.randomString n))
    (pod : Pod) (containerName imageName : Bytes) : (k.startContainer pod containerName imageName).run.Within allowed := by
  refine Go.within_bind (Go.within_call (docker _)) fun pulled => ?_
  rcases pulled with _ | _
  · trivial
  refine Go.within_bind (Go.within_call (docker _)) fun read => ?_
  rcases read with _ | _
  · trivial
  refine Go.within_bind (Go.within_lift ⟨draws _,fun _ => trivial⟩) fun unique => ?_
  refine Go.within_bind (Go.within_call (docker _)) fun created => ?_
  rcases created with _ | id
  · trivial
  exact Go.within_bind (Go.within_call (docker _)) fun started => by rcases started with _ | _ <;> trivial

theorem within_runPod (docker : ∀ call, allowed (.docker call)) (draws : ∀ n, allowed (.randomString n)) (pod : Pod) :
    (k.runPod pod).run.Within allowed := by
  unfold runPod
  induction items pod.spec.containers with
  | nil => trivial
  | cons container rest ih =>
    exact Go.within_bind (Go.within_map _ (Go.within_attempt (k.within_startContainer docker draws _ _ _))) fun _ => ih

theorem within_runNewPods (lookups : ∀ name, allowed (.lookupPod k.agent name))
    (tracks : ∀ pod, allowed (.trackPod k.agent pod)) (spawns : ∀ pod, allowed (.spawnRunner k.agent pod))
    (pods : List Pod) : (k.runNewPods pods).run.Within allowed := by
  induction pods with
  | nil => trivial
  | cons pod rest ih =>
    refine Go.within_bind (Go.within_call (lookups _)) fun tracked => ?_
    dsimp only
    split
    · exact Go.within_bind (Go.within_call (tracks _)) fun _ => Go.within_bind (Go.within_call (spawns _)) fun _ => ih
    · exact ih

theorem within_getPodStatus (docker : ∀ call, allowed (.docker call)) (pod : Pod) :
    (k.getPodStatus pod).run.Within allowed := by
  refine Go.within_bind ?_ fun _ => trivial
  induction items pod.spec.containers with
  | nil => trivial
  | cons container rest ih =>
    refine Go.within_bind (Go.within_attempt (Go.within_bind (Go.within_call (docker _)) fun inspected => ?_))
      fun state => ?_
    · rcases inspected with _ | _ | _ <;> trivial
    · rcases state with _ | _
      · trivial
      · exact Go.within_bind ih fun _ => trivial

theorem within_cleanupContainers (docker : ∀ call, allowed (.docker call))
    (lookups : ∀ name, allowed (.lookupPod k.agent name)) : k.cleanupContainers.run.Within allowed := by
  refine Go.within_bind (Go.within_call (docker _)) fun listed => ?_
  rcases listed with _ | containers
  · trivial
  show (k.removeContainers containers).run.Within allowed
  induction containers with
  | nil => trivial
  | cons c rest ih =>
    rw [removeContainers]
    dsimp only
    split
    · refine Go.within_bind (Go.within_call (lookups _)) fun tracked => ?_
      split
      · split
        · exact Go.within_bind (Go.within_map _ (Go.within_call (docker _))) fun _ => ih
        · exact ih
      · exact ih
    · exact ih

end Runtime

section Effects
variable {allowed : Bytes → Object → Prop}

/-! The node agent's Docker and memory calls make no etcd call. -/

theorem putsWithin_runNewPods (pods : List Pod) : (k.runNewPods pods).PutsWithin allowed := by
  induction pods with
  | nil => trivial
  | cons pod rest ih =>
    refine Go.within_bind (Go.within_call trivial) fun tracked => ?_
    dsimp only
    split
    · exact Go.within_bind (Go.within_call trivial) fun _ => Go.within_bind (Go.within_call trivial) fun _ => ih
    · exact ih

theorem putsWithin_runPod (pod : Pod) : (k.runPod pod).PutsWithin allowed :=
  k.within_runPod (fun _ => trivial) (fun _ => trivial) pod

theorem putsWithin_getPodStatus (pod : Pod) : (k.getPodStatus pod).PutsWithin allowed := by
  refine Go.within_bind ?_ fun _ => trivial
  induction items pod.spec.containers with
  | nil => trivial
  | cons container rest ih =>
    refine Go.within_bind (Go.within_attempt (Go.within_bind (Go.within_call trivial) fun inspected => ?_))
      fun state => ?_
    · rcases inspected with _ | _ | _ <;> trivial
    · rcases state with _ | _
      · trivial
      · exact Go.within_bind ih fun _ => trivial

theorem putsWithin_cleanupContainers : k.cleanupContainers.PutsWithin allowed :=
  k.within_cleanupContainers (fun _ => trivial) (fun _ => trivial)

end Effects

theorem putsWithin_registerNode (noSlash : Path.slash ∉ k.nodeName) : k.registerNode.PutsWithin Keyed := by
  refine Go.within_bind (Go.within_call trivial) fun dialed => ?_
  rcases dialed with _ | _
  · trivial
  have coerced : Path.slash ∉ Utf8.coerce k.nodeName := fun mem => (Utf8.mem_coerce mem).elim noSlash (by decide)
  exact Go.within_bind (k.apiServer.nodeHandler.putsWithin_createNode coerced) fun resp => by
    show (if _ then _ else _ : Go Unit).PutsWithin Keyed; split <;> trivial

theorem putsWithin_watchPods (rounds : Nat) : (k.watchPods rounds).PutsWithin Keyed := by
  induction rounds with
  | zero => trivial
  | succ rounds ih =>
    refine Go.within_bind ?_ fun _ => ih
    refine Go.within_bind (Go.within_attempt (k.within_getPodAssignments trivial trivial trivial trivial))
      fun result => ?_
    rcases result with _ | pods
    · trivial
    · exact Go.within_map _ (Go.within_attempt (k.putsWithin_runNewPods pods))

theorem putsWithin_updatePodStatuses (rounds : Nat) : (k.updatePodStatuses rounds).PutsWithin Keyed := by
  induction rounds with
  | zero => trivial
  | succ rounds ih =>
    refine Go.within_bind (Go.within_bind (Go.within_call trivial) fun pods => ?_) fun _ => ih
    show (k.reportStatuses pods).PutsWithin Keyed
    induction pods with
    | nil => trivial
    | cons pod rest ih =>
      rw [reportStatuses]
      refine Go.within_bind (Go.within_attempt (k.putsWithin_getPodStatus pod)) fun result => ?_
      dsimp only
      split
      · exact ih
      · split
        · refine Go.within_bind (Go.within_call trivial) fun _ =>
            Go.within_bind (Go.within_map _ (Go.within_attempt ?_)) fun _ => ih
          refine Go.within_bind (Go.within_call trivial) fun dialed => ?_
          rcases dialed with _ | _
          · trivial
          exact Go.within_bind (k.apiServer.podHandler.putsWithin_putPodRoute _ _) fun resp => by
            show (if _ then _ else _ : Go Unit).PutsWithin Keyed; split <;> trivial
        · exact ih

end Kubelet

namespace ReplicaSetController
variable (rsc : ReplicaSetController)

theorem putsWithin_createReplicas_keyed (rs : ReplicaSet) (missing : Nat) :
    (rsc.createReplicas rs missing).PutsWithin Keyed := by
  induction missing with
  | zero => trivial
  | succ missing ih =>
    refine Go.within_bind ?_ fun _ => ih
    induction items rs.spec.template.spec.containers with
    | nil => trivial
    | cons container rest inner =>
      exact Go.within_bind (Go.putsWithin_lift ⟨trivial,fun _ => trivial⟩) fun _ =>
        Go.within_bind (rsc.podRegistry.putsWithin_createPod_keyed _) fun _ => inner

theorem putsWithin_start_keyed (ticks : Nat) : (rsc.start ticks).PutsWithin Keyed := by
  induction ticks with
  | zero => trivial
  | succ ticks ih =>
    refine Go.within_bind (Go.within_map _ (Go.within_attempt ?_)) fun _ => ih
    refine Go.within_bind (Go.within_attempt rsc.replicaSetRegistry.putsWithin_list) fun listed => ?_
    rcases listed with _ | rscList
    · trivial
    show (rscList.forM _ : Go Unit).PutsWithin Keyed
    induction rscList with
    | nil => trivial
    | cons rs rest inner =>
      rw [List.forM.eq_2]
      refine Go.within_bind (Go.within_bind (Go.within_attempt ?_) fun result => by rcases result with _ | _ <;> trivial)
        fun _ => inner
      refine Go.within_bind (rsc.replicaSetRegistry.putsWithin_get _) fun current =>
        Go.within_bind rsc.podRegistry.putsWithin_listPods fun allPods => ?_
      dsimp only
      split
      · exact Go.within_bind (rsc.putsWithin_createReplicas_keyed _ _) fun _ =>
          rsc.replicaSetRegistry.putsWithin_update (Keyed.ofReplicaSet _ _)
      · split
        · exact rsc.replicaSetRegistry.putsWithin_update (Keyed.ofReplicaSet _ _)
        · trivial

end ReplicaSetController

namespace Scheduler
variable (s : Scheduler)

theorem putsWithin_start_keyed (ticks : Nat) : (s.start ticks).PutsWithin Keyed := by
  induction ticks with
  | zero => trivial
  | succ ticks ih =>
    refine Go.within_bind (Go.within_map _ (Go.within_attempt ?_)) fun _ => ih
    refine Go.within_bind (Go.within_attempt (s.podRegistry.putsWithin_listPodsByStatus _)) fun pending => ?_
    rcases pending with _ | pods
    · trivial
    refine Go.within_bind (Go.within_attempt s.nodeRegistry.putsWithin_listNodes) fun listed => ?_
    rcases listed with _ | nodes
    · trivial
    show (if nodes = [] then _ else _ : Go Unit).PutsWithin Keyed
    split
    · trivial
    · induction pods with
      | nil => trivial
      | cons pod rest inner =>
        refine Go.within_bind (Go.within_call trivial) fun index => ?_
        cases nodes.get? index with
        | none => trivial
        | some node =>
          refine Go.within_bind (Go.within_attempt (s.podRegistry.putsWithin_updatePod_keyed _)) fun result => ?_
          cases result with
          | error _ => trivial
          | ok _ => exact inner

end Scheduler

/-! ### The control plane -/

/-- The goroutines of the control plane: a controller's and a scheduler's
`Start`, a node agent's `registerNode`, `watchPods`, `updatePodStatuses` and
`CleanupContainers`, a pod runner, and a client sending one request to the API
server. Each node name that reaches the node registry, the agent's own or a
request's, holds no `/`. -/
inductive ControlPlane : Thread → Prop
  | controller (rsc : ReplicaSetController) (ticks : Nat) : ControlPlane (rsc.start ticks).run
  | scheduler (s : Scheduler) (ticks : Nat) : ControlPlane (s.start ticks).run
  | registerNode (k : Kubelet) (plain : Path.slash ∉ k.nodeName) : ControlPlane k.registerNode.run
  | watchPods (k : Kubelet) (rounds : Nat) : ControlPlane (k.watchPods rounds).run
  | updatePodStatuses (k : Kubelet) (rounds : Nat) : ControlPlane (k.updatePodStatuses rounds).run
  | cleanupContainers (k : Kubelet) : ControlPlane k.cleanupContainers.run
  | runPod (k : Kubelet) (pod : Pod) : ControlPlane (k.runPod pod).run
  | client (s : ApiServer) (req : Request) (plain : ∀ name, req.nodeName? = some name → Path.slash ∉ name) :
      ControlPlane (discard (s.serve req)).run

theorem ControlPlane.putsWithin {t : Thread} (goroutine : ControlPlane t) : t.Within (PutAllowed Keyed) := by
  cases goroutine with
  | controller rsc ticks => exact rsc.putsWithin_start_keyed ticks
  | scheduler s ticks => exact s.putsWithin_start_keyed ticks
  | registerNode k plain => exact k.putsWithin_registerNode plain
  | watchPods k rounds => exact k.putsWithin_watchPods rounds
  | updatePodStatuses k rounds => exact k.putsWithin_updatePodStatuses rounds
  | cleanupContainers k => exact k.putsWithin_cleanupContainers
  | runPod k pod => exact k.putsWithin_runPod pod
  | client s req plain => exact Go.within_map _ (s.putsWithin_serve req plain)

/-- In every interleaving of the control plane's goroutines and the pod
runners its node agents start, from a store as the registries write it, every
store reached is as they write it: the three `List`s decode, and a pod read
under the pod prefix is keyed by the name it was encoded with, which it reads
back coerced. -/
theorem controlPlane_keeps_keyspace {runner : Nat → Pod → Go Unit} {c c' : Cluster}
    (runners : ∀ agent, ∃ k : Kubelet, runner agent = k.runPod) (goroutines : ∀ t ∈ c.threads, ControlPlane t)
    (keyed : c.world.store.keyed) (reaches : Cluster.Reaches runner c c') :
    c'.world.store.keyed ∧
      (∃ pods, EtcdStorage.listed podPrefix decodePod c'.world.store = .ok pods) ∧
      (∃ nodes, EtcdStorage.listed nodePrefix decodeNode c'.world.store = .ok nodes) ∧
      (∃ rss, EtcdStorage.listed replicaSetPrefix decodeReplicaSet c'.world.store = .ok rss) ∧
      c'.world.store.podsByRegistry = true ∧
      ∀ key pod, EtcdStorage.read key decodePod c'.world.store = .ok pod → hasPrefix key podPrefix = true →
        pod.validate = .ok () ∧ ∃ name, key = podPrefix ++ name ∧ pod.objectMeta.name = Utf8.coerce name := by
  have runnersKeyed : ∀ agent pod, (runner agent pod).PutsWithin Keyed := fun agent pod =>
    let ⟨k,same⟩ := runners agent
    same ▸ k.putsWithin_runPod pod
  have kept := reaches.keeps_store (fun _ _ allowed keyed => Store.keyed_apply allowed keyed) runnersKeyed
    (fun t mem => (goroutines t mem).putsWithin) keyed
  obtain ⟨pods,nodes,rss,registry⟩ := Store.keyed_listed kept.1
  exact ⟨kept.1,pods,nodes,rss,registry,fun _ _ read under => Store.keyed_read_pod kept.1 read under⟩

def keyspaceStart : Cluster :=
  ⟨World.start Store.empty [0] [],
    [(discard (sampleServer.serve (.createReplicaset cutReplicaSet))).run,
      (sampleController.start 1).run,(agentOn 0 (lit "self")).registerNode.run],0⟩

def keyspaceEnd : Cluster :=
  (keyspaceStart.scheduled (List.replicate 5 0 ++ List.replicate 20 1 ++ List.replicate 4 2)).2

theorem controlPlane_keeps_keyspace_web :
    (∀ agent, ∃ k : Kubelet, (fun _ pod => (agentOn 0 (lit "self")).runPod pod : Nat → Pod → Go Unit) agent = k.runPod) ∧
      (∀ t ∈ keyspaceStart.threads, ControlPlane t) ∧ keyspaceStart.world.store.keyed ∧
      Cluster.Reaches (fun _ pod => (agentOn 0 (lit "self")).runPod pod) keyspaceStart keyspaceEnd ∧
      keyspaceEnd.world.store.entries.map Prod.fst =
        [generateKey nodePrefix (lit "self"),sampleController.replicaSetRegistry.generateKey cutName,
          podPrefix ++ cutPod.objectMeta.name] ∧
      EtcdStorage.read (podPrefix ++ cutPod.objectMeta.name) decodePod keyspaceEnd.world.store = .ok cutPod.json ∧
      (keyspaceEnd.world.store.keyed ∧
        (∃ pods, EtcdStorage.listed podPrefix decodePod keyspaceEnd.world.store = .ok pods) ∧
        (∃ nodes, EtcdStorage.listed nodePrefix decodeNode keyspaceEnd.world.store = .ok nodes) ∧
        (∃ rss, EtcdStorage.listed replicaSetPrefix decodeReplicaSet keyspaceEnd.world.store = .ok rss) ∧
        keyspaceEnd.world.store.podsByRegistry = true ∧
        ∀ key pod, EtcdStorage.read key decodePod keyspaceEnd.world.store = .ok pod → hasPrefix key podPrefix = true →
          pod.validate = .ok () ∧ ∃ name, key = podPrefix ++ name ∧ pod.objectMeta.name = Utf8.coerce name) :=
  have runners : ∀ agent, ∃ k : Kubelet,
      (fun _ pod => (agentOn 0 (lit "self")).runPod pod : Nat → Pod → Go Unit) agent = k.runPod :=
    fun _ => ⟨agentOn 0 (lit "self"),rfl⟩
  have goroutines : ∀ t ∈ keyspaceStart.threads, ControlPlane t := by
    intro t mem
    simp only [keyspaceStart,List.mem_cons,List.mem_singleton,List.not_mem_nil,or_false] at mem
    rcases mem with rfl | rfl | rfl
    · exact .client _ _ nofun
    · exact .controller _ _
    · exact .registerNode _ (by decide)
  have keyed : keyspaceStart.world.store.keyed := nofun
  have reaches : Cluster.Reaches (fun _ pod => (agentOn 0 (lit "self")).runPod pod) keyspaceStart keyspaceEnd :=
    (Cluster.run_scheduled _ _ (by decide)).reaches
  ⟨runners,goroutines,keyed,reaches,by decide,by decide,controlPlane_keeps_keyspace runners goroutines keyed reaches⟩

end Gokube
