import Gokube.Exclusion
import Gokube.Keyspace

/-! The registries' locks across the control plane: every goroutine of it keeps
the discipline of every mutex (`Guarding`), so a blocked goroutine waits on one
that can move, and a check and the put after it under one mutex are atomic. -/

namespace Gokube

def podKey (key : Bytes) : Prop := hasPrefix key podPrefix = true

theorem replicaSetKey_not_podKey (r : ReplicaSetRegistry) (name : Bytes) : ¬ podKey (r.generateKey name) :=
  fun under => Bool.false_ne_true ((r.generateKey_outside_pods name).symm.trans under)

/-- A registry that locks `mutex` and keys a name by `key` guards the keys
with `m`, or writes none of them. -/
def LockCovers (mutex : Nat) (key : Bytes → Bytes) (m : Nat) (keys : Bytes → Prop) : Prop :=
  mutex = m ∨ ∀ name, ¬ keys (key name)

def PodRegistry.Covers (r : PodRegistry) : Nat → (Bytes → Prop) → Prop := LockCovers r.mutex r.generateKey

def ReplicaSetRegistry.Covers (r : ReplicaSetRegistry) : Nat → (Bytes → Prop) → Prop :=
  LockCovers r.mutex r.generateKey

theorem LockCovers.at {mutex m : Nat} {key : Bytes → Bytes} {keys : Bytes → Prop} (covers : LockCovers mutex key m keys)
    (name : Bytes) : mutex = m ∨ ¬ keys (key name) :=
  covers.imp_right (· name)

section Registries
variable {m : Nat} {keys : Bytes → Prop}

namespace PodRegistry
variable (r : PodRegistry)

/-! The pod registry writes under its write lock and reads under its read
lock. -/

theorem guards_createPod (covers : r.Covers m keys) (pod : Pod) : (r.createPod pod).run.Guards m keys .outside :=
  Go.guards_withLock_writing (returns_createChecked ⟨⟨_,rfl⟩,fun _ => nofun⟩ fun _ _ => ⟨⟨_,rfl⟩,fun _ => id⟩)
    (LockCovers.at covers _)

theorem guards_updatePod (covers : r.Covers m keys) (pod : Pod) : (r.updatePod pod).run.Guards m keys .outside := by
  rw [updatePod]
  cases pod.validate with
  | error _ => exact Go.guards_withLock_quiet trivial
  | ok _ => exact Go.guards_withLock_writing (EtcdStorage.returns_create ⟨⟨_,rfl⟩,fun _ => id⟩) (LockCovers.at covers _)

theorem guards_deletePod (covers : r.Covers m keys) (name : Bytes) : (r.deletePod name).run.Guards m keys .outside :=
  Go.guards_withLock_writing (EtcdStorage.returns_delete ⟨⟨_,rfl⟩,fun _ => id⟩) (LockCovers.at covers _)

theorem guards_getPod (name : Bytes) : (r.getPod name).run.Guards m keys .outside := by
  refine Go.guards_withRLock (Go.returns_bind (Go.returns_attempt (EtcdStorage.returns_get ⟨⟨_,rfl⟩,nofun⟩ _))
    fun result => ?_)
  cases result with
  | ok _ => trivial
  | error err => show (if err.is .notFound then _ else _ : Go Pod).run.Returns _; split <;> trivial

theorem guards_listPods : r.listPods.run.Guards m keys .outside :=
  Go.guards_withRLock (Go.returns_bind (Go.returns_attempt (EtcdStorage.returns_list ⟨⟨_,rfl⟩,nofun⟩ _))
    fun result => by cases result <;> trivial)

theorem guards_listPodsByStatus (status : Bytes) : (r.listPodsByStatus status).run.Guards m keys .outside :=
  Go.guards_bind (Go.guards_attempt r.guards_listPods) fun result => by cases result <;> rfl

end PodRegistry

namespace NodeRegistry
variable (r : NodeRegistry)

/-! The node registry takes no lock: its writes keep the discipline for keys
outside the node's. -/

theorem guards_createNode {node : Node} (outside : ¬ keys (generateKey nodePrefix node.objectMeta.name)) :
    (r.createNode node).run.Guards m keys .outside :=
  Prog.Guards.of_within (within_createChecked ⟨nofun,nofun⟩ fun _ _ => ⟨outside,nofun⟩)

theorem guards_updateNode {node : Node} (outside : ¬ keys (generateKey nodePrefix node.objectMeta.name)) :
    (r.updateNode node).run.Guards m keys .outside := by
  rw [updateNode]
  cases node.validate with
  | error _ => rfl
  | ok _ => exact Prog.Guards.of_within (EtcdStorage.within_create ⟨outside,nofun⟩)

theorem guards_deleteNode {name : Bytes} (outside : ¬ keys (generateKey nodePrefix name)) :
    (r.deleteNode name).run.Guards m keys .outside :=
  Prog.Guards.of_within (EtcdStorage.within_delete ⟨outside,nofun⟩)

theorem within_getNode (name : Bytes) : (r.getNode name).run.Within (Effect.Quiet m keys) := by
  refine Go.within_bind (Go.within_attempt (EtcdStorage.within_get ⟨nofun,nofun⟩ _)) fun result => ?_
  cases result with
  | ok _ => trivial
  | error err => show (if err.is .notFound then _ else _ : Go Node).run.Within _; split <;> trivial

theorem within_listNodes : r.listNodes.run.Within (Effect.Quiet m keys) :=
  Go.within_bind (Go.within_attempt (EtcdStorage.within_list ⟨nofun,nofun⟩ _)) fun result => by
    cases result <;> trivial

end NodeRegistry

namespace ReplicaSetRegistry
variable (r : ReplicaSetRegistry)

theorem guards_create (covers : r.Covers m keys) (rs : ReplicaSet) : (r.create rs).run.Guards m keys .outside :=
  Go.guards_withLock_writing (returns_createChecked ⟨⟨_,rfl⟩,fun _ => nofun⟩ fun _ _ => ⟨⟨_,rfl⟩,fun _ => id⟩)
    (LockCovers.at covers _)

theorem guards_get (name : Bytes) : (r.get name).run.Guards m keys .outside :=
  Go.guards_withRLock (Go.returns_bind (Go.returns_attempt (EtcdStorage.returns_get ⟨⟨_,rfl⟩,nofun⟩ _))
    fun result => by cases result <;> trivial)

theorem guards_update (covers : r.Covers m keys) (rs : ReplicaSet) : (r.update rs).run.Guards m keys .outside := by
  refine Go.guards_withLock_writing (Go.returns_bind (Go.returns_attempt
    (EtcdStorage.returns_get ⟨⟨_,rfl⟩,fun _ => nofun⟩ _)) fun result => ?_) (LockCovers.at covers rs.objectMeta.name)
  cases result with
  | error _ => trivial
  | ok _ => exact EtcdStorage.returns_create ⟨⟨_,rfl⟩,fun _ => id⟩

theorem guards_delete (covers : r.Covers m keys) (name : Bytes) : (r.delete name).run.Guards m keys .outside :=
  Go.guards_withLock_writing (EtcdStorage.returns_delete ⟨⟨_,rfl⟩,fun _ => id⟩) (LockCovers.at covers _)

theorem guards_list : r.list.run.Guards m keys .outside :=
  Go.guards_withRLock (Go.returns_bind (Go.returns_attempt (EtcdStorage.returns_list ⟨⟨_,rfl⟩,nofun⟩ _))
    fun result => by cases result <;> trivial)

end ReplicaSetRegistry

end Registries

/-! ### The API server's handlers -/

section Handlers
variable {m : Nat} {keys : Bytes → Prop}

namespace PodHandler
variable (h : PodHandler)

theorem guards_loadPodIntoRequest {α : Type} (name : Bytes) {next : Pod → Go (Response α)}
    (rest : ∀ pod, (next pod).run.Guards m keys .outside) : (h.loadPodIntoRequest name next).run.Guards m keys .outside := by
  refine Go.guards_bind (Go.guards_attempt (h.podRegistry.guards_getPod name)) fun result => ?_
  cases result with
  | error _ => show (if _ then _ else _ : Go (Response α)).run.Guards _ _ .outside; split <;> rfl
  | ok pod => exact rest pod

theorem guards_createPod (covers : h.podRegistry.Covers m keys) (pod : Pod) :
    (h.createPod pod).run.Guards m keys .outside := by
  refine Go.guards_bind (Go.guards_attempt (h.podRegistry.guards_createPod covers pod)) fun result => ?_
  cases result with
  | error _ =>
    show (if _ then _ else if _ then _ else _ : Go (Response Pod)).run.Guards _ _ .outside
    split
    · rfl
    · split <;> rfl
  | ok _ => rfl

theorem guards_putPodRoute (covers : h.podRegistry.Covers m keys) (name : Bytes) (body : Pod) :
    (h.putPodRoute name body).run.Guards m keys .outside := by
  refine h.guards_loadPodIntoRequest name fun existing => ?_
  show (if _ then _ else _ : Go (Response Pod)).run.Guards _ _ .outside
  split
  · rfl
  · refine Go.guards_bind (Go.guards_attempt (h.podRegistry.guards_updatePod covers body)) fun result => ?_
    cases result with
    | error _ => show (if _ then _ else _ : Go (Response Pod)).run.Guards _ _ .outside; split <;> rfl
    | ok _ => rfl

theorem guards_deletePodRoute (covers : h.podRegistry.Covers m keys) (name : Bytes) :
    (h.deletePodRoute name).run.Guards m keys .outside :=
  h.guards_loadPodIntoRequest name fun pod =>
    Go.guards_bind (Go.guards_attempt (h.podRegistry.guards_deletePod covers _)) fun result => by cases result <;> rfl

theorem guards_listPods : h.listPods.run.Guards m keys .outside :=
  Go.guards_bind (Go.guards_attempt h.podRegistry.guards_listPods) fun result => by cases result <;> rfl

theorem guards_listUnassignedPods : h.listUnassignedPods.run.Guards m keys .outside :=
  Go.guards_bind (Go.guards_attempt (h.podRegistry.guards_listPodsByStatus _)) fun result => by cases result <;> rfl

end PodHandler

namespace NodeHandler
variable (h : NodeHandler)

theorem guards_loadNodeIntoRequest {α : Type} (name : Bytes) {next : Node → Go (Response α)}
    (rest : ∀ node, (next node).run.Guards m keys .outside) : (h.loadNodeIntoRequest name next).run.Guards m keys .outside := by
  refine Go.guards_bind (Go.guards_attempt (Prog.Guards.of_within (h.nodeRegistry.within_getNode name)))
    fun result => ?_
  cases result with
  | error _ => show (if _ then _ else _ : Go (Response α)).run.Guards _ _ .outside; split <;> rfl
  | ok node => exact rest node

theorem guards_createNode {node : Node} (outside : ¬ keys (generateKey nodePrefix node.objectMeta.name)) :
    (h.createNode node).run.Guards m keys .outside := by
  refine Go.guards_bind (Go.guards_attempt (h.nodeRegistry.guards_createNode outside)) fun result => ?_
  cases result with
  | error _ =>
    show (if _ then _ else if _ then _ else _ : Go (Response Node)).run.Guards _ _ .outside
    split
    · rfl
    · split <;> rfl
  | ok _ => rfl

theorem guards_putNodeRoute (name : Bytes) {node : Node} (outside : ¬ keys (generateKey nodePrefix node.objectMeta.name)) :
    (h.putNodeRoute name node).run.Guards m keys .outside := by
  refine h.guards_loadNodeIntoRequest name fun existing => ?_
  show (if _ then _ else _ : Go (Response Node)).run.Guards _ _ .outside
  split
  · rfl
  · refine Go.guards_bind (Go.guards_attempt (h.nodeRegistry.guards_updateNode outside)) fun result => ?_
    cases result with
    | error _ => show (if _ then _ else _ : Go (Response Node)).run.Guards _ _ .outside; split <;> rfl
    | ok _ => rfl

theorem guards_deleteNodeRoute (name : Bytes) (outside : ∀ name, ¬ keys (generateKey nodePrefix name)) :
    (h.deleteNodeRoute name).run.Guards m keys .outside :=
  h.guards_loadNodeIntoRequest name fun node =>
    Go.guards_bind (Go.guards_attempt (h.nodeRegistry.guards_deleteNode (outside _))) fun result => by
      cases result <;> rfl

theorem guards_listNodes : h.listNodes.run.Guards m keys .outside :=
  Go.guards_bind (Go.guards_attempt (Prog.Guards.of_within h.nodeRegistry.within_listNodes)) fun result => by
    cases result <;> rfl

end NodeHandler

namespace ReplicasetHandler
variable (h : ReplicasetHandler)

theorem guards_loadReplicasetIntoRequest {α : Type} (name : Bytes) {next : ReplicaSet → Go (Response α)}
    (rest : ∀ rs, (next rs).run.Guards m keys .outside) :
    (h.loadReplicasetIntoRequest name next).run.Guards m keys .outside := by
  refine Go.guards_bind (Go.guards_attempt (h.replicasetRegistry.guards_get name)) fun result => ?_
  cases result with
  | error _ => show (if _ then _ else _ : Go (Response α)).run.Guards _ _ .outside; split <;> rfl
  | ok rs => exact rest rs

theorem guards_createReplicaset (covers : h.replicasetRegistry.Covers m keys) (rs : ReplicaSet) :
    (h.createReplicaset rs).run.Guards m keys .outside := by
  refine Go.guards_bind (Go.guards_attempt (h.replicasetRegistry.guards_create covers rs)) fun result => ?_
  cases result with
  | error _ => show (if _ then _ else _ : Go (Response ReplicaSet)).run.Guards _ _ .outside; split <;> rfl
  | ok _ => rfl

theorem guards_putReplicasetRoute (covers : h.replicasetRegistry.Covers m keys) (name : Bytes)
    (rs : ReplicaSet) : (h.putReplicasetRoute name rs).run.Guards m keys .outside := by
  refine h.guards_loadReplicasetIntoRequest name fun existing => ?_
  show (if _ then _ else _ : Go (Response ReplicaSet)).run.Guards _ _ .outside
  split
  · rfl
  · exact Go.guards_bind (Go.guards_attempt (h.replicasetRegistry.guards_update covers rs)) fun result => by
      cases result <;> rfl

theorem guards_deleteReplicasetRoute (covers : h.replicasetRegistry.Covers m keys)
    (name : Bytes) : (h.deleteReplicasetRoute name).run.Guards m keys .outside :=
  h.guards_loadReplicasetIntoRequest name fun rs =>
    Go.guards_bind (Go.guards_attempt (h.replicasetRegistry.guards_delete covers _)) fun result => by
      cases result <;> rfl

theorem guards_listReplicasets : h.listReplicasets.run.Guards m keys .outside :=
  Go.guards_bind (Go.guards_attempt h.replicasetRegistry.guards_list) fun result => by cases result <;> rfl

end ReplicasetHandler

/-- The API server's registries guard the keys with `m` for a request: its pod
and ReplicaSet registries lock `m` or write none of them, and its node
registry, which takes no lock, writes none of them at the names the request
writes. -/
structure ApiServer.Covers (s : ApiServer) (m : Nat) (keys : Bytes → Prop) (req : Request) : Prop where
  pods : s.podRegistry.Covers m keys
  replicaSets : s.replicasetRegistry.Covers m keys
  nodes : ∀ name, req.nodeName? = some name → ¬ keys (generateKey nodePrefix name)
  deletes : ∀ name, req = .deleteNode name → ∀ name', ¬ keys (generateKey nodePrefix name')

theorem ApiServer.guards_serve (s : ApiServer) (req : Request) (covers : s.Covers m keys req) :
    (s.serve req).run.Guards m keys .outside := by
  cases req with
  | healthz => rfl
  | createPod pod => exact Go.guards_map _ (s.podHandler.guards_createPod covers.pods pod)
  | listPods => exact Go.guards_map _ s.podHandler.guards_listPods
  | getPod name => exact Go.guards_map _ (s.podHandler.guards_loadPodIntoRequest name fun _ => rfl)
  | updatePod name pod => exact Go.guards_map _ (s.podHandler.guards_putPodRoute covers.pods name pod)
  | deletePod name => exact Go.guards_map _ (s.podHandler.guards_deletePodRoute covers.pods name)
  | listUnassignedPods => exact Go.guards_map _ s.podHandler.guards_listUnassignedPods
  | createNode node => exact Go.guards_map _ (s.nodeHandler.guards_createNode (covers.nodes _ rfl))
  | listNodes => exact Go.guards_map _ s.nodeHandler.guards_listNodes
  | getNode name => exact Go.guards_map _ (s.nodeHandler.guards_loadNodeIntoRequest name fun _ => rfl)
  | updateNode name node => exact Go.guards_map _ (s.nodeHandler.guards_putNodeRoute name (covers.nodes _ rfl))
  | deleteNode name => exact Go.guards_map _ (s.nodeHandler.guards_deleteNodeRoute name (covers.deletes name rfl))
  | createReplicaset rs => exact Go.guards_map _ (s.replicasetHandler.guards_createReplicaset covers.replicaSets rs)
  | listReplicasets => exact Go.guards_map _ s.replicasetHandler.guards_listReplicasets
  | getReplicaset name => exact Go.guards_map _ (s.replicasetHandler.guards_loadReplicasetIntoRequest name fun _ => rfl)
  | updateReplicaset name rs =>
    exact Go.guards_map _ (s.replicasetHandler.guards_putReplicasetRoute covers.replicaSets name rs)
  | deleteReplicaset name =>
    exact Go.guards_map _ (s.replicasetHandler.guards_deleteReplicasetRoute covers.replicaSets name)

end Handlers

/-! ### The other goroutines of the control plane -/

namespace Kubelet
variable (k : Kubelet) {m : Nat} {keys : Bytes → Prop}

theorem guards_registerNode (outside : ¬ keys (generateKey nodePrefix (Utf8.coerce k.nodeName))) :
    k.registerNode.run.Guards m keys .outside := by
  refine Go.guards_bind (Go.guards_call ⟨nofun,nofun⟩) fun dialed => ?_
  rcases dialed with _ | _
  · rfl
  exact Go.guards_bind (k.apiServer.nodeHandler.guards_createNode outside) fun resp => by
    show (if _ then _ else _ : Go Unit).run.Guards _ _ .outside; split <;> rfl

theorem guards_getPodAssignments : k.getPodAssignments.run.Guards m keys .outside := by
  refine Go.guards_bind (Go.guards_call ⟨nofun,nofun⟩) fun dialed => ?_
  rcases dialed with _ | _
  · rfl
  refine Go.guards_bind k.apiServer.podHandler.guards_listPods fun resp => ?_
  show (match resp.body with
    | .ok pods :: _ => pure (pods.map Pod.json)
    | .error text :: _ => throw (invalidJSON text)
    | [] => throw (plain (lit "EOF")) : Go (List Pod)).run.Guards _ _ .outside
  split <;> rfl

theorem guards_watchPods (rounds : Nat) : (k.watchPods rounds).run.Guards m keys .outside := by
  induction rounds with
  | zero => rfl
  | succ rounds ih =>
    refine Go.guards_bind (Go.guards_bind (Go.guards_attempt k.guards_getPodAssignments) fun result => ?_) fun _ => ih
    rcases result with _ | pods
    · rfl
    · exact Go.guards_map _ (Go.guards_attempt (Prog.Guards.of_within (k.within_runNewPods (fun _ => ⟨nofun,nofun⟩)
        (fun _ => ⟨nofun,nofun⟩) (fun _ => ⟨nofun,nofun⟩) pods)))

theorem guards_updatePodStatuses (covers : k.apiServer.podRegistry.Covers m keys) (rounds : Nat) :
    (k.updatePodStatuses rounds).run.Guards m keys .outside := by
  induction rounds with
  | zero => rfl
  | succ rounds ih =>
    refine Go.guards_bind (Go.guards_bind (Go.guards_call ⟨nofun,nofun⟩) fun pods => ?_) fun _ => ih
    show (k.reportStatuses pods).run.Guards _ keys .outside
    induction pods with
    | nil => rfl
    | cons pod rest inner =>
      rw [reportStatuses]
      refine Go.guards_bind (Go.guards_attempt (Prog.Guards.of_within
        (k.within_getPodStatus (fun _ => ⟨nofun,nofun⟩) pod))) fun result => ?_
      dsimp only
      split
      · exact inner
      · split
        · refine Go.guards_bind (Go.guards_call ⟨nofun,nofun⟩) fun _ =>
            Go.guards_bind (Go.guards_map _ (Go.guards_attempt ?_)) fun _ => inner
          refine Go.guards_bind (Go.guards_call ⟨nofun,nofun⟩) fun dialed => ?_
          rcases dialed with _ | _
          · rfl
          exact Go.guards_bind (k.apiServer.podHandler.guards_putPodRoute covers _ _) fun resp => by
            show (if _ then _ else _ : Go Unit).run.Guards _ _ .outside; split <;> rfl
        · exact inner

theorem guards_runPod (pod : Pod) : (k.runPod pod).run.Guards m keys .outside :=
  Prog.Guards.of_within (k.within_runPod (fun _ => ⟨nofun,nofun⟩) (fun _ => ⟨nofun,nofun⟩) pod)

theorem guards_cleanupContainers : k.cleanupContainers.run.Guards m keys .outside :=
  Prog.Guards.of_within (k.within_cleanupContainers (fun _ => ⟨nofun,nofun⟩) fun _ => ⟨nofun,nofun⟩)

end Kubelet

namespace ReplicaSetController
variable (rsc : ReplicaSetController) {m : Nat} {keys : Bytes → Prop}

theorem guards_createReplicas (covers : rsc.podRegistry.Covers m keys) (rs : ReplicaSet) (missing : Nat) :
    (rsc.createReplicas rs missing).run.Guards m keys .outside := by
  induction missing with
  | zero => rfl
  | succ missing ih =>
    refine Go.guards_bind ?_ fun _ => ih
    induction items rs.spec.template.spec.containers with
    | nil => rfl
    | cons container rest inner =>
      exact Go.guards_bind (Prog.Guards.of_within (Go.within_lift ⟨⟨nofun,nofun⟩,fun _ => trivial⟩)) fun _ =>
        Go.guards_bind (rsc.podRegistry.guards_createPod covers _) fun _ => inner

theorem guards_start (covers : rsc.podRegistry.Covers m keys) (replicaSets : rsc.replicaSetRegistry.Covers m keys)
    (ticks : Nat) :
    (rsc.start ticks).run.Guards m keys .outside := by
  induction ticks with
  | zero => rfl
  | succ ticks ih =>
    refine Go.guards_bind (Go.guards_map _ (Go.guards_attempt ?_)) fun _ => ih
    refine Go.guards_bind (Go.guards_attempt rsc.replicaSetRegistry.guards_list) fun listed => ?_
    rcases listed with _ | rscList
    · trivial
    show (rscList.forM _ : Go Unit).run.Guards _ keys .outside
    induction rscList with
    | nil => rfl
    | cons rs rest inner =>
      rw [List.forM.eq_2]
      refine Go.guards_bind (Go.guards_bind (Go.guards_attempt ?_) fun result => by rcases result with _ | _ <;> trivial)
        fun _ => inner
      refine Go.guards_bind (rsc.replicaSetRegistry.guards_get _) fun current =>
        Go.guards_bind rsc.podRegistry.guards_listPods fun allPods => ?_
      dsimp only
      split
      · exact Go.guards_bind (rsc.guards_createReplicas covers _ _) fun _ =>
          rsc.replicaSetRegistry.guards_update replicaSets _
      · split
        · exact rsc.replicaSetRegistry.guards_update replicaSets _
        · rfl

end ReplicaSetController

theorem Scheduler.guards_start {m : Nat} {keys : Bytes → Prop} (s : Scheduler) (covers : s.podRegistry.Covers m keys)
    (ticks : Nat) : (s.start ticks).run.Guards m keys .outside := by
  induction ticks with
  | zero => rfl
  | succ ticks ih =>
    refine Go.guards_bind (Go.guards_map _ (Go.guards_attempt ?_)) fun _ => ih
    refine Go.guards_bind (Go.guards_attempt (s.podRegistry.guards_listPodsByStatus _)) fun pending => ?_
    rcases pending with _ | pods
    · rfl
    refine Go.guards_bind (Go.guards_attempt (Prog.Guards.of_within s.nodeRegistry.within_listNodes)) fun listed => ?_
    rcases listed with _ | nodes
    · rfl
    show (if nodes = [] then _ else _ : Go Unit).run.Guards _ keys .outside
    split
    · rfl
    · induction pods with
      | nil => rfl
      | cons pod rest inner =>
        refine Go.guards_bind (Go.guards_call ⟨nofun,nofun⟩) fun index => ?_
        cases nodes.get? index with
        | none => trivial
        | some node =>
          refine Go.guards_bind (Go.guards_attempt (s.podRegistry.guards_updatePod covers _)) fun result => ?_
          cases result with
          | error _ => rfl
          | ok _ => exact inner

theorem guards_runners {m : Nat} {keys : Bytes → Prop} {runner : Nat → Pod → Go Unit}
    (runners : ∀ agent, ∃ k : Kubelet, runner agent = k.runPod) (agent : Nat) (pod : Pod) :
    (runner agent pod).run.Guards m keys .outside := by
  obtain ⟨k,same⟩ := runners agent
  rw [same]
  exact k.guards_runPod pod

/-! ### The goroutines that guard a set of keys with one mutex -/

/-- The goroutines of the control plane whose registries guard the keys with
`m`: each pod or ReplicaSet registry they write through locks `m` or writes none
of the keys, and the node registry, which takes no lock, writes none of them at
the names it is given. -/
inductive Guarding (m : Nat) (keys : Bytes → Prop) : Thread → Prop
  | controller (rsc : ReplicaSetController) (ticks : Nat) (pods : rsc.podRegistry.Covers m keys)
      (replicaSets : rsc.replicaSetRegistry.Covers m keys) : Guarding m keys (rsc.start ticks).run
  | scheduler (s : Scheduler) (ticks : Nat) (pods : s.podRegistry.Covers m keys) : Guarding m keys (s.start ticks).run
  | registerNode (k : Kubelet) (outside : ¬ keys (generateKey nodePrefix (Utf8.coerce k.nodeName))) :
      Guarding m keys k.registerNode.run
  | watchPods (k : Kubelet) (rounds : Nat) : Guarding m keys (k.watchPods rounds).run
  | updatePodStatuses (k : Kubelet) (rounds : Nat) (pods : k.apiServer.podRegistry.Covers m keys) :
      Guarding m keys (k.updatePodStatuses rounds).run
  | cleanupContainers (k : Kubelet) : Guarding m keys k.cleanupContainers.run
  | runPod (k : Kubelet) (pod : Pod) : Guarding m keys (k.runPod pod).run
  | client (s : ApiServer) (req : Request) (covers : s.Covers m keys req) : Guarding m keys (discard (s.serve req)).run

theorem Guarding.guards {m : Nat} {keys : Bytes → Prop} {t : Thread} (goroutine : Guarding m keys t) :
    t.Guards m keys .outside := by
  cases goroutine with
  | controller rsc ticks pods replicaSets => exact rsc.guards_start pods replicaSets ticks
  | scheduler s ticks pods => exact s.guards_start pods ticks
  | registerNode k outside => exact k.guards_registerNode outside
  | watchPods k rounds => exact k.guards_watchPods rounds
  | updatePodStatuses k rounds pods => exact k.guards_updatePodStatuses pods rounds
  | cleanupContainers k => exact k.guards_cleanupContainers
  | runPod k pod => exact k.guards_runPod pod
  | client s req covers => exact Go.guards_map _ (s.guards_serve req covers)

def createsStart : Cluster :=
  ⟨World.start Store.empty [] [],
    [(discard (sampleServer.serve (.createPod (podNamed (lit "web") nginx)))).run,
      (discard (sampleServer.serve (.createPod (podNamed (lit "web") nginx)))).run],0⟩

theorem sampleAgent_runners :
    ∀ agent, ∃ k : Kubelet, (fun _ pod => (agentOn 0 (lit "self")).runPod pod : Nat → Pod → Go Unit) agent = k.runPod :=
  fun _ => ⟨agentOn 0 (lit "self"),rfl⟩

/-- When a goroutine of the control plane takes the mutex, reads a guarded key
and makes its next call a put of that key, as `CreatePod` and the ReplicaSet
registry's `Create` and `Update` do, the key holds at the put what it read. -/
theorem controlPlane_check_holds_at_put {m : Nat} {keys : Bytes → Prop} {runner : Nat → Pod → Go Unit}
    {c c' : Cluster} {log : List (Nat × Event)} {i : Nat} (goroutines : ∀ t ∈ c.threads, Guarding m keys t)
    (runners : ∀ agent, ∃ k : Kubelet, runner agent = k.runPod) (run : Cluster.Run runner c log c') {key : Bytes}
    (under : keys key) {pre post : List Event} {seen : Option Object} {v : Object} {reply : Except Bytes Unit}
    (mine : Cluster.own i log =
      pre ++ [⟨.lock m,()⟩,⟨.etcd (.get key),Except.ok seen⟩,⟨.etcd (.put key v),reply⟩] ++ post) :
    ∃ log₁ log₂ before, log = log₁ ++ (i,⟨.etcd (.put key v),reply⟩) :: log₂ ∧ Cluster.Run runner c log₁ before ∧
      before.world.store.get key = seen := by
  obtain ⟨log₁,log₂,before,cut,-,first,read⟩ :=
    (Cluster.Excluding.start fun t mem => (goroutines t mem).guards).read_holds_at_next (guards_runners runners) run
      under mine
  exact ⟨log₁,log₂,before,cut,first,read⟩

def createsRun : List (Nat × Event) × Cluster := createsStart.scheduled [0,0,0,0,1,1,1]

theorem createsStart_guarding : ∀ t ∈ createsStart.threads, Guarding 1 podKey t := by
  intro t mem
  simp only [createsStart,List.mem_cons,List.mem_singleton,List.not_mem_nil,or_false] at mem
  rcases mem with rfl | rfl <;> exact .client _ _ ⟨.inl rfl,.inr (replicaSetKey_not_podKey _),nofun,fun _ => nofun⟩

theorem createsRun_run :
    Cluster.Run (fun _ pod => (agentOn 0 (lit "self")).runPod pod) createsStart createsRun.1 createsRun.2 :=
  Cluster.run_scheduled createsStart [0,0,0,0,1,1,1] (by decide)

theorem createsRun_own : Cluster.own 0 createsRun.1 = [] ++ [⟨.lock 1,()⟩,⟨.etcd (.get (podPrefix ++ lit "web")),
    Except.ok none⟩,⟨.etcd (.put (podPrefix ++ lit "web") (.pod (podNamed (lit "web") nginx))),Except.ok ()⟩] ++
    [⟨.unlock 1,()⟩] := by
  decide

theorem controlPlane_check_holds_at_put_web :
    (∀ t ∈ createsStart.threads, Guarding 1 podKey t) ∧
      (∀ agent, ∃ k : Kubelet, (fun _ pod => (agentOn 0 (lit "self")).runPod pod : Nat → Pod → Go Unit) agent = k.runPod) ∧
      Cluster.Run (fun _ pod => (agentOn 0 (lit "self")).runPod pod) createsStart createsRun.1 createsRun.2 ∧
      podKey (podPrefix ++ lit "web") ∧
      Cluster.own 0 createsRun.1 = [] ++ [⟨.lock 1,()⟩,⟨.etcd (.get (podPrefix ++ lit "web")),Except.ok none⟩,
        ⟨.etcd (.put (podPrefix ++ lit "web") (.pod (podNamed (lit "web") nginx))),Except.ok ()⟩] ++ [⟨.unlock 1,()⟩] ∧
      ∃ log₁ log₂ before, createsRun.1 = log₁ ++
          (0,⟨.etcd (.put (podPrefix ++ lit "web") (.pod (podNamed (lit "web") nginx))),Except.ok ()⟩) :: log₂ ∧
        Cluster.Run (fun _ pod => (agentOn 0 (lit "self")).runPod pod) createsStart log₁ before ∧
        before.world.store.get (podPrefix ++ lit "web") = none :=
  have goroutines := createsStart_guarding
  have runners := sampleAgent_runners
  have run := createsRun_run
  have under : podKey (podPrefix ++ lit "web") := hasPrefix_append _ _
  have mine := createsRun_own
  ⟨goroutines,runners,run,under,mine,controlPlane_check_holds_at_put goroutines runners run under mine⟩

private theorem append_cons_cases {α : Type} {l₁ l₂ r₁ r₂ : List α} {x y : α} (same : l₁ ++ x :: r₁ = l₂ ++ y :: r₂) :
    (l₁ = l₂ ∧ x = y) ∨ (∃ middle, l₂ = l₁ ++ x :: middle) ∨ ∃ middle, l₁ = l₂ ++ y :: middle := by
  rcases List.append_eq_append_iff.mp same with ⟨rest,rfl,after⟩ | ⟨rest,rfl,after⟩
  · cases rest with
    | nil => exact .inl ⟨(List.append_nil _).symm,(List.cons_eq_cons.mp after).1⟩
    | cons z middle =>
      obtain ⟨rfl,-⟩ := List.cons_eq_cons.mp after
      exact .inr (.inl ⟨middle,rfl⟩)
  · cases rest with
    | nil => exact .inl ⟨List.append_nil _,(List.cons_eq_cons.mp after).1.symm⟩
    | cons z middle =>
      obtain ⟨rfl,-⟩ := List.cons_eq_cons.mp after
      exact .inr (.inr ⟨middle,rfl⟩)

private theorem present_after_cut {runner : Nat → Pod → Go Unit} {c b : Cluster} {l middle : List (Nat × Event)}
    {k : Nat} {key : Bytes} {w : Object} (run : Cluster.Run runner c (l ++ (k,⟨.etcd (.put key w),Except.ok ()⟩) :: middle) b)
    (kept : ∀ entry ∈ middle, entry.2.effect.deletes key = false) : b.world.store.get key ≠ none := by
  obtain ⟨_,-,rest⟩ := Cluster.Run.split run
  exact Option.isSome_iff_ne_none.mp (rest.present_after_put kept)

/-- Two creates of a guarded key, each taking the mutex, finding the key absent
and putting it, are one create, made by one goroutine at one point of its
events, unless an event of the run deletes the key: in every interleaving, a
create under the mutex is unique, as `CreatePod` and the ReplicaSet registry's
`Create` are when one registry serves every writer of their keys. -/
theorem controlPlane_create_unique {m : Nat} {keys : Bytes → Prop} {runner : Nat → Pod → Go Unit} {c c' : Cluster}
    {log : List (Nat × Event)} (goroutines : ∀ t ∈ c.threads, Guarding m keys t)
    (runners : ∀ agent, ∃ k : Kubelet, runner agent = k.runPod) (run : Cluster.Run runner c log c') {key : Bytes}
    (under : keys key) (kept : ∀ entry ∈ log, entry.2.effect.deletes key = false) {i j : Nat}
    {pre pre' post post' : List Event} {v v' : Object}
    (first : Cluster.own i log =
      pre ++ [⟨.lock m,()⟩,⟨.etcd (.get key),Except.ok none⟩,⟨.etcd (.put key v),Except.ok ()⟩] ++ post)
    (second : Cluster.own j log =
      pre' ++ [⟨.lock m,()⟩,⟨.etcd (.get key),Except.ok none⟩,⟨.etcd (.put key v'),Except.ok ()⟩] ++ post') :
    i = j ∧ pre = pre' ∧ v = v' := by
  have ex := Cluster.Excluding.start fun t mem => (goroutines t mem).guards
  obtain ⟨log₁,log₂,before₁,cut₁,own₁,run₁,absent₁⟩ := ex.read_holds_at_next (guards_runners runners) run under first
  obtain ⟨log₃,log₄,before₂,cut₂,own₂,run₂,absent₂⟩ := ex.read_holds_at_next (guards_runners runners) run under second
  have inLog : ∀ {l middle r : List (Nat × Event)} {x y : Nat × Event}, log = l ++ x :: middle ++ y :: r →
      ∀ entry ∈ middle, entry.2.effect.deletes key = false := fun cut entry mem =>
    kept entry (by rw [cut]; simp [mem])
  rcases append_cons_cases (cut₁.symm.trans cut₂) with ⟨rfl,same⟩ | ⟨middle,rfl⟩ | ⟨middle,rfl⟩
  · -- the same event: one create
    obtain ⟨rfl,put⟩ := Prod.mk.inj same
    cases put
    exact ⟨rfl,List.append_cancel_right (own₁.symm.trans own₂),rfl⟩
  · -- the second check came after the first put
    exact absurd absent₂ (present_after_cut run₂ (inLog (by rw [cut₂,List.append_assoc])))
  · -- the first check came after the second put
    exact absurd absent₁ (present_after_cut run₁ (inLog (by rw [cut₁,List.append_assoc])))

theorem controlPlane_create_unique_web :
    (∀ t ∈ createsStart.threads, Guarding 1 podKey t) ∧
      (∀ agent, ∃ k : Kubelet, (fun _ pod => (agentOn 0 (lit "self")).runPod pod : Nat → Pod → Go Unit) agent = k.runPod) ∧
      Cluster.Run (fun _ pod => (agentOn 0 (lit "self")).runPod pod) createsStart createsRun.1 createsRun.2 ∧
      podKey (podPrefix ++ lit "web") ∧ (∀ entry ∈ createsRun.1, entry.2.effect.deletes (podPrefix ++ lit "web") = false) ∧
      Cluster.own 0 createsRun.1 = [] ++ [⟨.lock 1,()⟩,⟨.etcd (.get (podPrefix ++ lit "web")),Except.ok none⟩,
        ⟨.etcd (.put (podPrefix ++ lit "web") (.pod (podNamed (lit "web") nginx))),Except.ok ()⟩] ++ [⟨.unlock 1,()⟩] ∧
      (0 = 0 ∧ ([] : List Event) = [] ∧ Object.pod (podNamed (lit "web") nginx) = .pod (podNamed (lit "web") nginx)) :=
  have goroutines := createsStart_guarding
  have runners := sampleAgent_runners
  have run := createsRun_run
  have under : podKey (podPrefix ++ lit "web") := hasPrefix_append _ _
  have kept : ∀ entry ∈ createsRun.1, entry.2.effect.deletes (podPrefix ++ lit "web") = false := by decide
  have mine := createsRun_own
  ⟨goroutines,runners,run,under,kept,mine,controlPlane_create_unique goroutines runners run under kept mine mine⟩

end Gokube
