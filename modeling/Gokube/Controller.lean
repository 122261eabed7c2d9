import Gokube.Registry

/-! `pkg/controller`: the ReplicaSet controller. `Reconcile` counts the pods
that are active and owned by the ReplicaSet, creates one pod for each template
container for each missing replica, and writes the desired count back as the
status. `Run` reconciles every stored ReplicaSet once. -/

namespace Gokube

structure ReplicaSetController where
  replicaSetRegistry : ReplicaSetRegistry
  podRegistry : PodRegistry
  deriving DecidableEq, Repr

def generatePodNameFromReplicaSet (replicaSetName : Bytes) : Go Bytes :=
  ExceptT.lift (generateName replicaSetName)

theorem exec_generatePodNameFromReplicaSet (replicaSetName : Bytes) (w : World) :
    (generatePodNameFromReplicaSet replicaSetName).exec w =
      (Names.String Names.randomLength w.rng).map fun drawn =>
        (.returned (.ok (Names.truncateBase replicaSetName ++ drawn.1)),{w with rng := drawn.2}) := by
  simp only [generatePodNameFromReplicaSet,generateName,Go.exec,ExceptT.run_lift,Prog.map_eq,Prog.exec_bind,
    call,Prog.exec_step,perform]
  cases Names.String Names.randomLength w.rng <;> rfl

/-- A pod named by `generatePodNameFromReplicaSet` is owned by its ReplicaSet
exactly when the ReplicaSet's name fits the generated base, or the part the
base cut off starts the random suffix. -/
theorem generated_pod_owned_iff (meta : ObjectMeta) (pod : Pod) {w w' : World}
    (ran : (generatePodNameFromReplicaSet meta.name).exec w = some (.returned (.ok pod.objectMeta.name),w')) :
    isOwnedBy pod meta = true ↔
      meta.name.length ≤ Names.maxGeneratedNameLength ∨
        meta.name.drop Names.maxGeneratedNameLength <+: pod.objectMeta.name.drop Names.maxGeneratedNameLength := by
  rw [exec_generatePodNameFromReplicaSet] at ran
  obtain ⟨⟨suffix,g⟩,-,drawn⟩ := Option.map_eq_some'.mp ran
  simp only [Prod.mk.injEq,Halt.returned.injEq,Except.ok.injEq] at drawn
  rw [isOwnedBy,hasPrefix_iff,← drawn.1]
  by_cases short : meta.name.length ≤ Names.maxGeneratedNameLength
  · simp [Names.truncateBase_of_le short,short]
  · have cut : Names.truncateBase meta.name = meta.name.take Names.maxGeneratedNameLength := if_pos (by omega)
    have kept : (meta.name.take Names.maxGeneratedNameLength).length = Names.maxGeneratedNameLength :=
      List.length_take_of_le (by omega)
    have moved : meta.name.drop Names.maxGeneratedNameLength <+: suffix ↔
        meta.name <+: meta.name.take Names.maxGeneratedNameLength ++ suffix := by
      rw [← List.prefix_append_right_inj (meta.name.take Names.maxGeneratedNameLength),List.take_append_drop]
    rw [cut,List.drop_left' kept,moved]
    simp [short]

theorem generated_pod_owned_web :
    (generatePodNameFromReplicaSet (lit "web")).exec (World.start Store.empty [0] []) =
        some (.returned (.ok (lit "webbbbbb")),World.start Store.empty [] []) ∧
      (isOwnedBy ⟨⟨lit "webbbbbb",[]⟩,⟨none,0⟩,[],[]⟩ ⟨lit "web",[]⟩ = true ↔
        (lit "web").length ≤ Names.maxGeneratedNameLength ∨
          (lit "web").drop Names.maxGeneratedNameLength <+: (lit "webbbbbb").drop Names.maxGeneratedNameLength) :=
  have ran : (generatePodNameFromReplicaSet (lit "web")).exec (World.start Store.empty [0] []) =
      some (.returned (.ok (lit "webbbbbb")),World.start Store.empty [] []) := by decide
  ⟨ran,generated_pod_owned_iff ⟨lit "web",[]⟩ ⟨⟨lit "webbbbbb",[]⟩,⟨none,0⟩,[],[]⟩ ran⟩

/-- A name of 59 bytes: the generated name keeps 58 of them, and no suffix
restores the last one, since `alphanums` has no `a`. -/
theorem generated_pod_not_owned_long_name :
    (generatePodNameFromReplicaSet (List.replicate 59 97)).exec (World.start Store.empty [0] []) =
        some (.returned (.ok (List.replicate 58 97 ++ lit "bbbbb")),World.start Store.empty [] []) ∧
      isOwnedBy ⟨⟨List.replicate 58 97 ++ lit "bbbbb",[]⟩,⟨none,0⟩,[],[]⟩ ⟨List.replicate 59 97,[]⟩ = false := by
  decide

namespace ReplicaSetController

/-- `getPodsForReplicaSet`; the error it returns is always nil. -/
def getPodsForReplicaSet (_ : ReplicaSetController) (rs : ReplicaSet) (allPods : List Pod)
    (condition : Pod → ObjectMeta → Bool) : List Pod :=
  allPods.filter fun pod => condition pod rs.objectMeta

/-- The inner loop of `Reconcile`: a pod for each container of the template. -/
def createContainers (rsc : ReplicaSetController) (rsName : Bytes) : List Container → Go Unit
  | [] => pure ()
  | container :: rest => do
    let name ← generatePodNameFromReplicaSet rsName
    let _ ← rsc.podRegistry.createPod
      {objectMeta := {name := name,«namespace» := []},spec := {containers := some [container],replicas := 0},
        nodeName := [],status := []}
    rsc.createContainers rsName rest

/-- The outer loop of `Reconcile`, once for each `missing` replica. -/
def createReplicas (rsc : ReplicaSetController) (rs : ReplicaSet) : (missing : Nat) → Go Unit
  | 0 => pure ()
  | missing + 1 => do
    rsc.createContainers rs.objectMeta.name (items rs.spec.template.spec.containers)
    rsc.createReplicas rs missing

/-- `Reconcile`; only the name of its argument is read. -/
def reconcile (rsc : ReplicaSetController) (rs : ReplicaSet) : Go Unit := do
  let currentRS ← rsc.replicaSetRegistry.get rs.objectMeta.name
  let allPods ← rsc.podRegistry.listPods
  let activePods := rsc.getPodsForReplicaSet currentRS allPods isPodActiveAndOwnedBy
  let currentPodCount : Int := activePods.length
  let desiredPodCount := currentRS.spec.replicas
  if currentPodCount < desiredPodCount then
    rsc.createReplicas currentRS (desiredPodCount - currentPodCount).toNat
    rsc.replicaSetRegistry.update {currentRS with status := {currentRS.status with replicas := desiredPodCount}}
  else if currentPodCount > desiredPodCount then
    rsc.replicaSetRegistry.update {currentRS with status := {currentRS.status with replicas := desiredPodCount}}
  else pure ()

/-- `Run`: a failure to list or to reconcile ends the process. -/
def run (rsc : ReplicaSetController) : Go Unit := do
  match ← Go.attempt rsc.replicaSetRegistry.list with
  | .error err => Go.fatal (lit "failed to list replicaSets: " ++ err.text)
  | .ok rscList =>
    rscList.forM fun rs => do
      match ← Go.attempt (rsc.reconcile rs) with
      | .error err => Go.fatal (lit "failed to reconcile: " ++ err.text)
      | .ok () => pure ()

/-- `Start`, its first `ticks` ticks; a tick's error is printed. -/
def start (rsc : ReplicaSetController) : (ticks : Nat) → Go Unit
  | 0 => pure ()
  | ticks + 1 => do discard (Go.attempt rsc.run); rsc.start ticks

end ReplicaSetController

/-! ### A controller and a ReplicaSet for runs on fixed inputs -/

def sampleController : ReplicaSetController := ⟨⟨0⟩,⟨1⟩⟩

def webReplicaSet (replicas : Int) (containers : List Container) : ReplicaSet :=
  ⟨⟨lit "web",[]⟩,⟨replicas,⟨⟨[],[]⟩,⟨some containers,0⟩⟩⟩,⟨0⟩⟩

def storedAlone (rs : ReplicaSet) : World :=
  World.start (Store.empty.put (sampleController.replicaSetRegistry.generateKey rs.objectMeta.name) (.replicaSet rs))
    [0,1,2,3] []

def reconciledAlone (rs : ReplicaSet) : World := (sampleController.reconcile rs).after (storedAlone rs)

end Gokube
