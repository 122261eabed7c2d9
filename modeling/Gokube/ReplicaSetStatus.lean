import Gokube.Convergence

/-! What `Reconcile` leaves as a ReplicaSet's status. It writes the status
only when the count of active, owned pods differs from the desired replicas,
and then writes the desired replicas, not a count it observed: a stale status
stays when the count already matches, and a template without containers
records replicas no pod stands for. -/

namespace Gokube

namespace ReplicaSetController
variable (rsc : ReplicaSetController) {w w' : World}

/-- Run alone, with any pattern of failed calls, a `Reconcile` of a stored
ReplicaSet that returns nil writes nothing when the active, owned pods number
its replicas, and otherwise stores it with its status set to its replicas. -/
theorem reconcile_status_records_desired (r : ReplicaSet)
    (stored : EtcdStorage.read (rsc.replicaSetRegistry.generateKey r.objectMeta.name) decodeReplicaSet w.store = .ok r)
    (ran : (rsc.reconcile r).exec w = some (.returned (.ok ()),w')) :
    ((w.store.activeOwnedCount r.objectMeta : Int) = r.spec.replicas → w'.store = w.store) ∧
    ((w.store.activeOwnedCount r.objectMeta : Int) ≠ r.spec.replicas →
      w'.store.get (rsc.replicaSetRegistry.generateKey r.objectMeta.name) =
        some (.replicaSet {r with status := {r.status with replicas := r.spec.replicas}})) := by
  rw [reconcile] at ran
  obtain ⟨current,w₁,got,ran⟩ := Go.exec_bind_ok_inv ran
  obtain ⟨read,kept₁⟩ := ReplicaSetRegistry.get_ok got
  rw [stored] at read
  cases read
  obtain ⟨pods,w₂,all,ran⟩ := Go.exec_bind_ok_inv ran
  obtain ⟨listed,kept₂⟩ := PodRegistry.listPods_ok all
  rw [kept₁] at listed
  simp only [getPodsForReplicaSet,listed_activeOwned listed] at ran
  refine ⟨fun same => ?_,fun differ => ?_⟩
  · rw [if_neg (by omega),if_neg (by omega)] at ran
    cases ran
    rw [kept₂,kept₁]
  · by_cases fewer : (w.store.activeOwnedCount r.objectMeta : Int) < r.spec.replicas
    · rw [if_pos fewer] at ran
      obtain ⟨_,w₃,-,ran⟩ := Go.exec_bind_ok_inv ran
      rw [ReplicaSetRegistry.update_ok ran,Store.get_put,if_pos rfl]
    · rw [if_neg fewer,if_pos (by omega)] at ran
      rw [ReplicaSetRegistry.update_ok ran,Store.get_put,if_pos rfl]

end ReplicaSetController

theorem reconcile_records_desired_without_containers :
    EtcdStorage.read (sampleController.replicaSetRegistry.generateKey (lit "web")) decodeReplicaSet
        (storedAlone (webReplicaSet 1 [])).store = .ok (webReplicaSet 1 []) ∧
      (sampleController.reconcile (webReplicaSet 1 [])).exec (storedAlone (webReplicaSet 1 [])) =
        some (.returned (.ok ()),reconciledAlone (webReplicaSet 1 [])) ∧
      (((storedAlone (webReplicaSet 1 [])).store.activeOwnedCount (webReplicaSet 1 []).objectMeta : Int) =
          (webReplicaSet 1 []).spec.replicas →
        (reconciledAlone (webReplicaSet 1 [])).store = (storedAlone (webReplicaSet 1 [])).store) ∧
      (((storedAlone (webReplicaSet 1 [])).store.activeOwnedCount (webReplicaSet 1 []).objectMeta : Int) ≠
          (webReplicaSet 1 []).spec.replicas →
        (reconciledAlone (webReplicaSet 1 [])).store.get (sampleController.replicaSetRegistry.generateKey (lit "web")) =
          some (.replicaSet {webReplicaSet 1 [] with
            status := {(webReplicaSet 1 []).status with replicas := (webReplicaSet 1 []).spec.replicas}})) :=
  have stored : EtcdStorage.read (sampleController.replicaSetRegistry.generateKey (lit "web")) decodeReplicaSet
      (storedAlone (webReplicaSet 1 [])).store = .ok (webReplicaSet 1 []) := by decide
  have ran : (sampleController.reconcile (webReplicaSet 1 [])).exec (storedAlone (webReplicaSet 1 [])) =
      some (.returned (.ok ()),reconciledAlone (webReplicaSet 1 [])) := by decide
  ⟨stored,ran,ReplicaSetController.reconcile_status_records_desired sampleController _ stored ran⟩

/-! ### Statuses that are not the observed count -/

def staleStatus : World :=
  World.start ((Store.empty.put (sampleController.replicaSetRegistry.generateKey (lit "web"))
    (.replicaSet (webReplicaSet 1 [nginx]))).put (podPrefix ++ lit "webbbbbb") (.pod (podNamed (lit "webbbbbb") nginx)))
    [] []

/-- With one active, owned pod for one replica, `Reconcile` returns nil and
leaves the status count at `0`; with a template of no containers it creates no
pod and records one replica. -/
theorem reconcile_status_not_observed_count :
    (sampleController.reconcile (webReplicaSet 1 [nginx])).exec staleStatus =
        some (.returned (.ok ()),staleStatus) ∧
      staleStatus.store.activeOwnedCount (webReplicaSet 1 [nginx]).objectMeta = 1 ∧
      staleStatus.store.get (sampleController.replicaSetRegistry.generateKey (lit "web")) =
        some (.replicaSet {webReplicaSet 1 [nginx] with status := ⟨0⟩}) ∧
    (sampleController.reconcile (webReplicaSet 1 [])).exec (storedAlone (webReplicaSet 1 [])) =
        some (.returned (.ok ()),reconciledAlone (webReplicaSet 1 [])) ∧
      (reconciledAlone (webReplicaSet 1 [])).store.activeOwnedCount (webReplicaSet 1 []).objectMeta = 0 ∧
      (reconciledAlone (webReplicaSet 1 [])).store.get (sampleController.replicaSetRegistry.generateKey (lit "web")) =
        some (.replicaSet {webReplicaSet 1 [] with status := ⟨1⟩}) := by
  decide

end Gokube
