import Gokube.Controller
import Gokube.Handlers
import Gokube.Trace

/-! One tick of the ReplicaSet controller. `Run` lists the ReplicaSets and
reconciles them in turn, and calls `log.Fatalf` on the first error: of the
list, or of any `Reconcile`, a ReplicaSet that is gone when `Reconcile`
fetches it again included. The process then exits and no later ReplicaSet of
the list is reconciled. -/

namespace Gokube

namespace ReplicaSetController
variable (rsc : ReplicaSetController) {w w₀ w₁ w₂ : World}

/-- The loop of `Run` over the ReplicaSets its `List` returned. -/
def reconcileListed (rscList : List ReplicaSet) : Go Unit :=
  rscList.forM fun rs => do
    match ← Go.attempt (rsc.reconcile rs) with
    | .error err => Go.fatal (lit "failed to reconcile: " ++ err.text)
    | .ok () => pure ()

theorem run_eq : rsc.run = Go.attempt rsc.replicaSetRegistry.list >>= fun listed =>
    match listed with
    | .error err => Go.fatal (lit "failed to list replicaSets: " ++ err.text)
    | .ok rscList => rsc.reconcileListed rscList :=
  rfl

theorem reconcileListed_exits (pre post : List ReplicaSet) {rs : ReplicaSet} {err : GoError}
    (earlier : (rsc.reconcileListed pre).exec w = some (.returned (.ok ()),w₁))
    (failed : (rsc.reconcile rs).exec w₁ = some (.returned (.error err),w₂)) :
    (rsc.reconcileListed (pre ++ rs :: post)).exec w =
      some (.exited (lit "failed to reconcile: " ++ err.text),w₂) := by
  induction pre generalizing w with
  | nil =>
    cases earlier
    rw [List.nil_append,reconcileListed,List.forM.eq_2,Go.exec_bind,Go.exec_bind,Go.exec_attempt,failed]
    rfl
  | cons first pre ih =>
    rw [reconcileListed,List.forM.eq_2] at earlier
    obtain ⟨_,w',done,rest⟩ := Go.exec_bind_ok_inv earlier
    rw [List.cons_append,reconcileListed,List.forM.eq_2,Go.exec_bind_ok done]
    exact ih rest

theorem run_exits_on_failed_reconcile (pre post : List ReplicaSet) {rs : ReplicaSet} {err : GoError}
    (listed : rsc.replicaSetRegistry.list.exec w = some (.returned (.ok (pre ++ rs :: post)),w₀))
    (earlier : (rsc.reconcileListed pre).exec w₀ = some (.returned (.ok ()),w₁))
    (failed : (rsc.reconcile rs).exec w₁ = some (.returned (.error err),w₂)) :
    rsc.run.exec w = some (.exited (lit "failed to reconcile: " ++ err.text),w₂) := by
  rw [run_eq,Go.exec_bind,Go.exec_attempt,listed]
  exact rsc.reconcileListed_exits pre post earlier failed

end ReplicaSetController

/-! ### Ticks that exit -/

def imagelessReplicaSet : ReplicaSet := ⟨⟨lit "api",[]⟩,⟨1,⟨⟨[],[]⟩,⟨some [⟨lit "nginx",[]⟩],0⟩⟩⟩,⟨0⟩⟩

def apiAndWeb : Store :=
  (Store.empty.put (sampleController.replicaSetRegistry.generateKey (lit "api")) (.replicaSet imagelessReplicaSet)).put
    (sampleController.replicaSetRegistry.generateKey (lit "web")) (.replicaSet (webReplicaSet 1 [nginx]))

def deletedMidTick : Cluster :=
  ⟨World.start (Store.empty.put (sampleController.replicaSetRegistry.generateKey (lit "web"))
      (.replicaSet (webReplicaSet 1 [nginx]))) [0] [],
    [sampleController.run.run,
      (expectStatus statusNoContent (sampleServer.replicasetHandler.deleteReplicasetRoute (lit "web"))).run],0⟩

/-- Alone, the tick's `CreatePod` for `api` is refused as invalid and the
process exits before `web` is reconciled: the store is as it was. Beside a
`DELETE` of `web` answered `204` after the tick listed it, the tick's
`Reconcile` of `web` finds it gone and the process exits. -/
theorem run_exits_on_one_replicaSet :
    sampleController.run.exec (World.start apiAndWeb [0] []) =
        some (.exited (lit "failed to reconcile: " ++ (wrap .podInvalid (wrap .invalidPodSpec
          (validationText [⟨lit "Pod.Spec.Containers[0].Image",lit "Image",lit "required"⟩])).text).text),
          World.start apiAndWeb [] []) ∧
      Cluster.Reaches (fun _ _ => pure ()) deletedMidTick
        (deletedMidTick.scheduled ([0,0,0] ++ List.replicate 6 1 ++ [0,0,0])).2 ∧
      (deletedMidTick.scheduled ([0,0,0] ++ List.replicate 6 1 ++ [0,0,0])).2.returned 1 = true ∧
      (deletedMidTick.scheduled ([0,0,0] ++ List.replicate 6 1 ++ [0,0,0])).2.exited 0 =
        some (lit "failed to reconcile: " ++ (wrap .replicaSetNotFound (lit "web")).text) :=
  ⟨ReplicaSetController.run_exits_on_failed_reconcile sampleController [] [webReplicaSet 1 [nginx]]
      (by decide : sampleController.replicaSetRegistry.list.exec (World.start apiAndWeb [0] []) =
        some (.returned (.ok ([] ++ [imagelessReplicaSet,webReplicaSet 1 [nginx]])),World.start apiAndWeb [0] []))
      rfl (by decide),
    (Cluster.run_scheduled _ _ (by decide)).reaches,by decide,by decide⟩

end Gokube
