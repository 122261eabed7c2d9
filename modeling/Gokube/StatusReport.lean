import Gokube.Kubelet

/-! The node agent's status reporter. `determinePodStatus` reads four folds
over the container states, and its answer is the table of the spec's
derivation. Each tick sets the tracked pod's status before it sends the PUT,
so a status whose PUT failed is recorded as sent and is not sent again while
the containers keep it. -/

namespace Gokube

theorem anyContainerRunning_iff (states : List ContainerState) :
    anyContainerRunning states = true ↔ ∃ state ∈ states, state.running = true :=
  List.any_eq_true

theorem allContainersFailed_iff (states : List ContainerState) :
    allContainersFailed states = true ↔ ∀ state ∈ states, state.exists = true → state.exitCode ≠ 0 := by
  simp [allContainersFailed,imp_iff_not_or]

theorem anyContainerExists_iff (states : List ContainerState) :
    anyContainerExists states = true ↔ ∃ state ∈ states, state.exists = true :=
  List.any_eq_true

theorem allContainersSucceeded_iff (states : List ContainerState) :
    allContainersSucceeded states = true ↔ ∀ state ∈ states, state.exitCode = 0 := by
  simp [allContainersSucceeded]

/-- `determinePodStatus` is the table, row by row: `Running` when a container
runs; else `Failed` when one exists and none that exists exited `0`; else
`Succeeded` when every state has exit code `0`; else `Scheduled`. -/
theorem determinePodStatus_table (states : List ContainerState) :
    determinePodStatus states =
      if ∃ state ∈ states, state.running = true then podRunning
      else if (∃ state ∈ states, state.exists = true) ∧ ∀ state ∈ states, state.exists = true → state.exitCode ≠ 0 then
        podFailed
      else if ∀ state ∈ states, state.exitCode = 0 then podSucceeded
      else podScheduled := by
  refine ite_congr (propext (anyContainerRunning_iff states)) (fun _ => rfl) fun _ => ?_
  refine ite_congr (propext ?_) (fun _ => rfl) fun _ => ?_
  · rw [Bool.and_eq_true,allContainersFailed_iff,anyContainerExists_iff,and_comm]
  · exact ite_congr (propext (allContainersSucceeded_iff states)) (fun _ => rfl) fun _ => rfl

/-! ### A status whose PUT failed -/

def reporterStart : World :=
  {World.start (Store.empty.put (podPrefix ++ lit "web") (.pod webOnSelf)) [] [] with
    failures := [false,true],
    runtime := ⟨[nginx.image],[⟨lit "nginx",nginx.image,[],true,0⟩]⟩,
    agents := [(0,[(lit "web",webOnSelf)])]}

def putFailed : World := (agentOn 0 (lit "self")).updatePodStatusesRound.after reporterStart

/-- The first tick derives `Running`, records it, and its PUT fails: the store
still holds `web` as `Scheduled`. Every later run of ticks finds the recorded
status equal to the derived one and leaves the world as it is: the change is
never sent. -/
theorem reporter_never_resends_failed_status :
    (agentOn 0 (lit "self")).updatePodStatusesRound.exec reporterStart = some (.returned (.ok ()),putFailed) ∧
      putFailed.memory 0 = [(lit "web",{webOnSelf with status := podRunning})] ∧
      putFailed.store = reporterStart.store ∧
      ∀ ticks, ((agentOn 0 (lit "self")).updatePodStatuses ticks).exec putFailed = some (.returned (.ok ()),putFailed) := by
  have quiet : (agentOn 0 (lit "self")).updatePodStatusesRound.exec putFailed = some (.returned (.ok ()),putFailed) := by
    decide
  refine ⟨by decide,by decide,by decide,fun ticks => ?_⟩
  induction ticks with
  | zero => rfl
  | succ ticks ih => rw [Kubelet.updatePodStatuses,Go.exec_bind_ok quiet,ih]

end Gokube
