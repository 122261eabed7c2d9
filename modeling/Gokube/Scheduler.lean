import Gokube.Registry

/-! `workbench/pkg/scheduler`: each tick lists the pending pods and the nodes,
binds every pending pod to a node drawn with `rand.Intn`, and writes it back
with `UpdatePod`. -/

namespace Gokube

structure Scheduler where
  podRegistry : PodRegistry
  nodeRegistry : NodeRegistry
  deriving DecidableEq, Repr

namespace Scheduler
variable (s : Scheduler)

/-- The loop of `schedulePendingPods`: the pod takes the drawn node's name and
the status `Scheduled`, and the first failed update ends the tick. -/
def bindPods (nodes : List Node) : List Pod → Go Unit
  | [] => pure ()
  | pod :: rest => do
    let index ← Go.call (.intn nodes.length)
    match nodes.get? index with
    | none => Go.fatal (lit "panic: runtime error: index out of range")
    | some node =>
      let pod := {pod with nodeName := node.objectMeta.name,status := podScheduled}
      match ← Go.attempt (s.podRegistry.updatePod pod) with
      | .error err => throw (plain (lit "failed to update pod " ++ pod.objectMeta.name ++ lit ": " ++ err.text))
      | .ok () => bindPods nodes rest

def schedulePendingPods : Go Unit := do
  match ← Go.attempt s.podRegistry.listPendingPods with
  | .error err => throw (plain (lit "failed to list pending pods: " ++ err.text))
  | .ok pods =>
    match ← Go.attempt s.nodeRegistry.listNodes with
    | .error err => throw (plain (lit "failed to list nodes: " ++ err.text))
    | .ok nodes =>
      if nodes = [] then throw (plain (lit "no nodes available for scheduling"))
      else s.bindPods nodes pods

/-- `Start`, its first `ticks` ticks; a tick's error is printed. -/
def start : (ticks : Nat) → Go Unit
  | 0 => pure ()
  | ticks + 1 => do discard (Go.attempt s.schedulePendingPods); start ticks

end Scheduler

def sampleScheduler : Scheduler := ⟨⟨1⟩,⟨⟩⟩

end Gokube
