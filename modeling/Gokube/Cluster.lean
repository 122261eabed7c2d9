import Gokube.Program
import Mathlib.Logic.Relation

/-! Goroutines interleaved over one world. A step lets one goroutine perform
its next effect against the current world, or starts a pod runner that a node
agent spawned. A goroutine that runs alone from some point of an interleaving
to a later one is a run of `Prog.exec`, so a run of `exec` lifts into the
cluster at any point. -/

namespace Gokube

/-- A goroutine's code: Go code that returns nothing. -/
abbrev Thread := Prog (Except GoError Unit)

structure Cluster where
  world : World
  threads : List Thread
  /-- How many of the world's spawned runners run as goroutines. -/
  launched : Nat

namespace Cluster
variable (runner : Nat → Pod → Go Unit)

/-- One step of the cluster. `runner agent pod` is the goroutine `go k.runPod(pod)`
of agent `agent`. -/
inductive Step : Cluster → Cluster → Prop
  | perform {c : Cluster} {i : Nat} {e : Effect} {next : e.Reply → Thread} {reply : e.Reply} {w : World}
      (waiting : c.threads[i]? = some (.step e next)) (performed : perform e c.world = some (reply,w)) :
      Step c ⟨w,c.threads.set i (next reply),c.launched⟩
  | launch {c : Cluster} {agent : Nat} {pod : Pod} (spawned : c.world.runners[c.launched]? = some (agent,pod)) :
      Step c ⟨c.world,c.threads ++ [(runner agent pod).run],c.launched + 1⟩

def Reaches : Cluster → Cluster → Prop := Relation.ReflTransGen (Step runner)

variable {runner} {α : Type} {i : Nat} {w' : World}

theorem Reaches.trans {a b c : Cluster} (first : Reaches runner a b) (second : Reaches runner b c) :
    Reaches runner a c :=
  Relation.ReflTransGen.trans first second

private theorem set_of_getElem? {l : List Thread} {x : Thread} (found : l[i]? = some x) : l.set i x = l := by
  induction l generalizing i with
  | nil => simp at found
  | cons y rest ih =>
    cases i with
    | zero => simp_all
    | succ i => simp_all

theorem reaches_exec {c : Cluster} {p : Prog α} {f : α → Thread} {a : α} (waiting : c.threads[i]? = some (p >>= f))
    (ran : p.exec c.world = some (.returned a,w')) :
    Reaches runner c ⟨w',c.threads.set i (f a),c.launched⟩ := by
  induction p generalizing c with
  | done b =>
    cases ran
    rw [Prog.done_bind] at waiting
    rw [set_of_getElem? waiting]
    exact .refl
  | halt reason => cases ran
  | step e next ih =>
    rw [Prog.exec_step] at ran
    obtain ⟨⟨reply,w₁⟩,performed,rest⟩ := Option.bind_eq_some.mp ran
    have inside : i < c.threads.length := (List.getElem?_eq_some.mp waiting).1
    refine .head (Step.perform waiting performed) ?_
    have moved : Reaches runner ⟨w₁,c.threads.set i (next reply >>= f),c.launched⟩
        ⟨w',(c.threads.set i (next reply >>= f)).set i (f a),c.launched⟩ :=
      ih reply (List.getElem?_set_self inside) rest
    rwa [List.set_set] at moved

private theorem bind_done (p : Prog α) : p >>= Prog.done = p := by
  induction p with
  | done a => rfl
  | halt reason => rfl
  | step e next ih => exact congrArg (Prog.step e) (funext ih)

theorem reaches_go_done {c : Cluster} {x : Go Unit} {result : Except GoError Unit} (waiting : c.threads[i]? = some x.run)
    (ran : x.exec c.world = some (.returned result,w')) :
    Reaches runner c ⟨w',c.threads.set i (.done result),c.launched⟩ := by
  rw [← bind_done x.run] at waiting
  exact reaches_exec waiting ran

end Cluster

end Gokube
