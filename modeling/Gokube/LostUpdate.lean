import Gokube.Footprint
import Gokube.Controller
import Gokube.Handlers

/-! What the ReplicaSet controller writes. `Reconcile` reads the ReplicaSet,
creates pods, and writes back the ReplicaSet it read with only its status count
set. Writes go to etcd without compare-and-swap, so in any interleaving the
spec and metadata it writes are those stored at its `Get`, and a `PUT` that
completes between that `Get` and the `Update` is reverted. -/

namespace Gokube

namespace ReplicaSetController
variable (rsc : ReplicaSetController) {allowed : Bytes → Object → Prop}

theorem putsWithin_createContainers (podKeys : ∀ key value, hasPrefix key podPrefix = true → allowed key value)
    (rsName : Bytes) (containers : List Container) : (rsc.createContainers rsName containers).PutsWithin allowed := by
  induction containers with
  | nil => trivial
  | cons container rest ih =>
    refine Go.within_bind (Go.putsWithin_lift ⟨trivial,fun _ => trivial⟩) fun name => ?_
    exact Go.within_bind (rsc.podRegistry.putsWithin_createPod fun _ _ => podKeys _ _ (hasPrefix_append _ _))
      fun _ => ih

theorem putsWithin_createReplicas (podKeys : ∀ key value, hasPrefix key podPrefix = true → allowed key value)
    (rs : ReplicaSet) (missing : Nat) : (rsc.createReplicas rs missing).PutsWithin allowed := by
  induction missing with
  | zero => trivial
  | succ missing ih => exact Go.within_bind (rsc.putsWithin_createContainers podKeys _ _) fun _ => ih

/-- What `Reconcile` may put once its `Get` read `rs`: pods, and `rs` under its
own key with its status count set to its desired count. -/
def WritesAfterGet (rs : ReplicaSet) (key : Bytes) (value : Object) : Prop :=
  hasPrefix key podPrefix = true ∨
    (key = rsc.replicaSetRegistry.generateKey rs.objectMeta.name ∧
      value = .replicaSet {rs with status := {rs.status with replicas := rs.spec.replicas}})

theorem reconcile_puts_read (r : ReplicaSet) {evs : List Event} {q : Thread}
    (path : Prog.Path (rsc.reconcile r).run evs q) {ev : Event} (mem : ev ∈ evs) {key : Bytes} {value : Object}
    (puts : ev.effect = .etcd (.put key value)) :
    hasPrefix key podPrefix = true ∨
      ∃ read rs evs', evs = [⟨.rLock rsc.replicaSetRegistry.mutex,()⟩,
          ⟨.etcd (.get (rsc.replicaSetRegistry.generateKey r.objectMeta.name)),Except.ok (some read)⟩,
          ⟨.rUnlock rsc.replicaSetRegistry.mutex,()⟩] ++ evs' ∧ ev ∈ evs' ∧
        decodeReplicaSet read = .ok rs ∧ key = rsc.replicaSetRegistry.generateKey rs.objectMeta.name ∧
        value = .replicaSet {rs with status := {rs.status with replicas := rs.spec.replicas}} := by
  obtain ⟨rs,evs₁,evs',rfl,inner,after,later⟩ :=
    Go.PutsWithin.put_in_continuation (rsc.replicaSetRegistry.putsWithin_get _) path mem puts
  obtain ⟨read,rfl,decoded⟩ := rsc.replicaSetRegistry.path_get_ok inner
  have written : rsc.WritesAfterGet rs key value := by
    refine Go.PutsWithin.put_allowed ?_ after later puts
    refine Go.within_bind (rsc.podRegistry.putsWithin_listPods) fun allPods => ?_
    dsimp only
    split
    · exact Go.within_bind (rsc.putsWithin_createReplicas (fun _ _ => .inl) _ _) fun _ =>
        rsc.replicaSetRegistry.putsWithin_update (.inr ⟨rfl,rfl⟩)
    · split
      · exact rsc.replicaSetRegistry.putsWithin_update (.inr ⟨rfl,rfl⟩)
      · trivial
  rcases written with pod | ⟨rfl,rfl⟩
  · exact .inl pod
  · exact .inr ⟨read,rs,evs',rfl,later,decoded,rfl,rfl⟩

end ReplicaSetController

/-- In every run of the cluster, a put that a goroutine started as
`Reconcile(r)` makes outside the pod keyspace writes the ReplicaSet that was
stored under `r`'s key when that goroutine made its `Get`, earlier in the run:
under that ReplicaSet's own key, with its status count set to its desired
count. -/
theorem reconcile_writes_replicaSet_read_at_get {runner : Nat → Pod → Go Unit} {c c' : Cluster}
    {log : List (Nat × Event)} {i : Nat} (rsc : ReplicaSetController) (r : ReplicaSet)
    (run : Cluster.Run runner c log c') (started : c.threads[i]? = some (rsc.reconcile r).run) {ev : Event}
    (wrote : (i,ev) ∈ log) {key : Bytes} {value : Object} (puts : ev.effect = .etcd (.put key value))
    (outside : hasPrefix key podPrefix = false) :
    ∃ log₁ log₂ mid read rs,
      log = log₁ ++ (i,⟨.etcd (.get (rsc.replicaSetRegistry.generateKey r.objectMeta.name)),Except.ok (some read)⟩) ::
        log₂ ∧ (i,ev) ∈ log₂ ∧ Cluster.Run runner c log₁ mid ∧
      mid.world.store.get (rsc.replicaSetRegistry.generateKey r.objectMeta.name) = some read ∧
      decodeReplicaSet read = .ok rs ∧ key = rsc.replicaSetRegistry.generateKey rs.objectMeta.name ∧
      value = .replicaSet {rs with status := {rs.status with replicas := rs.spec.replicas}} := by
  obtain ⟨q,-,path⟩ := run.path started
  rcases rsc.reconcile_puts_read r path (Cluster.mem_own.mpr wrote) puts with pod | ⟨read,rs,evs',cut,later,decoded,rfl,rfl⟩
  · rw [pod] at outside; cases outside
  · obtain ⟨log₁,log₂,mid,rfl,written,before,stored⟩ := run.read_before cut later
    exact ⟨log₁,log₂,mid,read,rs,rfl,written,before,stored,decoded,rfl,rfl⟩

/-! ### A `PUT` that `Reconcile` reverts -/

def webKey : Bytes := sampleController.replicaSetRegistry.generateKey (lit "web")

def lostUpdateStart : Cluster :=
  ⟨World.start (Store.empty.put webKey (.replicaSet (webReplicaSet 1 [nginx]))) [0] [],
    [(sampleController.reconcile (webReplicaSet 1 [nginx])).run,
      (expectStatus statusOK (sampleServer.replicasetHandler.putReplicasetRoute (lit "web") (webReplicaSet 3 [nginx]))).run],
    0⟩

def lostUpdateMid : Cluster := (lostUpdateStart.scheduled ([0,0,0] ++ List.replicate 7 1)).2

def lostUpdateEnd : Cluster := (lostUpdateMid.scheduled (List.replicate 12 0)).2

def lostUpdateLog : List (Nat × Event) :=
  (lostUpdateStart.scheduled ([0,0,0] ++ List.replicate 7 1 ++ List.replicate 12 0)).1

theorem reconcile_writes_web_read_at_get :
    ∃ log₁ log₂ mid read rs,
      lostUpdateLog = log₁ ++ (0,⟨.etcd (.get webKey),Except.ok (some read)⟩) :: log₂ ∧
        (0,(lostUpdateLog.get ⟨20,by decide⟩).2) ∈ log₂ ∧
        Cluster.Run (fun _ _ => pure ()) lostUpdateStart log₁ mid ∧ mid.world.store.get webKey = some read ∧
        decodeReplicaSet read = .ok rs ∧ webKey = sampleController.replicaSetRegistry.generateKey rs.objectMeta.name ∧
        Object.replicaSet {webReplicaSet 1 [nginx] with status := ⟨1⟩} =
          .replicaSet {rs with status := {rs.status with replicas := rs.spec.replicas}} :=
  reconcile_writes_replicaSet_read_at_get sampleController (webReplicaSet 1 [nginx])
    (Cluster.run_scheduled _ _ (by decide)) rfl
    (Cluster.mem_of_get _ (by decide))
    (by decide : (lostUpdateLog.get ⟨20,_⟩).2.effect =
      .etcd (.put webKey (.replicaSet {webReplicaSet 1 [nginx] with status := ⟨1⟩})))
    (by decide)

/-- `Reconcile` reads `web` with one replica; the client's `PUT` then stores it
with three, and is answered `200 OK`; `Reconcile` goes on, creates one pod, and
writes `web` back with one replica. -/
theorem reconcile_reverts_concurrent_put :
    Cluster.Reaches (fun _ _ => pure ()) lostUpdateStart lostUpdateMid ∧ lostUpdateMid.returned 1 = true ∧
      lostUpdateMid.world.store.get webKey = some (.replicaSet (webReplicaSet 3 [nginx])) ∧
      Cluster.Reaches (fun _ _ => pure ()) lostUpdateMid lostUpdateEnd ∧ lostUpdateEnd.returned 0 = true ∧
      lostUpdateEnd.world.store.get webKey = some (.replicaSet {webReplicaSet 1 [nginx] with status := ⟨1⟩}) :=
  ⟨(Cluster.run_scheduled _ _ (by decide)).reaches,by decide,by decide,(Cluster.run_scheduled _ _ (by decide)).reaches,
    by decide,by decide⟩

end Gokube
