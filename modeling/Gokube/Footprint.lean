import Gokube.Trace
import Gokube.Registry

/-! What each storage and registry operation can put into etcd, whatever the
replies of its calls, and what an operation that returned a value read on its
way. -/

namespace Gokube

/-- An effect that is no etcd put, or a put that `allowed` allows. -/
def PutAllowed (allowed : Bytes → Object → Prop) : Effect → Prop
  | .etcd (.put key value) => allowed key value
  | _ => True

/-- `x` puts only what `allowed` allows, whatever replies its calls get. -/
abbrev Go.PutsWithin {α : Type} (allowed : Bytes → Object → Prop) (x : Go α) : Prop :=
  x.run.Within (PutAllowed allowed)

section Footprint
variable {α : Type} {allowed : Bytes → Object → Prop}

theorem Go.PutsWithin.put_allowed {x : Go α} {evs : List Event} {q : Prog (Except GoError α)}
    (inside : x.PutsWithin allowed) (path : Prog.Path x.run evs q) {ev : Event} (mem : ev ∈ evs) {key : Bytes}
    {value : Object} (puts : ev.effect = .etcd (.put key value)) : allowed key value := by
  have found := Prog.Within.path inside path ev mem
  rwa [puts] at found

theorem Go.PutsWithin.put_in_continuation {β : Type} {x : Go α} {k : α → Go β} (quiet : x.PutsWithin fun _ _ => False)
    {evs : List Event} {q : Prog (Except GoError β)} (path : Prog.Path (x >>= k).run evs q) {ev : Event} (mem : ev ∈ evs)
    {key : Bytes} {value : Object} (puts : ev.effect = .etcd (.put key value)) :
    ∃ a evs₁ evs₂, evs = evs₁ ++ evs₂ ∧ Prog.Path x.run evs₁ (.done (.ok a)) ∧ Prog.Path (k a).run evs₂ q ∧ ev ∈ evs₂ := by
  rcases Go.path_of_bind path with ⟨_,inner,-⟩ | ⟨a,evs₁,evs₂,rfl,inner,after⟩ | ⟨_,inner,-⟩
  · exact (quiet.put_allowed inner mem puts).elim
  · rcases List.mem_append.mp mem with early | later
    · exact (quiet.put_allowed inner early puts).elim
    · exact ⟨a,evs₁,evs₂,rfl,inner,after,later⟩
  · exact (quiet.put_allowed inner mem puts).elim

theorem Go.putsWithin_lift {p : Prog α} (inside : p.Within (PutAllowed allowed)) :
    Go.PutsWithin allowed (ExceptT.lift p : Go α) :=
  show (p >>= fun a => Prog.done (Except.ok a : Except GoError α)).Within _ from
    Prog.Within.bind inside fun _ => trivial

namespace EtcdStorage

theorem putsWithin_get (key : Bytes) (decode : Object → Except Bytes α) : (get key decode).PutsWithin allowed := by
  refine Go.within_bind (Go.within_call trivial) fun reply => ?_
  rcases reply with _ | _ | value
  · trivial
  · trivial
  · show (match decode value with
      | .error e => throw (wrap .decoding e)
      | .ok obj => pure obj : Go α).PutsWithin allowed
    cases decode value <;> trivial

theorem returns_get {allowed : Effect → Prop} {key : Bytes} (gets : allowed (.etcd (.get key)))
    (decode : Object → Except Bytes α) : (get key decode).run.Returns allowed := by
  refine Go.returns_bind (Go.returns_call gets) fun reply => ?_
  rcases reply with _ | _ | value
  · trivial
  · trivial
  · show (match decode value with
      | .error e => throw (wrap .decoding e)
      | .ok obj => pure obj : Go α).run.Returns allowed
    cases decode value <;> trivial

theorem within_get {allowed : Effect → Prop} {key : Bytes} (gets : allowed (.etcd (.get key)))
    (decode : Object → Except Bytes α) : (get key decode).run.Within allowed :=
  (returns_get gets decode).within

theorem returns_create {allowed : Effect → Prop} {key : Bytes} {obj : Object} (puts : allowed (.etcd (.put key obj))) :
    (create key obj).run.Returns allowed :=
  Go.returns_bind (Go.returns_call puts) fun reply => by cases reply <;> trivial

theorem within_create {allowed : Effect → Prop} {key : Bytes} {obj : Object} (puts : allowed (.etcd (.put key obj))) :
    (create key obj).run.Within allowed :=
  (returns_create puts).within

theorem returns_delete {allowed : Effect → Prop} {key : Bytes} (deletes : allowed (.etcd (.delete key))) :
    (delete key).run.Returns allowed :=
  Go.returns_bind (Go.returns_call deletes) fun reply => by cases reply <;> trivial

theorem within_delete {allowed : Effect → Prop} {key : Bytes} (deletes : allowed (.etcd (.delete key))) :
    (delete key).run.Within allowed :=
  (returns_delete deletes).within

theorem putsWithin_create {key : Bytes} {obj : Object} (allows : allowed key obj) :
    (create key obj).PutsWithin allowed :=
  Go.within_bind (Go.within_call allows) fun reply => by cases reply <;> trivial

theorem returns_list {allowed : Effect → Prop} {pre : Bytes} (ranges : allowed (.etcd (.range pre)))
    (decode : Object → Except Bytes α) : (list pre decode).run.Returns allowed := by
  refine Go.returns_bind (Go.returns_call ranges) fun reply => ?_
  rcases reply with _ | entries
  · trivial
  · show (match decodeAll decode entries with
      | .error e => throw (wrap .decoding e)
      | .ok objs => pure objs : Go (List α)).run.Returns allowed
    cases decodeAll decode entries <;> trivial

theorem within_list {allowed : Effect → Prop} {pre : Bytes} (ranges : allowed (.etcd (.range pre)))
    (decode : Object → Except Bytes α) : (list pre decode).run.Within allowed :=
  (returns_list ranges decode).within

theorem putsWithin_list (pre : Bytes) (decode : Object → Except Bytes α) : (list pre decode).PutsWithin allowed := by
  refine Go.within_bind (Go.within_call trivial) fun reply => ?_
  rcases reply with _ | entries
  · trivial
  · show (match decodeAll decode entries with
      | .error e => throw (wrap .decoding e)
      | .ok objs => pure objs : Go (List α)).PutsWithin allowed
    cases decodeAll decode entries <;> trivial

theorem putsWithin_delete (key : Bytes) : (delete key).PutsWithin allowed :=
  Go.within_bind (Go.within_call trivial) fun reply => by cases reply <;> trivial

theorem path_get_ok {key : Bytes} {decode : Object → Except Bytes α} {evs : List Event} {obj : α}
    (path : Prog.Path (get key decode).run evs (.done (.ok obj))) :
    ∃ value, evs = [⟨.etcd (.get key),Except.ok (some value)⟩] ∧ decode value = .ok obj := by
  obtain ⟨reply,evs',rfl,rest⟩ := Prog.Path.of_step_done path
  rcases reply with _ | _ | value
  · cases (Prog.Path.of_done rest).2
  · cases (Prog.Path.of_done rest).2
  · have rest : Prog.Path (match decode value with
        | .error e => throw (wrap .decoding e)
        | .ok obj => pure obj : Go α).run evs' (.done (.ok obj)) := rest
    cases decoded : decode value <;> rw [decoded] at rest <;> obtain ⟨rfl,same⟩ := Prog.Path.of_done rest <;>
      cases same
    exact ⟨value,rfl,decoded⟩

end EtcdStorage

theorem returns_createChecked {allowed : Effect → Prop} {key : Bytes} {decode : Object → Except Bytes α}
    {present : GoError} {prepare : Except GoError α} {encode : α → Object} (gets : allowed (.etcd (.get key)))
    (puts : ∀ obj, prepare = .ok obj → allowed (.etcd (.put key (encode obj)))) :
    (createChecked key decode present prepare encode).run.Returns allowed := by
  refine Go.returns_bind (Go.returns_attempt (EtcdStorage.returns_get gets decode)) fun found => ?_
  cases found with
  | ok _ => trivial
  | error _ =>
    cases prepared : prepare with
    | error _ => trivial
    | ok obj =>
      show (EtcdStorage.create key (encode obj) >>= fun _ => pure obj : Go α).run.Returns allowed
      exact Go.returns_bind (EtcdStorage.returns_create (puts obj prepared)) fun _ => trivial

theorem within_createChecked {allowed : Effect → Prop} {key : Bytes} {decode : Object → Except Bytes α}
    {present : GoError} {prepare : Except GoError α} {encode : α → Object} (gets : allowed (.etcd (.get key)))
    (puts : ∀ obj, prepare = .ok obj → allowed (.etcd (.put key (encode obj)))) :
    (createChecked key decode present prepare encode).run.Within allowed :=
  (returns_createChecked gets puts).within

theorem putsWithin_createChecked {key : Bytes} {decode : Object → Except Bytes α} {present : GoError}
    {prepare : Except GoError α} {encode : α → Object} (allows : ∀ obj, prepare = .ok obj → allowed key (encode obj)) :
    (createChecked key decode present prepare encode).PutsWithin allowed := by
  refine Go.within_bind (Go.within_attempt (EtcdStorage.putsWithin_get key decode)) fun found => ?_
  cases found with
  | ok _ => trivial
  | error _ =>
    cases prepared : prepare with
    | error _ => trivial
    | ok obj =>
      show Go.PutsWithin allowed (EtcdStorage.create key (encode obj) >>= fun _ => pure obj)
      exact Go.within_bind (EtcdStorage.putsWithin_create (allows obj prepared)) fun _ => trivial

namespace PodRegistry
variable (r : PodRegistry)

theorem putsWithin_createPod {pod : Pod}
    (allows : ∀ stored, prepare pod = .ok stored → allowed (r.generateKey pod.objectMeta.name) (.pod stored)) :
    (r.createPod pod).PutsWithin allowed :=
  Go.within_withLock trivial trivial (putsWithin_createChecked allows)

theorem putsWithin_updatePod_of_valid {pod : Pod}
    (allows : pod.validate = .ok () → allowed (r.generateKey pod.objectMeta.name) (.pod pod)) :
    (r.updatePod pod).PutsWithin allowed := by
  refine Go.within_withLock trivial trivial ?_
  show (match pod.validate with
    | .error e => throw (wrap .podInvalid e.text)
    | .ok () => EtcdStorage.update (r.generateKey pod.objectMeta.name) (.pod pod) : Go Unit).PutsWithin allowed
  cases valid : pod.validate with
  | error _ => trivial
  | ok _ => exact EtcdStorage.putsWithin_create (allows valid)

theorem putsWithin_deletePod (name : Bytes) : (r.deletePod name).PutsWithin allowed :=
  Go.within_withLock trivial trivial (EtcdStorage.putsWithin_delete _)

theorem putsWithin_getPod (name : Bytes) : (r.getPod name).PutsWithin allowed := by
  refine Go.within_withRLock trivial trivial (Go.within_bind (Go.within_attempt (EtcdStorage.putsWithin_get _ _))
    fun result => ?_)
  cases result with
  | ok _ => trivial
  | error err => show (if err.is .notFound then _ else _ : Go Pod).PutsWithin allowed; split <;> trivial

theorem putsWithin_listPods : r.listPods.PutsWithin allowed :=
  Go.within_withRLock trivial trivial (Go.within_bind (Go.within_attempt (EtcdStorage.putsWithin_list _ _))
    fun result => by cases result <;> trivial)

theorem within_listPods {allowed : Effect → Prop} (locks : allowed (.rLock r.mutex))
    (unlocks : allowed (.rUnlock r.mutex)) (ranges : allowed (.etcd (.range podPrefix))) :
    r.listPods.run.Within allowed :=
  Go.within_withRLock locks unlocks (Go.within_bind (Go.within_attempt (EtcdStorage.within_list ranges _))
    fun result => by cases result <;> trivial)

theorem putsWithin_listPodsByStatus (status : Bytes) : (r.listPodsByStatus status).PutsWithin allowed :=
  Go.within_bind (Go.within_attempt r.putsWithin_listPods) fun result => by cases result <;> trivial

end PodRegistry

namespace NodeRegistry
variable (r : NodeRegistry)

theorem putsWithin_listNodes : r.listNodes.PutsWithin allowed :=
  Go.within_bind (Go.within_attempt (EtcdStorage.putsWithin_list _ _)) fun result => by cases result <;> trivial

theorem putsWithin_createNode {node : Node}
    (allows : ∀ stored, prepare node = .ok stored → allowed (generateKey nodePrefix node.objectMeta.name) (.node stored)) :
    (r.createNode node).PutsWithin allowed :=
  putsWithin_createChecked allows

theorem putsWithin_getNode (name : Bytes) : (r.getNode name).PutsWithin allowed := by
  refine Go.within_bind (Go.within_attempt (EtcdStorage.putsWithin_get _ _)) fun result => ?_
  cases result with
  | ok _ => trivial
  | error err => show (if err.is .notFound then _ else _ : Go Node).PutsWithin allowed; split <;> trivial

theorem putsWithin_updateNode {node : Node}
    (allows : node.validate = .ok () → allowed (generateKey nodePrefix node.objectMeta.name) (.node node)) :
    (r.updateNode node).PutsWithin allowed := by
  unfold updateNode
  cases valid : node.validate with
  | error _ => trivial
  | ok _ => exact EtcdStorage.putsWithin_create (allows valid)

theorem putsWithin_deleteNode (name : Bytes) : (r.deleteNode name).PutsWithin allowed :=
  EtcdStorage.putsWithin_delete _

end NodeRegistry

namespace ReplicaSetRegistry
variable (r : ReplicaSetRegistry)

theorem putsWithin_get (name : Bytes) : (r.get name).PutsWithin allowed :=
  Go.within_withRLock trivial trivial (Go.within_bind (Go.within_attempt (EtcdStorage.putsWithin_get _ _))
    fun result => by cases result <;> trivial)

theorem putsWithin_update {rs : ReplicaSet} (allows : allowed (r.generateKey rs.objectMeta.name) (.replicaSet rs)) :
    (r.update rs).PutsWithin allowed :=
  Go.within_withLock trivial trivial (Go.within_bind (Go.within_attempt (EtcdStorage.putsWithin_get _ _))
    fun result => by
      cases result with
      | error _ => trivial
      | ok _ => exact EtcdStorage.putsWithin_create allows)

theorem putsWithin_create {rs : ReplicaSet} (allows : allowed (r.generateKey rs.objectMeta.name) (.replicaSet rs)) :
    (r.create rs).PutsWithin allowed :=
  Go.within_withLock trivial trivial (putsWithin_createChecked fun _ prepared => by cases prepared; exact allows)

theorem putsWithin_delete (name : Bytes) : (r.delete name).PutsWithin allowed :=
  Go.within_withLock trivial trivial (EtcdStorage.putsWithin_delete _)

theorem putsWithin_list : r.list.PutsWithin allowed :=
  Go.within_withRLock trivial trivial (Go.within_bind (Go.within_attempt (EtcdStorage.putsWithin_list _ _))
    fun result => by cases result <;> trivial)

theorem path_get_ok {name : Bytes} {evs : List Event} {rs : ReplicaSet}
    (path : Prog.Path (r.get name).run evs (.done (.ok rs))) :
    ∃ value, evs = [⟨.rLock r.mutex,()⟩,⟨.etcd (.get (r.generateKey name)),Except.ok (some value)⟩,
      ⟨.rUnlock r.mutex,()⟩] ∧ decodeReplicaSet value = .ok rs := by
  obtain ⟨evs',rfl,body⟩ := Go.path_withRLock_done path
  rcases Go.path_bind_done body with ⟨result,evs₁,evs₂,rfl,inner,after⟩ | ⟨_,_,stuck⟩
  · rcases result with _ | found
    · cases (Prog.Path.of_done after).2
    · obtain ⟨value,rfl,decoded⟩ := EtcdStorage.path_get_ok (Go.path_attempt_done inner)
      obtain ⟨rfl,same⟩ := Prog.Path.of_done after
      cases same
      exact ⟨value,rfl,decoded⟩
  · cases stuck

end ReplicaSetRegistry

end Footprint

/-! ### Store properties along runs -/

section Runs
variable {runner : Nat → Pod → Go Unit} {allowed : Bytes → Object → Prop} {P : Store → Prop}

/-- Goroutines and pod runners that put only what `allowed` allows keep, in
every interleaving, each store property that every etcd call they may make
keeps. -/
theorem Cluster.Reaches.keeps_store (kept : ∀ s call, PutAllowed allowed (.etcd call) → P s → P (call.apply s).2)
    (runners : ∀ agent pod, (runner agent pod).PutsWithin allowed) {c c' : Cluster} (reaches : Cluster.Reaches runner c c')
    (threads : ∀ t ∈ c.threads, t.Within (PutAllowed allowed)) (holds : P c.world.store) :
    P c'.world.store ∧ ∀ t ∈ c'.threads, t.Within (PutAllowed allowed) := by
  induction reaches with
  | refl => exact ⟨holds,threads⟩
  | tail _ step ih =>
    obtain ⟨holds,threads⟩ := ih
    cases step with
    | perform waiting performed =>
      have inside := threads _ (List.getElem?_mem waiting)
      refine ⟨?_,fun t mem => ?_⟩
      · rcases perform_store performed with same | ⟨call,rfl,changed⟩
        · rwa [same]
        · rw [changed]; exact kept _ _ inside.1 holds
      · rcases List.mem_or_eq_of_mem_set mem with old | rfl
        · exact threads t old
        · exact inside.2 _
    | launch spawned =>
      refine ⟨holds,fun t mem => ?_⟩
      rcases List.mem_append.mp mem with old | new
      · exact threads t old
      · rw [List.mem_singleton.mp new]; exact runners _ _

end Runs

end Gokube
