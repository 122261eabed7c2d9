import Gokube.Controller
import Gokube.Scheduler

/-! One scheduler tick, run alone. It binds every pod it lists as pending and
writes it back under the key of the name it read. Where each pod is stored
under that name, the tick binds every pending pod to a listed node and changes
nothing else; with no node it writes nothing. -/

namespace Gokube

@[simp] theorem Pod.validate_bind (pod : Pod) (nodeName status : Bytes) :
    ({pod with nodeName := nodeName,status := status} : Pod).validate = pod.validate := rfl

/-- Whether the pod keyspace is as the pod registry writes it: each entry
under the pod prefix is the document of a pod that passes `Validate`, under
the name it was encoded with. -/
def Store.podsByRegistry (st : Store) : Bool :=
  (st.range podPrefix).all fun entry =>
    match entry.2 with
    | .pod pod => entry.1 == podPrefix ++ pod.objectMeta.name && decide (pod.validate = .ok ())
    | _ => false

/-- Whether each entry under the pod prefix reads as a pod that passes
`Validate`, under the name it reads with. -/
def Store.podsByName (st : Store) : Bool :=
  (st.range podPrefix).all fun entry =>
    match decodePod entry.2 with
    | .ok pod => entry.1 == podPrefix ++ pod.objectMeta.name && decide (pod.validate = .ok ())
    | .error _ => false

section Keyspace
variable {st : Store}

theorem Store.podsByRegistry_entry (registry : st.podsByRegistry = true) {entry : Bytes × Object}
    (inside : entry ∈ st.range podPrefix) :
    ∃ pod, entry.2 = .pod pod ∧ entry.1 = podPrefix ++ pod.objectMeta.name ∧ pod.validate = .ok () := by
  have each := List.all_eq_true.mp registry entry inside
  obtain ⟨key,value⟩ := entry
  cases value with
  | pod pod => simpa using each
  | node _ => cases each
  | replicaSet _ => cases each

theorem Store.podsByName_entry (named : st.podsByName = true) {entry : Bytes × Object}
    (inside : entry ∈ st.range podPrefix) :
    ∃ pod, decodePod entry.2 = .ok pod ∧ entry.1 = podPrefix ++ pod.objectMeta.name ∧ pod.validate = .ok () := by
  have each := List.all_eq_true.mp named entry inside
  revert each
  cases decodePod entry.2 <;> simp

theorem Store.podsByName_of_registry (registry : st.podsByRegistry = true)
    (utf8 : ∀ entry ∈ st.range podPrefix, ∀ pod, entry.2 = .pod pod → Utf8.valid pod.objectMeta.name = true) :
    st.podsByName = true :=
  List.all_eq_true.mpr fun entry inside => by
    obtain ⟨pod,same,key,valid⟩ := Store.podsByRegistry_entry registry inside
    simp [same,key,valid,Utf8.coerce_of_valid (utf8 entry inside pod same)]

theorem Store.podsByName_read (named : st.podsByName = true) {key : Bytes} {pod : Pod}
    (read : EtcdStorage.read key decodePod st = .ok pod) (under : hasPrefix key podPrefix = true) :
    key = podPrefix ++ pod.objectMeta.name := by
  obtain ⟨value,found,decoded⟩ := EtcdStorage.read_ok.mp read
  obtain ⟨q,same,key,-⟩ := Store.podsByName_entry named (Store.mem_range.mpr ⟨Store.mem_of_get found,under⟩)
  rw [decoded] at same
  cases same
  exact key

end Keyspace

/-- What a tick leaves that bound each pending pod to one of `nodes`: the pod
as read, `Scheduled` on that node, under its key, and every other key as it was. -/
structure BoundPending (nodes : List Node) (st st' : Store) : Prop where
  bound : ∀ key pod, EtcdStorage.read key decodePod st = .ok pod → hasPrefix key podPrefix = true →
    pod.status = podPending →
    ∃ node ∈ nodes, st'.get key = some (.pod {pod with nodeName := node.objectMeta.name,status := podScheduled})
  kept : ∀ key, (∀ pod, EtcdStorage.read key decodePod st = .ok pod → hasPrefix key podPrefix = true →
    pod.status ≠ podPending) → st'.get key = st.get key

section Listed
variable {st : Store} {pods : List Pod} (ok : decodeAll decodePod (st.range podPrefix) = .ok pods)
include ok

theorem listed_pod_stored (named : st.podsByName = true) {pod : Pod} (mem : pod ∈ pods) :
    EtcdStorage.read (podPrefix ++ pod.objectMeta.name) decodePod st = .ok pod ∧ pod.validate = .ok () := by
  obtain ⟨⟨key,value⟩,inside,decoded⟩ := decodeAll_mem ok mem
  obtain ⟨q,same,rfl,valid⟩ := Store.podsByName_entry named inside
  rw [decoded] at same
  cases same
  exact ⟨EtcdStorage.read_ok.mpr ⟨_,Store.get_of_mem (Store.mem_range.mp inside).1,decoded⟩,valid⟩

theorem stored_pod_listed {key : Bytes} {pod : Pod} (read : EtcdStorage.read key decodePod st = .ok pod)
    (under : hasPrefix key podPrefix = true) : pod ∈ pods := by
  obtain ⟨value,found,decoded⟩ := EtcdStorage.read_ok.mp read
  obtain ⟨obj,mem,same⟩ := decodeAll_mem_of ok (Store.mem_range.mpr ⟨Store.mem_of_get found,under⟩)
  rw [decoded] at same
  cases same
  exact mem

theorem listed_names_nodup (named : st.podsByName = true) : (pods.map (·.objectMeta.name)).Nodup := by
  have keys : (st.range podPrefix).map Prod.fst = pods.map fun pod => podPrefix ++ pod.objectMeta.name := by
    have pairs := decodeAll_ok ok
    have each : ∀ entry ∈ st.range podPrefix,
        ∃ pod, decodePod entry.2 = .ok pod ∧ entry.1 = podPrefix ++ pod.objectMeta.name :=
      fun entry inside =>
        let ⟨pod,same,key,_⟩ := Store.podsByName_entry named inside
        ⟨pod,same,key⟩
    clear ok
    generalize st.range podPrefix = entries at pairs each ⊢
    induction pairs with
    | nil => rfl
    | @cons entry pod _ _ decoded _ ih =>
      obtain ⟨q,same,key⟩ := each entry (List.mem_cons_self _ _)
      rw [decoded] at same
      cases same
      simp only [List.map_cons,key,ih fun e mem => each e (List.mem_cons_of_mem _ mem)]
  have distinct := st.range_keys_nodup podPrefix
  rw [keys] at distinct
  exact List.Nodup.of_map (podPrefix ++ ·) (by simpa [List.map_map] using distinct)

end Listed

namespace Scheduler
variable (s : Scheduler)

/-- `st'` is `st` with each pod of `pods` bound to one of `nodes` as `Scheduled`
under its own key, and every other key as it was. -/
structure BindsAll (nodes : List Node) (pods : List Pod) (st st' : Store) : Prop where
  bound : ∀ pod ∈ pods, ∃ node ∈ nodes, st'.get (podPrefix ++ pod.objectMeta.name) =
    some (.pod {pod with nodeName := node.objectMeta.name,status := podScheduled})
  kept : ∀ key, (∀ pod ∈ pods, key ≠ podPrefix ++ pod.objectMeta.name) → st'.get key = st.get key

theorem BindsAll.nil (nodes : List Node) (st : Store) : BindsAll nodes [] st st :=
  ⟨fun _ absent => (nomatch absent),fun _ _ => rfl⟩

theorem BindsAll.cons {nodes : List Node} {pod : Pod} {pods : List Pod} {st st' : Store} {node : Node}
    (chosen : node ∈ nodes) (fresh : pod.objectMeta.name ∉ pods.map (·.objectMeta.name))
    (rest : BindsAll nodes pods (st.put (podPrefix ++ pod.objectMeta.name)
      (.pod {pod with nodeName := node.objectMeta.name,status := podScheduled})) st') :
    BindsAll nodes (pod :: pods) st st' := by
  have apart : ∀ other ∈ pods, podPrefix ++ pod.objectMeta.name ≠ podPrefix ++ other.objectMeta.name :=
    fun other mem same => fresh (List.mem_map.mpr ⟨other,mem,(List.append_cancel_left same).symm⟩)
  refine ⟨fun p mem => ?_,fun key others => ?_⟩
  · rcases List.mem_cons.mp mem with rfl | later
    · exact ⟨node,chosen,by rw [rest.kept _ apart,Store.get_put,if_pos rfl]⟩
    · exact rest.bound p later
  · rw [rest.kept key fun p mem => others p (List.mem_cons_of_mem _ mem),Store.get_put,
      if_neg (others pod (List.mem_cons_self _ _))]

theorem exec_bindPods_cons {nodes : List Node} {pod : Pod} {rest : List Pod} {w : World} {k : Nat}
    {ks : List Nat} (quiet : w.failures = []) (free : s.podRegistry.mutex ∉ w.writers ∧ s.podRegistry.mutex ∉ w.readers)
    (drawn : w.rand = k :: ks) (inside : k % nodes.length < nodes.length) (valid : pod.validate = .ok ()) :
    (s.bindPods nodes (pod :: rest)).exec w = (s.bindPods nodes rest).exec
      {w with
        rand := ks
        store := w.store.put (podPrefix ++ pod.objectMeta.name)
          (.pod {pod with nodeName := (nodes.get ⟨k % nodes.length,inside⟩).objectMeta.name,status := podScheduled})} := by
  rw [bindPods,Go.exec_bind,Go.exec_call]
  simp only [perform,drawn,Option.map_some',Option.some_bind]
  rw [List.get?_eq_get inside]
  dsimp only
  rw [Go.exec_bind,Go.exec_attempt,PodRegistry.exec_updatePod_quiet (show ({w with rand := ks} : World).failures = []
    from quiet) _ _ free,Pod.validate_bind,valid]
  rfl

theorem bindPods_binds {nodes : List Node} (nonempty : nodes ≠ []) (pods : List Pod) {w : World}
    (quiet : w.failures = []) (free : s.podRegistry.mutex ∉ w.writers ∧ s.podRegistry.mutex ∉ w.readers)
    (enough : pods.length ≤ w.rand.length) (valid : ∀ pod ∈ pods, pod.validate = .ok ())
    (distinct : (pods.map (·.objectMeta.name)).Nodup) :
    ∃ w', (s.bindPods nodes pods).exec w = some (.returned (.ok ()),w') ∧ BindsAll nodes pods w.store w'.store := by
  induction pods generalizing w with
  | nil => exact ⟨w,rfl,.nil nodes w.store⟩
  | cons pod rest ih =>
    obtain ⟨k,ks,drawn⟩ := List.exists_cons_of_length_pos (Nat.lt_of_lt_of_le (Nat.succ_pos _) enough)
    have inside : k % nodes.length < nodes.length := Nat.mod_lt _ (List.length_pos.mpr nonempty)
    obtain ⟨fresh,distinct⟩ := List.nodup_cons.mp distinct
    rw [s.exec_bindPods_cons quiet free drawn inside (valid pod (List.mem_cons_self _ _))]
    obtain ⟨w',ran,binds⟩ := @ih
      {w with
        rand := ks
        store := w.store.put (podPrefix ++ pod.objectMeta.name)
          (.pod {pod with nodeName := (nodes.get ⟨k % nodes.length,inside⟩).objectMeta.name,status := podScheduled})}
      quiet free (by simpa [drawn] using enough) (fun p mem => valid p (List.mem_cons_of_mem _ mem)) distinct
    exact ⟨w',ran,.cons (List.get_mem _ _ _) fresh binds⟩

theorem schedulePendingPods_binds_pending {w : World} {nodes : List Node} (quiet : w.failures = [])
    (free : s.podRegistry.mutex ∉ w.writers ∧ s.podRegistry.mutex ∉ w.readers)
    (named : w.store.podsByName = true) (enough : (w.store.range podPrefix).length ≤ w.rand.length)
    (listedNodes : EtcdStorage.listed nodePrefix decodeNode w.store = .ok nodes) :
    (nodes ≠ [] → ∃ w', s.schedulePendingPods.exec w = some (.returned (.ok ()),w') ∧
      BoundPending nodes w.store w'.store) ∧
    (nodes = [] → s.schedulePendingPods.exec w =
      some (.returned (.error (plain (lit "no nodes available for scheduling"))),w)) := by
  obtain ⟨pods,ok⟩ : ∃ pods, decodeAll decodePod (w.store.range podPrefix) = .ok pods :=
    decodeAll_of_decodes fun entry inside => by
      obtain ⟨pod,same,-,-⟩ := Store.podsByName_entry named inside
      rw [same]; rfl
  have listing : (Go.attempt s.podRegistry.listPendingPods).exec w =
      some (.returned (.ok (.ok (pods.filter (·.status = podPending)))),w) := by
    rw [Go.exec_attempt,PodRegistry.listPendingPods,PodRegistry.listPodsByStatus,Go.exec_bind,Go.exec_attempt,
      PodRegistry.exec_listPods_quiet quiet _ free.1,EtcdStorage.listed,ok]
    rfl
  have nodesListed : (Go.attempt s.nodeRegistry.listNodes).exec w = some (.returned (.ok (.ok nodes)),w) := by
    rw [Go.exec_attempt,NodeRegistry.exec_listNodes_quiet quiet,listedNodes]
    rfl
  have tick : s.schedulePendingPods.exec w =
      (if nodes = [] then throw (plain (lit "no nodes available for scheduling"))
        else s.bindPods nodes (pods.filter (·.status = podPending)) : Go Unit).exec w := by
    rw [schedulePendingPods,Go.exec_bind,listing,Option.some_bind]
    dsimp only
    rw [Go.exec_bind,nodesListed,Option.some_bind]
  refine ⟨fun nonempty => ?_,fun none => by rw [tick,if_pos none]; rfl⟩
  have counted : (pods.filter (·.status = podPending)).length ≤ w.rand.length :=
    calc (pods.filter (·.status = podPending)).length
      _ ≤ pods.length := List.length_filter_le _ _
      _ = (w.store.range podPrefix).length := (decodeAll_ok ok).length_eq.symm
      _ ≤ w.rand.length := enough
  obtain ⟨w',ran,binds⟩ := s.bindPods_binds nonempty (pods.filter (·.status = podPending)) quiet free counted
    (fun pod mem => (listed_pod_stored ok named (List.mem_filter.mp mem).1).2)
    ((listed_names_nodup ok named).sublist ((List.filter_sublist pods).map _))
  refine ⟨w',by rw [tick,if_neg nonempty,ran],⟨fun key pod read under pending => ?_,fun key others => ?_⟩⟩
  · rw [Store.podsByName_read named read under]
    exact binds.bound pod (List.mem_filter.mpr ⟨stored_pod_listed ok read under,by simpa using pending⟩)
  · refine binds.kept key fun pod mem same => ?_
    obtain ⟨listed,pending⟩ := List.mem_filter.mp mem
    subst same
    exact others pod (listed_pod_stored ok named listed).1 (hasPrefix_append _ _) (by simpa using pending)

end Scheduler

def schedulingStart : World :=
  World.start (((Store.empty.put (generateKey nodePrefix (lit "self")) (.node (readyNode (lit "self")))).put
    (podPrefix ++ lit "web") (.pod (podNamed (lit "web") nginx))).put (podPrefix ++ lit "api")
    (.pod {podNamed (lit "api") nginx with nodeName := lit "self",status := podScheduled})) [] [0,0]

theorem scheduler_binds_pending_web :
    schedulingStart.failures = [] ∧
      (sampleScheduler.podRegistry.mutex ∉ schedulingStart.writers ∧
        sampleScheduler.podRegistry.mutex ∉ schedulingStart.readers) ∧
      schedulingStart.store.podsByName = true ∧
      (schedulingStart.store.range podPrefix).length ≤ schedulingStart.rand.length ∧
      EtcdStorage.listed nodePrefix decodeNode schedulingStart.store = .ok [readyNode (lit "self")] ∧
      ([readyNode (lit "self")] ≠ [] → ∃ w', sampleScheduler.schedulePendingPods.exec schedulingStart =
          some (.returned (.ok ()),w') ∧ BoundPending [readyNode (lit "self")] schedulingStart.store w'.store) ∧
      ([readyNode (lit "self")] = [] → sampleScheduler.schedulePendingPods.exec schedulingStart =
        some (.returned (.error (plain (lit "no nodes available for scheduling"))),schedulingStart)) :=
  have free : sampleScheduler.podRegistry.mutex ∉ schedulingStart.writers ∧
      sampleScheduler.podRegistry.mutex ∉ schedulingStart.readers := by decide
  have named : schedulingStart.store.podsByName = true := by decide
  have enough : (schedulingStart.store.range podPrefix).length ≤ schedulingStart.rand.length := by decide
  have listed : EtcdStorage.listed nodePrefix decodeNode schedulingStart.store = .ok [readyNode (lit "self")] := by
    decide
  ⟨rfl,free,named,enough,listed,
    Scheduler.schedulePendingPods_binds_pending sampleScheduler rfl free named enough listed⟩

/-! ### A name `GenerateName` cut inside a character -/

/-- `a` and 29 two-byte `é`: 59 bytes, one more than `GenerateName` keeps. -/
def cutName : Bytes := lit ("a" ++ String.mk (List.replicate 29 'é'))

def cutReplicaSet : ReplicaSet := ⟨⟨cutName,[]⟩,⟨1,⟨⟨[],[]⟩,⟨some [nginx],0⟩⟩⟩,⟨0⟩⟩

/-- The pod `Reconcile` creates for `cutReplicaSet`: its name ends in the
first byte of an `é` and the suffix. -/
def cutPod : Pod := ⟨⟨cutName.take Names.maxGeneratedNameLength ++ lit "bbbbb",[]⟩,⟨some [nginx],0⟩,[],podPending⟩

def cutStart : World :=
  World.start ((Store.empty.put (sampleController.replicaSetRegistry.generateKey cutName) (.replicaSet cutReplicaSet)).put
    (generateKey nodePrefix (lit "self")) (.node (readyNode (lit "self")))) [0] [0]

def cutCreated : World := (sampleController.reconcile cutReplicaSet).after cutStart

def cutScheduled : World := sampleScheduler.schedulePendingPods.after cutCreated

/-- `Reconcile` stores `cutPod` through the pod registry under its name. The
tick lists it Pending with the cut byte read as U+FFFD, and writes it bound
under that other name: the pod under its own key stays Pending. -/
theorem schedulePendingPods_strands_cut_name :
    (sampleController.reconcile cutReplicaSet).exec cutStart = some (.returned (.ok ()),cutCreated) ∧
      cutCreated.failures = [] ∧ cutCreated.store.podsByRegistry = true ∧ cutCreated.store.podsByName = false ∧
      EtcdStorage.listed nodePrefix decodeNode cutCreated.store = .ok [readyNode (lit "self")] ∧
      EtcdStorage.read (podPrefix ++ cutPod.objectMeta.name) decodePod cutCreated.store = .ok cutPod.json ∧
      cutPod.json.status = podPending ∧
      sampleScheduler.schedulePendingPods.exec cutCreated = some (.returned (.ok ()),cutScheduled) ∧
      cutScheduled.store.get (podPrefix ++ cutPod.objectMeta.name) =
        cutCreated.store.get (podPrefix ++ cutPod.objectMeta.name) ∧
      cutScheduled.store.get (podPrefix ++ cutPod.json.objectMeta.name) =
        some (.pod {cutPod.json with nodeName := lit "self",status := podScheduled}) ∧
      cutPod.json.objectMeta.name ≠ cutPod.objectMeta.name := by
  decide

end Gokube
