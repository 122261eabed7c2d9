import Gokube.Controller

/-! Convergence of `Reconcile`. The count it compares with the desired
replicas is the number of pods in the store that are active and owned by the
ReplicaSet. Each pod the loop creates lands under a fresh key and adds one to
that count, so a run adds `k` for each missing replica when the template has
`k` containers: the count reaches the desired replicas exactly when `k = 1`. -/

namespace Gokube

/-- An entry under the pod prefix that reads as a pod active and owned by `meta`. -/
def activeOwned (meta : ObjectMeta) (entry : Bytes × Object) : Bool :=
  match decodePod entry.2 with
  | .ok pod => isPodActiveAndOwnedBy pod meta
  | .error _ => false

def Store.activeOwnedCount (s : Store) (meta : ObjectMeta) : Nat :=
  ((s.range podPrefix).filter (activeOwned meta)).length

/-- Every document under the pod prefix reads as a pod, so `ListPods` succeeds. -/
def Store.podsDecode (s : Store) : Prop :=
  ∀ entry ∈ s.range podPrefix, (decodePod entry.2).toBool = true

section Counting
variable {s : Store} {key : Bytes} {meta : ObjectMeta}

private theorem filter_activeOwned_length {entries : List (Bytes × Object)} {pods : List Pod}
    (pairs : List.Forall₂ (fun entry pod => decodePod entry.2 = .ok pod) entries pods) :
    (pods.filter fun pod => isPodActiveAndOwnedBy pod meta).length = (entries.filter (activeOwned meta)).length := by
  induction pairs with
  | nil => rfl
  | @cons _ pod _ _ decoded _ ih =>
    by_cases owned : isPodActiveAndOwnedBy pod meta <;> simp [List.filter_cons,activeOwned,decoded,owned,ih]

theorem listed_activeOwned {pods : List Pod} (ok : EtcdStorage.listed podPrefix decodePod s = .ok pods) :
    (pods.filter fun pod => isPodActiveAndOwnedBy pod meta).length = s.activeOwnedCount meta :=
  filter_activeOwned_length (decodeAll_ok (EtcdStorage.listed_ok ok))

theorem podsDecode_of_listed {pods : List Pod} (ok : EtcdStorage.listed podPrefix decodePod s = .ok pods) :
    s.podsDecode :=
  decodeAll_ok_each (EtcdStorage.listed_ok ok)

theorem listed_of_podsDecode (decodes : s.podsDecode) : ∃ pods, EtcdStorage.listed podPrefix decodePod s = .ok pods := by
  obtain ⟨pods,ok⟩ := decodeAll_of_decodes decodes
  exact ⟨pods,by rw [EtcdStorage.listed,ok]⟩

theorem Store.get_eq_none_of_read (decodes : s.podsDecode) (inside : hasPrefix key podPrefix = true)
    (missing : (EtcdStorage.read key decodePod s).toBool = false) : s.get key = none := by
  cases found : s.get key with
  | none => rfl
  | some value =>
    have decoded := decodes _ (Store.mem_range.mpr ⟨Store.mem_of_get found,inside⟩)
    cases ok : decodePod value <;> simp_all [EtcdStorage.read,Except.toBool]

theorem Store.podsDecode_put_pod (decodes : s.podsDecode) (key : Bytes) (pod : Pod) :
    (s.put key (.pod pod)).podsDecode := by
  intro entry mem
  obtain ⟨mem,inside⟩ := Store.mem_range.mp mem
  rcases List.mem_cons.mp mem with rfl | kept
  · rfl
  · exact decodes entry (Store.mem_range.mpr ⟨(List.mem_filter.mp kept).1,inside⟩)

theorem Store.podsDecode_put_outside (decodes : s.podsDecode) (value : Object)
    (outside : hasPrefix key podPrefix = false) : (s.put key value).podsDecode := by
  unfold Store.podsDecode
  rwa [s.range_put_outside value outside]

theorem Store.activeOwnedCount_put_outside (value : Object) (outside : hasPrefix key podPrefix = false) :
    (s.put key value).activeOwnedCount meta = s.activeOwnedCount meta := by
  rw [Store.activeOwnedCount,s.range_put_outside value outside,Store.activeOwnedCount]

theorem Store.activeOwnedCount_put_fresh (absent : s.get key = none) (inside : hasPrefix key podPrefix = true)
    (pod : Pod) :
    (s.put key (.pod pod)).activeOwnedCount meta =
      s.activeOwnedCount meta + if isPodActiveAndOwnedBy pod.json meta then 1 else 0 := by
  rw [Store.activeOwnedCount,((s.range_put_fresh (.pod pod) absent inside).filter _).length_eq]
  by_cases owned : isPodActiveAndOwnedBy pod.json meta <;> simp [List.filter_cons,activeOwned,owned,Store.activeOwnedCount]

end Counting

/-- What creating `n` pods active and owned by `meta` under fresh keys leaves
behind: the pod documents still decode, the count grew by `n`, and nothing
outside the pod prefix changed. -/
structure Grown (meta : ObjectMeta) (n : Nat) (s s' : Store) : Prop where
  decodes : s'.podsDecode
  count : s'.activeOwnedCount meta = s.activeOwnedCount meta + n
  outside : ∀ key, hasPrefix key podPrefix = false → s'.get key = s.get key

namespace Grown
variable {meta : ObjectMeta} {s₁ s₂ s₃ : Store}

theorem refl (decodes : s₁.podsDecode) : Grown meta 0 s₁ s₁ := ⟨decodes,rfl,fun _ _ => rfl⟩

theorem trans {m n : Nat} (first : Grown meta m s₁ s₂) (second : Grown meta n s₂ s₃) : Grown meta (m + n) s₁ s₃ :=
  ⟨second.decodes,by rw [second.count,first.count,Nat.add_assoc],
    fun key outside => (second.outside key outside).trans (first.outside key outside)⟩

theorem put_pod {key : Bytes} {pod : Pod} (decodes : s₁.podsDecode) (absent : s₁.get key = none)
    (inside : hasPrefix key podPrefix = true) (owned : isPodActiveAndOwnedBy pod.json meta = true) :
    Grown meta 1 s₁ (s₁.put key (.pod pod)) :=
  ⟨s₁.podsDecode_put_pod decodes key pod,by rw [Store.activeOwnedCount_put_fresh absent inside,if_pos owned],
    fun probe outside => by
      rw [Store.get_put,if_neg]
      rintro rfl
      simp [inside] at outside⟩

end Grown

namespace ReplicaSetController
variable (rsc : ReplicaSetController) {meta : ObjectMeta} {w w' : World}

theorem createContainers_grows {cs : List Container}
    (ran : (rsc.createContainers meta.name cs).exec w = some (.returned (.ok ()),w')) (quiet : w.failures = [])
    (short : meta.name.length ≤ Names.maxGeneratedNameLength) (utf8 : Utf8.valid meta.name = true)
    (decodes : w.store.podsDecode) :
    ∃ s g, w' = {w with store := s,rng := g} ∧ Grown meta cs.length w.store s := by
  induction cs generalizing w with
  | nil =>
    cases ran
    exact ⟨_,_,rfl,.refl decodes⟩
  | cons container rest ih =>
    obtain ⟨name,w₁,named,ran⟩ := Go.exec_bind_ok_inv ran
    rw [exec_generatePodNameFromReplicaSet] at named
    obtain ⟨⟨suffix,g⟩,-,drawn⟩ := Option.map_eq_some'.mp named
    cases drawn
    obtain ⟨stored,w₂,created,ran⟩ := Go.exec_bind_ok_inv ran
    obtain ⟨missing,prepared,rfl⟩ := PodRegistry.createPod_ok_quiet created quiet
    have owned : isPodActiveAndOwnedBy stored.json meta = true := by
      rw [PodRegistry.prepare_ok prepared,if_pos rfl]
      simp only [isPodActiveAndOwnedBy,isOwnedBy,Pod.isActive,Pod.json_objectMeta,ObjectMeta.json_name,
        Pod.json_status,Names.truncateBase_of_le short,Utf8.coerce_append_of_valid utf8,hasPrefix_append,
        Bool.true_and]
      decide
    have inside : hasPrefix (podPrefix ++ (Names.truncateBase meta.name ++ suffix)) podPrefix = true :=
      hasPrefix_append _ _
    have step := Grown.put_pod decodes (Store.get_eq_none_of_read decodes inside missing) inside owned
    obtain ⟨s,g',rfl,grown⟩ := ih ran quiet step.decodes
    exact ⟨s,g',rfl,by simpa [Nat.add_comm] using step.trans grown⟩

theorem createReplicas_grows {rs : ReplicaSet} {missing : Nat}
    (ran : (rsc.createReplicas rs missing).exec w = some (.returned (.ok ()),w')) (quiet : w.failures = [])
    (short : rs.objectMeta.name.length ≤ Names.maxGeneratedNameLength) (utf8 : Utf8.valid rs.objectMeta.name = true)
    (decodes : w.store.podsDecode) :
    ∃ s g, w' = {w with store := s,rng := g} ∧
      Grown rs.objectMeta (missing * (items rs.spec.template.spec.containers).length) w.store s := by
  induction missing generalizing w with
  | zero =>
    cases ran
    exact ⟨_,_,rfl,by simpa using Grown.refl decodes⟩
  | succ missing ih =>
    obtain ⟨_,w₁,round,ran⟩ := Go.exec_bind_ok_inv ran
    obtain ⟨s₁,g₁,rfl,first⟩ := rsc.createContainers_grows round quiet short utf8 decodes
    obtain ⟨s,g,rfl,rest⟩ := ih ran quiet first.decodes
    exact ⟨s,g,rfl,by simpa [Nat.succ_mul,Nat.add_comm] using first.trans rest⟩

theorem read_replicaSet_json {key : Bytes} {s : Store} {r : ReplicaSet}
    (stored : EtcdStorage.read key decodeReplicaSet s = .ok r) : r.json = r :=
  let ⟨_,_,decoded⟩ := EtcdStorage.read_ok.mp stored
  decodeReplicaSet_json decoded

theorem reconcile_settled (r current : ReplicaSet) (quiet : w.failures = [])
    (free : rsc.replicaSetRegistry.mutex ∉ w.writers ∧ rsc.podRegistry.mutex ∉ w.writers)
    (stored : EtcdStorage.read (rsc.replicaSetRegistry.generateKey r.objectMeta.name) decodeReplicaSet w.store =
      .ok current)
    (decodes : w.store.podsDecode)
    (settled : (w.store.activeOwnedCount current.objectMeta : Int) = current.spec.replicas) :
    (rsc.reconcile r).exec w = some (.returned (.ok ()),w) := by
  obtain ⟨pods,listed⟩ := listed_of_podsDecode decodes
  have got : (rsc.replicaSetRegistry.get r.objectMeta.name).exec w = some (.returned (.ok current),w) := by
    rw [ReplicaSetRegistry.exec_get_quiet quiet _ _ free.1,stored]
  have all : rsc.podRegistry.listPods.exec w = some (.returned (.ok pods),w) := by
    rw [PodRegistry.exec_listPods_quiet quiet _ free.2,listed]
  rw [reconcile,Go.exec_bind_ok got,Go.exec_bind_ok all]
  simp [getPodsForReplicaSet,listed_activeOwned listed,settled]

theorem reconcile_converges_by_template (r : ReplicaSet) (quiet : w.failures = [])
    (stored : EtcdStorage.read (rsc.replicaSetRegistry.generateKey r.objectMeta.name) decodeReplicaSet w.store = .ok r)
    (short : r.objectMeta.name.length ≤ Names.maxGeneratedNameLength)
    (below : (w.store.activeOwnedCount r.objectMeta : Int) ≤ r.spec.replicas)
    (ran : (rsc.reconcile r).exec w = some (.returned (.ok ()),w')) :
    (w'.store.activeOwnedCount r.objectMeta : Int) = w.store.activeOwnedCount r.objectMeta +
        (r.spec.replicas - w.store.activeOwnedCount r.objectMeta) * (items r.spec.template.spec.containers).length ∧
      ((items r.spec.template.spec.containers).length = 1 →
        (rsc.reconcile r).exec w' = some (.returned (.ok ()),w')) := by
  rw [reconcile] at ran
  obtain ⟨current,w₁,got,ran⟩ := Go.exec_bind_ok_inv ran
  obtain ⟨rsFree,read,same⟩ := ReplicaSetRegistry.get_ok_quiet got quiet
  subst w₁
  rw [stored] at read
  cases read
  obtain ⟨pods,w₂,all,ran⟩ := Go.exec_bind_ok_inv ran
  obtain ⟨podFree,listed,same⟩ := PodRegistry.listPods_ok_quiet all quiet
  subst w₂
  simp only [getPodsForReplicaSet,listed_activeOwned listed] at ran
  by_cases fewer : (w.store.activeOwnedCount r.objectMeta : Int) < r.spec.replicas
  · rw [if_pos fewer] at ran
    obtain ⟨_,w₃,created,ran⟩ := Go.exec_bind_ok_inv ran
    have coerced := read_replicaSet_json stored
    have utf8 : Utf8.valid r.objectMeta.name = true := by
      rw [← congrArg (·.objectMeta.name) coerced]
      exact Utf8.valid_coerce _
    obtain ⟨s,g,rfl,grown⟩ := rsc.createReplicas_grows created quiet short utf8 (podsDecode_of_listed listed)
    obtain rfl := ReplicaSetRegistry.update_ok_quiet ran quiet
    have outside := rsc.replicaSetRegistry.generateKey_outside_pods r.objectMeta.name
    have counted : ((s.put (rsc.replicaSetRegistry.generateKey r.objectMeta.name)
        (.replicaSet ⟨r.objectMeta,r.spec,⟨r.spec.replicas⟩⟩)).activeOwnedCount r.objectMeta : Int) =
        w.store.activeOwnedCount r.objectMeta +
          (r.spec.replicas - w.store.activeOwnedCount r.objectMeta) * (items r.spec.template.spec.containers).length := by
      rw [Store.activeOwnedCount_put_outside _ outside,grown.count]
      push_cast
      rw [Int.toNat_of_nonneg (by omega)]
    refine ⟨counted,fun one => rsc.reconcile_settled r ⟨r.objectMeta,r.spec,⟨r.spec.replicas⟩⟩ quiet ⟨rsFree,podFree⟩
      ?_ (Store.podsDecode_put_outside grown.decodes _ outside) ?_⟩
    · simp only [EtcdStorage.read,Store.get_put,ite_true,decodeReplicaSet_replicaSet,Except.ok.injEq]
      exact congrArg (fun rs => {rs with status := ⟨r.spec.replicas⟩}) coerced
    · dsimp only
      rw [counted,one]
      omega
  · have same : (w.store.activeOwnedCount r.objectMeta : Int) = r.spec.replicas := by omega
    rw [if_neg fewer,if_neg (by omega)] at ran
    cases ran
    exact ⟨by simp [same],fun _ => rsc.reconcile_settled r r quiet ⟨rsFree,podFree⟩ stored
      (podsDecode_of_listed listed) same⟩

end ReplicaSetController

theorem reconcile_converges_web :
    (sampleController.reconcile (webReplicaSet 2 [nginx])).exec (storedAlone (webReplicaSet 2 [nginx])) =
        some (.returned (.ok ()),reconciledAlone (webReplicaSet 2 [nginx])) ∧
      (((reconciledAlone (webReplicaSet 2 [nginx])).store.activeOwnedCount (webReplicaSet 2 [nginx]).objectMeta : Int) =
          (storedAlone (webReplicaSet 2 [nginx])).store.activeOwnedCount (webReplicaSet 2 [nginx]).objectMeta +
            ((webReplicaSet 2 [nginx]).spec.replicas -
              (storedAlone (webReplicaSet 2 [nginx])).store.activeOwnedCount (webReplicaSet 2 [nginx]).objectMeta) *
            (items (webReplicaSet 2 [nginx]).spec.template.spec.containers).length ∧
        ((items (webReplicaSet 2 [nginx]).spec.template.spec.containers).length = 1 →
          (sampleController.reconcile (webReplicaSet 2 [nginx])).exec (reconciledAlone (webReplicaSet 2 [nginx])) =
            some (.returned (.ok ()),reconciledAlone (webReplicaSet 2 [nginx])))) :=
  have ran : (sampleController.reconcile (webReplicaSet 2 [nginx])).exec (storedAlone (webReplicaSet 2 [nginx])) =
      some (.returned (.ok ()),reconciledAlone (webReplicaSet 2 [nginx])) := by decide
  ⟨ran,ReplicaSetController.reconcile_converges_by_template sampleController _ rfl (by decide) (by decide)
    (by decide) ran⟩

/-- One replica of a two-container template: `Reconcile` returns nil with two
active, owned pods, and the next `Reconcile` writes the ReplicaSet again. -/
theorem reconcile_overshoots_two_containers :
    (sampleController.reconcile (webReplicaSet 1 [nginx,redis])).exec (storedAlone (webReplicaSet 1 [nginx,redis])) =
        some (.returned (.ok ()),reconciledAlone (webReplicaSet 1 [nginx,redis])) ∧
      (reconciledAlone (webReplicaSet 1 [nginx,redis])).store.activeOwnedCount
        (webReplicaSet 1 [nginx,redis]).objectMeta = 2 ∧
      ((sampleController.reconcile (webReplicaSet 1 [nginx,redis])).after
        (reconciledAlone (webReplicaSet 1 [nginx,redis]))).store.revision =
        (reconciledAlone (webReplicaSet 1 [nginx,redis])).store.revision + 1 := by
  decide

end Gokube
