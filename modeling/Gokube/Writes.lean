import Gokube.Registry

/-! What the registries' writes leave in the store: a `Create` on a key that
is present, the keys the node registry cleans, and what the ReplicaSet
registry stores without validation. -/

namespace Gokube

/-- What a `Create` under `key` does where the key already holds `v`: when its
`Get` returns the stored object it fails with `present` and writes nothing;
otherwise the object is prepared and put over the stored one. -/
def CreateOnPresent {α : Type} (create : Go α) (key : Bytes) (decode : Object → Except Bytes α) (present : GoError)
    (prepare : Except GoError α) (encode : α → Object) (v : Object) (w : World) : Prop :=
  (w.fails.1 = false → (decode v).toBool = true → create.exec w = some (.returned (.error present),w.fails.2)) ∧
  ((w.fails.1 = true ∨ (decode v).toBool = false) → ∀ obj, prepare = .ok obj → w.fails.2.fails.1 = false →
    create.exec w = some (.returned (.ok obj),{w.fails.2.fails.2 with store := w.store.put key (encode obj)}))

section Present
variable {α : Type} {key : Bytes} {decode : Object → Except Bytes α} {present : GoError}
  {prepare : Except GoError α} {encode : α → Object} {v : Object} {w : World}

theorem createChecked_onPresent (found : w.store.get key = some v) :
    CreateOnPresent (createChecked key decode present prepare encode) key decode present prepare encode v w := by
  have read : (EtcdStorage.read key decode w.store).toBool = (decode v).toBool := by
    simp only [EtcdStorage.read,found]
    cases decode v <;> rfl
  refine ⟨fun reached decoded => ?_,fun missed obj prepared putReached => ?_⟩
  · rw [exec_createChecked,read,reached,decoded]
    rfl
  · have refused : (!w.fails.1 && (decode v).toBool) = false := by rcases missed with h | h <;> simp [h]
    rw [exec_createChecked,read,refused,if_neg Bool.false_ne_true,prepared]
    dsimp only
    rw [Go.exec_bind,EtcdStorage.exec_put,putReached]
    rfl

theorem withLock_onPresent {body : Go α} {m : Nat} (free : m ∉ w.writers ∧ m ∉ w.readers)
    (locked : CreateOnPresent body key decode present prepare encode v {w with writers := m :: w.writers}) :
    CreateOnPresent (withLock m body) key decode present prepare encode v w := by
  refine ⟨fun reached decoded => ?_,fun missed obj prepared putReached => ?_⟩
  · rw [Go.exec_withLock m body w free,locked.1 reached decoded]
    simp [World.fails,List.erase_cons_head]
  · rw [Go.exec_withLock m body w free,locked.2 missed obj prepared putReached]
    simp [World.fails,List.erase_cons_head]

end Present

/-- The three `Create`s on a present key: refused, with the store untouched,
exactly when the existence check's `Get` returns the stored object; after a
`Get` that fails in transport or does not decode, the new object is put over
the stored one. -/
theorem create_refuses_present_when_read (w : World) (v : Object) :
    (∀ (r : PodRegistry) (pod : Pod), r.mutex ∉ w.writers ∧ r.mutex ∉ w.readers →
      w.store.get (r.generateKey pod.objectMeta.name) = some v →
      CreateOnPresent (r.createPod pod) (r.generateKey pod.objectMeta.name) decodePod
        (wrap .podAlreadyExists pod.objectMeta.name) (PodRegistry.prepare pod) .pod v w) ∧
    (∀ (r : NodeRegistry) (node : Node), w.store.get (generateKey nodePrefix node.objectMeta.name) = some v →
      CreateOnPresent (r.createNode node) (generateKey nodePrefix node.objectMeta.name) decodeNode
        (wrap .nodeAlreadyExists node.objectMeta.name) (NodeRegistry.prepare node) .node v w) ∧
    (∀ (r : ReplicaSetRegistry) (rs : ReplicaSet), r.mutex ∉ w.writers ∧ r.mutex ∉ w.readers →
      w.store.get (r.generateKey rs.objectMeta.name) = some v →
      CreateOnPresent (r.create rs) (r.generateKey rs.objectMeta.name) decodeReplicaSet
        (wrap .replicaSetExists rs.objectMeta.name) (.ok rs) .replicaSet v w) :=
  ⟨fun _ _ free found => withLock_onPresent free (createChecked_onPresent found),
    fun _ _ found => createChecked_onPresent found,
    fun _ _ free found => withLock_onPresent free (createChecked_onPresent found)⟩

def webPodStore : Store := Store.empty.put (podPrefix ++ lit "web-1") (.pod (podNamed (lit "web-1") nginx))

theorem createPod_refuses_web :
    ((⟨1⟩ : PodRegistry).createPod (podNamed (lit "web-1") redis)).exec (World.start webPodStore [] []) =
      some (.returned (.error (wrap .podAlreadyExists (lit "web-1"))),World.start webPodStore [] []) :=
  ((create_refuses_present_when_read _ (.pod (podNamed (lit "web-1") nginx))).1 _ _ ⟨by decide,by decide⟩
    (by decide)).1 rfl rfl

/-- The existence check's `Get` fails in transport: `CreatePod` returns nil and
the stored pod is replaced. -/
theorem createPod_overwrites_after_failed_get :
    ((⟨1⟩ : PodRegistry).createPod (podNamed (lit "web-1") redis)).exec
        {World.start webPodStore [] [] with failures := [true]} =
      some (.returned (.ok (podNamed (lit "web-1") redis)),
        ((⟨1⟩ : PodRegistry).createPod (podNamed (lit "web-1") redis)).after
          {World.start webPodStore [] [] with failures := [true]}) ∧
    webPodStore.get (podPrefix ++ lit "web-1") = some (.pod (podNamed (lit "web-1") nginx)) ∧
    (((⟨1⟩ : PodRegistry).createPod (podNamed (lit "web-1") redis)).after
        {World.start webPodStore [] [] with failures := [true]}).store.get (podPrefix ++ lit "web-1") =
      some (.pod (podNamed (lit "web-1") redis)) := by
  decide

/-! ### Keys of the node registry

`path.Join` cleans the name, so names that differ only in a trailing slash or
a `..` element share a key, unlike the names the pod and ReplicaSet
registries put after their prefixes. -/

def nodeSlashStored : World := ((⟨⟩ : NodeRegistry).createNode (readyNode (lit "a/"))).after (World.start Store.empty [] [])

/-- `GetNode("a")` returns the node created as `a/`, whose name is not `a`. -/
theorem getNode_returns_other_name :
    ((⟨⟩ : NodeRegistry).createNode (readyNode (lit "a/"))).exec (World.start Store.empty [] []) =
        some (.returned (.ok (readyNode (lit "a/"))),nodeSlashStored) ∧
      ((⟨⟩ : NodeRegistry).getNode (lit "a")).exec nodeSlashStored =
        some (.returned (.ok (readyNode (lit "a/"))),nodeSlashStored) := by
  decide

/-! ### What the ReplicaSet registry stores -/

def invalidReplicaSet : ReplicaSet := ⟨⟨[],[]⟩,⟨-1,⟨⟨[],[]⟩,⟨some [⟨[],[]⟩],0⟩⟩⟩,⟨0⟩⟩

/-- `Create` stores it under `/replicasets/`. -/
theorem replicaSet_create_stores_invalid :
    ((⟨0⟩ : ReplicaSetRegistry).create invalidReplicaSet).exec (World.start Store.empty [] []) =
        some (.returned (.ok invalidReplicaSet),
          ((⟨0⟩ : ReplicaSetRegistry).create invalidReplicaSet).after (World.start Store.empty [] [])) ∧
      (((⟨0⟩ : ReplicaSetRegistry).create invalidReplicaSet).after (World.start Store.empty [] [])).store.get
        (lit "/replicasets/") = some (.replicaSet invalidReplicaSet) := by
  decide

end Gokube
