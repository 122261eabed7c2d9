import Gokube.Json
import Mathlib.Data.List.Sort

/-! The etcd key space the three registries share. `EtcdStorage` puts what
`runtime.Encode` (`json.Marshal`) writes and reads back with `runtime.Decode`
(`json.Unmarshal`) into the caller's type. -/

namespace Gokube

/-- A JSON document, named by the value `json.Marshal` encoded: that value
fixes its bytes. -/
inductive Object where
  | node (n : Node)
  | pod (p : Pod)
  | replicaSet (rs : ReplicaSet)
  deriving DecidableEq, Repr

/-- `runtime.Decode` into a `Pod`. Strings read back coerced; unknown fields
are ignored and absent ones keep their zero value, so a node's document reads
as a pod with no containers; a ReplicaSet's object `status` cannot fill the
string `PodStatus`. -/
def decodePod : Object → Except Bytes Pod
  | .pod p => .ok p.json
  | .node n => .ok (Pod.json ⟨n.objectMeta,⟨none,0⟩,[],n.status⟩)
  | .replicaSet _ =>
    .error (lit "json: cannot unmarshal object into Go struct field Pod.status of type api.PodStatus")

def decodeNode : Object → Except Bytes Node
  | .node n => .ok n.json
  | .pod p => .ok (Node.json ⟨p.objectMeta,⟨false,[]⟩,p.status⟩)
  | .replicaSet _ =>
    .error (lit "json: cannot unmarshal object into Go struct field Node.status of type api.NodeStatus")

/-- `runtime.Decode` into a `ReplicaSet`. A node's `status` is omitted when
empty and is otherwise a string, which cannot fill the struct
`ReplicaSetStatus`; a pod's `status` is always present. -/
def decodeReplicaSet : Object → Except Bytes ReplicaSet
  | .replicaSet rs => .ok rs.json
  | .node n =>
    if n.status = [] then .ok (ReplicaSet.json ⟨n.objectMeta,⟨0,⟨⟨[],[]⟩,⟨none,0⟩⟩⟩,⟨0⟩⟩)
    else .error (lit "json: cannot unmarshal string into Go struct field ReplicaSet.status of type api.ReplicaSetStatus")
  | .pod _ =>
    .error (lit "json: cannot unmarshal string into Go struct field ReplicaSet.status of type api.ReplicaSetStatus")

@[simp] theorem decodePod_pod (p : Pod) : decodePod (.pod p) = .ok p.json := rfl
@[simp] theorem decodeNode_node (n : Node) : decodeNode (.node n) = .ok n.json := rfl
@[simp] theorem decodeReplicaSet_replicaSet (rs : ReplicaSet) :
    decodeReplicaSet (.replicaSet rs) = .ok rs.json := rfl

theorem decodePod_json {v : Object} {p : Pod} (ok : decodePod v = .ok p) : p.json = p := by
  cases v <;> simp only [decodePod,Except.ok.injEq,reduceCtorEq] at ok <;> rw [← ok,Pod.json_json]

theorem decodeReplicaSet_json {v : Object} {rs : ReplicaSet} (ok : decodeReplicaSet v = .ok rs) : rs.json = rs := by
  cases v with
  | replicaSet r => cases ok; exact ReplicaSet.json_json r
  | node n =>
    simp only [decodeReplicaSet] at ok
    split at ok
    · cases ok; exact ReplicaSet.json_json _
    · cases ok
  | pod _ => cases ok

private theorem keys_filter_nodup (entries : List (Bytes × Object)) (keep : Bytes × Object → Bool)
    (distinct : (entries.map Prod.fst).Nodup) : ((entries.filter keep).map Prod.fst).Nodup :=
  (List.Sublist.map _ (List.filter_sublist entries)).nodup distinct

/-- The etcd key space: distinct keys, and the revision every write advances. -/
structure Store where
  entries : List (Bytes × Object)
  distinct : (entries.map Prod.fst).Nodup
  revision : Nat
  deriving DecidableEq

def Store.empty : Store := ⟨[],List.nodup_nil,0⟩

def Store.get (s : Store) (key : Bytes) : Option Object := s.entries.lookup key

/-- A put: the key's previous value, if any, is replaced. -/
def Store.put (s : Store) (key : Bytes) (value : Object) : Store where
  entries := (key,value) :: s.entries.filter (·.1 != key)
  distinct := by
    refine List.nodup_cons.mpr ⟨?_,keys_filter_nodup _ _ s.distinct⟩
    simp
  revision := s.revision + 1

/-- A delete; deleting an absent key writes nothing. -/
def Store.delete (s : Store) (key : Bytes) : Store :=
  if (s.get key).isSome then
    ⟨s.entries.filter (·.1 != key),keys_filter_nodup _ _ s.distinct,s.revision + 1⟩
  else s

/-- A read `WithPrefix`: the entries under `pre`, in key order. -/
def Store.range (s : Store) (pre : Bytes) : List (Bytes × Object) :=
  (s.entries.filter (fun entry => hasPrefix entry.1 pre)).insertionSort (fun a b => a.1 ≤ b.1)

def Store.deleteRange (s : Store) (pre : Bytes) : Store :=
  if s.entries.any (fun entry => hasPrefix entry.1 pre) then
    ⟨s.entries.filter (fun entry => !hasPrefix entry.1 pre),keys_filter_nodup _ _ s.distinct,s.revision + 1⟩
  else s

private theorem lookup_filter_keys (entries : List (Bytes × Object)) (keep : Bytes → Bool) (probe : Bytes) :
    (entries.filter (fun entry => keep entry.1)).lookup probe = if keep probe then entries.lookup probe else none := by
  induction entries with
  | nil => simp
  | cons entry rest ih =>
    obtain ⟨k,v⟩ := entry
    by_cases hit : probe = k
    · subst hit
      by_cases kept : keep probe <;> simp [List.filter_cons,kept,ih,List.lookup_cons]
    · by_cases kept : keep k <;> simp [List.filter_cons,kept,ih,List.lookup_cons,beq_false_of_ne hit]

private theorem lookup_filter_ne (entries : List (Bytes × Object)) (key probe : Bytes) :
    (entries.filter (·.1 != key)).lookup probe = if probe = key then none else entries.lookup probe := by
  rw [lookup_filter_keys entries (· != key)]
  by_cases hit : probe = key <;> simp [hit]

@[simp] theorem Store.get_put (s : Store) (key probe : Bytes) (value : Object) :
    (s.put key value).get probe = if probe = key then some value else s.get probe := by
  by_cases hit : probe = key
  · simp [Store.get,Store.put,hit]
  · simp [Store.get,Store.put,hit,List.lookup_cons,lookup_filter_ne,beq_false_of_ne hit]

@[simp] theorem Store.get_delete (s : Store) (key probe : Bytes) :
    (s.delete key).get probe = if probe = key then none else s.get probe := by
  unfold Store.delete
  split
  · simp [Store.get,lookup_filter_ne]
  · next absent =>
    split_ifs with hit
    · subst hit; simpa using absent
    · rfl

theorem Store.mem_range {s : Store} {pre : Bytes} {entry : Bytes × Object} :
    entry ∈ s.range pre ↔ entry ∈ s.entries ∧ hasPrefix entry.1 pre = true := by
  simp [Store.range,(List.perm_insertionSort _ _).mem_iff]

theorem Store.range_perm (s : Store) (pre : Bytes) :
    List.Perm (s.range pre) (s.entries.filter (fun entry => hasPrefix entry.1 pre)) :=
  List.perm_insertionSort _ _

theorem Store.mem_of_get {s : Store} {key : Bytes} {value : Object} (found : s.get key = some value) :
    (key,value) ∈ s.entries := by
  unfold Store.get at found
  generalize s.entries = entries at found ⊢
  induction entries with
  | nil => cases found
  | cons entry rest ih =>
    obtain ⟨k,v⟩ := entry
    by_cases hit : key = k
    · simp only [List.lookup_cons,hit,beq_self_eq_true,Option.some.injEq] at found
      subst found hit; exact List.mem_cons_self _ _
    · simp only [List.lookup_cons,beq_false_of_ne hit] at found
      exact List.mem_cons_of_mem _ (ih found)

@[simp] theorem Store.get_deleteRange (s : Store) (pre probe : Bytes) :
    (s.deleteRange pre).get probe = if hasPrefix probe pre then none else s.get probe := by
  unfold Store.deleteRange
  split
  · simp only [Store.get,lookup_filter_keys s.entries (fun key => !hasPrefix key pre)]
    cases hasPrefix probe pre <;> rfl
  · next none =>
    split
    · next under =>
      cases found : s.get probe with
      | none => rfl
      | some value => exact absurd (List.any_eq_true.mpr ⟨_,Store.mem_of_get found,under⟩) none
    · rfl

theorem Store.get_of_mem {s : Store} {key : Bytes} {value : Object} (mem : (key,value) ∈ s.entries) :
    s.get key = some value := by
  unfold Store.get
  have distinct := s.distinct
  generalize s.entries = entries at mem distinct ⊢
  induction entries with
  | nil => cases mem
  | cons entry rest ih =>
    obtain ⟨k,v⟩ := entry
    obtain ⟨fresh,distinct⟩ := List.nodup_cons.mp distinct
    rcases List.mem_cons.mp mem with same | later
    · cases same
      simp
    · have listed : key ∈ rest.map Prod.fst := List.mem_map_of_mem Prod.fst later
      have apart : key ≠ k := fun same => fresh (same ▸ listed)
      simp only [List.lookup_cons,beq_false_of_ne apart]
      exact ih later distinct

theorem Store.range_keys_nodup (s : Store) (pre : Bytes) : ((s.range pre).map Prod.fst).Nodup :=
  ((s.range_perm pre).map Prod.fst).nodup_iff.mpr ((List.Sublist.map _ (List.filter_sublist _)).nodup s.distinct)

theorem Store.range_put_outside (s : Store) {key pre : Bytes} (value : Object) (outside : hasPrefix key pre = false) :
    (s.put key value).range pre = s.range pre := by
  simp only [Store.range,Store.put,List.filter_cons,outside,Bool.false_eq_true,ite_false,List.filter_filter]
  congr 2
  funext entry
  by_cases hit : entry.1 = key <;> simp [hit,outside]

theorem Store.range_put_fresh (s : Store) {key pre : Bytes} (value : Object) (absent : s.get key = none)
    (inside : hasPrefix key pre = true) :
    List.Perm ((s.put key value).range pre) ((key,value) :: s.range pre) := by
  have apart : ∀ k v, (k,v) ∈ s.entries → key ≠ k := by simpa [Store.get] using absent
  have others : s.entries.filter (·.1 != key) = s.entries := List.filter_eq_self.mpr fun entry mem => by
    simpa using (apart entry.1 entry.2 mem).symm
  refine ((s.put key value).range_perm pre).trans ?_
  simp only [Store.put,others,List.filter_cons,inside,ite_true]
  exact List.Perm.cons _ (s.range_perm pre).symm

end Gokube
