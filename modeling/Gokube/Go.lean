import Mathlib.Data.List.Basic

/-! Go values as the model reads them. A `string` is its bytes, so `len`,
slicing and `strings.HasPrefix` count bytes; source literals enter through
`lit`. An `error` is its text and the sentinels `errors.Is` finds in its
`%w` chain. -/

namespace Gokube

/-- A Go `string`. -/
abbrev Bytes := List UInt8

/-- The bytes of a literal of the source. -/
def lit (text : String) : Bytes := text.data.flatMap String.utf8EncodeChar

@[simp] theorem lit_append (a b : String) : lit (a ++ b) = lit a ++ lit b := by
  simp [lit,String.data_append]

/-- `strings.HasPrefix(s, p)`. -/
def hasPrefix (s p : Bytes) : Bool := p.isPrefixOf s

theorem hasPrefix_iff {s p : Bytes} : hasPrefix s p = true ↔ p <+: s :=
  List.isPrefixOf_iff_prefix

@[simp] theorem hasPrefix_append (p s : Bytes) : hasPrefix (p ++ s) p = true :=
  hasPrefix_iff.mpr (List.prefix_append p s)

/-- The sentinel errors the repository declares with `errors.New`. -/
inductive Sentinel where
  | podAlreadyExists | podNotFound | listPodsFailed | podInvalid
  | nodeNotFound | nodeAlreadyExists | listNodesFailed | nodeInvalid
  | replicaSetExists | replicaSetNotFound | listReplicaSets
  | internal
  | encoding | decoding | notFound | etcdClient
  | invalidPodSpec | invalidNodeSpec
  deriving DecidableEq, Repr

/-- The text each sentinel was declared with. `ErrInternal` is declared in a
registry file absent from the sources; its text is the model's. -/
def Sentinel.text : Sentinel → Bytes
  | .podAlreadyExists => lit "pod already exists"
  | .podNotFound => lit "pod not found"
  | .listPodsFailed => lit "failed to list pods"
  | .podInvalid => lit "invalid pod"
  | .nodeNotFound => lit "node not found"
  | .nodeAlreadyExists => lit "node already exists"
  | .listNodesFailed => lit "failed to list nodes"
  | .nodeInvalid => lit "invalid node"
  | .replicaSetExists => lit "replicaset already exists"
  | .replicaSetNotFound => lit "replicaset not found"
  | .listReplicaSets => lit "error listing replicasets"
  | .internal => lit "internal error"
  | .encoding => lit "error encoding object"
  | .decoding => lit "error decoding object"
  | .notFound => lit "object not found"
  | .etcdClient => lit "etcd client error"
  | .invalidPodSpec => lit "invalid pod spec"
  | .invalidNodeSpec => lit "invalid node spec"

/-- A Go `error`: the sentinels of its `%w` chain and its text. -/
structure GoError where
  chain : List Sentinel
  text : Bytes
  deriving DecidableEq, Repr

instance instDecidableEqExcept {ε α : Type} [DecidableEq ε] [DecidableEq α] : DecidableEq (Except ε α)
  | .error a, .error b => decidable_of_iff (a = b) ⟨congrArg _,Except.error.inj⟩
  | .ok a, .ok b => decidable_of_iff (a = b) ⟨congrArg _,Except.ok.inj⟩
  | .error _, .ok _ => isFalse nofun
  | .ok _, .error _ => isFalse nofun

/-- `errors.Is(err, s)`. -/
def GoError.is (err : GoError) (s : Sentinel) : Bool := err.chain.contains s

def Sentinel.error (s : Sentinel) : GoError := ⟨[s],s.text⟩

/-- `fmt.Errorf("%w: %s", s, detail)`, also `"%w: %v"` of an error's text. -/
def wrap (s : Sentinel) (detail : Bytes) : GoError := ⟨[s],s.text ++ lit ": " ++ detail⟩

/-- `fmt.Errorf(text)`: an error that wraps nothing. -/
def plain (text : Bytes) : GoError := ⟨[],text⟩

@[simp] theorem wrap_is (s t : Sentinel) (detail : Bytes) : (wrap s detail).is t = decide (s = t) := by
  by_cases same : s = t <;> simp [wrap,GoError.is,same,Ne.symm]

end Gokube
