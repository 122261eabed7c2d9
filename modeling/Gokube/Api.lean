import Gokube.Go

/-! The objects of `pkg/api`: nodes, pods and ReplicaSets with their metadata,
the ownership predicates the controller counts with, and the struct
validation behind `Pod.Validate` and `Node.Validate`. -/

namespace Gokube

structure Container where
  name : Bytes
  image : Bytes
  deriving DecidableEq, Repr

/-- `ObjectMeta`. Nothing modelled reads `uid`, `resourceVersion` or
`creationTimestamp`; they are left out. -/
structure ObjectMeta where
  name : Bytes
  «namespace» : Bytes
  deriving DecidableEq, Repr

/-- `PodSpec`. A nil `Containers` slice is `none`: the validator's `required`
tells it apart from an empty one. -/
structure PodSpec where
  containers : Option (List Container)
  replicas : Int
  deriving DecidableEq, Repr

/-- `Pod`; its `Status` is a `PodStatus`, a Go string. -/
structure Pod where
  objectMeta : ObjectMeta
  spec : PodSpec
  nodeName : Bytes
  status : Bytes
  deriving DecidableEq, Repr

def podPending : Bytes := lit "Pending"
def podRunning : Bytes := lit "Running"
def podSucceeded : Bytes := lit "Succeeded"
def podFailed : Bytes := lit "Failed"
def podScheduled : Bytes := lit "Scheduled"

structure NodeSpec where
  unschedulable : Bool
  providerID : Bytes
  deriving DecidableEq, Repr

structure Node where
  objectMeta : ObjectMeta
  spec : NodeSpec
  status : Bytes
  deriving DecidableEq, Repr

def nodeReady : Bytes := lit "Ready"

structure PodTemplateSpec where
  objectMeta : ObjectMeta
  spec : PodSpec
  deriving DecidableEq, Repr

/-- `ReplicaSetSpec`; nothing reads the informational `selector`. -/
structure ReplicaSetSpec where
  replicas : Int
  template : PodTemplateSpec
  deriving DecidableEq, Repr

/-- `ReplicaSetStatus`; the controller writes only `replicas`. -/
structure ReplicaSetStatus where
  replicas : Int
  deriving DecidableEq, Repr

structure ReplicaSet where
  objectMeta : ObjectMeta
  spec : ReplicaSetSpec
  status : ReplicaSetStatus
  deriving DecidableEq, Repr

/-- The elements a `range` over a slice visits: none for a nil slice. -/
def items {α : Type} (slice : Option (List α)) : List α := slice.getD []

@[simp] theorem items_none {α : Type} : items (none : Option (List α)) = [] := rfl
@[simp] theorem items_some {α : Type} (xs : List α) : items (some xs) = xs := rfl

def Pod.isActive (p : Pod) : Bool := p.status != podFailed

def isOwnedBy (pod : Pod) (meta : ObjectMeta) : Bool := hasPrefix pod.objectMeta.name meta.name

def isPodActiveAndOwnedBy (pod : Pod) (meta : ObjectMeta) : Bool :=
  isOwnedBy pod meta && pod.isActive

/-! ### Validation

`validate.Struct` walks the fields in order. `required` on a string fails for
`""` and on a slice for nil; on a non-pointer struct (`Spec`, each `Container`
under `dive`) it never fails and the validator checks the struct's own fields. -/

/-- One entry of the validator's `ValidationErrors`. -/
structure FieldError where
  ns : Bytes
  field : Bytes
  tag : Bytes
  deriving DecidableEq, Repr

/-- `FieldError.Error()`. -/
def FieldError.text (e : FieldError) : Bytes :=
  lit "Key: '" ++ e.ns ++ lit "' Error:Field validation for '" ++ e.field ++
    lit "' failed on the '" ++ e.tag ++ lit "' tag"

/-- `ValidationErrors.Error()`: one line per entry. -/
def validationText (errs : List FieldError) : Bytes :=
  (lit "\n").intercalate (errs.map FieldError.text)

/-- The `required` tag on the string field `field` at namespace `ns`. -/
def requiredString (ns field value : Bytes) : List FieldError :=
  if value = [] then [⟨ns,field,lit "required"⟩] else []

/-- The tags of the `index`-th container under `dive`. -/
def containerErrors (base : Bytes) (index : Nat) (c : Container) : List FieldError :=
  let element := base ++ lit "[" ++ lit (toString index) ++ lit "]."
  requiredString (element ++ lit "Name") (lit "Name") c.name ++
    requiredString (element ++ lit "Image") (lit "Image") c.image

def podFieldErrors (p : Pod) : List FieldError :=
  requiredString (lit "Pod.ObjectMeta.Name") (lit "Name") p.objectMeta.name ++
  (match p.spec.containers with
    | none => [⟨lit "Pod.Spec.Containers",lit "Containers",lit "required"⟩]
    | some cs => (cs.enum.map fun entry => containerErrors (lit "Pod.Spec.Containers") entry.1 entry.2).flatten) ++
  (if p.spec.replicas < 0 then [⟨lit "Pod.Spec.Replicas",lit "Replicas",lit "gte"⟩] else [])

def nodeFieldErrors (n : Node) : List FieldError :=
  requiredString (lit "Node.ObjectMeta.Name") (lit "Name") n.objectMeta.name

def Pod.validate (p : Pod) : Except GoError Unit :=
  match podFieldErrors p with
  | [] => .ok ()
  | errs => .error (wrap .invalidPodSpec (validationText errs))

/-- `(*Node).Validate`: the validator's detail is dropped. -/
def Node.validate (n : Node) : Except GoError Unit :=
  match nodeFieldErrors n with
  | [] => .ok ()
  | _ => .error Sentinel.invalidNodeSpec.error

/-! ### Objects for runs on fixed inputs -/

def nginx : Container := ⟨lit "nginx",lit "nginx:1.25"⟩
def redis : Container := ⟨lit "redis",lit "redis:7"⟩

def podNamed (name : Bytes) (c : Container) : Pod := ⟨⟨name,[]⟩,⟨some [c],0⟩,[],podPending⟩

def readyNode (name : Bytes) : Node := ⟨⟨name,[]⟩,⟨false,[]⟩,nodeReady⟩

end Gokube
