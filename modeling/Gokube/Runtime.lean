import Gokube.Go

/-! The container runtime the node agent drives through the Docker client: the
pulled images and the containers with their labels and state. The model gives
a container its name as its ID, so a call that takes an ID or a name resolves
it by name. -/

namespace Gokube

structure DockerContainer where
  name : Bytes
  image : Bytes
  labels : List (Bytes × Bytes)
  running : Bool
  exitCode : Int
  deriving DecidableEq, Repr

structure Runtime where
  images : List Bytes
  containers : List DockerContainer
  deriving DecidableEq, Repr

/-- A Docker API call. `readPull` reads the stream `ImagePull` returned to its
end, which is when the image is in place. -/
inductive DockerCall where
  | imagePull (image : Bytes)
  | readPull (image : Bytes)
  | containerCreate (image : Bytes) (labels : List (Bytes × Bytes)) (name : Bytes)
  | containerStart (id : Bytes)
  | containerInspect (nameOrId : Bytes)
  | containerList (all : Bool)
  | containerRemove (id : Bytes) (force : Bool)
  deriving DecidableEq, Repr

/-- What a call returns when it succeeds; inspecting an absent container is
`none` (the client's not-found error). -/
def DockerCall.Response : DockerCall → Type
  | .containerCreate .. => Bytes
  | .containerInspect _ => Option (Bool × Int)
  | .containerList _ => List DockerContainer
  | .imagePull _ | .readPull _ | .containerStart _ | .containerRemove .. => Unit

def Runtime.find (rt : Runtime) (name : Bytes) : Option DockerContainer :=
  rt.containers.find? (·.name == name)

def DockerCall.apply : (call : DockerCall) → Runtime → Except Bytes call.Response × Runtime
  | .imagePull _, rt => (.ok (),rt)
  | .readPull image, rt => (.ok (),{rt with images := image :: rt.images})
  | .containerCreate image labels name, rt =>
    if (rt.find name).isSome then (.error (lit "Conflict. The container name is already in use"),rt)
    else if image ∈ rt.images then
      (.ok name,{rt with containers := rt.containers ++ [⟨name,image,labels,false,0⟩]})
    else (.error (lit "No such image: " ++ image),rt)
  | .containerStart id, rt =>
    if (rt.find id).isSome then
      (.ok (),{rt with containers := rt.containers.map fun c => if c.name = id then {c with running := true} else c})
    else (.error (lit "No such container: " ++ id),rt)
  | .containerInspect name, rt => (.ok ((rt.find name).map fun c => (c.running,c.exitCode)),rt)
  | .containerList all, rt => (.ok (if all then rt.containers else rt.containers.filter (·.running)),rt)
  | .containerRemove id force, rt =>
    match rt.find id with
    | none => (.error (lit "No such container: " ++ id),rt)
    | some c =>
      if c.running && !force then (.error (lit "cannot remove a running container"),rt)
      else (.ok (),{rt with containers := rt.containers.filter (·.name != id)})

end Gokube
