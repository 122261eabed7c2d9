import Gokube.Registry

/-! `pkg/api/handlers`: the REST handlers of the API server. A handler writes a
response, a status code with the entity or with the error's text, and returns
no error of its own. A `{name}` route runs its `Load…IntoRequest` filter first,
which reads the object and hands it to the handler. Request bodies reach the
handlers decoded. -/

namespace Gokube

/-- What a handler writes: the status of its first write, and the body, the
entity of each `WriteResponse` and the error's text of each `WriteError` in
order. `net/http` ignores the status of a later write. -/
structure Response (α : Type) where
  status : Nat
  body : List (Except Bytes α)
  deriving DecidableEq, Repr

def statusOK : Nat := 200
def statusCreated : Nat := 201
def statusNoContent : Nat := 204
def statusBadRequest : Nat := 400
def statusNotFound : Nat := 404
def statusConflict : Nat := 409
def statusInternalServerError : Nat := 500

/-- `api.WriteResponse` of an entity. -/
def writeResponse {α : Type} (status : Nat) (entity : α) : Response α := ⟨status,[.ok entity]⟩

/-- `api.WriteResponse` of a nil entity: the status alone. -/
def writeHeader {α : Type} (status : Nat) : Response α := ⟨status,[]⟩

def writeError {α : Type} (status : Nat) (err : GoError) : Response α := ⟨status,[.error err.text]⟩

/-- A further write to a response already written. -/
def Response.andThen {α : Type} (first next : Response α) : Response α := ⟨first.status,first.body ++ next.body⟩

structure PodHandler where
  podRegistry : PodRegistry
  deriving DecidableEq, Repr

namespace PodHandler
variable (h : PodHandler)

/-- `LoadPodIntoRequest`, then the route's handler `next` on the pod. -/
def loadPodIntoRequest {α : Type} (name : Bytes) (next : Pod → Go (Response α)) : Go (Response α) := do
  match ← Go.attempt (h.podRegistry.getPod name) with
  | .error err =>
    if err.is .podNotFound then pure (writeError statusNotFound err)
    else pure (writeError statusInternalServerError err)
  | .ok pod => next pod

/-- `CreatePod`. After a conflict it does not return: the client reads the
`409` with the error's text followed by the pod. -/
def createPod (pod : Pod) : Go (Response Pod) := do
  match ← Go.attempt (h.podRegistry.createPod pod) with
  | .error err =>
    if err.is .podAlreadyExists then pure ((writeError statusConflict err).andThen (writeResponse statusCreated pod))
    else if err.is .podInvalid then pure (writeError statusBadRequest err)
    else pure (writeError statusInternalServerError err)
  | .ok stored => pure (writeResponse statusCreated stored)

def listPods : Go (Response (List Pod)) := do
  match ← Go.attempt h.podRegistry.listPods with
  | .error err => pure (writeError statusInternalServerError err)
  | .ok pods => pure (writeResponse statusOK pods)

def getPod (_ : PodHandler) (pod : Pod) : Go (Response Pod) := pure (writeResponse statusOK pod)

def updatePod (existingPod updatedPod : Pod) : Go (Response Pod) := do
  if existingPod.objectMeta.name ≠ updatedPod.objectMeta.name then
    pure (writeError statusBadRequest (plain (lit "pod name in URL does not match pod name in request body")))
  else
    match ← Go.attempt (h.podRegistry.updatePod updatedPod) with
    | .error err =>
      if err.is .podInvalid then pure (writeError statusBadRequest err)
      else pure (writeError statusInternalServerError err)
    | .ok () => pure (writeResponse statusOK updatedPod)

def deletePod (pod : Pod) : Go (Response Unit) := do
  match ← Go.attempt (h.podRegistry.deletePod pod.objectMeta.name) with
  | .error err => pure (writeError statusInternalServerError err)
  | .ok () => pure (writeHeader statusNoContent)

def listUnassignedPods : Go (Response (List Pod)) := do
  match ← Go.attempt h.podRegistry.listUnassignedPods with
  | .error err => pure (writeError statusInternalServerError err)
  | .ok pods => pure (writeResponse statusOK pods)

/-! The `{name}` routes of `RegisterPodRoutes`. -/

def getPodRoute (name : Bytes) : Go (Response Pod) := h.loadPodIntoRequest name h.getPod

def putPodRoute (name : Bytes) (updatedPod : Pod) : Go (Response Pod) :=
  h.loadPodIntoRequest name fun existingPod => h.updatePod existingPod updatedPod

def deletePodRoute (name : Bytes) : Go (Response Unit) := h.loadPodIntoRequest name h.deletePod

end PodHandler

structure NodeHandler where
  nodeRegistry : NodeRegistry
  deriving DecidableEq, Repr

namespace NodeHandler
variable (h : NodeHandler)

def loadNodeIntoRequest {α : Type} (name : Bytes) (next : Node → Go (Response α)) : Go (Response α) := do
  match ← Go.attempt (h.nodeRegistry.getNode name) with
  | .error err =>
    if err.is .nodeNotFound then pure (writeError statusNotFound err)
    else pure (writeError statusInternalServerError err)
  | .ok node => next node

def createNode (node : Node) : Go (Response Node) := do
  match ← Go.attempt (h.nodeRegistry.createNode node) with
  | .error err =>
    if err.is .nodeAlreadyExists then pure (writeError statusConflict err)
    else if err.is .nodeInvalid then pure (writeError statusBadRequest err)
    else pure (writeError statusInternalServerError err)
  | .ok node => pure (writeResponse statusCreated node)

def getNode (_ : NodeHandler) (node : Node) : Go (Response Node) := pure (writeResponse statusOK node)

def updateNode (existingNode node : Node) : Go (Response Node) := do
  if existingNode.objectMeta.name ≠ node.objectMeta.name then
    pure (writeError statusBadRequest (plain (lit "node name in URL does not match the name in the request body")))
  else
    match ← Go.attempt (h.nodeRegistry.updateNode node) with
    | .error err =>
      if err.is .nodeInvalid then pure (writeError statusBadRequest err)
      else pure (writeError statusInternalServerError err)
    | .ok () => pure (writeResponse statusOK node)

def deleteNode (node : Node) : Go (Response Unit) := do
  match ← Go.attempt (h.nodeRegistry.deleteNode node.objectMeta.name) with
  | .error err => pure (writeError statusInternalServerError err)
  | .ok () => pure (writeHeader statusNoContent)

/-- `ListNodes`; the `nodeName` attribute it reads changes nothing. -/
def listNodes : Go (Response (List Node)) := do
  match ← Go.attempt h.nodeRegistry.listNodes with
  | .error err => pure (writeError statusInternalServerError err)
  | .ok nodes => pure (writeResponse statusOK nodes)

def putNodeRoute (name : Bytes) (node : Node) : Go (Response Node) :=
  h.loadNodeIntoRequest name fun existingNode => h.updateNode existingNode node

def deleteNodeRoute (name : Bytes) : Go (Response Unit) := h.loadNodeIntoRequest name h.deleteNode

end NodeHandler

structure ReplicasetHandler where
  replicasetRegistry : ReplicaSetRegistry
  deriving DecidableEq, Repr

namespace ReplicasetHandler
variable (h : ReplicasetHandler)

def loadReplicasetIntoRequest {α : Type} (name : Bytes) (next : ReplicaSet → Go (Response α)) :
    Go (Response α) := do
  match ← Go.attempt (h.replicasetRegistry.get name) with
  | .error err =>
    if err.is .replicaSetNotFound then pure (writeError statusNotFound err)
    else pure (writeError statusInternalServerError err)
  | .ok replicaset => next replicaset

def createReplicaset (replicaset : ReplicaSet) : Go (Response ReplicaSet) := do
  match ← Go.attempt (h.replicasetRegistry.create replicaset) with
  | .error err =>
    if err.is .replicaSetExists then pure (writeError statusConflict err)
    else pure (writeError statusInternalServerError err)
  | .ok replicaset => pure (writeResponse statusCreated replicaset)

def getReplicaset (_ : ReplicasetHandler) (replicaset : ReplicaSet) : Go (Response ReplicaSet) :=
  pure (writeResponse statusOK replicaset)

def updateReplicaset (existingReplicaset replicaset : ReplicaSet) : Go (Response ReplicaSet) := do
  if existingReplicaset.objectMeta.name ≠ replicaset.objectMeta.name then
    pure (writeError statusBadRequest
      (plain (lit "replicaset name in URL does not match the replicaset in the request body")))
  else
    match ← Go.attempt (h.replicasetRegistry.update replicaset) with
    | .error err => pure (writeError statusInternalServerError err)
    | .ok () => pure (writeResponse statusOK replicaset)

def deleteReplicaset (replicaset : ReplicaSet) : Go (Response Unit) := do
  match ← Go.attempt (h.replicasetRegistry.delete replicaset.objectMeta.name) with
  | .error err => pure (writeError statusInternalServerError err)
  | .ok () => pure (writeHeader statusNoContent)

def listReplicasets : Go (Response (List ReplicaSet)) := do
  match ← Go.attempt h.replicasetRegistry.list with
  | .error err => pure (writeError statusInternalServerError err)
  | .ok replicasets => pure (writeResponse statusOK replicasets)

def putReplicasetRoute (name : Bytes) (replicaset : ReplicaSet) : Go (Response ReplicaSet) :=
  h.loadReplicasetIntoRequest name fun existing => h.updateReplicaset existing replicaset

def deleteReplicasetRoute (name : Bytes) : Go (Response Unit) :=
  h.loadReplicasetIntoRequest name h.deleteReplicaset

end ReplicasetHandler

/-- `server.APIServer`: the handlers of `registerRoutes` over its registries. -/
structure ApiServer where
  podRegistry : PodRegistry
  nodeRegistry : NodeRegistry
  replicasetRegistry : ReplicaSetRegistry
  deriving DecidableEq, Repr

namespace ApiServer

def podHandler (s : ApiServer) : PodHandler := ⟨s.podRegistry⟩
def nodeHandler (s : ApiServer) : NodeHandler := ⟨s.nodeRegistry⟩
def replicasetHandler (s : ApiServer) : ReplicasetHandler := ⟨s.replicasetRegistry⟩

end ApiServer

/-- A request to a route of `registerRoutes`: the route, the `{name}` of its
path and its decoded body. -/
inductive Request where
  | healthz
  | createPod (pod : Pod)
  | listPods
  | getPod (name : Bytes)
  | updatePod (name : Bytes) (pod : Pod)
  | deletePod (name : Bytes)
  | listUnassignedPods
  | createNode (node : Node)
  | listNodes
  | getNode (name : Bytes)
  | updateNode (name : Bytes) (node : Node)
  | deleteNode (name : Bytes)
  | createReplicaset (replicaset : ReplicaSet)
  | listReplicasets
  | getReplicaset (name : Bytes)
  | updateReplicaset (name : Bytes) (replicaset : ReplicaSet)
  | deleteReplicaset (name : Bytes)
  deriving DecidableEq, Repr

def Request.nodeName? : Request → Option Bytes
  | .createNode node | .updateNode _ node => some node.objectMeta.name
  | _ => none

/-- Whether `registerRoutes` registers the request's route with `ws.GET`. -/
def Request.isGet : Request → Bool
  | .healthz | .listPods | .getPod _ | .listUnassignedPods | .listNodes | .getNode _ | .listReplicasets
  | .getReplicaset _ => true
  | _ => false

/-- `registerRoutes` with `RegisterPodRoutes`, `RegisterNodeRoutes` and
`RegisterReplicasetRoutes`: the handler each route runs behind its filter, and
the status code the client reads. -/
def ApiServer.serve (s : ApiServer) : Request → Go Nat
  | .healthz => pure statusOK
  | .createPod pod => Response.status <$> s.podHandler.createPod pod
  | .listPods => Response.status <$> s.podHandler.listPods
  | .getPod name => Response.status <$> s.podHandler.getPodRoute name
  | .updatePod name pod => Response.status <$> s.podHandler.putPodRoute name pod
  | .deletePod name => Response.status <$> s.podHandler.deletePodRoute name
  | .listUnassignedPods => Response.status <$> s.podHandler.listUnassignedPods
  | .createNode node => Response.status <$> s.nodeHandler.createNode node
  | .listNodes => Response.status <$> s.nodeHandler.listNodes
  | .getNode name => Response.status <$> s.nodeHandler.loadNodeIntoRequest name s.nodeHandler.getNode
  | .updateNode name node => Response.status <$> s.nodeHandler.putNodeRoute name node
  | .deleteNode name => Response.status <$> s.nodeHandler.deleteNodeRoute name
  | .createReplicaset replicaset => Response.status <$> s.replicasetHandler.createReplicaset replicaset
  | .listReplicasets => Response.status <$> s.replicasetHandler.listReplicasets
  | .getReplicaset name =>
    Response.status <$> s.replicasetHandler.loadReplicasetIntoRequest name s.replicasetHandler.getReplicaset
  | .updateReplicaset name replicaset => Response.status <$> s.replicasetHandler.putReplicasetRoute name replicaset
  | .deleteReplicaset name => Response.status <$> s.replicasetHandler.deleteReplicasetRoute name

/-! ### A server and its clients for runs on fixed inputs -/

def sampleServer : ApiServer := ⟨⟨1⟩,⟨⟩,⟨0⟩⟩

def expectStatus {α : Type} (status : Nat) (request : Go (Response α)) : Go Unit := do
  let resp ← request
  if resp.status ≠ status then throw (plain (lit "unexpected status code: " ++ lit (toString resp.status)))

end Gokube
