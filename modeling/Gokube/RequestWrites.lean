import Gokube.Handlers
import Gokube.Trace

/-! Each request to the API server makes at most one etcd write call that
etcd answers with success: one when a `POST`, `PUT` or `DELETE` is answered
with a success, none otherwise, whatever the replies of its calls. The writes
are counted along a program's paths by `Prog.Writes`. -/

namespace Gokube

/-- A put, delete or delete by prefix that etcd answered with success. -/
def Event.wrote : Event → Bool
  | ⟨.etcd (.put _ _),.ok _⟩ => true
  | ⟨.etcd (.delete _),.ok _⟩ => true
  | ⟨.etcd (.deleteRange _),.ok _⟩ => true
  | _ => false

namespace Prog
variable {α β : Type}

/-- Every path of `p`, its writes counted from `n`, returns a value `a` after
`m` writes with `post m a`. -/
def Writes (post : Nat → α → Prop) : Nat → Prog α → Prop
  | n, .done a => post n a
  | _, .halt _ => True
  | n, .step e next => ∀ reply, Writes post (if Event.wrote ⟨e,reply⟩ then n + 1 else n) (next reply)

theorem Writes.mono {post post' : Nat → α → Prop} {n : Nat} {p : Prog α} (holds : p.Writes post n)
    (weaker : ∀ m a, post m a → post' m a) : p.Writes post' n := by
  induction p generalizing n with
  | done a => exact weaker n a holds
  | halt reason => trivial
  | step e next ih => exact fun reply => ih reply (holds reply)

theorem Writes.bind {P : Nat → α → Prop} {Q : Nat → β → Prop} {n : Nat} {p : Prog α} {f : α → Prog β}
    (first : p.Writes P n) (rest : ∀ m a, P m a → (f a).Writes Q m) : (p >>= f).Writes Q n := by
  induction p generalizing n with
  | done a => exact rest n a first
  | halt reason => trivial
  | step e next ih => exact fun reply => ih reply (first reply)

theorem Writes.path {post : Nat → α → Prop} {n : Nat} {p : Prog α} {evs : List Event} {a : α}
    (holds : p.Writes post n) (path : Path p evs (.done a)) : post (n + evs.countP Event.wrote) a := by
  generalize ended : (Prog.done a : Prog α) = q at path
  induction path generalizing n with
  | nil => subst ended; exact holds
  | step reply _ ih =>
    have counted := ih (holds reply) ended
    rw [List.countP_cons]
    split at counted
    · next wrote => rwa [if_pos wrote,← Nat.add_assoc,Nat.add_right_comm]
    · next quiet => rwa [if_neg quiet,Nat.add_zero]

end Prog

namespace Go
variable {α β : Type} {n : Nat}

def ReadsOnly (x : Go α) : Prop := ∀ n, x.run.Writes (fun m _ => m = n) n

/-- Every path of `x` writes once if it returns a value and never if it
returns an error. -/
def WritesOnce (x : Go α) : Prop := ∀ n, x.run.Writes (fun m r => m = if r.toBool then n + 1 else n) n

theorem writes_bind {x : Go α} {k : α → Go β} {P : Nat → Except GoError α → Prop}
    {Q : Nat → Except GoError β → Prop} (first : x.run.Writes P n) (rest : ∀ m a, P m (.ok a) → (k a).run.Writes Q m)
    (fails : ∀ m e, P m (.error e) → Q m (.error e)) : (x >>= k).run.Writes Q n :=
  Prog.Writes.bind first fun
    | m, .ok a, holds => rest m a holds
    | m, .error e, holds => fails m e holds

theorem writes_call_bind {e : Effect} {k : e.Reply → Go β} {Q : Nat → Except GoError β → Prop}
    (rest : ∀ reply, (k reply).run.Writes Q (if Event.wrote ⟨e,reply⟩ then n + 1 else n)) :
    (Go.call e >>= k).run.Writes Q n :=
  rest

theorem writes_attempt {x : Go α} {P : Nat → Except GoError α → Prop} (inner : x.run.Writes P n) :
    (attempt x).run.Writes (fun m result => ∃ r, result = .ok r ∧ P m r) n :=
  Prog.Writes.bind inner fun _ r holds => ⟨r,rfl,holds⟩

theorem writes_attempt_bind {op : Go α} {k : Except GoError α → Go β} {P : Nat → Except GoError α → Prop}
    {Q : Nat → Except GoError β → Prop} (first : op.run.Writes P n) (rest : ∀ m r, P m r → (k r).run.Writes Q m) :
    (attempt op >>= k).run.Writes Q n :=
  writes_bind (writes_attempt first) (fun m r ⟨_,same,holds⟩ => by cases same; exact rest m r holds)
    fun _ _ ⟨_,same,_⟩ => by cases same

theorem writes_withLock {m : Nat} {body : Go α} {Q : Nat → Except GoError α → Prop} (inner : body.run.Writes Q n) :
    (withLock m body).run.Writes Q n := fun _ =>
  show (body.run >>= fun result => call (.unlock m) >>= fun _ => pure result).Writes Q n from
    Prog.Writes.bind inner fun _ _ holds _ => holds

theorem writes_withRLock {m : Nat} {body : Go α} {Q : Nat → Except GoError α → Prop} (inner : body.run.Writes Q n) :
    (withRLock m body).run.Writes Q n := fun _ =>
  show (body.run >>= fun result => call (.rUnlock m) >>= fun _ => pure result).Writes Q n from
    Prog.Writes.bind inner fun _ _ holds _ => holds

theorem writes_map {x : Go α} (f : α → β) {Q : Nat → Except GoError β → Prop}
    (inner : x.run.Writes (fun m r => Q m (f <$> r)) n) : (f <$> x).run.Writes Q n :=
  Prog.Writes.bind inner fun _ r holds => by cases r <;> exact holds

theorem readsOnly_bind {x : Go α} {k : α → Go β} (first : x.ReadsOnly) (rest : ∀ a, (k a).ReadsOnly) :
    (x >>= k).ReadsOnly := fun n =>
  writes_bind (first n) (fun m a same => by subst same; exact rest a m) fun _ _ same => same

theorem readsOnly_attempt {x : Go α} (inner : x.ReadsOnly) : (attempt x).ReadsOnly := fun n =>
  (writes_attempt (inner n)).mono fun _ _ ⟨_,_,same⟩ => same

theorem writesOnce_bind {x : Go α} {k : α → Go β} (first : x.ReadsOnly) (rest : ∀ a, (k a).WritesOnce) :
    (x >>= k).WritesOnce := fun n =>
  writes_bind (first n) (fun m a same => by subst same; exact rest a m) fun _ _ same => same

theorem writesOnce_bind_pure {x : Go α} {f : α → β} (first : x.WritesOnce) :
    (x >>= fun a => pure (f a)).WritesOnce := fun n =>
  writes_bind (first n) (fun _ _ holds => holds) fun _ _ holds => holds

end Go

namespace EtcdStorage
variable {α : Type}

theorem readsOnly_get (key : Bytes) (decode : Object → Except Bytes α) : (get key decode).ReadsOnly := fun n =>
  Go.writes_call_bind fun reply => by
    rcases reply with _ | _ | value
    · rfl
    · rfl
    · show (match decode value with
        | .error e => throw (wrap .decoding e)
        | .ok obj => pure obj : Go α).run.Writes _ n
      cases decode value <;> rfl

theorem readsOnly_list (pre : Bytes) (decode : Object → Except Bytes α) : (list pre decode).ReadsOnly := fun n =>
  Go.writes_call_bind fun reply => by
    rcases reply with _ | entries
    · rfl
    · show (match decodeAll decode entries with
        | .error e => throw (wrap .decoding e)
        | .ok objs => pure objs : Go (List α)).run.Writes _ n
      cases decodeAll decode entries <;> rfl

theorem writesOnce_create (key : Bytes) (obj : Object) : (create key obj).WritesOnce := fun _ =>
  Go.writes_call_bind fun reply => by rcases reply with _ | _ <;> rfl

theorem writesOnce_update (key : Bytes) (obj : Object) : (update key obj).WritesOnce := fun _ =>
  Go.writes_call_bind fun reply => by rcases reply with _ | _ <;> rfl

theorem writesOnce_delete (key : Bytes) : (delete key).WritesOnce := fun _ =>
  Go.writes_call_bind fun reply => by rcases reply with _ | _ <;> rfl

end EtcdStorage

theorem writesOnce_createChecked {α : Type} (key : Bytes) (decode : Object → Except Bytes α) (present : GoError)
    (prepare : Except GoError α) (encode : α → Object) : (createChecked key decode present prepare encode).WritesOnce :=
  Go.writesOnce_bind (Go.readsOnly_attempt (EtcdStorage.readsOnly_get key decode)) fun
    | .ok _ => fun _ => rfl
    | .error _ => Go.writesOnce_bind (fun _ => by cases prepare <;> rfl) fun obj =>
        Go.writesOnce_bind_pure (EtcdStorage.writesOnce_create key (encode obj))

namespace PodRegistry
variable (r : PodRegistry)

theorem writesOnce_createPod (pod : Pod) : (r.createPod pod).WritesOnce := fun n =>
  Go.writes_withLock (writesOnce_createChecked _ _ _ _ _ n)

theorem readsOnly_getPod (name : Bytes) : (r.getPod name).ReadsOnly := fun n =>
  Go.writes_withRLock (Go.readsOnly_bind (Go.readsOnly_attempt (EtcdStorage.readsOnly_get _ _)) (fun
    | .ok _ => fun _ => rfl
    | .error _ => fun _ => by dsimp only; split <;> rfl) n)

theorem writesOnce_updatePod (pod : Pod) : (r.updatePod pod).WritesOnce := fun n =>
  Go.writes_withLock (by
    show (match pod.validate with
      | .error e => throw (wrap .podInvalid e.text)
      | .ok () => EtcdStorage.update (r.generateKey pod.objectMeta.name) (.pod pod) : Go Unit).run.Writes _ n
    split
    · rfl
    · exact EtcdStorage.writesOnce_update _ _ n)

theorem writesOnce_deletePod (name : Bytes) : (r.deletePod name).WritesOnce := fun n =>
  Go.writes_withLock (EtcdStorage.writesOnce_delete _ n)

theorem readsOnly_listPods : r.listPods.ReadsOnly := fun n =>
  Go.writes_withRLock (Go.readsOnly_bind (Go.readsOnly_attempt (EtcdStorage.readsOnly_list _ _)) (fun
    | .ok _ => fun _ => rfl
    | .error _ => fun _ => rfl) n)

theorem readsOnly_listPodsByStatus (status : Bytes) : (r.listPodsByStatus status).ReadsOnly :=
  Go.readsOnly_bind (Go.readsOnly_attempt r.readsOnly_listPods) fun
    | .ok _ => fun _ => rfl
    | .error _ => fun _ => rfl

end PodRegistry

namespace NodeRegistry
variable (r : NodeRegistry)

theorem writesOnce_createNode (node : Node) : (r.createNode node).WritesOnce := writesOnce_createChecked _ _ _ _ _

theorem readsOnly_getNode (name : Bytes) : (r.getNode name).ReadsOnly :=
  Go.readsOnly_bind (Go.readsOnly_attempt (EtcdStorage.readsOnly_get _ _)) fun
    | .ok _ => fun _ => rfl
    | .error _ => fun _ => by dsimp only; split <;> rfl

theorem writesOnce_updateNode (node : Node) : (r.updateNode node).WritesOnce := fun n => by
  unfold updateNode
  split
  · rfl
  · exact EtcdStorage.writesOnce_update _ _ n

theorem writesOnce_deleteNode (name : Bytes) : (r.deleteNode name).WritesOnce := EtcdStorage.writesOnce_delete _

theorem readsOnly_listNodes : r.listNodes.ReadsOnly :=
  Go.readsOnly_bind (Go.readsOnly_attempt (EtcdStorage.readsOnly_list _ _)) fun
    | .ok _ => fun _ => rfl
    | .error _ => fun _ => rfl

end NodeRegistry

namespace ReplicaSetRegistry
variable (r : ReplicaSetRegistry)

theorem writesOnce_create (rs : ReplicaSet) : (r.create rs).WritesOnce := fun n =>
  Go.writes_withLock (writesOnce_createChecked _ _ _ _ _ n)

theorem readsOnly_get (name : Bytes) : (r.get name).ReadsOnly := fun n =>
  Go.writes_withRLock (Go.readsOnly_bind (Go.readsOnly_attempt (EtcdStorage.readsOnly_get _ _)) (fun
    | .ok _ => fun _ => rfl
    | .error _ => fun _ => rfl) n)

theorem writesOnce_update (rs : ReplicaSet) : (r.update rs).WritesOnce := fun n =>
  Go.writes_withLock (Go.writesOnce_bind (Go.readsOnly_attempt (EtcdStorage.readsOnly_get _ _)) (fun
    | .ok _ => EtcdStorage.writesOnce_update _ _
    | .error _ => fun _ => rfl) n)

theorem writesOnce_delete (name : Bytes) : (r.delete name).WritesOnce := fun n =>
  Go.writes_withLock (EtcdStorage.writesOnce_delete _ n)

theorem readsOnly_list : r.list.ReadsOnly := fun n =>
  Go.writes_withRLock (Go.readsOnly_bind (Go.readsOnly_attempt (EtcdStorage.readsOnly_list _ _)) (fun
    | .ok _ => fun _ => rfl
    | .error _ => fun _ => rfl) n)

end ReplicaSetRegistry

/-! ### Handlers -/

def answeredOK : Except GoError Nat → Bool
  | .ok status => status < statusBadRequest
  | .error _ => false

namespace Go
variable {α β : Type}

/-- The handler writes nothing, and its answer is a success exactly when `ok`. -/
def Answering (ok : Bool) (x : Go (Response α)) : Prop :=
  ∀ n, x.run.Writes (fun m r => m = n ∧ answeredOK (Response.status <$> r) = ok) n

/-- The handler writes once when it is `mutating` and answers a success, and
never otherwise. -/
def Answers (mutating : Bool) (x : Go (Response α)) : Prop :=
  ∀ n, x.run.Writes (fun m r => m = if mutating && answeredOK (Response.status <$> r) then n + 1 else n) n

theorem answering_ite {ok : Bool} {c : Prop} [Decidable c] {x y : Go (Response α)} (yes : x.Answering ok)
    (no : y.Answering ok) : (if c then x else y).Answering ok := by
  split
  · exact yes
  · exact no

theorem Answering.refuses {mutating : Bool} {x : Go (Response α)} (refused : x.Answering false) :
    x.Answers mutating := fun n =>
  (refused n).mono fun _ _ ⟨same,no⟩ => by simp [same,no]

theorem Answering.reads {ok : Bool} {x : Go (Response α)} (answering : x.Answering ok) : x.Answers false := fun n =>
  (answering n).mono fun _ _ ⟨same,_⟩ => same

theorem Answers.status {mutating : Bool} {x : Go (Response α)} (answers : x.Answers mutating) (n : Nat) :
    (Response.status <$> x).run.Writes (fun m r => m = if mutating && answeredOK r then n + 1 else n) n :=
  writes_map _ (answers n)

theorem answers_attempt_once {op : Go α} {k : Except GoError α → Go (Response β)} (once : op.WritesOnce)
    (refused : ∀ e, (k (.error e)).Answering false) (accepted : ∀ a, (k (.ok a)).Answering true) :
    (attempt op >>= k).Answers true := fun n =>
  writes_attempt_bind (once n) fun m r same => by
    subst same
    rcases r with e | a
    · exact (refused e n).mono fun _ _ ⟨same,no⟩ => by simp [same,no]
    · exact (accepted a (n + 1)).mono fun _ _ ⟨same,yes⟩ => by simp [same,yes]

theorem answers_attempt_reads {mutating : Bool} {op : Go α} {k : Except GoError α → Go (Response β)}
    (reads : op.ReadsOnly) (refused : ∀ e, (k (.error e)).Answering false) (next : ∀ a, (k (.ok a)).Answers mutating) :
    (attempt op >>= k).Answers mutating := fun n =>
  writes_attempt_bind (reads n) fun m r same => by
    subst same
    rcases r with e | a
    · exact (refused e).refuses m
    · exact next a m

end Go

namespace PodHandler
variable (h : PodHandler)

theorem answers_loadPodIntoRequest {α : Type} {mutating : Bool} (name : Bytes) {next : Pod → Go (Response α)}
    (rest : ∀ pod, (next pod).Answers mutating) : (h.loadPodIntoRequest name next).Answers mutating :=
  Go.answers_attempt_reads (h.podRegistry.readsOnly_getPod name)
    (fun _ => Go.answering_ite (fun _ => ⟨rfl,rfl⟩) fun _ => ⟨rfl,rfl⟩) rest

theorem answers_createPod (pod : Pod) : (h.createPod pod).Answers true :=
  Go.answers_attempt_once (h.podRegistry.writesOnce_createPod pod)
    (fun _ => Go.answering_ite (fun _ => ⟨rfl,rfl⟩) (Go.answering_ite (fun _ => ⟨rfl,rfl⟩) fun _ => ⟨rfl,rfl⟩))
    fun _ _ => ⟨rfl,rfl⟩

theorem answers_listPods : h.listPods.Answers false :=
  Go.answers_attempt_reads h.podRegistry.readsOnly_listPods (fun _ _ => ⟨rfl,rfl⟩)
    fun _ _ => rfl

theorem answers_getPod (pod : Pod) : (h.getPod pod).Answers false := fun _ => rfl

theorem answers_getPodRoute (name : Bytes) : (h.getPodRoute name).Answers false :=
  h.answers_loadPodIntoRequest name h.answers_getPod

theorem answers_putPodRoute (name : Bytes) (pod : Pod) : (h.putPodRoute name pod).Answers true :=
  h.answers_loadPodIntoRequest name fun existing => by
    unfold updatePod
    split
    · exact Go.Answering.refuses fun _ => ⟨rfl,rfl⟩
    · exact Go.answers_attempt_once (h.podRegistry.writesOnce_updatePod pod)
        (fun _ => Go.answering_ite (fun _ => ⟨rfl,rfl⟩) fun _ => ⟨rfl,rfl⟩) fun _ _ => ⟨rfl,rfl⟩

theorem answers_deletePodRoute (name : Bytes) : (h.deletePodRoute name).Answers true :=
  h.answers_loadPodIntoRequest name fun _ =>
    Go.answers_attempt_once (h.podRegistry.writesOnce_deletePod _) (fun _ _ => ⟨rfl,rfl⟩) fun _ _ => ⟨rfl,rfl⟩

theorem answers_listUnassignedPods : h.listUnassignedPods.Answers false :=
  Go.answers_attempt_reads (h.podRegistry.readsOnly_listPodsByStatus _) (fun _ _ => ⟨rfl,rfl⟩) fun _ _ => rfl

end PodHandler

namespace NodeHandler
variable (h : NodeHandler)

theorem answers_loadNodeIntoRequest {α : Type} {mutating : Bool} (name : Bytes) {next : Node → Go (Response α)}
    (rest : ∀ node, (next node).Answers mutating) : (h.loadNodeIntoRequest name next).Answers mutating :=
  Go.answers_attempt_reads (h.nodeRegistry.readsOnly_getNode name)
    (fun _ => Go.answering_ite (fun _ => ⟨rfl,rfl⟩) fun _ => ⟨rfl,rfl⟩) rest

theorem answers_getNode (node : Node) : (h.getNode node).Answers false := fun _ => rfl

theorem answers_createNode (node : Node) : (h.createNode node).Answers true :=
  Go.answers_attempt_once (h.nodeRegistry.writesOnce_createNode node)
    (fun _ => Go.answering_ite (fun _ => ⟨rfl,rfl⟩) (Go.answering_ite (fun _ => ⟨rfl,rfl⟩) fun _ => ⟨rfl,rfl⟩))
    fun _ _ => ⟨rfl,rfl⟩

theorem answers_listNodes : h.listNodes.Answers false :=
  Go.answers_attempt_reads h.nodeRegistry.readsOnly_listNodes (fun _ _ => ⟨rfl,rfl⟩) fun _ _ => rfl

theorem answers_putNodeRoute (name : Bytes) (node : Node) : (h.putNodeRoute name node).Answers true :=
  h.answers_loadNodeIntoRequest name fun existing => by
    unfold updateNode
    split
    · exact Go.Answering.refuses fun _ => ⟨rfl,rfl⟩
    · exact Go.answers_attempt_once (h.nodeRegistry.writesOnce_updateNode node)
        (fun _ => Go.answering_ite (fun _ => ⟨rfl,rfl⟩) fun _ => ⟨rfl,rfl⟩) fun _ _ => ⟨rfl,rfl⟩

theorem answers_deleteNodeRoute (name : Bytes) : (h.deleteNodeRoute name).Answers true :=
  h.answers_loadNodeIntoRequest name fun _ =>
    Go.answers_attempt_once (h.nodeRegistry.writesOnce_deleteNode _) (fun _ _ => ⟨rfl,rfl⟩) fun _ _ => ⟨rfl,rfl⟩

end NodeHandler

namespace ReplicasetHandler
variable (h : ReplicasetHandler)

theorem answers_loadReplicasetIntoRequest {α : Type} {mutating : Bool} (name : Bytes)
    {next : ReplicaSet → Go (Response α)} (rest : ∀ rs, (next rs).Answers mutating) :
    (h.loadReplicasetIntoRequest name next).Answers mutating :=
  Go.answers_attempt_reads (h.replicasetRegistry.readsOnly_get name)
    (fun _ => Go.answering_ite (fun _ => ⟨rfl,rfl⟩) fun _ => ⟨rfl,rfl⟩) rest

theorem answers_getReplicaset (rs : ReplicaSet) : (h.getReplicaset rs).Answers false := fun _ => rfl

theorem answers_createReplicaset (rs : ReplicaSet) : (h.createReplicaset rs).Answers true :=
  Go.answers_attempt_once (h.replicasetRegistry.writesOnce_create rs)
    (fun _ => Go.answering_ite (fun _ => ⟨rfl,rfl⟩) fun _ => ⟨rfl,rfl⟩) fun _ _ => ⟨rfl,rfl⟩

theorem answers_listReplicasets : h.listReplicasets.Answers false :=
  Go.answers_attempt_reads h.replicasetRegistry.readsOnly_list (fun _ _ => ⟨rfl,rfl⟩) fun _ _ => rfl

theorem answers_putReplicasetRoute (name : Bytes) (rs : ReplicaSet) : (h.putReplicasetRoute name rs).Answers true :=
  h.answers_loadReplicasetIntoRequest name fun existing => by
    unfold updateReplicaset
    split
    · exact Go.Answering.refuses fun _ => ⟨rfl,rfl⟩
    · exact Go.answers_attempt_once (h.replicasetRegistry.writesOnce_update rs) (fun _ _ => ⟨rfl,rfl⟩)
        fun _ _ => ⟨rfl,rfl⟩

theorem answers_deleteReplicasetRoute (name : Bytes) : (h.deleteReplicasetRoute name).Answers true :=
  h.answers_loadReplicasetIntoRequest name fun _ =>
    Go.answers_attempt_once (h.replicasetRegistry.writesOnce_delete _) (fun _ _ => ⟨rfl,rfl⟩) fun _ _ => ⟨rfl,rfl⟩

end ReplicasetHandler

/-- Every route of the API server writes to etcd at most once, whatever the
replies of its calls: a `POST`, `PUT` or `DELETE` answered with a success writes
once, and a request answered with a failure, or a `GET`, never writes. -/
theorem ApiServer.answers_serve (s : ApiServer) (req : Request) (n : Nat) :
    (s.serve req).run.Writes (fun m r => m = if !req.isGet && answeredOK r then n + 1 else n) n := by
  cases req with
  | healthz => rfl
  | createPod pod => exact (s.podHandler.answers_createPod pod).status n
  | listPods => exact s.podHandler.answers_listPods.status n
  | getPod name => exact (s.podHandler.answers_getPodRoute name).status n
  | updatePod name pod => exact (s.podHandler.answers_putPodRoute name pod).status n
  | deletePod name => exact (s.podHandler.answers_deletePodRoute name).status n
  | listUnassignedPods => exact s.podHandler.answers_listUnassignedPods.status n
  | createNode node => exact (s.nodeHandler.answers_createNode node).status n
  | listNodes => exact s.nodeHandler.answers_listNodes.status n
  | getNode name => exact (s.nodeHandler.answers_loadNodeIntoRequest name s.nodeHandler.answers_getNode).status n
  | updateNode name node => exact (s.nodeHandler.answers_putNodeRoute name node).status n
  | deleteNode name => exact (s.nodeHandler.answers_deleteNodeRoute name).status n
  | createReplicaset rs => exact (s.replicasetHandler.answers_createReplicaset rs).status n
  | listReplicasets => exact s.replicasetHandler.answers_listReplicasets.status n
  | getReplicaset name =>
    exact (s.replicasetHandler.answers_loadReplicasetIntoRequest name s.replicasetHandler.answers_getReplicaset).status n
  | updateReplicaset name rs => exact (s.replicasetHandler.answers_putReplicasetRoute name rs).status n
  | deleteReplicaset name => exact (s.replicasetHandler.answers_deleteReplicasetRoute name).status n

/-- A request's goroutine, along any path to its answer, wrote to etcd once if
the route is not a `GET` and the answer a success, and never otherwise. -/
theorem ApiServer.serve_writes_once (s : ApiServer) (req : Request) {evs : List Event} {status : Nat}
    (path : Prog.Path (s.serve req).run evs (.done (.ok status))) :
    evs.countP Event.wrote = if req.isGet = false ∧ status < statusBadRequest then 1 else 0 := by
  have counted := (s.answers_serve req 0).path path
  simp only [Nat.zero_add,answeredOK] at counted
  rw [counted]
  cases req.isGet <;> simp

def createWebRequest : Request := .createPod (podNamed (lit "web") nginx)

theorem serve_writes_once_web :
    ∃ evs, Prog.Path (sampleServer.serve createWebRequest).run evs (.done (.ok statusCreated)) ∧
      evs.countP Event.wrote = if createWebRequest.isGet = false ∧ statusCreated < statusBadRequest then 1 else 0 := by
  obtain ⟨evs,path⟩ := Prog.path_of_exec (by decide :
    (sampleServer.serve createWebRequest).run.exec (World.start Store.empty [] []) =
      some (.returned (.ok statusCreated),(sampleServer.serve createWebRequest).after (World.start Store.empty [] [])))
  exact ⟨evs,path,ApiServer.serve_writes_once _ _ path⟩

end Gokube
