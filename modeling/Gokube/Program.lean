import Gokube.Store
import Gokube.Runtime
import Gokube.Names

/-! Goroutines as programs over the calls they suspend on; `perform` is the
one account of what a call does to the world. An external call fails in
transport, with no effect, when the world's next failure bit says so. -/

namespace Gokube

/-- A round trip of the etcd client. -/
inductive Call where
  | get (key : Bytes)
  | range (pre : Bytes)
  | put (key : Bytes) (value : Object)
  | delete (key : Bytes)
  | deleteRange (pre : Bytes)
  deriving DecidableEq, Repr

def Call.Response : Call → Type
  | .get _ => Option Object
  | .range _ => List (Bytes × Object)
  | .put .. | .delete _ | .deleteRange _ => Unit

def Call.apply : (call : Call) → Store → call.Response × Store
  | .get key, s => (s.get key,s)
  | .range pre, s => (s.range pre,s)
  | .put key value, s => ((),s.put key value)
  | .delete key, s => ((),s.delete key)
  | .deleteRange pre, s => ((),s.deleteRange pre)

/-- A suspension point of a goroutine. -/
inductive Effect where
  | etcd (call : Call)
  | lock (mutex : Nat)
  | unlock (mutex : Nat)
  | rLock (mutex : Nat)
  | rUnlock (mutex : Nat)
  /-- `names.String(n)`, under the names package's own mutex. -/
  | randomString (n : Nat)
  /-- `rand.Intn(n)` of `math/rand`. -/
  | intn (n : Nat)
  | docker (call : DockerCall)
  /-- An HTTP request reaching the API server, whose handler then runs. -/
  | dial
  /-- `k.pods[name]` of node agent `agent`. -/
  | lookupPod (agent : Nat) (name : Bytes)
  | trackPod (agent : Nat) (pod : Pod)
  | trackedPods (agent : Nat)
  | setPodStatus (agent : Nat) (name status : Bytes)
  /-- `go k.runPod(pod)`. -/
  | spawnRunner (agent : Nat) (pod : Pod)
  deriving DecidableEq, Repr

def Effect.Reply : Effect → Type
  | .etcd call => Except Bytes call.Response
  | .docker call => Except Bytes call.Response
  | .dial => Except Bytes Unit
  | .randomString _ => Bytes
  | .intn _ => Nat
  | .lookupPod .. => Option Pod
  | .trackedPods _ => List Pod
  | .lock _ | .unlock _ | .rLock _ | .rUnlock _ | .trackPod .. | .setPodStatus .. | .spawnRunner .. => Unit

/-- A goroutine's code from a point on: it returns, the process exits
(`log.Fatalf`, `panic`), or it suspends on an effect. -/
inductive Prog (α : Type) where
  | done (a : α)
  | halt (reason : Bytes)
  | step (e : Effect) (next : e.Reply → Prog α)

def Prog.bind {α β : Type} : Prog α → (α → Prog β) → Prog β
  | .done a, f => f a
  | .halt reason, _ => .halt reason
  | .step e next, f => .step e fun reply => (next reply).bind f

instance : Monad Prog where
  pure := .done
  bind := Prog.bind

def call (e : Effect) : Prog e.Reply := .step e .done

/-- The world the goroutines share. -/
structure World where
  store : Store
  /-- The outcome of each external call in turn: `true` fails it. -/
  failures : List Bool
  /-- The `Int63` values the names package's source will draw. -/
  rng : List Nat
  /-- The values `rand.Intn` will return, each reduced below its bound. -/
  rand : List Nat
  writers : List Nat
  readers : List Nat
  runtime : Runtime
  /-- Each node agent's `pods` map, in insertion order. -/
  agents : List (Nat × List (Bytes × Pod))
  /-- Pod runners started with `go` and not yet running as goroutines. -/
  runners : List (Nat × Pod)
  deriving DecidableEq

/-- A world on store `s` where no call fails, no mutex is held, the runtime is
empty and no node agent has started. -/
def World.start (s : Store) (rng rand : List Nat) : World := ⟨s,[],rng,rand,[],[],⟨[],[]⟩,[],[]⟩

def transportError : Bytes := lit "context deadline exceeded"

def World.memory (w : World) (agent : Nat) : List (Bytes × Pod) := (w.agents.lookup agent).getD []

def World.setMemory (w : World) (agent : Nat) (memory : List (Bytes × Pod)) : World :=
  {w with agents := (agent,memory) :: w.agents.filter (·.1 != agent)}

/-- `m[key] = value` on a Go map held in insertion order. -/
def assign {β : Type} (m : List (Bytes × β)) (key : Bytes) (value : β) : List (Bytes × β) :=
  if m.any (·.1 == key) then m.map fun entry => if entry.1 = key then (key,value) else entry
  else m ++ [(key,value)]

/-- Consume the next failure bit of an external call. -/
def World.fails (w : World) : Bool × World :=
  (w.failures.headD false,{w with failures := w.failures.tail})

@[simp] theorem World.fails_store (w : World) : w.fails.2.store = w.store := rfl
@[simp] theorem World.fails_runtime (w : World) : w.fails.2.runtime = w.runtime := rfl

def perform : (e : Effect) → World → Option (e.Reply × World)
  | .etcd call, w =>
    let (failed,w) := w.fails
    if failed then some (.error transportError,w)
    else let (response,s) := call.apply w.store; some (.ok response,{w with store := s})
  | .docker call, w =>
    let (failed,w) := w.fails
    if failed then some (.error transportError,w)
    else let (response,rt) := call.apply w.runtime; some (response,{w with runtime := rt})
  | .dial, w =>
    let (failed,w) := w.fails
    some (if failed then .error transportError else .ok (),w)
  | .lock m, w => if m ∈ w.writers ∨ m ∈ w.readers then none else some ((),{w with writers := m :: w.writers})
  | .unlock m, w => some ((),{w with writers := w.writers.erase m})
  | .rLock m, w => if m ∈ w.writers then none else some ((),{w with readers := m :: w.readers})
  | .rUnlock m, w => some ((),{w with readers := w.readers.erase m})
  | .randomString n, w => (Names.String n w.rng).map fun drawn => (drawn.1,{w with rng := drawn.2})
  | .intn n, w =>
    match w.rand with
    | [] => none
    | k :: rest => some (k % n,{w with rand := rest})
  | .lookupPod agent name, w => some ((w.memory agent).lookup name,w)
  | .trackPod agent pod, w => some ((),w.setMemory agent (assign (w.memory agent) pod.objectMeta.name pod))
  | .trackedPods agent, w => some ((w.memory agent).map (·.2),w)
  | .setPodStatus agent name status, w =>
    some ((),w.setMemory agent ((w.memory agent).map fun entry =>
      if entry.1 = name then (name,{entry.2 with status := status}) else entry))
  | .spawnRunner agent pod, w => some ((),{w with runners := w.runners ++ [(agent,pod)]})

theorem perform_etcd (call : Call) (w : World) :
    perform (.etcd call) w =
      if w.fails.1 then some (.error transportError,w.fails.2)
      else some (.ok (call.apply w.store).1,{w.fails.2 with store := (call.apply w.store).2}) :=
  rfl

theorem perform_store {e : Effect} {w w' : World} {reply : e.Reply} (performed : perform e w = some (reply,w')) :
    w'.store = w.store ∨ ∃ call, e = .etcd call ∧ w'.store = (call.apply w.store).2 := by
  cases e with
  | etcd call =>
    rw [perform_etcd] at performed
    split at performed <;> obtain ⟨-,rfl⟩ := Option.some.inj performed
    · exact .inl rfl
    · exact .inr ⟨call,rfl,rfl⟩
  | docker call =>
    simp only [perform] at performed
    split at performed <;> obtain ⟨-,rfl⟩ := Option.some.inj performed <;> exact .inl rfl
  | lock _ | rLock _ | intn _ =>
    simp only [perform] at performed
    split at performed
    · cases performed
    · obtain ⟨-,rfl⟩ := Option.some.inj performed; exact .inl rfl
  | randomString n =>
    obtain ⟨_,-,same⟩ := Option.map_eq_some'.mp performed
    cases same; exact .inl rfl
  | _ => obtain ⟨-,rfl⟩ := Option.some.inj performed; exact .inl rfl

private theorem lookup_filter_other {β : Type} (entries : List (Nat × β)) (agent other : Nat) (apart : other ≠ agent) :
    (entries.filter (·.1 != agent)).lookup other = entries.lookup other := by
  induction entries with
  | nil => rfl
  | cons entry rest ih =>
    obtain ⟨k,v⟩ := entry
    by_cases hit : k = agent
    · subst hit
      simp [List.filter_cons,ih,List.lookup_cons,beq_false_of_ne apart]
    · by_cases found : other = k
      · subst found; simp [List.filter_cons,hit,List.lookup_cons]
      · simp [List.filter_cons,hit,ih,List.lookup_cons,beq_false_of_ne found]

@[simp] theorem World.memory_setMemory (w : World) (agent other : Nat) (memory : List (Bytes × Pod)) :
    (w.setMemory agent memory).memory other = if other = agent then memory else w.memory other := by
  by_cases same : other = agent
  · subst same; simp [World.memory,World.setMemory,List.lookup_cons]
  · simp [World.memory,World.setMemory,List.lookup_cons,beq_false_of_ne same,lookup_filter_other _ _ _ same,same]

theorem perform_runners {e : Effect} {w w' : World} {reply : e.Reply} (performed : perform e w = some (reply,w')) :
    w'.runners = w.runners ∨ ∃ agent pod, e = .spawnRunner agent pod ∧ w'.runners = w.runners ++ [(agent,pod)] := by
  cases e with
  | etcd call =>
    rw [perform_etcd] at performed
    split at performed <;> obtain ⟨-,rfl⟩ := Option.some.inj performed <;> exact .inl rfl
  | docker call =>
    simp only [perform] at performed
    split at performed <;> obtain ⟨-,rfl⟩ := Option.some.inj performed <;> exact .inl rfl
  | lock _ | rLock _ | intn _ =>
    simp only [perform] at performed
    split at performed
    · cases performed
    · obtain ⟨-,rfl⟩ := Option.some.inj performed; exact .inl rfl
  | randomString n =>
    obtain ⟨_,-,same⟩ := Option.map_eq_some'.mp performed
    cases same; exact .inl rfl
  | spawnRunner agent pod => obtain ⟨-,rfl⟩ := Option.some.inj performed; exact .inr ⟨agent,pod,rfl,rfl⟩
  | _ => obtain ⟨-,rfl⟩ := Option.some.inj performed; exact .inl rfl

theorem perform_agents {e : Effect} {w w' : World} {reply : e.Reply} (performed : perform e w = some (reply,w')) :
    w'.agents = w.agents ∨
      (∃ agent pod, e = .trackPod agent pod ∧
        w' = w.setMemory agent (assign (w.memory agent) pod.objectMeta.name pod)) ∨
      ∃ agent name status, e = .setPodStatus agent name status ∧
        w' = w.setMemory agent ((w.memory agent).map fun entry =>
          if entry.1 = name then (name,{entry.2 with status := status}) else entry) := by
  cases e with
  | etcd call =>
    rw [perform_etcd] at performed
    split at performed <;> obtain ⟨-,rfl⟩ := Option.some.inj performed <;> exact .inl rfl
  | docker call =>
    simp only [perform] at performed
    split at performed <;> obtain ⟨-,rfl⟩ := Option.some.inj performed <;> exact .inl rfl
  | lock _ | rLock _ | intn _ =>
    simp only [perform] at performed
    split at performed
    · cases performed
    · obtain ⟨-,rfl⟩ := Option.some.inj performed; exact .inl rfl
  | randomString n =>
    obtain ⟨_,-,same⟩ := Option.map_eq_some'.mp performed
    cases same; exact .inl rfl
  | trackPod agent pod => obtain ⟨-,rfl⟩ := Option.some.inj performed; exact .inr (.inl ⟨agent,pod,rfl,rfl⟩)
  | setPodStatus agent name status =>
    obtain ⟨-,rfl⟩ := Option.some.inj performed; exact .inr (.inr ⟨agent,name,status,rfl,rfl⟩)
  | _ => obtain ⟨-,rfl⟩ := Option.some.inj performed; exact .inl rfl

theorem perform_writers {e : Effect} {w w' : World} {reply : e.Reply} (performed : perform e w = some (reply,w')) :
    (∃ m, e = .lock m ∧ m ∉ w.writers ∧ w'.writers = m :: w.writers) ∨
      (∃ m, e = .unlock m ∧ w'.writers = w.writers.erase m) ∨
      (∀ m, e ≠ .lock m ∧ e ≠ .unlock m) ∧ w'.writers = w.writers := by
  cases e with
  | etcd call =>
    rw [perform_etcd] at performed
    split at performed <;> obtain ⟨-,rfl⟩ := Option.some.inj performed <;> exact .inr (.inr ⟨fun _ => ⟨nofun,nofun⟩,rfl⟩)
  | docker call =>
    simp only [perform] at performed
    split at performed <;> obtain ⟨-,rfl⟩ := Option.some.inj performed <;> exact .inr (.inr ⟨fun _ => ⟨nofun,nofun⟩,rfl⟩)
  | lock m =>
    simp only [perform] at performed
    split at performed
    · cases performed
    · next free => obtain ⟨-,rfl⟩ := Option.some.inj performed; exact .inl ⟨m,rfl,fun held => free (.inl held),rfl⟩
  | unlock m => obtain ⟨-,rfl⟩ := Option.some.inj performed; exact .inr (.inl ⟨m,rfl,rfl⟩)
  | rLock _ | intn _ =>
    simp only [perform] at performed
    split at performed
    · cases performed
    · obtain ⟨-,rfl⟩ := Option.some.inj performed; exact .inr (.inr ⟨fun _ => ⟨nofun,nofun⟩,rfl⟩)
  | randomString n =>
    obtain ⟨_,-,same⟩ := Option.map_eq_some'.mp performed
    cases same; exact .inr (.inr ⟨fun _ => ⟨nofun,nofun⟩,rfl⟩)
  | _ => obtain ⟨-,rfl⟩ := Option.some.inj performed; exact .inr (.inr ⟨fun _ => ⟨nofun,nofun⟩,rfl⟩)

theorem perform_readers {e : Effect} {w w' : World} {reply : e.Reply} (performed : perform e w = some (reply,w')) :
    (∃ m, e = .rLock m ∧ m ∉ w.writers ∧ w'.readers = m :: w.readers) ∨
      (∃ m, e = .rUnlock m ∧ w'.readers = w.readers.erase m) ∨
      (∀ m, e ≠ .rLock m ∧ e ≠ .rUnlock m) ∧ w'.readers = w.readers := by
  cases e with
  | etcd call =>
    rw [perform_etcd] at performed
    split at performed <;> obtain ⟨-,rfl⟩ := Option.some.inj performed <;> exact .inr (.inr ⟨fun _ => ⟨nofun,nofun⟩,rfl⟩)
  | docker call =>
    simp only [perform] at performed
    split at performed <;> obtain ⟨-,rfl⟩ := Option.some.inj performed <;> exact .inr (.inr ⟨fun _ => ⟨nofun,nofun⟩,rfl⟩)
  | rLock m =>
    simp only [perform] at performed
    split at performed
    · cases performed
    · next free => obtain ⟨-,rfl⟩ := Option.some.inj performed; exact .inl ⟨m,rfl,free,rfl⟩
  | rUnlock m => obtain ⟨-,rfl⟩ := Option.some.inj performed; exact .inr (.inl ⟨m,rfl,rfl⟩)
  | lock _ | intn _ =>
    simp only [perform] at performed
    split at performed
    · cases performed
    · obtain ⟨-,rfl⟩ := Option.some.inj performed; exact .inr (.inr ⟨fun _ => ⟨nofun,nofun⟩,rfl⟩)
  | randomString n =>
    obtain ⟨_,-,same⟩ := Option.map_eq_some'.mp performed
    cases same; exact .inr (.inr ⟨fun _ => ⟨nofun,nofun⟩,rfl⟩)
  | _ => obtain ⟨-,rfl⟩ := Option.some.inj performed; exact .inr (.inr ⟨fun _ => ⟨nofun,nofun⟩,rfl⟩)

/-- How a goroutine ended. -/
inductive Halt (α : Type) where
  | returned (a : α)
  | exited (reason : Bytes)
  deriving DecidableEq, Repr

/-- A goroutine running alone; `none` when it blocks on a held mutex or needs
more random values than the world holds. -/
def Prog.exec {α : Type} : Prog α → World → Option (Halt α × World)
  | .done a, w => some (.returned a,w)
  | .halt reason, w => some (.exited reason,w)
  | .step e next, w =>
    match perform e w with
    | some (reply,w') => (next reply).exec w'
    | none => none

namespace Prog
variable {α β : Type}

@[simp] theorem pure_eq (a : α) : (pure a : Prog α) = .done a := rfl
@[simp] theorem done_bind (a : α) (f : α → Prog β) : (Prog.done a >>= f) = f a := rfl
@[simp] theorem halt_bind (reason : Bytes) (f : α → Prog β) : (Prog.halt reason >>= f) = .halt reason := rfl
@[simp] theorem step_bind (e : Effect) (next : e.Reply → Prog α) (f : α → Prog β) :
    (Prog.step e next >>= f) = .step e fun reply => next reply >>= f := rfl

@[simp] theorem map_eq (f : α → β) (x : Prog α) : f <$> x = x >>= fun a => .done (f a) := rfl

@[simp] theorem exec_done (a : α) (w : World) : (Prog.done a).exec w = some (.returned a,w) := rfl
@[simp] theorem exec_halt (reason : Bytes) (w : World) :
    (Prog.halt reason : Prog α).exec w = some (.exited reason,w) := rfl

theorem exec_step (e : Effect) (next : e.Reply → Prog α) (w : World) :
    (Prog.step e next).exec w = (perform e w).bind fun result => (next result.1).exec result.2 := by
  simp only [exec]
  cases perform e w <;> rfl

theorem exec_bind (x : Prog α) (f : α → Prog β) (w : World) :
    (x >>= f).exec w = (x.exec w).bind fun
      | (.returned a,w') => (f a).exec w'
      | (.exited reason,w') => some (.exited reason,w') := by
  induction x generalizing w with
  | done a => rfl
  | halt reason => rfl
  | step e next ih =>
    rw [step_bind,exec_step,exec_step,Option.bind_assoc]
    congr 1
    funext result
    exact ih result.1 result.2

end Prog

/-- Go code: a goroutine's computation that returns a value or an `error`. -/
abbrev Go := ExceptT GoError Prog

namespace Go
variable {α β : Type}

def exec (x : Go α) (w : World) : Option (Halt (Except GoError α) × World) := x.run.exec w

def call (e : Effect) : Go e.Reply := ExceptT.lift (Gokube.call e)

theorem exec_bind (x : Go α) (f : α → Go β) (w : World) :
    (x >>= f).exec w = (x.exec w).bind fun
      | (.returned (.ok a),w') => (f a).exec w'
      | (.returned (.error e),w') => some (.returned (.error e),w')
      | (.exited reason,w') => some (.exited reason,w') := by
  simp only [exec,ExceptT.run_bind,Prog.exec_bind]
  congr 1
  funext result
  rcases result with ⟨⟨_ | _⟩ | _,_⟩ <;> rfl

@[simp] theorem exec_pure (a : α) (w : World) : (pure a : Go α).exec w = some (.returned (.ok a),w) := rfl
@[simp] theorem exec_throw (e : GoError) (w : World) :
    (throw e : Go α).exec w = some (.returned (.error e),w) := rfl

theorem exec_call (e : Effect) (w : World) :
    (call e).exec w = (perform e w).map fun result => (.returned (.ok result.1),result.2) := by
  simp only [exec,call,ExceptT.run_lift,Gokube.call]
  change (Prog.step e fun reply => Prog.done (Except.ok reply)).exec w = _
  rw [Prog.exec_step]
  cases perform e w <;> rfl

theorem exec_bind_ok {x : Go α} {f : α → Go β} {w w' : World} {a : α}
    (first : x.exec w = some (.returned (.ok a),w')) : (x >>= f).exec w = (f a).exec w' := by
  rw [exec_bind,first]; rfl

theorem exec_bind_error {x : Go α} {f : α → Go β} {w w' : World} {e : GoError}
    (first : x.exec w = some (.returned (.error e),w')) :
    (x >>= f).exec w = some (.returned (.error e),w') := by
  rw [exec_bind,first]; rfl

theorem exec_bind_ok_inv {x : Go α} {f : α → Go β} {w w'' : World} {b : β}
    (ran : (x >>= f).exec w = some (.returned (.ok b),w'')) :
    ∃ a w', x.exec w = some (.returned (.ok a),w') ∧ (f a).exec w' = some (.returned (.ok b),w'') := by
  rw [exec_bind] at ran
  rcases first : x.exec w with _ | ⟨⟨_ | a⟩ | _,w'⟩ <;> rw [first] at ran <;> simp at ran
  exact ⟨a,w',rfl,ran⟩

/-- `log.Fatalf` and `panic`: the process exits. -/
def fatal (reason : Bytes) : Go α := ExceptT.lift (.halt reason)

@[simp] theorem exec_fatal (reason : Bytes) (w : World) :
    (fatal reason : Go α).exec w = some (.exited reason,w) := rfl

/-- The world a run of `x` from `w` ends in; `w` itself when the run blocks. -/
def after (x : Go α) (w : World) : World := ((x.exec w).map (·.2)).getD w

def ofExcept (result : Except GoError α) : Go α := ExceptT.mk (.done result)

@[simp] theorem exec_ofExcept (result : Except GoError α) (w : World) :
    (ofExcept result).exec w = some (.returned result,w) := rfl

end Go

/-- `m.Lock(); defer m.Unlock()` around `body`. -/
def withLock {α : Type} (mutex : Nat) (body : Go α) : Go α :=
  ExceptT.mk do
    call (.lock mutex)
    let result ← body.run
    call (.unlock mutex)
    pure result

def withRLock {α : Type} (mutex : Nat) (body : Go α) : Go α :=
  ExceptT.mk do
    call (.rLock mutex)
    let result ← body.run
    call (.rUnlock mutex)
    pure result

theorem Go.exec_withLock {α : Type} (m : Nat) (body : Go α) (w : World) (free : m ∉ w.writers ∧ m ∉ w.readers) :
    (withLock m body).exec w = (body.exec {w with writers := m :: w.writers}).bind fun
      | (.returned result,w') => some (.returned result,{w' with writers := w'.writers.erase m})
      | (.exited reason,w') => some (.exited reason,w') := by
  simp only [withLock,Go.exec,ExceptT.run_mk,Prog.exec_bind,Gokube.call,Prog.exec_step,perform,free,or_self,
    ite_false,Option.some_bind,Prog.exec_done]
  congr 1
  funext result
  rcases result with ⟨_ | _,_⟩ <;> rfl

theorem Go.exec_withRLock {α : Type} (m : Nat) (body : Go α) (w : World) (free : m ∉ w.writers) :
    (withRLock m body).exec w = (body.exec {w with readers := m :: w.readers}).bind fun
      | (.returned result,w') => some (.returned result,{w' with readers := w'.readers.erase m})
      | (.exited reason,w') => some (.exited reason,w') := by
  simp only [withRLock,Go.exec,ExceptT.run_mk,Prog.exec_bind,Gokube.call,Prog.exec_step,perform,free,
    ite_false,Option.some_bind,Prog.exec_done]
  congr 1
  funext result
  rcases result with ⟨_ | _,_⟩ <;> rfl

theorem Go.exec_withLock_held {α : Type} (m : Nat) (body : Go α) (w : World) (held : m ∈ w.writers ∨ m ∈ w.readers) :
    (withLock m body).exec w = none := by
  simp only [withLock,Go.exec,ExceptT.run_mk,Prog.exec_bind,Gokube.call,Prog.exec_step,perform,held,ite_true,
    Option.none_bind]

theorem Go.exec_withRLock_held {α : Type} (m : Nat) (body : Go α) (w : World) (held : m ∈ w.writers) :
    (withRLock m body).exec w = none := by
  simp only [withRLock,Go.exec,ExceptT.run_mk,Prog.exec_bind,Gokube.call,Prog.exec_step,perform,held,ite_true,
    Option.none_bind]

theorem World.fails_quiet {w : World} (quiet : w.failures = []) : w.fails = (false,w) := by
  cases w; subst quiet; rfl

/-- `simpleNameGenerator.GenerateName(base)`. -/
def generateName (base : Bytes) : Prog Bytes := do
  let suffix : Bytes ← call (.randomString Names.randomLength)
  pure (Names.truncateBase base ++ suffix)

end Gokube
