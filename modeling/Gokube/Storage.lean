import Gokube.Program

/-! `storage.EtcdStorage`: typed create, read, update and delete over the etcd
client, and listing under a key prefix. A client error is `ErrEtcdClient`, an
absent key `ErrNotFound`, a document that does not decode `ErrDecoding`.
`Create` and `Update` are the same unconditional put. -/

namespace Gokube

/-- Run `x` and hand its error to the caller as a value, as Go code that
inspects `err` does. -/
def Go.attempt {α : Type} (x : Go α) : Go (Except GoError α) := ExceptT.lift x.run

theorem Go.exec_attempt {α : Type} (x : Go α) (w : World) :
    (Go.attempt x).exec w = (x.exec w).map fun
      | (.returned result,w') => (.returned (.ok result),w')
      | (.exited reason,w') => (.exited reason,w') := by
  simp only [Go.attempt,Go.exec,ExceptT.run_lift,Prog.map_eq,Prog.exec_bind]
  cases x.run.exec w with
  | none => rfl
  | some result => rcases result with ⟨_ | _,_⟩ <;> rfl

/-- The values under a prefix, decoded in key order; the first failure ends it. -/
def decodeAll {α : Type} (decode : Object → Except Bytes α) : List (Bytes × Object) → Except Bytes (List α)
  | [] => .ok []
  | (_,value) :: rest => do
    let obj ← decode value
    let objs ← decodeAll decode rest
    pure (obj :: objs)

section DecodeAll
variable {α : Type} {decode : Object → Except Bytes α}

theorem decodeAll_ok {entries : List (Bytes × Object)} {objs : List α} (ok : decodeAll decode entries = .ok objs) :
    List.Forall₂ (fun entry obj => decode entry.2 = .ok obj) entries objs := by
  induction entries generalizing objs with
  | nil => cases ok; exact .nil
  | cons entry rest ih =>
    cases first : decode entry.2 <;> cases others : decodeAll decode rest <;>
      simp [decodeAll,first,others,bind,Except.bind,pure,Except.pure] at ok
    subst ok
    exact .cons first (ih others)

theorem decodeAll_ok_each {entries : List (Bytes × Object)} {objs : List α} (ok : decodeAll decode entries = .ok objs) :
    ∀ entry ∈ entries, (decode entry.2).toBool = true := by
  have pairs := decodeAll_ok ok
  clear ok
  intro entry mem
  induction pairs with
  | nil => cases mem
  | cons decoded _ ih =>
    rcases List.mem_cons.mp mem with rfl | later
    · simp [decoded,Except.toBool]
    · exact ih later

theorem decodeAll_mem {entries : List (Bytes × Object)} {objs : List α} (ok : decodeAll decode entries = .ok objs)
    {obj : α} (mem : obj ∈ objs) : ∃ entry ∈ entries, decode entry.2 = .ok obj := by
  have pairs := decodeAll_ok ok
  clear ok
  induction pairs with
  | nil => cases mem
  | cons decoded _ ih =>
    rcases List.mem_cons.mp mem with rfl | later
    · exact ⟨_,List.mem_cons_self _ _,decoded⟩
    · obtain ⟨entry,inside,found⟩ := ih later
      exact ⟨entry,List.mem_cons_of_mem _ inside,found⟩

theorem decodeAll_mem_of {entries : List (Bytes × Object)} {objs : List α} (ok : decodeAll decode entries = .ok objs)
    {entry : Bytes × Object} (mem : entry ∈ entries) : ∃ obj ∈ objs, decode entry.2 = .ok obj := by
  have pairs := decodeAll_ok ok
  clear ok
  induction pairs with
  | nil => cases mem
  | cons decoded _ ih =>
    rcases List.mem_cons.mp mem with rfl | later
    · exact ⟨_,List.mem_cons_self _ _,decoded⟩
    · obtain ⟨obj,inside,found⟩ := ih later
      exact ⟨obj,List.mem_cons_of_mem _ inside,found⟩

theorem decodeAll_of_decodes {entries : List (Bytes × Object)}
    (each : ∀ entry ∈ entries, (decode entry.2).toBool = true) : ∃ objs, decodeAll decode entries = .ok objs := by
  induction entries with
  | nil => exact ⟨[],rfl⟩
  | cons entry rest ih =>
    obtain ⟨objs,others⟩ := ih fun e mem => each e (List.mem_cons_of_mem _ mem)
    have first := each entry (List.mem_cons_self _ _)
    cases found : decode entry.2 with
    | error _ => simp [found,Except.toBool] at first
    | ok obj => exact ⟨obj :: objs,by simp [decodeAll,found,others,bind,Except.bind,pure,Except.pure]⟩

end DecodeAll

namespace EtcdStorage
variable {α : Type}

def create (key : Bytes) (obj : Object) : Go Unit := do
  match ← Go.call (.etcd (.put key obj)) with
  | .error e => throw (wrap .etcdClient e)
  | .ok _ => pure ()

def get (key : Bytes) (decode : Object → Except Bytes α) : Go α := do
  match ← Go.call (.etcd (.get key)) with
  | .error e => throw (wrap .etcdClient e)
  | .ok none => throw (wrap .notFound key)
  | .ok (some value) =>
    match decode value with
    | .error e => throw (wrap .decoding e)
    | .ok obj => pure obj

def update (key : Bytes) (obj : Object) : Go Unit := do
  match ← Go.call (.etcd (.put key obj)) with
  | .error e => throw (wrap .etcdClient e)
  | .ok _ => pure ()

def delete (key : Bytes) : Go Unit := do
  match ← Go.call (.etcd (.delete key)) with
  | .error e => throw (wrap .etcdClient e)
  | .ok _ => pure ()

/-- `List`: the caller's slice type picks `decode`. -/
def list (pre : Bytes) (decode : Object → Except Bytes α) : Go (List α) := do
  match ← Go.call (.etcd (.range pre)) with
  | .error e => throw (wrap .etcdClient e)
  | .ok entries =>
    match decodeAll decode entries with
    | .error e => throw (wrap .decoding e)
    | .ok objs => pure objs

def deletePrefix (pre : Bytes) : Go Unit := do
  match ← Go.call (.etcd (.deleteRange pre)) with
  | .error e => throw (wrap .etcdClient e)
  | .ok _ => pure ()

/-- What `Get` returns on a store it reached. -/
def read (key : Bytes) (decode : Object → Except Bytes α) (s : Store) : Except GoError α :=
  match s.get key with
  | none => .error (wrap .notFound key)
  | some value =>
    match decode value with
    | .error e => .error (wrap .decoding e)
    | .ok obj => .ok obj

theorem read_ok {key : Bytes} {decode : Object → Except Bytes α} {s : Store} {a : α} :
    read key decode s = .ok a ↔ ∃ value, s.get key = some value ∧ decode value = .ok a := by
  unfold read
  cases s.get key with
  | none => simp
  | some value => cases h : decode value <;> simp [h]

def listed (pre : Bytes) (decode : Object → Except Bytes α) (s : Store) : Except GoError (List α) :=
  match decodeAll decode (s.range pre) with
  | .error e => .error (wrap .decoding e)
  | .ok objs => .ok objs

theorem listed_ok {pre : Bytes} {decode : Object → Except Bytes α} {s : Store} {objs : List α}
    (ok : listed pre decode s = .ok objs) : decodeAll decode (s.range pre) = .ok objs := by
  revert ok
  unfold listed
  cases decodeAll decode (s.range pre) <;> rintro ⟨⟩
  rfl

def clientError : GoError := wrap .etcdClient transportError

theorem exec_get (key : Bytes) (decode : Object → Except Bytes α) (w : World) :
    (get key decode).exec w =
      some (.returned (if w.fails.1 then .error clientError else read key decode w.store),w.fails.2) := by
  simp only [get,Go.exec_bind,Go.exec_call,perform]
  cases w.fails.1 <;> simp only [Bool.false_eq_true,ite_false,ite_true,Option.map_some',Option.some_bind,
    Call.apply,read,clientError,World.fails_store]
  · cases w.store.get key with
    | none => rfl
    | some value => cases hd : decode value <;> simp only [hd] <;> rfl
  · rfl

theorem exec_put (key : Bytes) (obj : Object) (w : World) :
    (create key obj).exec w =
      if w.fails.1 then some (.returned (.error clientError),w.fails.2)
      else some (.returned (.ok ()),{w.fails.2 with store := w.store.put key obj}) := by
  simp only [create,Go.exec_bind,Go.exec_call,perform]
  cases w.fails.1 <;> rfl

theorem update_eq_create : (update : Bytes → Object → Go Unit) = create := rfl

theorem exec_delete (key : Bytes) (w : World) :
    (delete key).exec w =
      if w.fails.1 then some (.returned (.error clientError),w.fails.2)
      else some (.returned (.ok ()),{w.fails.2 with store := w.store.delete key}) := by
  simp only [delete,Go.exec_bind,Go.exec_call,perform]
  cases w.fails.1 <;> rfl

theorem exec_list (pre : Bytes) (decode : Object → Except Bytes α) (w : World) :
    (list pre decode).exec w =
      some (.returned (if w.fails.1 then .error clientError else listed pre decode w.store),w.fails.2) := by
  simp only [list,Go.exec_bind,Go.exec_call,perform]
  cases w.fails.1 <;> simp only [Bool.false_eq_true,ite_false,ite_true,Option.map_some',Option.some_bind,
    Call.apply,listed,clientError,World.fails_store]
  · cases decodeAll decode (w.store.range pre) <;> rfl
  · rfl

variable {w : World}

theorem exec_get_quiet (key : Bytes) (decode : Object → Except Bytes α) (quiet : w.failures = []) :
    (get key decode).exec w = some (.returned (read key decode w.store),w) := by
  rw [exec_get,World.fails_quiet quiet]; rfl

theorem exec_put_quiet (key : Bytes) (obj : Object) (quiet : w.failures = []) :
    (create key obj).exec w = some (.returned (.ok ()),{w with store := w.store.put key obj}) := by
  rw [exec_put,World.fails_quiet quiet]; rfl

theorem exec_list_quiet (pre : Bytes) (decode : Object → Except Bytes α) (quiet : w.failures = []) :
    (list pre decode).exec w = some (.returned (listed pre decode w.store),w) := by
  rw [exec_list,World.fails_quiet quiet]; rfl

end EtcdStorage

end Gokube
