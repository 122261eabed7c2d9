import Gokube.Trace

/-! A registry's read/write lock across every interleaving. A monitor
(`Prog.Guards`) follows where a goroutine stands with `m`; over a cluster of
goroutines that keep it, at most one holds the write lock (`Cluster.Excluding`),
and a goroutine that cannot take `m` waits on one that can move
(`Cluster.Accounted`). -/

namespace Gokube

/-- An effect that writes a key `keys` holds: a put or a delete of one, or a
delete by a prefix one of them has. -/
def Effect.Touches (keys : Bytes → Prop) : Effect → Prop
  | .etcd (.put key _) | .etcd (.delete key) => keys key
  | .etcd (.deleteRange pre) => ∃ key, keys key ∧ hasPrefix key pre = true
  | _ => False

def Effect.mutex : Effect → Option Nat
  | .lock m | .unlock m | .rLock m | .rUnlock m => some m
  | _ => none

def Effect.IsEtcd (e : Effect) : Prop := ∃ call, e = .etcd call

def Effect.WritesOnly (key : Bytes) (e : Effect) : Prop := e.IsEtcd ∧ ∀ keys, e.Touches keys → keys key

def Effect.Quiet (m : Nat) (keys : Bytes → Prop) (e : Effect) : Prop := ¬ e.Touches keys ∧ e.mutex ≠ some m

/-- Where a goroutine stands with a mutex. -/
inductive LockState where
  | outside
  | writing
  | reading
  deriving DecidableEq, Repr

namespace LockState
variable {m : Nat} {keys : Bytes → Prop} {st : LockState} {e : Effect}

/-- What a goroutine may do where it stands with `m`: outside, anything that
writes none of the keys and releases nothing of `m`; holding the write lock,
etcd calls and the unlock; holding a read lock, etcd calls that write none of
the keys, and the read unlock. -/
def Allows (m : Nat) (keys : Bytes → Prop) : LockState → Effect → Prop
  | .outside, e => ¬ e.Touches keys ∧ e ≠ .unlock m ∧ e ≠ .rUnlock m
  | .writing, e => e.IsEtcd ∨ e = .unlock m
  | .reading, e => (e.IsEtcd ∧ ¬ e.Touches keys) ∨ e = .rUnlock m

def after (m : Nat) (st : LockState) : Effect → LockState
  | .lock m' => if m' = m then .writing else st
  | .rLock m' => if m' = m then .reading else st
  | .unlock m' | .rUnlock m' => if m' = m then .outside else st
  | _ => st

theorem allows_lock {m' : Nat} (allowed : st.Allows m keys (.lock m')) : st = .outside := by
  cases st with
  | outside => rfl
  | writing => exact allowed.elim (fun ⟨_,same⟩ => nomatch same) nofun
  | reading => exact allowed.elim (fun ⟨⟨_,same⟩,_⟩ => nomatch same) nofun

theorem allows_rLock {m' : Nat} (allowed : st.Allows m keys (.rLock m')) : st = .outside := by
  cases st with
  | outside => rfl
  | writing => exact allowed.elim (fun ⟨_,same⟩ => nomatch same) nofun
  | reading => exact allowed.elim (fun ⟨⟨_,same⟩,_⟩ => nomatch same) nofun

theorem allows_unlock (allowed : st.Allows m keys (.unlock m)) : st = .writing := by
  cases st with
  | outside => exact (allowed.2.1 rfl).elim
  | writing => rfl
  | reading => exact allowed.elim (fun ⟨⟨_,same⟩,_⟩ => nomatch same) nofun

theorem allows_rUnlock (allowed : st.Allows m keys (.rUnlock m)) : st = .reading := by
  cases st with
  | outside => exact (allowed.2.2 rfl).elim
  | writing => exact allowed.elim (fun ⟨_,same⟩ => nomatch same) nofun
  | reading => rfl

theorem allows_touches (allowed : st.Allows m keys e) (touches : e.Touches keys) : st = .writing := by
  cases st with
  | outside => exact (allowed.1 touches).elim
  | writing => rfl
  | reading =>
    rcases allowed with ⟨_,quiet⟩ | rfl
    · exact (quiet touches).elim
    · exact touches.elim

theorem after_other (other : e.mutex ≠ some m) : st.after m e = st := by
  cases e with
  | lock m' | rLock m' | unlock m' | rUnlock m' => exact if_neg fun (same : m' = m) => other (same ▸ rfl)
  | _ => rfl

theorem after_writing_iff (allowed : st.Allows m keys e) (locks : e ≠ .lock m) (unlocks : e ≠ .unlock m) :
    st.after m e = .writing ↔ st = .writing := by
  cases e with
  | rLock m' => rw [allows_rLock allowed,after]; split <;> exact ⟨nofun,nofun⟩
  | rUnlock m' =>
    rw [after]
    split
    · next mine => subst mine; rw [allows_rUnlock allowed]; exact ⟨nofun,nofun⟩
    · exact Iff.rfl
  | lock m' => rw [after,if_neg fun (mine : m' = m) => locks (mine ▸ rfl)]
  | unlock m' => rw [after,if_neg fun (mine : m' = m) => unlocks (mine ▸ rfl)]
  | _ => exact Iff.rfl

theorem after_reading_iff (allowed : st.Allows m keys e) (locks : e ≠ .rLock m) (unlocks : e ≠ .rUnlock m) :
    st.after m e = .reading ↔ st = .reading := by
  cases e with
  | lock m' => rw [allows_lock allowed,after]; split <;> exact ⟨nofun,nofun⟩
  | unlock m' =>
    rw [after]
    split
    · next mine => subst mine; rw [allows_unlock allowed]; exact ⟨nofun,nofun⟩
    · exact Iff.rfl
  | rLock m' => rw [after,if_neg fun (mine : m' = m) => locks (mine ▸ rfl)]
  | rUnlock m' => rw [after,if_neg fun (mine : m' = m) => unlocks (mine ▸ rfl)]
  | _ => exact Iff.rfl

end LockState

def stateAfter (m : Nat) (st : LockState) (evs : List Event) : LockState :=
  evs.foldl (fun st ev => st.after m ev.effect) st

theorem perform_keeps_keys {keys : Bytes → Prop} {e : Effect} {w w' : World} {reply : e.Reply}
    (performed : perform e w = some (reply,w')) (quiet : ¬ e.Touches keys) {key : Bytes} (mem : keys key) :
    w'.store.get key = w.store.get key := by
  rcases perform_store performed with same | ⟨call,rfl,same⟩
  · rw [same]
  · rw [same]
    cases call with
    | get _ | range _ => rfl
    | put k _ => exact (Store.get_put _ _ _ _).trans (if_neg fun (hit : key = k) => quiet (hit ▸ mem))
    | delete k => exact (Store.get_delete _ _ _).trans (if_neg fun (hit : key = k) => quiet (hit ▸ mem))
    | deleteRange pre => exact (Store.get_deleteRange _ _ _).trans (if_neg fun under => quiet ⟨key,mem,under⟩)

def Effect.deletes (key : Bytes) : Effect → Bool
  | .etcd (.delete k) => k == key
  | .etcd (.deleteRange pre) => hasPrefix key pre
  | _ => false

theorem perform_keeps_present {e : Effect} {w w' : World} {reply : e.Reply} (performed : perform e w = some (reply,w'))
    {key : Bytes} (kept : e.deletes key = false) (present : (w.store.get key).isSome) : (w'.store.get key).isSome := by
  rcases perform_store performed with same | ⟨call,rfl,same⟩
  · rwa [same]
  · rw [same]
    cases call with
    | get _ | range _ => exact present
    | put k v =>
      show ((w.store.put k v).get key).isSome
      rw [Store.get_put]
      split
      · rfl
      · exact present
    | delete k =>
      show ((w.store.delete k).get key).isSome
      rwa [Store.get_delete,if_neg fun (hit : key = k) => ne_of_beq_false kept hit.symm]
    | deleteRange pre =>
      show ((w.store.deleteRange pre).get key).isSome
      rwa [Store.get_deleteRange,if_neg (ne_true_of_eq_false (show hasPrefix key pre = false from kept))]

namespace Prog
variable {α β : Type} {m : Nat} {keys : Bytes → Prop}

/-- `p` keeps the lock discipline for `m` and the keys from `st` on, whatever
the replies of its calls, and ends, or exits, outside `m`'s locks. -/
def Guards (m : Nat) (keys : Bytes → Prop) : LockState → Prog α → Prop
  | st, .done _ => st = .outside
  | st, .halt _ => st = .outside
  | st, .step e next => st.Allows m keys e ∧ ∀ reply, Guards m keys (st.after m e) (next reply)

theorem Guards.bind {st : LockState} {p : Prog α} {f : α → Prog β} (first : p.Guards m keys st)
    (rest : ∀ a, (f a).Guards m keys .outside) : (p >>= f).Guards m keys st := by
  induction p generalizing st with
  | done a => cases first; exact rest a
  | halt reason => exact first
  | step e next ih => exact ⟨first.1,fun reply => ih reply (first.2 reply)⟩

theorem Guards.of_within {p : Prog α} (quiet : p.Within (Effect.Quiet m keys)) : p.Guards m keys .outside := by
  induction p with
  | done a => rfl
  | halt reason => rfl
  | step e next ih =>
    obtain ⟨⟨touches,other⟩,rest⟩ := quiet
    refine ⟨⟨touches,fun same => other (same ▸ rfl),fun same => other (same ▸ rfl)⟩,fun reply => ?_⟩
    rw [LockState.after_other other]
    exact ih reply (rest reply)

theorem Guards.writing_bind {p : Prog α} {f : α → Prog β} (inside : p.Returns Effect.IsEtcd)
    (rest : ∀ a, (f a).Guards m keys .writing) : (p >>= f).Guards m keys .writing := by
  induction p with
  | done a => exact rest a
  | halt reason => exact inside.elim
  | step e next ih =>
    obtain ⟨⟨call,rfl⟩,after⟩ := inside
    exact ⟨.inl ⟨call,rfl⟩,fun reply => ih reply (after reply)⟩

theorem Guards.reading_bind {p : Prog α} {f : α → Prog β} (inside : p.Returns fun e => e.IsEtcd ∧ ¬ e.Touches keys)
    (rest : ∀ a, (f a).Guards m keys .reading) : (p >>= f).Guards m keys .reading := by
  induction p with
  | done a => exact rest a
  | halt reason => exact inside.elim
  | step e next ih =>
    obtain ⟨⟨⟨call,rfl⟩,quiet⟩,after⟩ := inside
    exact ⟨.inl ⟨⟨call,rfl⟩,quiet⟩,fun reply => ih reply (after reply)⟩

end Prog

namespace Go
variable {α β : Type} {m : Nat} {keys : Bytes → Prop}

theorem guards_bind {st : LockState} {x : Go α} {k : α → Go β} (first : x.run.Guards m keys st)
    (rest : ∀ a, (k a).run.Guards m keys .outside) : (x >>= k).run.Guards m keys st :=
  Prog.Guards.bind first fun
    | .ok a => rest a
    | .error _ => rfl

theorem guards_map (f : α → β) {x : Go α} (inner : x.run.Guards m keys .outside) :
    (f <$> x).run.Guards m keys .outside :=
  Prog.Guards.bind inner fun result => by cases result <;> rfl

theorem guards_attempt {x : Go α} (inner : x.run.Guards m keys .outside) : (attempt x).run.Guards m keys .outside :=
  Prog.Guards.bind inner fun _ => rfl

theorem guards_call {e : Effect} (quiet : e.Quiet m keys) : (Go.call e).run.Guards m keys .outside :=
  Prog.Guards.of_within (within_call quiet)

theorem guards_withLock {body : Go α} (inside : body.run.Returns Effect.IsEtcd) :
    (withLock m body).run.Guards m keys .outside := by
  refine ⟨⟨nofun,nofun,nofun⟩,fun _ => ?_⟩
  show (body.run >>= fun result => call (.unlock m) >>= fun _ => pure result).Guards m keys
    (LockState.outside.after m (.lock m))
  rw [LockState.after,if_pos rfl]
  exact Prog.Guards.writing_bind inside fun _ => ⟨.inr rfl,fun _ => if_pos rfl⟩

theorem guards_withLock_quiet {m' : Nat} {body : Go α} (inside : body.run.Returns fun e => e.IsEtcd ∧ ¬ e.Touches keys) :
    (withLock m' body).run.Guards m keys .outside := by
  by_cases same : m' = m
  · subst same
    exact guards_withLock (inside.mono fun _ quiet => quiet.1)
  · exact Prog.Guards.of_within (within_withLock ⟨nofun,fun held => same (Option.some.inj held)⟩
      ⟨nofun,fun held => same (Option.some.inj held)⟩ (inside.within.mono fun _ ⟨⟨_,etcd⟩,quiet⟩ => ⟨quiet,etcd ▸ nofun⟩))

theorem guards_withLock_writing {m' : Nat} {key : Bytes} {body : Go α} (inside : body.run.Returns (Effect.WritesOnly key))
    (covers : m' = m ∨ ¬ keys key) : (withLock m' body).run.Guards m keys .outside := by
  rcases covers with rfl | outside
  · exact guards_withLock (inside.mono fun _ writes => writes.1)
  · exact guards_withLock_quiet (inside.mono fun _ writes => ⟨writes.1,fun touches => outside (writes.2 keys touches)⟩)

theorem guards_withRLock {m' : Nat} {body : Go α} (inside : body.run.Returns fun e => e.IsEtcd ∧ ¬ e.Touches keys) :
    (withRLock m' body).run.Guards m keys .outside := by
  by_cases same : m' = m
  · subst same
    refine ⟨⟨nofun,nofun,nofun⟩,fun _ => ?_⟩
    show (body.run >>= fun result => call (.rUnlock m') >>= fun _ => pure result).Guards m' keys
      (LockState.outside.after m' (.rLock m'))
    rw [LockState.after,if_pos rfl]
    exact Prog.Guards.reading_bind inside fun _ => ⟨.inr rfl,fun _ => if_pos rfl⟩
  · exact Prog.Guards.of_within (within_withRLock ⟨nofun,fun held => same (Option.some.inj held)⟩
      ⟨nofun,fun held => same (Option.some.inj held)⟩ (inside.within.mono fun _ ⟨⟨_,etcd⟩,quiet⟩ => ⟨quiet,etcd ▸ nofun⟩))

end Go

/-! ### The lock across a cluster -/

def holders (state : Nat → LockState) (n : Nat) (s : LockState) : Nat :=
  (List.range n).countP fun i => state i = s

theorem holders_succ (state : Nat → LockState) (n : Nat) (s : LockState) :
    holders state (n + 1) s = holders state n s + if state n = s then 1 else 0 := by
  simp [holders,List.range_succ,List.countP_append,List.countP_cons]

theorem holders_update {state : Nat → LockState} {n j : Nat} (inside : j < n) (v s : LockState) :
    holders (Function.update state j v) n s + (if state j = s then 1 else 0) =
      holders state n s + if v = s then 1 else 0 := by
  induction n with
  | zero => omega
  | succ n ih =>
    rw [holders_succ,holders_succ]
    by_cases last : j = n
    · subst last
      have below : holders (Function.update state j v) j s = holders state j s :=
        List.countP_congr fun i mem => by rw [Function.update_noteq (List.mem_range.mp mem).ne]
      rw [below,Function.update_same]
      omega
    · rw [Function.update_noteq (Ne.symm last)]
      have := ih (by omega)
      omega

namespace Cluster
variable {runner : Nat → Pod → Go Unit} {m : Nat} {keys : Bytes → Prop}

/-- The goroutines of `c`, `state` saying where each stands with `m`: each
keeps the discipline from there, at most one holds the write lock, and while
one does the world records the lock held once. -/
structure Excluding (m : Nat) (keys : Bytes → Prop) (c : Cluster) (state : Nat → LockState) : Prop where
  guards : ∀ i (p : Thread), c.threads[i]? = some p → p.Guards m keys (state i)
  idle : ∀ i, c.threads.length ≤ i → state i = .outside
  alone : ∀ i j, state i = .writing → state j = .writing → i = j
  recorded : ∀ i, state i = .writing → c.world.writers.count m = 1

/-- Besides, every hold of `m` the world records belongs to a goroutine. -/
structure Accounted (m : Nat) (keys : Bytes → Prop) (c : Cluster) (state : Nat → LockState)
    extends Excluding m keys c state : Prop where
  writer : m ∈ c.world.writers → ∃ i, state i = .writing
  readers : c.world.readers.count m = holders state c.threads.length .reading

theorem Excluding.start {c : Cluster} (goroutines : ∀ t ∈ c.threads, t.Guards m keys .outside) :
    c.Excluding m keys fun _ => .outside :=
  ⟨fun _ _ found => goroutines _ (List.getElem?_mem found),fun _ _ => rfl,nofun,nofun⟩

theorem Accounted.start {c : Cluster} (goroutines : ∀ t ∈ c.threads, t.Guards m keys .outside)
    (free : m ∉ c.world.writers ∧ m ∉ c.world.readers) : c.Accounted m keys fun _ => .outside :=
  ⟨Excluding.start goroutines,fun held => (free.1 held).elim,by
    rw [List.count_eq_zero.mpr free.2]
    exact (List.countP_eq_zero.mpr fun _ _ => by simp).symm⟩

section Step
variable {c : Cluster} {state : Nat → LockState} {j : Nat} {e : Effect} {w : World}

private theorem writing_after_other (allowed : (state j).Allows m keys e) (locks : e ≠ .lock m) (unlocks : e ≠ .unlock m)
    (i : Nat) : Function.update state j ((state j).after m e) i = .writing ↔ state i = .writing := by
  by_cases same : i = j
  · subst same
    rw [Function.update_same]
    exact LockState.after_writing_iff allowed locks unlocks
  · rw [Function.update_noteq same]

private theorem readers_step {st : LockState} {w w' : World} (allowed : st.Allows m keys e)
    (readers : (∃ m, e = .rLock m ∧ m ∉ w.writers ∧ w'.readers = m :: w.readers) ∨
      (∃ m, e = .rUnlock m ∧ w'.readers = w.readers.erase m) ∨
      (∀ m, e ≠ .rLock m ∧ e ≠ .rUnlock m) ∧ w'.readers = w.readers)
    (held : st = .reading → 0 < w.readers.count m) :
    w'.readers.count m + (if st = .reading then 1 else 0) =
      w.readers.count m + if st.after m e = .reading then 1 else 0 := by
  rcases readers with ⟨m',rfl,-,added⟩ | ⟨m',rfl,removed⟩ | ⟨other,same⟩
  · by_cases mine : m' = m
    · subst mine
      rw [LockState.allows_rLock allowed,LockState.after,if_pos rfl,added,List.count_cons_self]
      rfl
    · rw [LockState.after_other (show (Effect.rLock m').mutex ≠ some m from fun held => mine (Option.some.inj held)),
        added,List.count_cons_of_ne (Ne.symm mine)]
  · by_cases mine : m' = m
    · subst mine
      have once := held (LockState.allows_rUnlock allowed)
      rw [LockState.allows_rUnlock allowed,LockState.after,if_pos rfl,removed,List.count_erase_self]
      simp only [if_true,reduceCtorEq,if_false]
      omega
    · rw [LockState.after_other (show (Effect.rUnlock m').mutex ≠ some m from fun held => mine (Option.some.inj held)),
        removed,List.count_erase_of_ne (Ne.symm mine)]
  · rw [same,if_congr (LockState.after_reading_iff allowed (other m).1 (other m).2) rfl rfl]

private theorem Excluding.record_kept (ex : c.Excluding m keys state) {state' : Nat → LockState}
    (kept : ∀ i, state' i = .writing ↔ state i = .writing) (same : w.writers.count m = c.world.writers.count m) :
    (∀ i k, state' i = .writing → state' k = .writing → i = k) ∧ ∀ i, state' i = .writing → w.writers.count m = 1 :=
  ⟨fun i k hi hk => ex.alone i k ((kept i).mp hi) ((kept k).mp hk),fun i hi => same.trans (ex.recorded i ((kept i).mp hi))⟩

private theorem Excluding.perform_record (ex : c.Excluding m keys state) (allowed : (state j).Allows m keys e)
    (writers : (∃ m, e = .lock m ∧ m ∉ c.world.writers ∧ w.writers = m :: c.world.writers) ∨
      (∃ m, e = .unlock m ∧ w.writers = c.world.writers.erase m) ∨
      (∀ m, e ≠ .lock m ∧ e ≠ .unlock m) ∧ w.writers = c.world.writers) :
    (∀ i k, Function.update state j ((state j).after m e) i = .writing →
      Function.update state j ((state j).after m e) k = .writing → i = k) ∧
    ∀ i, Function.update state j ((state j).after m e) i = .writing → w.writers.count m = 1 := by
  rcases writers with ⟨m',rfl,free,added⟩ | ⟨m',rfl,removed⟩ | ⟨other,same⟩
  · by_cases mine : m' = m
    · subst mine
      have only : ∀ i, Function.update state j ((state j).after m' (.lock m')) i = .writing → i = j := by
        intro i holds
        by_contra apart
        rw [Function.update_noteq apart] at holds
        exact free (List.count_pos_iff.mp (by rw [ex.recorded i holds]; exact Nat.one_pos))
      refine ⟨fun i k hi hk => (only i hi).trans (only k hk).symm,fun _ _ => ?_⟩
      rw [added,List.count_cons_self,List.count_eq_zero.mpr free]
    · exact ex.record_kept (writing_after_other allowed (fun same => mine (Effect.lock.inj same)) nofun)
        (by rw [added,List.count_cons_of_ne (Ne.symm mine)])
  · by_cases mine : m' = m
    · subst mine
      have holder := LockState.allows_unlock allowed
      have released : ∀ i, Function.update state j ((state j).after m' (.unlock m')) i ≠ .writing := by
        intro i
        by_cases same : i = j
        · subst same; rw [Function.update_same,LockState.after,if_pos rfl]; exact nofun
        · rw [Function.update_noteq same]
          exact fun holds => same (ex.alone i j holds holder)
      exact ⟨fun i _ holds => (released i holds).elim,fun i holds => (released i holds).elim⟩
    · exact ex.record_kept (writing_after_other allowed nofun fun same => mine (Effect.unlock.inj same))
        (by rw [removed,List.count_erase_of_ne (Ne.symm mine)])
  · exact ex.record_kept (writing_after_other allowed (other m).1 (other m).2) (by rw [same])

/-- One goroutine's step keeps the invariant, its state moved by its effect. -/
theorem Excluding.perform {next : e.Reply → Thread} {reply : e.Reply} (ex : c.Excluding m keys state)
    (waiting : c.threads[j]? = some (.step e next)) (performed : perform e c.world = some (reply,w)) :
    Excluding m keys ⟨w,c.threads.set j (next reply),c.launched⟩ (Function.update state j ((state j).after m e)) := by
  have inside : j < c.threads.length := (List.getElem?_eq_some.mp waiting).1
  obtain ⟨allowed,rest⟩ := ex.guards j _ waiting
  obtain ⟨alone,recorded⟩ := ex.perform_record allowed (perform_writers performed)
  refine ⟨fun i p found => ?_,fun i beyond => ?_,alone,recorded⟩
  · by_cases same : i = j
    · subst same
      rw [List.getElem?_set_self inside] at found
      cases found
      rw [Function.update_same]
      exact rest reply
    · rw [List.getElem?_set_ne (Ne.symm same)] at found
      rw [Function.update_noteq same]
      exact ex.guards i p found
  · rw [List.length_set] at beyond
    rw [Function.update_noteq (by omega)]
    exact ex.idle i beyond

theorem Accounted.perform {next : e.Reply → Thread} {reply : e.Reply} (acc : c.Accounted m keys state)
    (waiting : c.threads[j]? = some (.step e next)) (performed : perform e c.world = some (reply,w)) :
    Accounted m keys ⟨w,c.threads.set j (next reply),c.launched⟩ (Function.update state j ((state j).after m e)) := by
  have inside : j < c.threads.length := (List.getElem?_eq_some.mp waiting).1
  have allowed := (acc.guards j _ waiting).1
  have counted := @holders_update state c.threads.length j inside ((state j).after m e) .reading
  refine ⟨acc.toExcluding.perform waiting performed,fun held => ?_,?_⟩
  · rcases perform_writers performed with ⟨m',rfl,-,added⟩ | ⟨m',rfl,removed⟩ | ⟨other,same⟩
    · by_cases mine : m' = m
      · subst mine; exact ⟨j,by rw [Function.update_same,LockState.after,if_pos rfl]⟩
      · rw [added] at held
        obtain ⟨i,holds⟩ := acc.writer (List.mem_of_ne_of_mem (Ne.symm mine) held)
        exact ⟨i,((writing_after_other allowed (fun same => mine (Effect.lock.inj same)) nofun) i).mpr holds⟩
    · by_cases mine : m' = m
      · subst mine
        have once := acc.recorded j (LockState.allows_unlock allowed)
        rw [removed] at held
        have := List.count_pos_iff.mpr held
        rw [List.count_erase_self,once] at this
        cases this
      · rw [removed] at held
        obtain ⟨i,holds⟩ := acc.writer (List.mem_of_mem_erase held)
        exact ⟨i,((writing_after_other allowed nofun (fun same => mine (Effect.unlock.inj same))) i).mpr holds⟩
    · rw [same] at held
      obtain ⟨i,holds⟩ := acc.writer held
      exact ⟨i,((writing_after_other allowed (other m).1 (other m).2) i).mpr holds⟩
  · have moved := readers_step allowed (perform_readers performed) fun reading => by
      rw [acc.readers]
      exact List.countP_pos_iff.mpr ⟨j,List.mem_range.mpr inside,decide_eq_true reading⟩
    rw [acc.readers] at moved
    show w.readers.count m = holders _ (c.threads.set j (next reply)).length .reading
    rw [List.length_set]
    omega

theorem Excluding.launch {agent : Nat} {pod : Pod} (ex : c.Excluding m keys state)
    (starts : (runner agent pod).run.Guards m keys .outside) :
    Excluding m keys ⟨c.world,c.threads ++ [(runner agent pod).run],c.launched + 1⟩ state := by
  refine ⟨fun i p found => ?_,fun i beyond => ex.idle i (by simp at beyond; omega),ex.alone,ex.recorded⟩
  rcases Nat.lt_or_ge i c.threads.length with inside | beyond
  · rw [List.getElem?_append_left inside] at found
    exact ex.guards i p found
  · rw [List.getElem?_append_right beyond] at found
    obtain ⟨-,rfl⟩ : i - c.threads.length = 0 ∧ (runner agent pod).run = p := by
      simpa [List.getElem?_cons] using found
    rw [ex.idle i beyond]
    exact starts

theorem Accounted.launch {agent : Nat} {pod : Pod} (acc : c.Accounted m keys state)
    (starts : (runner agent pod).run.Guards m keys .outside) :
    Accounted m keys ⟨c.world,c.threads ++ [(runner agent pod).run],c.launched + 1⟩ state :=
  ⟨acc.toExcluding.launch starts,acc.writer,by
    rw [List.length_append,List.length_singleton,holders_succ,acc.idle _ le_rfl,acc.readers]; rfl⟩

end Step

/-- Along a run, the invariant holds with each goroutine's state moved by its
own events. -/
theorem Excluding.run {c c' : Cluster} {state : Nat → LockState} {log : List (Nat × Event)}
    (ex : c.Excluding m keys state) (runners : ∀ agent pod, (runner agent pod).run.Guards m keys .outside)
    (run : Run runner c log c') :
    ∃ state', c'.Excluding m keys state' ∧ ∀ i, state' i = stateAfter m (state i) (own i log) := by
  induction run generalizing state with
  | refl => exact ⟨state,ex,fun _ => rfl⟩
  | @perform c j e next reply w log c' waiting performed _ ih =>
    obtain ⟨state',ex',after⟩ := ih (ex.perform waiting performed)
    refine ⟨state',ex',fun i => ?_⟩
    rw [after i,own_cons]
    by_cases same : j = i
    · subst same
      rw [if_pos rfl,Function.update_same]
      rfl
    · rw [if_neg same,Function.update_noteq (Ne.symm same)]
  | launch _ _ ih => exact ih (ex.launch (runners _ _))

theorem Accounted.reaches {c c' : Cluster} {state : Nat → LockState} (acc : c.Accounted m keys state)
    (runners : ∀ agent pod, (runner agent pod).run.Guards m keys .outside) (reaches : Reaches runner c c') :
    ∃ state', c'.Accounted m keys state' := by
  induction reaches using Relation.ReflTransGen.head_induction_on generalizing state with
  | refl => exact ⟨state,acc⟩
  | head step _ ih =>
    cases step with
    | perform waiting performed => exact ih (acc.perform waiting performed)
    | launch _ => exact ih (acc.launch (runners _ _))

theorem Excluding.keeps_keys {c c' : Cluster} {state : Nat → LockState} {log : List (Nat × Event)} {i : Nat}
    (ex : c.Excluding m keys state) (holds : state i = .writing)
    (runners : ∀ agent pod, (runner agent pod).run.Guards m keys .outside) (run : Run runner c log c')
    (ownQuiet : ∀ ev ∈ own i log, ev.effect.IsEtcd ∧ ¬ ev.effect.Touches keys) {key : Bytes} (mem : keys key) :
    c'.world.store.get key = c.world.store.get key := by
  induction run generalizing state with
  | refl => rfl
  | @perform c j e next reply w log c' waiting performed _ ih =>
    rw [own_cons] at ownQuiet
    have kept : ¬ e.Touches keys ∧ Function.update state j ((state j).after m e) i = .writing := by
      by_cases same : j = i
      · subst same
        rw [if_pos rfl] at ownQuiet
        obtain ⟨⟨call,rfl⟩,quiet⟩ := ownQuiet ⟨e,reply⟩ (List.mem_cons_self _ _)
        rw [Function.update_same,holds]
        exact ⟨quiet,rfl⟩
      · rw [Function.update_noteq (Ne.symm same)]
        exact ⟨fun touches => same (ex.alone j i (LockState.allows_touches (ex.guards j _ waiting).1 touches) holds),
          holds⟩
    have later : ∀ ev ∈ own i log, ev.effect.IsEtcd ∧ ¬ ev.effect.Touches keys := by
      by_cases same : j = i
      · rw [if_pos same] at ownQuiet; exact fun ev mem => ownQuiet ev (List.mem_cons_of_mem _ mem)
      · rwa [if_neg same] at ownQuiet
    rw [ih (ex.perform waiting performed) kept.2 later]
    exact perform_keeps_keys performed kept.1 mem
  | launch _ _ ih => exact ih (ex.launch (runners _ _)) holds ownQuiet

theorem Run.keeps_present {c c' : Cluster} {log : List (Nat × Event)} (run : Run runner c log c') {key : Bytes}
    (kept : ∀ entry ∈ log, entry.2.effect.deletes key = false) (present : (c.world.store.get key).isSome) :
    (c'.world.store.get key).isSome := by
  induction run with
  | refl => exact present
  | perform _ performed _ ih =>
    exact ih (fun entry mem => kept entry (List.mem_cons_of_mem _ mem))
      (perform_keeps_present performed (kept _ (List.mem_cons_self _ _)) present)
  | launch _ _ ih => exact ih kept present

theorem Run.present_after_put {c c' : Cluster} {log : List (Nat × Event)} {i : Nat} {key : Bytes} {v : Object}
    (run : Run runner c ((i,⟨.etcd (.put key v),Except.ok ()⟩) :: log) c')
    (kept : ∀ entry ∈ log, entry.2.effect.deletes key = false) : (c'.world.store.get key).isSome := by
  generalize logged : (i,(⟨.etcd (.put key v),Except.ok ()⟩ : Event)) :: log = log' at run
  induction run with
  | refl => cases logged
  | perform _ performed rest =>
    obtain ⟨⟨rfl,rfl⟩,rfl⟩ := List.cons_eq_cons.mp logged
    rw [perform_etcd] at performed
    split at performed <;> cases performed
    refine rest.keeps_present kept ?_
    show ((Store.put _ key v).get key).isSome
    rw [Store.get_put,if_pos rfl]
    rfl
  | launch _ _ ih => exact ih logged

theorem Excluding.read_holds_at_next {c c' : Cluster} {state : Nat → LockState} {log : List (Nat × Event)} {i : Nat}
    (ex : c.Excluding m keys state) (runners : ∀ agent pod, (runner agent pod).run.Guards m keys .outside)
    (run : Run runner c log c') {key : Bytes} (mem : keys key) {pre post : List Event} {seen : Option Object}
    {ev : Event} (mine : own i log = pre ++ [⟨.lock m,()⟩,⟨.etcd (.get key),Except.ok seen⟩,ev] ++ post) :
    ∃ log₁ log₂ before, log = log₁ ++ (i,ev) :: log₂ ∧ own i log₁ = pre ++ [⟨.lock m,()⟩,⟨.etcd (.get key),Except.ok seen⟩] ∧
      Run runner c log₁ before ∧ before.world.store.get key = seen := by
  obtain ⟨log₁,log₂,rfl,ownFirst,-⟩ := own_eq_append_cons (show own i log =
    (pre ++ [⟨.lock m,()⟩,⟨.etcd (.get key),Except.ok seen⟩]) ++ ev :: post by rw [mine]; simp)
  obtain ⟨before,first,-⟩ := Run.split run
  refine ⟨log₁,log₂,before,rfl,ownFirst,first,?_⟩
  obtain ⟨logA,logB,rfl,ownA,ownB⟩ := own_eq_append_cons (show own i log₁ =
    (pre ++ [⟨.lock m,()⟩]) ++ ⟨.etcd (.get key),Except.ok seen⟩ :: [] by rw [ownFirst]; simp)
  obtain ⟨midA,toA,fromA⟩ := Run.split first
  obtain ⟨stateA,exA,afterA⟩ := ex.run runners toA
  have holds : stateA i = .writing := by
    rw [afterA,ownA,stateAfter,List.foldl_append]
    exact if_pos rfl
  have read : seen = midA.world.store.get key := by
    rcases fromA.head_etcd_reply with same | failed
    · exact Except.ok.inj same
    · cases failed
  have quiet : ∀ ev ∈ own i ((i,⟨.etcd (.get key),Except.ok seen⟩) :: logB),
      ev.effect.IsEtcd ∧ ¬ ev.effect.Touches keys := by
    rw [own_cons,if_pos rfl,ownB]
    intro ev mem
    rw [List.mem_singleton.mp mem]
    exact ⟨⟨_,rfl⟩,nofun⟩
  rw [exA.keeps_keys holds runners fromA quiet mem,read]

end Cluster

end Gokube
