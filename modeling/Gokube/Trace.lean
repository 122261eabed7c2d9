import Gokube.Cluster
import Gokube.Storage

/-! Runs of goroutines as the effects they perform: a goroutine's part of a
labelled run is a path of its program through the replies it got
(`Cluster.Run.path`). -/

namespace Gokube

/-- An effect a goroutine performed, and the reply it got. -/
structure Event where
  effect : Effect
  reply : effect.Reply

def Effect.decEqReply : (e : Effect) → DecidableEq e.Reply
  | .etcd (.get _) => inferInstanceAs (DecidableEq (Except Bytes (Option Object)))
  | .etcd (.range _) => inferInstanceAs (DecidableEq (Except Bytes (List (Bytes × Object))))
  | .etcd (.put ..) | .etcd (.delete _) | .etcd (.deleteRange _) => inferInstanceAs (DecidableEq (Except Bytes Unit))
  | .docker (.containerCreate ..) => inferInstanceAs (DecidableEq (Except Bytes Bytes))
  | .docker (.containerInspect _) => inferInstanceAs (DecidableEq (Except Bytes (Option (Bool × Int))))
  | .docker (.containerList _) => inferInstanceAs (DecidableEq (Except Bytes (List DockerContainer)))
  | .docker (.imagePull _) | .docker (.readPull _) | .docker (.containerStart _) | .docker (.containerRemove ..) =>
    inferInstanceAs (DecidableEq (Except Bytes Unit))
  | .dial => inferInstanceAs (DecidableEq (Except Bytes Unit))
  | .randomString _ => inferInstanceAs (DecidableEq Bytes)
  | .intn _ => inferInstanceAs (DecidableEq Nat)
  | .lookupPod .. => inferInstanceAs (DecidableEq (Option Pod))
  | .trackedPods _ => inferInstanceAs (DecidableEq (List Pod))
  | .lock _ | .unlock _ | .rLock _ | .rUnlock _ | .trackPod .. | .setPodStatus .. | .spawnRunner .. =>
    inferInstanceAs (DecidableEq Unit)

instance instDecidableEqEvent : DecidableEq Event
  | ⟨e,reply⟩, ⟨e',reply'⟩ =>
    if same : e = e' then
      match e', same, reply' with
      | _, rfl, reply' =>
        @decidable_of_iff ((⟨e,reply⟩ : Event) = ⟨e,reply'⟩) (reply = reply') ⟨fun h => h ▸ rfl,fun h => eq_of_heq (Event.mk.inj h).2⟩
          (e.decEqReply reply reply')
    else isFalse fun h => same (Event.mk.inj h).1

namespace Prog
variable {α β : Type}

/-- `p` performs `evs` in turn, gets their replies, and goes on as `q`. -/
inductive Path : Prog α → List Event → Prog α → Prop
  | nil (p : Prog α) : Path p [] p
  | step {e : Effect} {next : e.Reply → Prog α} (reply : e.Reply) {evs : List Event} {q : Prog α}
      (rest : Path (next reply) evs q) : Path (.step e next) (⟨e,reply⟩ :: evs) q

theorem Path.of_done {a : α} {evs : List Event} {q : Prog α} (path : Path (.done a) evs q) :
    evs = [] ∧ q = .done a := by
  cases path; exact ⟨rfl,rfl⟩

theorem Path.of_halt {reason : Bytes} {evs : List Event} {q : Prog α} (path : Path (.halt reason) evs q) :
    evs = [] ∧ q = .halt reason := by
  cases path; exact ⟨rfl,rfl⟩

theorem Path.of_step {e : Effect} {next : e.Reply → Prog α} {evs : List Event} {q : Prog α}
    (path : Path (.step e next) evs q) :
    (evs = [] ∧ q = .step e next) ∨ ∃ reply evs', evs = ⟨e,reply⟩ :: evs' ∧ Path (next reply) evs' q := by
  cases path with
  | nil => exact .inl ⟨rfl,rfl⟩
  | step reply rest => exact .inr ⟨reply,_,rfl,rest⟩

theorem Path.of_bind {p : Prog α} {f : α → Prog β} {evs : List Event} {r : Prog β} (path : Path (p >>= f) evs r) :
    (∃ q, Path p evs q ∧ r = q >>= f) ∨
      ∃ a evs₁ evs₂, evs = evs₁ ++ evs₂ ∧ Path p evs₁ (.done a) ∧ Path (f a) evs₂ r := by
  induction p generalizing evs with
  | done a => exact .inr ⟨a,[],evs,rfl,.nil _,path⟩
  | halt reason =>
    obtain ⟨rfl,rfl⟩ := Path.of_halt path
    exact .inl ⟨.halt reason,.nil _,rfl⟩
  | step e next ih =>
    rcases Path.of_step path with ⟨rfl,rfl⟩ | ⟨reply,evs',rfl,rest⟩
    · exact .inl ⟨.step e next,.nil _,rfl⟩
    · rcases ih reply rest with ⟨q,inner,rfl⟩ | ⟨a,evs₁,evs₂,rfl,inner,after⟩
      · exact .inl ⟨q,.step reply inner,rfl⟩
      · exact .inr ⟨a,⟨e,reply⟩ :: evs₁,evs₂,rfl,.step reply inner,after⟩

theorem Path.of_bind_done {p : Prog α} {f : α → Prog β} {evs : List Event} {b : β} (path : Path (p >>= f) evs (.done b)) :
    ∃ a evs₁ evs₂, evs = evs₁ ++ evs₂ ∧ Path p evs₁ (.done a) ∧ Path (f a) evs₂ (.done b) := by
  induction p generalizing evs with
  | done a => exact ⟨a,[],evs,rfl,.nil _,path⟩
  | halt reason => cases (Path.of_halt path).2
  | step e next ih =>
    rcases Path.of_step path with ⟨-,stuck⟩ | ⟨reply,evs',rfl,rest⟩
    · cases stuck
    · obtain ⟨a,evs₁,evs₂,rfl,inner,after⟩ := ih reply rest
      exact ⟨a,⟨e,reply⟩ :: evs₁,evs₂,rfl,.step reply inner,after⟩

theorem Path.of_step_done {e : Effect} {next : e.Reply → Prog α} {evs : List Event} {a : α}
    (path : Path (.step e next) evs (.done a)) :
    ∃ reply evs', evs = ⟨e,reply⟩ :: evs' ∧ Path (next reply) evs' (.done a) := by
  rcases Path.of_step path with ⟨-,stuck⟩ | found
  · cases stuck
  · exact found

theorem path_of_exec {p : Prog α} {w w' : World} {a : α} (ran : p.exec w = some (.returned a,w')) :
    ∃ evs, Path p evs (.done a) := by
  induction p generalizing w with
  | done b => cases ran; exact ⟨[],.nil _⟩
  | halt reason => cases ran
  | step e next ih =>
    rw [exec_step] at ran
    obtain ⟨⟨reply,w''⟩,-,rest⟩ := Option.bind_eq_some.mp ran
    obtain ⟨evs,path⟩ := ih reply rest
    exact ⟨_,.step reply path⟩

def Within (allowed : Effect → Prop) : Prog α → Prop
  | .done _ => True
  | .halt _ => True
  | .step e next => allowed e ∧ ∀ reply, Within allowed (next reply)

variable {allowed : Effect → Prop}

theorem Within.bind {p : Prog α} {f : α → Prog β} (first : p.Within allowed) (rest : ∀ a, (f a).Within allowed) :
    (p >>= f).Within allowed := by
  induction p with
  | done a => exact rest a
  | halt reason => trivial
  | step e next ih => exact ⟨first.1,fun reply => ih reply (first.2 reply)⟩

theorem Within.mono {allowed' : Effect → Prop} {p : Prog α} (inside : p.Within allowed)
    (weaker : ∀ e, allowed e → allowed' e) : p.Within allowed' := by
  induction p with
  | done _ | halt _ => trivial
  | step e next ih => exact ⟨weaker e inside.1,fun reply => ih reply (inside.2 reply)⟩

theorem Within.path {p q : Prog α} {evs : List Event} (inside : p.Within allowed) (path : Path p evs q) :
    ∀ ev ∈ evs, allowed ev.effect := by
  induction path with
  | nil => intro ev mem; cases mem
  | step reply _ ih =>
    intro ev mem
    rcases List.mem_cons.mp mem with rfl | later
    · exact inside.1
    · exact ih (inside.2 reply) ev later

def Returns (allowed : Effect → Prop) : Prog α → Prop
  | .done _ => True
  | .halt _ => False
  | .step e next => allowed e ∧ ∀ reply, Returns allowed (next reply)

theorem Returns.bind {p : Prog α} {f : α → Prog β} (first : p.Returns allowed) (rest : ∀ a, (f a).Returns allowed) :
    (p >>= f).Returns allowed := by
  induction p with
  | done a => exact rest a
  | halt reason => exact first.elim
  | step e next ih => exact ⟨first.1,fun reply => ih reply (first.2 reply)⟩

theorem Returns.within {p : Prog α} (returns : p.Returns allowed) : p.Within allowed := by
  induction p with
  | done _ | halt _ => trivial
  | step e next ih => exact ⟨returns.1,fun reply => ih reply (returns.2 reply)⟩

theorem Returns.mono {allowed' : Effect → Prop} {p : Prog α} (returns : p.Returns allowed)
    (weaker : ∀ e, allowed e → allowed' e) : p.Returns allowed' := by
  induction p with
  | done _ => trivial
  | halt _ => exact returns.elim
  | step e next ih => exact ⟨weaker e returns.1,fun reply => ih reply (returns.2 reply)⟩

end Prog

/-! ### Paths and footprints of Go code -/

namespace Go
variable {α β : Type} {allowed : Effect → Prop}

theorem within_bind {x : Go α} {k : α → Go β} (first : x.run.Within allowed) (rest : ∀ a, (k a).run.Within allowed) :
    (x >>= k).run.Within allowed :=
  Prog.Within.bind first fun
    | .ok a => rest a
    | .error _ => trivial

theorem within_map {x : Go α} (f : α → β) (inside : x.run.Within allowed) : (f <$> x).run.Within allowed :=
  Prog.Within.bind inside fun result => by cases result <;> trivial

theorem within_call {e : Effect} (allowedE : allowed e) : (Go.call e).run.Within allowed :=
  ⟨allowedE,fun _ => trivial⟩

theorem within_lift {p : Prog α} (inside : p.Within allowed) : (ExceptT.lift p : Go α).run.Within allowed :=
  Prog.Within.bind inside fun _ => trivial

theorem within_attempt {x : Go α} (inside : x.run.Within allowed) : (attempt x).run.Within allowed :=
  Prog.Within.bind inside fun _ => trivial

theorem within_withLock {m : Nat} {body : Go α} (locks : allowed (.lock m)) (unlocks : allowed (.unlock m))
    (inside : body.run.Within allowed) : (withLock m body).run.Within allowed :=
  ⟨locks,fun _ => show (body.run >>= _).Within allowed from Prog.Within.bind inside fun _ => ⟨unlocks,fun _ => trivial⟩⟩

theorem within_withRLock {m : Nat} {body : Go α} (locks : allowed (.rLock m)) (unlocks : allowed (.rUnlock m))
    (inside : body.run.Within allowed) : (withRLock m body).run.Within allowed :=
  ⟨locks,fun _ => show (body.run >>= _).Within allowed from Prog.Within.bind inside fun _ => ⟨unlocks,fun _ => trivial⟩⟩

theorem returns_bind {x : Go α} {k : α → Go β} (first : x.run.Returns allowed) (rest : ∀ a, (k a).run.Returns allowed) :
    (x >>= k).run.Returns allowed :=
  Prog.Returns.bind first fun
    | .ok a => rest a
    | .error _ => trivial

theorem returns_call {e : Effect} (allowedE : allowed e) : (Go.call e).run.Returns allowed :=
  ⟨allowedE,fun _ => trivial⟩

theorem returns_attempt {x : Go α} (inside : x.run.Returns allowed) : (attempt x).run.Returns allowed :=
  Prog.Returns.bind inside fun _ => trivial

theorem path_bind_done {x : Go α} {k : α → Go β} {evs : List Event} {b : Except GoError β}
    (path : Prog.Path (x >>= k).run evs (.done b)) :
    (∃ a evs₁ evs₂, evs = evs₁ ++ evs₂ ∧ Prog.Path x.run evs₁ (.done (.ok a)) ∧ Prog.Path (k a).run evs₂ (.done b)) ∨
      ∃ e, Prog.Path x.run evs (.done (.error e)) ∧ b = .error e := by
  obtain ⟨result,evs₁,evs₂,rfl,inner,after⟩ := Prog.Path.of_bind_done path
  rcases result with e | a
  · obtain ⟨rfl,same⟩ := Prog.Path.of_done after
    cases same
    exact .inr ⟨e,by rwa [List.append_nil],rfl⟩
  · exact .inl ⟨a,evs₁,evs₂,rfl,inner,after⟩

theorem path_attempt_done {x : Go α} {evs : List Event} {result : Except GoError α}
    (path : Prog.Path (attempt x).run evs (.done (.ok result))) : Prog.Path x.run evs (.done result) := by
  obtain ⟨a,evs₁,evs₂,rfl,inner,after⟩ := Prog.Path.of_bind_done path
  obtain ⟨rfl,same⟩ := Prog.Path.of_done after
  cases same
  rwa [List.append_nil]

theorem path_withRLock_done {m : Nat} {body : Go α} {evs : List Event} {result : Except GoError α}
    (path : Prog.Path (withRLock m body).run evs (.done result)) :
    ∃ evs', evs = ⟨.rLock m,()⟩ :: (evs' ++ [⟨.rUnlock m,()⟩]) ∧ Prog.Path body.run evs' (.done result) := by
  obtain ⟨_,evs₁,rfl,rest⟩ := Prog.Path.of_step_done path
  have rest : Prog.Path (body.run >>= fun a => call (.rUnlock m) >>= fun _ => pure a) evs₁ (.done result) := rest
  obtain ⟨a,evs',evs₂,rfl,inner,after⟩ := Prog.Path.of_bind_done rest
  obtain ⟨_,evs₃,rfl,last⟩ := Prog.Path.of_step_done after
  obtain ⟨rfl,same⟩ := Prog.Path.of_done last
  cases same
  exact ⟨evs',rfl,inner⟩

theorem path_of_bind {x : Go α} {k : α → Go β} {evs : List Event} {r : Prog (Except GoError β)}
    (path : Prog.Path (x >>= k).run evs r) :
    (∃ q, Prog.Path x.run evs q ∧ r = q >>= ExceptT.bindCont k) ∨
      (∃ a evs₁ evs₂, evs = evs₁ ++ evs₂ ∧ Prog.Path x.run evs₁ (.done (.ok a)) ∧ Prog.Path (k a).run evs₂ r) ∨
      ∃ e, Prog.Path x.run evs (.done (.error e)) ∧ r = .done (.error e) := by
  rcases Prog.Path.of_bind path with found | ⟨result,evs₁,evs₂,rfl,inner,after⟩
  · exact .inl found
  · rcases result with e | a
    · obtain ⟨rfl,rfl⟩ := Prog.Path.of_done after
      exact .inr (.inr ⟨e,by rwa [List.append_nil],rfl⟩)
    · exact .inr (.inl ⟨a,evs₁,evs₂,rfl,inner,after⟩)

end Go

/-! ### Labelled runs of the cluster -/

namespace Cluster
variable {runner : Nat → Pod → Go Unit}

/-- A run of the cluster, logging each effect with the goroutine that performed it. -/
inductive Run (runner : Nat → Pod → Go Unit) : Cluster → List (Nat × Event) → Cluster → Prop
  | refl (c : Cluster) : Run runner c [] c
  | perform {c : Cluster} {i : Nat} {e : Effect} {next : e.Reply → Thread} {reply : e.Reply} {w : World}
      {log : List (Nat × Event)} {c' : Cluster}
      (waiting : c.threads[i]? = some (.step e next)) (performed : perform e c.world = some (reply,w))
      (rest : Run runner ⟨w,c.threads.set i (next reply),c.launched⟩ log c') :
      Run runner c ((i,⟨e,reply⟩) :: log) c'
  | launch {c : Cluster} {agent : Nat} {pod : Pod} {log : List (Nat × Event)} {c' : Cluster}
      (spawned : c.world.runners[c.launched]? = some (agent,pod))
      (rest : Run runner ⟨c.world,c.threads ++ [(runner agent pod).run],c.launched + 1⟩ log c') :
      Run runner c log c'

/-- The effects goroutine `i` performed in `log`, in order. -/
def own (i : Nat) (log : List (Nat × Event)) : List Event :=
  log.filterMap fun entry => if entry.1 = i then some entry.2 else none

@[simp] theorem own_nil (i : Nat) : own i [] = [] := rfl

theorem own_cons (i j : Nat) (ev : Event) (log : List (Nat × Event)) :
    own i ((j,ev) :: log) = if j = i then ev :: own i log else own i log := by
  by_cases same : j = i <;> simp [own,same]

theorem mem_own {i : Nat} {ev : Event} {log : List (Nat × Event)} : ev ∈ own i log ↔ (i,ev) ∈ log := by
  simp only [own,List.mem_filterMap,Option.ite_none_right_eq_some,Option.some.injEq]
  constructor
  · rintro ⟨⟨j,ev'⟩,mem,rfl,rfl⟩
    exact mem
  · exact fun mem => ⟨(i,ev),mem,rfl,rfl⟩

theorem mem_of_get {i : Nat} {log : List (Nat × Event)} (k : Fin log.length) (mine : (log.get k).1 = i) :
    (i,(log.get k).2) ∈ log := by
  rw [← mine]
  exact List.get_mem log k.1 k.2

theorem Run.reaches {c c' : Cluster} {log : List (Nat × Event)} (run : Run runner c log c') : Reaches runner c c' := by
  induction run with
  | refl => exact .refl
  | perform waiting performed _ ih => exact .head (.perform waiting performed) ih
  | launch spawned _ ih => exact .head (.launch spawned) ih

theorem Reaches.run {c c' : Cluster} (reaches : Reaches runner c c') : ∃ log, Run runner c log c' := by
  induction reaches using Relation.ReflTransGen.head_induction_on with
  | refl => exact ⟨[],.refl _⟩
  | head step _ ih =>
    obtain ⟨log,rest⟩ := ih
    cases step with
    | perform waiting performed => exact ⟨_,.perform waiting performed rest⟩
    | launch spawned => exact ⟨log,.launch spawned rest⟩

theorem Run.split {c c' : Cluster} {log₁ log₂ : List (Nat × Event)} (run : Run runner c (log₁ ++ log₂) c') :
    ∃ mid, Run runner c log₁ mid ∧ Run runner mid log₂ c' := by
  generalize logged : log₁ ++ log₂ = log at run
  induction run generalizing log₁ with
  | refl c =>
    obtain ⟨rfl,rfl⟩ := List.append_eq_nil.mp logged
    exact ⟨c,.refl c,.refl c⟩
  | perform waiting performed rest ih =>
    cases log₁ with
    | nil =>
      rw [List.nil_append] at logged
      subst logged
      exact ⟨_,.refl _,.perform waiting performed rest⟩
    | cons entry log₁ =>
      obtain ⟨rfl,same⟩ := List.cons_eq_cons.mp logged
      obtain ⟨mid,first,second⟩ := ih same
      exact ⟨mid,.perform waiting performed first,second⟩
  | launch spawned rest ih =>
    cases log₁ with
    | nil =>
      rw [List.nil_append] at logged
      subst logged
      exact ⟨_,.refl _,.launch spawned rest⟩
    | cons entry log₁ =>
      obtain ⟨mid,first,second⟩ := ih logged
      exact ⟨mid,.launch spawned first,second⟩

theorem Run.head_etcd_reply {c c' : Cluster} {log : List (Nat × Event)} {i : Nat} {call : Call}
    {reply : Except Bytes call.Response} (run : Run runner c ((i,⟨.etcd call,reply⟩) :: log) c') :
    reply = .ok (call.apply c.world.store).1 ∨ reply = .error transportError := by
  generalize logged : (i,(⟨.etcd call,reply⟩ : Event)) :: log = log' at run
  induction run with
  | refl => cases logged
  | perform _ performed _ =>
    obtain ⟨⟨rfl,rfl⟩,-⟩ := List.cons_eq_cons.mp logged
    rw [perform_etcd] at performed
    split at performed <;> cases performed
    · exact .inr rfl
    · exact .inl rfl
  | launch _ _ ih => exact ih logged

theorem Run.etcd_reply {c c' : Cluster} {log₁ log₂ : List (Nat × Event)} {i : Nat} {call : Call}
    {reply : Except Bytes call.Response} (run : Run runner c (log₁ ++ (i,⟨.etcd call,reply⟩) :: log₂) c') :
    ∃ mid, Run runner c log₁ mid ∧ (reply = .ok (call.apply mid.world.store).1 ∨ reply = .error transportError) := by
  obtain ⟨mid,first,second⟩ := Run.split run
  exact ⟨mid,first,second.head_etcd_reply⟩

/-- Goroutine `i` of a run followed a path of its program through the replies
it got. -/
theorem Run.path {c c' : Cluster} {log : List (Nat × Event)} {i : Nat} {p : Thread} (run : Run runner c log c')
    (started : c.threads[i]? = some p) : ∃ q, c'.threads[i]? = some q ∧ Prog.Path p (own i log) q := by
  induction run generalizing p with
  | refl => exact ⟨p,started,.nil p⟩
  | @perform c j e next reply w log c' waiting performed rest ih =>
    rw [own_cons]
    by_cases same : j = i
    · subst same
      rw [waiting] at started
      cases started
      have inside : j < c.threads.length := (List.getElem?_eq_some.mp waiting).1
      obtain ⟨q,ended,path⟩ := ih (List.getElem?_set_self inside)
      exact ⟨q,ended,by rw [if_pos rfl]; exact .step reply path⟩
    · rw [if_neg same]
      exact ih (by rw [List.getElem?_set_ne same]; exact started)
  | launch spawned rest ih =>
    have inside : i < _ := (List.getElem?_eq_some.mp started).1
    exact ih (by rw [List.getElem?_append_left inside]; exact started)

theorem own_eq_append_cons {i : Nat} {log : List (Nat × Event)} {pre post : List Event} {ev : Event}
    (cut : own i log = pre ++ ev :: post) :
    ∃ log₁ log₂, log = log₁ ++ (i,ev) :: log₂ ∧ own i log₁ = pre ∧ own i log₂ = post := by
  induction log generalizing pre with
  | nil => simp at cut
  | cons entry log ih =>
    obtain ⟨j,ev'⟩ := entry
    rw [own_cons] at cut
    by_cases same : j = i
    · rw [if_pos same] at cut
      subst same
      cases pre with
      | nil =>
        obtain ⟨rfl,rfl⟩ := List.cons_eq_cons.mp cut
        exact ⟨[],log,rfl,rfl,rfl⟩
      | cons first pre =>
        obtain ⟨rfl,rest⟩ := List.cons_eq_cons.mp cut
        obtain ⟨log₁,log₂,rfl,before,after⟩ := ih rest
        exact ⟨(j,ev') :: log₁,log₂,rfl,by rw [own_cons,if_pos rfl,before],after⟩
    · rw [if_neg same] at cut
      obtain ⟨log₁,log₂,rfl,before,after⟩ := ih cut
      exact ⟨(j,ev') :: log₁,log₂,rfl,by rw [own_cons,if_neg same,before],after⟩

/-- A goroutine whose own events hold a lock, an etcd call that was answered,
and an unlock: the log cut at that call, the store the call read, and each
later event of the goroutine after the cut. -/
theorem Run.read_at {c c' : Cluster} {log : List (Nat × Event)} {i : Nat} (run : Run runner c log c')
    {first last : Event} {call : Call} {response : call.Response} {pre evs' : List Event}
    (mine : own i log = pre ++ [first,⟨.etcd call,Except.ok response⟩,last] ++ evs') {ev : Event} (later : ev ∈ evs') :
    ∃ log₁ log₂ mid, log = log₁ ++ (i,⟨.etcd call,Except.ok response⟩) :: log₂ ∧ (i,ev) ∈ log₂ ∧
      Run runner c log₁ mid ∧ (call.apply mid.world.store).1 = response := by
  have mine : own i log = (pre ++ [first]) ++ ⟨.etcd call,Except.ok response⟩ :: (last :: evs') := by simpa using mine
  obtain ⟨log₁,log₂,rfl,-,after⟩ := own_eq_append_cons mine
  obtain ⟨mid,before,replied⟩ := run.etcd_reply
  have read : (call.apply mid.world.store).1 = response := by
    rcases replied with same | failed
    · exact (Except.ok.inj same).symm
    · cases failed
  exact ⟨log₁,log₂,mid,rfl,mem_own.mp (after ▸ List.mem_cons_of_mem _ later),before,read⟩

theorem Run.read_before {c c' : Cluster} {log : List (Nat × Event)} {i : Nat} (run : Run runner c log c')
    {first last : Event} {call : Call} {response : call.Response} {evs' : List Event}
    (mine : own i log = [first,⟨.etcd call,Except.ok response⟩,last] ++ evs') {ev : Event} (later : ev ∈ evs') :
    ∃ log₁ log₂ mid, log = log₁ ++ (i,⟨.etcd call,Except.ok response⟩) :: log₂ ∧ (i,ev) ∈ log₂ ∧
      Run runner c log₁ mid ∧ (call.apply mid.world.store).1 = response :=
  run.read_at (show own i log = [] ++ [first,⟨.etcd call,Except.ok response⟩,last] ++ evs' from mine) later

/-! ### Runs on a fixed schedule -/

/-- One step of goroutine `i`, with what it logs: its next effect, performed
on the world. A goroutine that has ended stays as it is; one whose effect
blocks, or that does not exist, cannot step. -/
def stepThread (c : Cluster) (i : Nat) : Option (List (Nat × Event) × Cluster) :=
  match c.threads[i]? with
  | some (.step e next) =>
    (perform e c.world).map fun result => ([(i,⟨e,result.1⟩)],⟨result.2,c.threads.set i (next result.1),c.launched⟩)
  | some _ => some ([],c)
  | none => none

def schedule (c : Cluster) : List Nat → Option (List (Nat × Event) × Cluster)
  | [] => some ([],c)
  | i :: order =>
    (c.stepThread i).bind fun stepped =>
      (stepped.2.schedule order).map fun rest => (stepped.1 ++ rest.1,rest.2)

def returned (c : Cluster) (i : Nat) : Bool :=
  match c.threads[i]? with
  | some (.done (.ok ())) => true
  | _ => false

def exited (c : Cluster) (i : Nat) : Option Bytes :=
  match c.threads[i]? with
  | some (.halt reason) => some reason
  | _ => none

theorem Run.append {c mid c' : Cluster} {log log' : List (Nat × Event)} (first : Run runner c log mid)
    (second : Run runner mid log' c') : Run runner c (log ++ log') c' := by
  induction first with
  | refl => exact second
  | perform waiting performed _ ih => exact .perform waiting performed (ih second)
  | launch spawned _ ih => exact .launch spawned (ih second)

theorem run_of_stepThread {c c' : Cluster} {i : Nat} {log : List (Nat × Event)}
    (stepped : c.stepThread i = some (log,c')) : Run runner c log c' := by
  unfold stepThread at stepped
  split at stepped
  · rename_i waiting
    obtain ⟨⟨reply,w⟩,performed,same⟩ := Option.map_eq_some'.mp stepped
    cases same
    exact .perform waiting performed (.refl _)
  · cases stepped; exact .refl _
  · cases stepped

theorem run_of_schedule {c c' : Cluster} {order : List Nat} {log : List (Nat × Event)}
    (scheduled : c.schedule order = some (log,c')) : Run runner c log c' := by
  induction order generalizing c log with
  | nil => cases scheduled; exact .refl _
  | cons i order ih =>
    obtain ⟨⟨log₁,mid⟩,stepped,rest⟩ := Option.bind_eq_some.mp scheduled
    obtain ⟨⟨log₂,c''⟩,scheduledRest,same⟩ := Option.map_eq_some'.mp rest
    cases same
    exact (run_of_stepThread stepped).append (ih scheduledRest)

/-- The log and the cluster a schedule leads to; `c` itself when it blocks. -/
def scheduled (c : Cluster) (order : List Nat) : List (Nat × Event) × Cluster := (c.schedule order).getD ([],c)

theorem run_scheduled (c : Cluster) (order : List Nat) (runs : (c.schedule order).isSome = true) :
    Run runner c (c.scheduled order).1 (c.scheduled order).2 := by
  obtain ⟨⟨log,c'⟩,ran⟩ := Option.isSome_iff_exists.mp runs
  rw [scheduled,ran]
  exact run_of_schedule ran

/-- Every runner spawned and not started yet, started as a goroutine. -/
def launchAll (runner : Nat → Pod → Go Unit) (c : Cluster) : Cluster :=
  ⟨c.world,c.threads ++ (c.world.runners.drop c.launched).map (fun spawned => (runner spawned.1 spawned.2).run),
    c.launched + (c.world.runners.drop c.launched).length⟩

theorem reaches_launchAll (c : Cluster) : Reaches runner c (c.launchAll runner) := by
  generalize pending : c.world.runners.drop c.launched = spawned
  induction spawned generalizing c with
  | nil =>
    have same : c.launchAll runner = c := by
      simp only [launchAll,pending,List.map_nil,List.append_nil,List.length_nil,Nat.add_zero]
    rw [same]
    exact .refl
  | cons first rest ih =>
    have next : c.world.runners[c.launched]? = some first := by
      rw [← List.head?_drop,pending]; rfl
    have later : c.world.runners.drop (c.launched + 1) = rest := by
      rw [← List.drop_drop,pending]; rfl
    have moved := ih ⟨c.world,c.threads ++ [(runner first.1 first.2).run],c.launched + 1⟩ later
    have same : launchAll runner ⟨c.world,c.threads ++ [(runner first.1 first.2).run],c.launched + 1⟩ =
        c.launchAll runner := by
      simp only [launchAll,later,pending,List.map_cons,List.append_assoc,List.singleton_append,List.length_cons]
      congr 1
      omega
    rw [same] at moved
    exact .head (.launch next) moved

end Cluster

end Gokube
