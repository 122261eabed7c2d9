import Gokube.Keyspace
import Gokube.Kubelet

/-! The node agent starts each pod once: `runNewPods` records a pod in the
agent's map before it starts the runner, and nothing takes a name out of the
map. A monitor (`Check`) reads off what the watching goroutine has checked. -/

namespace Gokube

def NoSpawn (agent : Nat) (e : Effect) : Prop := ∀ pod, e ≠ .spawnRunner agent pod

/-! ### The agent's map and its runners -/

def World.trackedNames (w : World) (agent : Nat) : List Bytes := (w.memory agent).map Prod.fst

def World.runnerNames (w : World) (agent : Nat) : List Bytes :=
  (w.runners.filter (·.1 == agent)).map (·.2.objectMeta.name)

private theorem keys_map_of_keeps {β : Type} (m : List (Bytes × β)) {f : Bytes × β → Bytes × β}
    (keeps : ∀ entry, (f entry).1 = entry.1) : (m.map f).map Prod.fst = m.map Prod.fst := by
  rw [List.map_map]; exact List.map_congr_left fun entry _ => keeps entry

theorem mem_keys_assign {β : Type} {m : List (Bytes × β)} {key probe : Bytes} {value : β} :
    probe ∈ (assign m key value).map Prod.fst ↔ probe = key ∨ probe ∈ m.map Prod.fst := by
  unfold assign
  split
  · next held =>
    rw [keys_map_of_keeps m fun entry => by split <;> simp_all]
    obtain ⟨entry,mem,same⟩ := List.any_eq_true.mp held
    refine ⟨.inr,?_⟩
    rintro (rfl | kept)
    · exact List.mem_map.mpr ⟨entry,mem,beq_iff_eq.mp same⟩
    · exact kept
  · simp [or_comm]

section Perform
variable {e : Effect} {w w' : World} {reply : e.Reply} {agent : Nat}

theorem trackedNames_perform (performed : perform e w = some (reply,w')) {name : Bytes}
    (held : name ∈ w.trackedNames agent) : name ∈ w'.trackedNames agent := by
  rcases perform_agents performed with same | ⟨a,pod,-,rfl⟩ | ⟨a,n,status,-,rfl⟩
  · rwa [World.trackedNames,World.memory,same]
  · simp only [World.trackedNames,World.memory_setMemory]
    split
    · next mine => subst mine; exact mem_keys_assign.mpr (.inr held)
    · exact held
  · simp only [World.trackedNames,World.memory_setMemory]
    split
    · next mine => subst mine; rwa [keys_map_of_keeps _ fun entry => by split <;> simp_all]
    · exact held

theorem runnerNames_perform (performed : perform e w = some (reply,w')) (quiet : NoSpawn agent e) :
    w'.runnerNames agent = w.runnerNames agent := by
  rcases perform_runners performed with same | ⟨a,pod,rfl,grown⟩
  · rw [World.runnerNames,same]; rfl
  · have other : a ≠ agent := fun mine => quiet pod (by rw [mine])
    simp [World.runnerNames,grown,other]

end Perform

theorem not_mem_trackedNames {w : World} {agent : Nat} {name : Bytes} (missing : (w.memory agent).lookup name = none) :
    name ∉ w.trackedNames agent := by
  intro held
  obtain ⟨entry,mem,rfl⟩ := List.mem_map.mp held
  simpa using List.lookup_eq_none_iff.mp missing entry mem

/-! ### The monitor -/

/-- What the watching goroutine's last calls established about the pod it is
starting. -/
inductive Check where
  | idle
  /-- The agent's map held no pod of this name. -/
  | absent (name : Bytes)
  /-- Then the pod was recorded under its name. -/
  | tracked (pod : Pod)
  deriving DecidableEq, Repr

/-- One event of the watching goroutine of `agent`. A lookup of the agent that
finds nothing marks the name absent, a record of a pod of that name marks the
pod tracked, and a runner is accepted only as the agent's, for the pod just
tracked. -/
def Check.next (agent : Nat) (check : Check) : Event → Option Check
  | ⟨.lookupPod a name,reply⟩ => some (if a = agent ∧ Option.isNone reply then .absent name else .idle)
  | ⟨.trackPod a pod,_⟩ => some (if a = agent ∧ check = .absent pod.objectMeta.name then .tracked pod else .idle)
  | ⟨.spawnRunner a pod,_⟩ => if a = agent ∧ check = .tracked pod then some .idle else none
  | _ => some .idle

theorem Check.next_of_quiet {agent : Nat} (check : Check) {e : Effect} (quiet : ∀ a, NoSpawn a e) (reply : e.Reply) :
    ∃ check', check.next agent ⟨e,reply⟩ = some check' := by
  cases e with
  | spawnRunner a pod => exact absurd rfl (quiet a pod)
  | _ => exact ⟨_,rfl⟩

namespace Prog
variable {α β : Type} {agent : Nat}

/-- Every path of `p`, with the monitor of `agent` started at `check`, passes
the monitor. -/
def Passes (agent : Nat) : Check → Prog α → Prop
  | _, .done _ => True
  | _, .halt _ => True
  | check, .step e next => ∀ reply, ∃ check', check.next agent ⟨e,reply⟩ = some check' ∧ Passes agent check' (next reply)

theorem Passes.bind {check : Check} {p : Prog α} {f : α → Prog β} (first : p.Passes agent check)
    (rest : ∀ a check', (f a).Passes agent check') : (p >>= f).Passes agent check := by
  induction p generalizing check with
  | done a => exact rest a check
  | halt reason => trivial
  | step e next ih =>
    intro reply
    obtain ⟨check',moved,passes⟩ := first reply
    exact ⟨check',moved,ih reply passes⟩

theorem Passes.of_within {p : Prog α} (inside : p.Within fun e => ∀ a, NoSpawn a e) (check : Check) :
    p.Passes agent check := by
  induction p generalizing check with
  | done a => trivial
  | halt reason => trivial
  | step e next ih =>
    intro reply
    obtain ⟨check',moved⟩ := check.next_of_quiet inside.1 reply
    exact ⟨check',moved,ih reply (inside.2 reply) check'⟩

theorem Passes.within {check : Check} {p : Prog α} (passes : p.Passes agent check) {other : Nat}
    (apart : other ≠ agent) : p.Within (NoSpawn other) := by
  induction p generalizing check with
  | done a => trivial
  | halt reason => trivial
  | step e next ih =>
    refine ⟨fun pod spawns => ?_,fun reply => ?_⟩
    · subst spawns
      obtain ⟨_,moved,-⟩ := passes ()
      simp [Check.next,apart] at moved
    · obtain ⟨_,-,rest⟩ := passes reply
      exact ih reply rest

end Prog

namespace Go
variable {α β : Type} {agent : Nat}

def SpawnsChecked (agent : Nat) (x : Go α) : Prop := ∀ check, x.run.Passes agent check

theorem spawnsChecked_bind {x : Go α} {k : α → Go β} (first : x.SpawnsChecked agent)
    (rest : ∀ a, (k a).SpawnsChecked agent) : (x >>= k).SpawnsChecked agent := fun check =>
  Prog.Passes.bind (first check) fun
    | .ok a, check' => rest a check'
    | .error _, _ => trivial

theorem passes_call_bind {check : Check} {e : Effect} {k : e.Reply → Go β}
    (rest : ∀ reply, ∃ check', check.next agent ⟨e,reply⟩ = some check' ∧ (k reply).run.Passes agent check') :
    (Go.call e >>= k).run.Passes agent check := rest

theorem spawnsChecked_of_within {x : Go α} (inside : x.run.Within fun e => ∀ a, NoSpawn a e) :
    x.SpawnsChecked agent :=
  Prog.Passes.of_within inside

theorem spawnsChecked_attempt {x : Go α} (inside : x.SpawnsChecked agent) : (attempt x).SpawnsChecked agent :=
  fun check => Prog.Passes.bind (inside check) fun _ _ => trivial

theorem spawnsChecked_map {x : Go α} (f : α → β) (inside : x.SpawnsChecked agent) : (f <$> x).SpawnsChecked agent :=
  fun check => Prog.Passes.bind (inside check) fun result _ => by cases result <;> trivial

end Go

namespace Kubelet
variable (k : Kubelet)

/-- Each pod `runNewPods` starts is looked up, found missing and recorded
right before its runner starts. -/
theorem spawnsChecked_runNewPods (pods : List Pod) : (k.runNewPods pods).SpawnsChecked k.agent := by
  induction pods with
  | nil => intro _; trivial
  | cons pod rest ih =>
    intro check
    refine Go.passes_call_bind fun found => ?_
    cases found with
    | none =>
      refine ⟨.absent pod.objectMeta.name,by simp [Check.next],?_⟩
      simp only [Option.isNone_none,↓reduceIte]
      exact Go.passes_call_bind fun _ => ⟨.tracked pod,by simp [Check.next],
        Go.passes_call_bind fun _ => ⟨.idle,by simp [Check.next],ih _⟩⟩
    | some tracked =>
      refine ⟨.idle,by simp [Check.next],?_⟩
      simp only [Option.isNone_some,Bool.false_eq_true,↓reduceIte]
      exact ih _

theorem spawnsChecked_watchPods (rounds : Nat) : (k.watchPods rounds).SpawnsChecked k.agent := by
  induction rounds with
  | zero => intro _; trivial
  | succ rounds ih =>
    refine Go.spawnsChecked_bind (Go.spawnsChecked_bind (Go.spawnsChecked_attempt ?_) fun result => ?_) fun _ => ih
    · exact Go.spawnsChecked_of_within
        (k.within_getPodAssignments (fun _ _ => nofun) (fun _ _ => nofun) (fun _ _ => nofun) (fun _ _ => nofun))
    · rcases result with _ | pods
      · intro _; trivial
      · exact Go.spawnsChecked_map _ (Go.spawnsChecked_attempt (k.spawnsChecked_runNewPods pods))

end Kubelet

/-! ### Runs -/

/-- What a check says of the world: a name found absent has no runner, and a
tracked pod has no runner yet and its name is in the map. -/
def Check.Holds (agent : Nat) (w : World) : Check → Prop
  | .idle => True
  | .absent name => name ∉ w.runnerNames agent
  | .tracked pod => pod.objectMeta.name ∉ w.runnerNames agent ∧ pod.objectMeta.name ∈ w.trackedNames agent

/-- The agent's runners have distinct names, each of them in its map, and the
watching goroutine's check holds. -/
structure Accounted (agent : Nat) (w : World) (check : Check) : Prop where
  distinct : (w.runnerNames agent).Nodup
  tracked : ∀ name ∈ w.runnerNames agent, name ∈ w.trackedNames agent
  holds : check.Holds agent w

namespace Accounted
variable {agent : Nat} {w w' : World} {check : Check} {e : Effect} {reply : e.Reply}

theorem perform_other (quiet : NoSpawn agent e) (performed : perform e w = some (reply,w'))
    (accounted : Accounted agent w check) : Accounted agent w' check := by
  have names := runnerNames_perform performed quiet
  refine ⟨names ▸ accounted.distinct,fun name mem => trackedNames_perform performed
    (accounted.tracked name (names ▸ mem)),?_⟩
  match check, accounted.holds with
  | .idle, _ => trivial
  | .absent _, fresh => show _ ∉ _; rwa [names]
  | .tracked _, ⟨fresh,held⟩ => exact ⟨by rwa [names],trackedNames_perform performed held⟩

theorem spawn {pod : Pod} (accounted : Accounted agent w (.tracked pod)) :
    Accounted agent {w with runners := w.runners ++ [(agent,pod)]} .idle := by
  obtain ⟨distinct,tracked,fresh,held⟩ := accounted
  have names : World.runnerNames {w with runners := w.runners ++ [(agent,pod)]} agent =
      w.runnerNames agent ++ [pod.objectMeta.name] := by
    simp [World.runnerNames]
  refine ⟨?_,fun name mem => ?_,trivial⟩
  · rw [names]; exact distinct.append (List.nodup_singleton _) (by simpa using fresh)
  · rw [names] at mem
    rcases List.mem_append.mp mem with old | new
    · exact tracked name old
    · rw [List.mem_singleton.mp new]; exact held

theorem perform_own {check' : Check} (moved : check.next agent ⟨e,reply⟩ = some check')
    (performed : perform e w = some (reply,w')) (accounted : Accounted agent w check) :
    Accounted agent w' check' := by
  by_cases spawns : ∃ a pod, e = .spawnRunner a pod
  · obtain ⟨a,pod,rfl⟩ := spawns
    cases performed
    simp only [Check.next] at moved
    split at moved
    · next found => obtain ⟨rfl,rfl⟩ := found; cases moved; exact accounted.spawn
    · cases moved
  have kept := accounted.perform_other (fun pod same => spawns ⟨agent,pod,same⟩) performed
  refine ⟨kept.distinct,kept.tracked,?_⟩
  cases e with
  | lookupPod a name =>
    cases performed
    simp only [Check.next,Option.some.injEq] at moved
    split at moved
    · next found =>
      subst moved
      obtain ⟨rfl,missing⟩ := found
      exact fun mem => not_mem_trackedNames (Option.isNone_iff_eq_none.mp missing) (accounted.tracked _ mem)
    · subst moved; trivial
  | trackPod a pod =>
    cases performed
    simp only [Check.next,Option.some.injEq] at moved
    split at moved
    · next found =>
      subst moved
      obtain ⟨rfl,rfl⟩ := found
      refine ⟨accounted.holds,?_⟩
      simp only [World.trackedNames,World.memory_setMemory,if_pos rfl]
      exact mem_keys_assign.mpr (.inl rfl)
    · subst moved; trivial
  | spawnRunner a pod => exact absurd ⟨a,pod,rfl⟩ spawns
  | _ => cases moved; trivial

end Accounted

/-- A cluster in which goroutine `i` watches for `agent` with its check at
`check`: it passes the monitor from there on, no other goroutine starts a
runner of the agent, and the account holds. -/
structure Watched (agent i : Nat) (c : Cluster) (check : Check) : Prop where
  watcher : ∃ p, c.threads[i]? = some p ∧ p.Passes agent check
  others : ∀ j t, j ≠ i → c.threads[j]? = some t → t.Within (NoSpawn agent)
  accounted : Accounted agent c.world check

namespace Watched
variable {runner : Nat → Pod → Go Unit} {agent i : Nat} {c c' : Cluster} {check : Check}

theorem step (runners : ∀ a pod, (runner a pod).run.Within (NoSpawn agent)) (watched : Watched agent i c check)
    (step : Cluster.Step runner c c') : ∃ check', Watched agent i c' check' := by
  obtain ⟨⟨p,mine,passes⟩,others,accounted⟩ := watched
  have bound : i < c.threads.length := (List.getElem?_eq_some_iff.mp mine).1
  cases step with
  | @perform j e next reply w waiting performed =>
    by_cases same : j = i
    · subst same
      rw [mine] at waiting
      cases waiting
      obtain ⟨check',moved,passes'⟩ := passes reply
      refine ⟨check',⟨_,List.getElem?_set_self bound,passes'⟩,fun j' t apart found => ?_,
        accounted.perform_own moved performed⟩
      rw [List.getElem?_set_ne (Ne.symm apart)] at found
      exact others j' t apart found
    · have inside := others j _ same waiting
      refine ⟨check,⟨p,by rwa [List.getElem?_set_ne same],passes⟩,fun j' t apart found => ?_,
        accounted.perform_other inside.1 performed⟩
      by_cases hit : j = j'
      · subst hit
        rw [List.getElem?_set_self (List.getElem?_eq_some_iff.mp waiting).1] at found
        cases found
        exact inside.2 reply
      · rw [List.getElem?_set_ne hit] at found
        exact others j' t apart found
  | launch spawned =>
    refine ⟨check,⟨p,by rwa [List.getElem?_append_left bound],passes⟩,fun j t apart found => ?_,accounted⟩
    rw [List.getElem?_append] at found
    split at found
    · exact others j t apart found
    · rw [List.mem_singleton.mp (List.getElem?_mem found)]
      exact runners _ _

theorem reaches (runners : ∀ a pod, (runner a pod).run.Within (NoSpawn agent)) (watched : Watched agent i c check)
    (reaches : Cluster.Reaches runner c c') : ∃ check', Watched agent i c' check' := by
  induction reaches with
  | refl => exact ⟨check,watched⟩
  | tail _ step ih =>
    obtain ⟨check',watched'⟩ := ih
    exact watched'.step runners step

end Watched

/-- While goroutine `i` runs the node agent's `watchPods` and no other
goroutine, pod runners included, starts a runner of the agent, the agent's
runners keep distinct pod names, each of them in its map, in every
interleaving. -/
theorem Kubelet.watchPods_starts_each_pod_once {runner : Nat → Pod → Go Unit} {k : Kubelet} {rounds i : Nat}
    {c c' : Cluster} (watching : c.threads[i]? = some (k.watchPods rounds).run)
    (others : ∀ j t, j ≠ i → c.threads[j]? = some t → t.Within (NoSpawn k.agent))
    (runners : ∀ agent pod, (runner agent pod).run.Within (NoSpawn k.agent))
    (distinct : (c.world.runnerNames k.agent).Nodup)
    (tracked : ∀ name ∈ c.world.runnerNames k.agent, name ∈ c.world.trackedNames k.agent)
    (reaches : Cluster.Reaches runner c c') :
    (c'.world.runnerNames k.agent).Nodup ∧ ∀ name ∈ c'.world.runnerNames k.agent, name ∈ c'.world.trackedNames k.agent := by
  obtain ⟨_,-,-,accounted⟩ := (Watched.mk ⟨_,watching,k.spawnsChecked_watchPods rounds .idle⟩ others
    ⟨distinct,tracked,trivial⟩).reaches runners reaches
  exact ⟨accounted.distinct,accounted.tracked⟩

def watchStart : Cluster :=
  ⟨World.start (Store.empty.put (podPrefix ++ lit "web") (.pod webOnSelf)) [0,1] [],
    [((agentOn 0 (lit "self")).watchPods 2).run,((agentOn 1 (lit "peer")).watchPods 1).run,
      (agentOn 0 (lit "self")).cleanupContainers.run],0⟩

def watchPolled : Cluster :=
  (watchStart.scheduled (List.replicate 4 0 ++ List.replicate 7 1 ++ List.replicate 3 0)).2

def watchEnd : Cluster :=
  ((watchPolled.launchAll selfAndPeerRunner).scheduled
    (List.replicate 5 3 ++ List.replicate 5 4 ++ List.replicate 5 0 ++ List.replicate 5 2)).2

theorem watchPods_starts_each_pod_once_web :
    watchStart.threads[0]? = some ((agentOn 0 (lit "self")).watchPods 2).run ∧
      (∀ j t, j ≠ 0 → watchStart.threads[j]? = some t → t.Within (NoSpawn (agentOn 0 (lit "self")).agent)) ∧
      (∀ agent pod, (selfAndPeerRunner agent pod).run.Within (NoSpawn (agentOn 0 (lit "self")).agent)) ∧
      (watchStart.world.runnerNames (agentOn 0 (lit "self")).agent).Nodup ∧
      (∀ name ∈ watchStart.world.runnerNames (agentOn 0 (lit "self")).agent,
        name ∈ watchStart.world.trackedNames (agentOn 0 (lit "self")).agent) ∧
      Cluster.Reaches selfAndPeerRunner watchStart watchEnd ∧
      watchEnd.world.runners = [(1,webOnSelf),(0,webOnSelf)] ∧ watchEnd.returned 0 = true ∧
      ((watchEnd.world.runnerNames (agentOn 0 (lit "self")).agent).Nodup ∧
        ∀ name ∈ watchEnd.world.runnerNames (agentOn 0 (lit "self")).agent,
          name ∈ watchEnd.world.trackedNames (agentOn 0 (lit "self")).agent) :=
  have watching : watchStart.threads[0]? = some ((agentOn 0 (lit "self")).watchPods 2).run := rfl
  have others : ∀ j t, j ≠ 0 → watchStart.threads[j]? = some t →
      t.Within (NoSpawn (agentOn 0 (lit "self")).agent) := by
    rintro (_ | _ | _ | j) t apart found
    · exact absurd rfl apart
    · cases found
      exact ((agentOn 1 (lit "peer")).spawnsChecked_watchPods 1 .idle).within (by decide)
    · cases found
      exact (agentOn 0 (lit "self")).within_cleanupContainers (fun _ _ => nofun) (fun _ _ => nofun)
    · cases found
  have runners : ∀ agent pod, (selfAndPeerRunner agent pod).run.Within (NoSpawn (agentOn 0 (lit "self")).agent) :=
    fun agent pod => (selfAndPeer agent).within_runPod (fun _ _ => nofun) (fun _ _ => nofun) pod
  have polling : Cluster.Reaches selfAndPeerRunner watchStart watchPolled :=
    (Cluster.run_scheduled _ _ (by decide)).reaches
  have running : Cluster.Reaches selfAndPeerRunner (watchPolled.launchAll selfAndPeerRunner) watchEnd :=
    (Cluster.run_scheduled _ _ (by decide)).reaches
  have reaches := (polling.trans (Cluster.reaches_launchAll watchPolled)).trans running
  ⟨watching,others,runners,List.nodup_nil,fun _ => nofun,reaches,by decide,by decide,
    Kubelet.watchPods_starts_each_pod_once watching others runners List.nodup_nil (fun _ => nofun) reaches⟩

end Gokube
