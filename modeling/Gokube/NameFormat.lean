import Gokube.Program

/-! The format of generated names. Through every group its loop reads and
every refill, `String(n)`'s buffer holds at most `n` bytes, each read from
`alphanums` at an index the loop checked; the loop ends only once it holds
`n`. `GenerateName` puts five of them after a base cut to 58 bytes. -/

namespace Gokube

namespace Names

/-- What `String`'s buffer holds at any point of its loop. -/
structure Fits (n : Nat) (out : Bytes) : Prop where
  length_le : out.length ≤ n
  mem : ∀ c ∈ out, c ∈ alphanums

theorem Fits.nil (n : Nat) : Fits n [] := ⟨Nat.zero_le n,fun _ => by simp⟩

theorem readGroups_fits {n : Nat} (remaining value : Nat) {out : Bytes} (fits : Fits n out) :
    Fits n (readGroups n remaining value out) := by
  induction remaining generalizing value out with
  | zero => exact fits
  | succ remaining ih =>
    rw [readGroups]
    split
    · apply ih
      split
      · refine ⟨by simp; omega,fun c mem => ?_⟩
        rcases List.mem_append.mp mem with old | new
        · exact fits.mem c old
        · rw [List.mem_singleton.mp new]
          exact List.get_mem _ _ _
      · exact fits
    · exact fits

theorem refill_spec {n : Nat} {draws : List Nat} {out s : Bytes} {rest : List Nat} (fits : Fits n out)
    (drawn : refill n draws out = some (s,rest)) : s.length = n ∧ ∀ c ∈ s, c ∈ alphanums := by
  induction draws generalizing out with
  | nil =>
    rw [refill] at drawn
    split at drawn
    · cases drawn
    · cases drawn
      exact ⟨by have := fits.length_le; omega,fits.mem⟩
  | cons value draws ih =>
    rw [refill] at drawn
    split at drawn
    · exact ih (readGroups_fits _ _ fits) drawn
    · cases drawn
      exact ⟨by have := fits.length_le; omega,fits.mem⟩

theorem String_spec {n : Nat} {draws : List Nat} {s : Bytes} {rest : List Nat}
    (drawn : String n draws = some (s,rest)) : s.length = n ∧ ∀ c ∈ s, c ∈ alphanums := by
  cases draws with
  | nil => cases drawn
  | cons value draws => exact refill_spec (readGroups_fits _ _ (Fits.nil n)) drawn

theorem truncateBase_eq_take (base : Bytes) :
    truncateBase base = base.take (min base.length maxGeneratedNameLength) := by
  unfold truncateBase
  split
  · rw [Nat.min_eq_right (by omega)]
  · rw [Nat.min_eq_left (by omega),List.take_length]

end Names

theorem exec_generateName (base : Bytes) (w : World) :
    (generateName base).exec w =
      (Names.String Names.randomLength w.rng).map fun drawn =>
        (.returned (Names.truncateBase base ++ drawn.1),{w with rng := drawn.2}) := by
  simp only [generateName,Prog.exec_bind,call,Prog.exec_step,perform]
  cases Names.String Names.randomLength w.rng <;> rfl

/-- On every stream of draws on which it ends, `String(n)` returns `n` bytes,
each `alphanums` at an index within it; a `GenerateName` that returns gives its
base cut to 58 bytes followed by five such bytes, 63 bytes at most. -/
theorem generated_names_well_formed :
    (∀ (n : Nat) (draws : List Nat) (s : Bytes) (rest : List Nat), Names.String n draws = some (s,rest) →
      s.length = n ∧ ∀ c ∈ s, ∃ i : Fin Names.alphanums.length, Names.alphanums.get i = c) ∧
    (∀ (base : Bytes) (w w' : World) (name : Bytes), (generateName base).exec w = some (.returned name,w') →
      ∃ s, name = base.take (min base.length Names.maxGeneratedNameLength) ++ s ∧ s.length = Names.randomLength ∧
        (∀ c ∈ s, c ∈ Names.alphanums) ∧
        name.length = min base.length Names.maxGeneratedNameLength + Names.randomLength ∧
        name.length ≤ Names.maxNameLength) := by
  refine ⟨fun n draws s rest drawn => ?_,fun base w w' name ran => ?_⟩
  · obtain ⟨length,mem⟩ := Names.String_spec drawn
    exact ⟨length,fun c inside => List.mem_iff_get.mp (mem c inside)⟩
  · rw [exec_generateName] at ran
    obtain ⟨⟨s,rest⟩,drawn,same⟩ := Option.map_eq_some'.mp ran
    cases same
    obtain ⟨length,mem⟩ := Names.String_spec drawn
    refine ⟨s,by rw [Names.truncateBase_eq_take],length,mem,by simp [Names.truncateBase_eq_take,length],?_⟩
    simp [Names.truncateBase_eq_take,length,Names.maxNameLength,Names.maxGeneratedNameLength,Names.randomLength]

theorem generated_name_of_web_well_formed :
    (generateName (lit "web")).exec (World.start Store.empty [0] []) =
        some (.returned (lit "webbbbbb"),World.start Store.empty [] []) ∧
      ∃ s, lit "webbbbbb" = (lit "web").take (min (lit "web").length Names.maxGeneratedNameLength) ++ s ∧
        s.length = Names.randomLength ∧ (∀ c ∈ s, c ∈ Names.alphanums) ∧
        (lit "webbbbbb").length = min (lit "web").length Names.maxGeneratedNameLength + Names.randomLength ∧
        (lit "webbbbbb").length ≤ Names.maxNameLength :=
  have ran : (generateName (lit "web")).exec (World.start Store.empty [0] []) =
      some (.returned (lit "webbbbbb"),World.start Store.empty [] []) := by decide
  ⟨ran,generated_names_well_formed.2 _ _ _ _ ran⟩

end Gokube
