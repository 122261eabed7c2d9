import Gokube.Api

/-! `encoding/json` as `runtime.Encode` and `runtime.Decode` use it. A string
is written "coerced to valid UTF-8, replacing invalid bytes with the Unicode
replacement rune": scanning with `utf8.DecodeRune`, each byte where decoding
fails becomes U+FFFD. What a value reads back as is therefore the value with
every string coerced. -/

namespace Gokube

namespace Utf8

/-- `utf8.first` with `acceptRanges`: the length of the sequence a byte
starts and the range of the byte after it; `none` for the bytes `xx`. -/
def lead (b : UInt8) : Option (Nat × UInt8 × UInt8) :=
  if b < 0x80 then some (1,0x80,0xBF)
  else if b < 0xC2 then none
  else if b < 0xE0 then some (2,0x80,0xBF)
  else if b = 0xE0 then some (3,0xA0,0xBF)
  else if b < 0xED then some (3,0x80,0xBF)
  else if b = 0xED then some (3,0x80,0x9F)
  else if b < 0xF0 then some (3,0x80,0xBF)
  else if b = 0xF0 then some (4,0x90,0xBF)
  else if b < 0xF4 then some (4,0x80,0xBF)
  else if b = 0xF4 then some (4,0x80,0x8F)
  else none

def tails (lo hi : UInt8) : (count : Nat) → Bytes → Bool
  | 0, _ => true
  | _ + 1, [] => false
  | count + 1, b :: rest => decide (lo ≤ b ∧ b ≤ hi) && tails 0x80 0xBF count rest

/-- The size `utf8.DecodeRune` reads; `0` where it returns `RuneError` of size 1. -/
def runeSize : Bytes → Nat
  | [] => 0
  | b :: rest =>
    match lead b with
    | none => 0
    | some (size,lo,hi) => if tails lo hi (size - 1) rest then size else 0

/-- U+FFFD, `utf8.RuneError`. -/
def runeError : Bytes := [0xEF,0xBF,0xBD]

def coerceFrom : (inside : Nat) → Bytes → Bytes
  | _, [] => []
  | inside + 1, b :: rest => b :: coerceFrom inside rest
  | 0, b :: rest =>
    match runeSize (b :: rest) with
    | 0 => runeError ++ coerceFrom 0 rest
    | size + 1 => b :: coerceFrom size rest

/-- A string as `json.Unmarshal` reads back what `json.Marshal` wrote of it. -/
def coerce (s : Bytes) : Bytes := coerceFrom 0 s

def validFrom : (inside : Nat) → Bytes → Bool
  | _, [] => true
  | inside + 1, _ :: rest => validFrom inside rest
  | 0, b :: rest =>
    match runeSize (b :: rest) with
    | 0 => false
    | size + 1 => validFrom size rest

/-- `utf8.ValidString`. -/
def valid (s : Bytes) : Bool := validFrom 0 s

theorem tails_length {lo hi : UInt8} {count : Nat} {s : Bytes} (ok : tails lo hi count s = true) :
    count ≤ s.length := by
  induction count generalizing lo hi s with
  | zero => exact Nat.zero_le _
  | succ count ih =>
    cases s with
    | nil => cases ok
    | cons b rest =>
      simp only [tails,Bool.and_eq_true] at ok
      simpa using ih ok.2

theorem tails_take_append {lo hi : UInt8} {count : Nat} {s : Bytes} (ok : tails lo hi count s = true) (t : Bytes) :
    tails lo hi count (s.take count ++ t) = true := by
  induction count generalizing lo hi s with
  | zero => rfl
  | succ count ih =>
    cases s with
    | nil => cases ok
    | cons b rest =>
      simp only [tails,Bool.and_eq_true] at ok
      rw [List.take_succ_cons,List.cons_append]
      simp only [tails,Bool.and_eq_true]
      exact ⟨ok.1,ih ok.2⟩

theorem runeSize_le (s : Bytes) : runeSize s ≤ s.length := by
  cases s with
  | nil => exact Nat.zero_le _
  | cons b rest =>
    simp only [runeSize]
    split
    · exact Nat.zero_le _
    · split
      · next ok => have := tails_length ok; simp only [List.length_cons]; omega
      · exact Nat.zero_le _

theorem runeSize_take_append {s : Bytes} {n : Nat} (size : runeSize s = n) (pos : 0 < n) (t : Bytes) :
    runeSize (s.take n ++ t) = n := by
  cases s with
  | nil => simp [runeSize] at size; omega
  | cons b rest =>
    simp only [runeSize] at size
    split at size
    · omega
    · next size' lo hi first =>
      split at size
      · next ok =>
        subst size
        obtain ⟨k,rfl⟩ : ∃ k, size' = k + 1 := ⟨size' - 1,by omega⟩
        rw [Nat.add_sub_cancel] at ok
        simp only [List.take_succ_cons,List.cons_append,runeSize,first,Nat.add_sub_cancel,
          tails_take_append ok,ite_true]
      · omega

theorem coerceFrom_inside {k : Nat} {s : Bytes} (within : k ≤ s.length) :
    coerceFrom k s = s.take k ++ coerceFrom 0 (s.drop k) := by
  induction k generalizing s with
  | zero => rfl
  | succ k ih =>
    cases s with
    | nil => simp at within
    | cons b rest => simp [coerceFrom,ih (by simpa using within)]

theorem validFrom_inside {k : Nat} {s : Bytes} (within : k ≤ s.length) : validFrom k s = validFrom 0 (s.drop k) := by
  induction k generalizing s with
  | zero => rfl
  | succ k ih =>
    cases s with
    | nil => simp at within
    | cons b rest => simp [validFrom,ih (by simpa using within)]

theorem coerce_of_runeSize {s : Bytes} {n : Nat} (size : runeSize s = n) (pos : 0 < n) :
    coerce s = s.take n ++ coerce (s.drop n) := by
  cases s with
  | nil => simp [runeSize] at size; omega
  | cons b rest =>
    obtain ⟨k,rfl⟩ : ∃ k, n = k + 1 := ⟨n - 1,by omega⟩
    have le : k ≤ rest.length := by have := size ▸ runeSize_le (b :: rest); simp at this; omega
    simp only [coerce,coerceFrom,size,List.take_succ_cons,List.drop_succ_cons,List.cons_append,coerceFrom_inside le]

theorem coerce_of_runeSize_eq_zero {b : UInt8} {rest : Bytes} (size : runeSize (b :: rest) = 0) :
    coerce (b :: rest) = runeError ++ coerce rest := by
  simp only [coerce,coerceFrom,size]

theorem valid_of_runeSize {s : Bytes} {n : Nat} (size : runeSize s = n) (pos : 0 < n) :
    valid s = valid (s.drop n) := by
  cases s with
  | nil => simp [runeSize] at size; omega
  | cons b rest =>
    obtain ⟨k,rfl⟩ : ∃ k, n = k + 1 := ⟨n - 1,by omega⟩
    have le : k ≤ rest.length := by have := size ▸ runeSize_le (b :: rest); simp at this; omega
    simp only [valid,validFrom,size,List.drop_succ_cons,validFrom_inside le]

theorem not_valid_of_runeSize_eq_zero {b : UInt8} {rest : Bytes} (size : runeSize (b :: rest) = 0) :
    valid (b :: rest) = false := by
  simp only [valid,validFrom,size]

theorem valid_split {a : Bytes} (ok : valid a = true) {b : UInt8} {rest : Bytes} (nonempty : a = b :: rest) :
    ∃ n, 0 < n ∧ n ≤ a.length ∧ runeSize a = n ∧ valid (a.drop n) = true := by
  cases size : runeSize a with
  | zero => subst nonempty; rw [not_valid_of_runeSize_eq_zero size] at ok; cases ok
  | succ k => exact ⟨k + 1,Nat.succ_pos k,size ▸ runeSize_le a,rfl,valid_of_runeSize size (Nat.succ_pos k) ▸ ok⟩

theorem valid_append {a c : Bytes} (left : valid a = true) (right : valid c = true) : valid (a ++ c) = true := by
  generalize h : a.length = len
  induction len using Nat.strong_induction_on generalizing a with
  | _ len ih =>
    cases a with
    | nil => exact right
    | cons b rest =>
      obtain ⟨n,pos,le,size,after⟩ := valid_split left rfl
      have joined : b :: rest ++ c = (b :: rest).take n ++ ((b :: rest).drop n ++ c) := by
        rw [← List.append_assoc,List.take_append_drop]
      rw [joined,valid_of_runeSize (runeSize_take_append size pos _) pos,List.drop_left' (List.length_take_of_le le)]
      exact ih _ (by simp at h ⊢; omega) after rfl

theorem coerce_append_of_valid {a : Bytes} (ok : valid a = true) (c : Bytes) : coerce (a ++ c) = a ++ coerce c := by
  generalize h : a.length = len
  induction len using Nat.strong_induction_on generalizing a with
  | _ len ih =>
    cases a with
    | nil => rfl
    | cons b rest =>
      obtain ⟨n,pos,le,size,after⟩ := valid_split ok rfl
      have joined : b :: rest ++ c = (b :: rest).take n ++ ((b :: rest).drop n ++ c) := by
        rw [← List.append_assoc,List.take_append_drop]
      have taken : ((b :: rest).take n).length = n := List.length_take_of_le le
      rw [joined,coerce_of_runeSize (runeSize_take_append size pos _) pos,List.take_left' taken,List.drop_left' taken,
        ih _ (by simp at h ⊢; omega) after rfl,← List.append_assoc,List.take_append_drop]

@[simp] theorem coerce_nil : coerce [] = [] := rfl

theorem coerce_of_valid {s : Bytes} (ok : valid s = true) : coerce s = s := by
  simpa using coerce_append_of_valid ok []

theorem valid_coerce (s : Bytes) : valid (coerce s) = true := by
  generalize h : s.length = len
  induction len using Nat.strong_induction_on generalizing s with
  | _ len ih =>
    cases s with
    | nil => rfl
    | cons b rest =>
      cases size : runeSize (b :: rest) with
      | zero =>
        rw [coerce_of_runeSize_eq_zero size]
        exact valid_append (by decide) (ih _ (by simp at h; omega) _ rfl)
      | succ k =>
        have whole : valid ((b :: rest).take (k + 1)) = true := by
          rw [valid_of_runeSize (by simpa using runeSize_take_append size (Nat.succ_pos k) []) (Nat.succ_pos k)]
          simp [List.drop_take]; rfl
        rw [coerce_of_runeSize size (Nat.succ_pos k)]
        exact valid_append whole (ih _ (by simp at h ⊢; omega) _ rfl)

@[simp] theorem coerce_coerce (s : Bytes) : coerce (coerce s) = coerce s := coerce_of_valid (valid_coerce s)

theorem mem_coerce {x : UInt8} {s : Bytes} (mem : x ∈ coerce s) : x ∈ s ∨ x ∈ runeError := by
  suffices ∀ k, x ∈ coerceFrom k s → x ∈ s ∨ x ∈ runeError from this 0 mem
  clear mem
  induction s with
  | nil => intro k mem; cases k <;> simp [coerceFrom] at mem
  | cons b rest ih =>
    intro k mem
    have later := fun k mem => (ih k mem).imp_left (List.mem_cons_of_mem b)
    have first : x = b → x ∈ b :: rest ∨ x ∈ runeError := fun h => .inl (h ▸ List.mem_cons_self x rest)
    cases k with
    | succ k => exact (List.mem_cons.mp mem).elim first (later k)
    | zero =>
      simp only [coerceFrom] at mem
      split at mem
      · exact (List.mem_append.mp mem).elim .inr (later 0)
      · exact (List.mem_cons.mp mem).elim first (later _)

@[simp] theorem coerce_eq_nil {s : Bytes} : coerce s = [] ↔ s = [] := by
  cases s with
  | nil => simp [coerce,coerceFrom]
  | cons b rest =>
    simp only [coerce,coerceFrom,reduceCtorEq,iff_false]
    split <;> simp [runeError]

end Utf8

/-! ### The round trip of each type -/

def Container.json (c : Container) : Container := ⟨Utf8.coerce c.name,Utf8.coerce c.image⟩
def ObjectMeta.json (meta : ObjectMeta) : ObjectMeta := ⟨Utf8.coerce meta.name,Utf8.coerce meta.namespace⟩
def PodSpec.json (spec : PodSpec) : PodSpec := ⟨spec.containers.map (·.map Container.json),spec.replicas⟩
def Pod.json (p : Pod) : Pod := ⟨p.objectMeta.json,p.spec.json,Utf8.coerce p.nodeName,Utf8.coerce p.status⟩
def NodeSpec.json (spec : NodeSpec) : NodeSpec := ⟨spec.unschedulable,Utf8.coerce spec.providerID⟩
def Node.json (n : Node) : Node := ⟨n.objectMeta.json,n.spec.json,Utf8.coerce n.status⟩
def PodTemplateSpec.json (t : PodTemplateSpec) : PodTemplateSpec := ⟨t.objectMeta.json,t.spec.json⟩
def ReplicaSet.json (rs : ReplicaSet) : ReplicaSet :=
  ⟨rs.objectMeta.json,⟨rs.spec.replicas,rs.spec.template.json⟩,rs.status⟩

@[simp] theorem ObjectMeta.json_name (meta : ObjectMeta) : meta.json.name = Utf8.coerce meta.name := rfl
@[simp] theorem Pod.json_objectMeta (p : Pod) : p.json.objectMeta = p.objectMeta.json := rfl
@[simp] theorem Pod.json_status (p : Pod) : p.json.status = Utf8.coerce p.status := rfl
@[simp] theorem Node.json_objectMeta (n : Node) : n.json.objectMeta = n.objectMeta.json := rfl
@[simp] theorem ReplicaSet.json_objectMeta (rs : ReplicaSet) : rs.json.objectMeta = rs.objectMeta.json := rfl

theorem Container.json_json (c : Container) : c.json.json = c.json := by simp [Container.json]
theorem ObjectMeta.json_json (meta : ObjectMeta) : meta.json.json = meta.json := by simp [ObjectMeta.json]

theorem PodSpec.json_json (spec : PodSpec) : spec.json.json = spec.json := by
  cases spec with
  | mk containers replicas => cases containers <;> simp [PodSpec.json,Function.comp_def,Container.json_json]

theorem Pod.json_json (p : Pod) : p.json.json = p.json := by
  simp [Pod.json,ObjectMeta.json_json,PodSpec.json_json]

theorem Node.json_json (n : Node) : n.json.json = n.json := by
  simp [Node.json,NodeSpec.json,ObjectMeta.json_json]

theorem ReplicaSet.json_json (rs : ReplicaSet) : rs.json.json = rs.json := by
  simp [ReplicaSet.json,PodTemplateSpec.json,ObjectMeta.json_json,PodSpec.json_json]

private theorem requiredString_coerce (ns field value : Bytes) :
    requiredString ns field (Utf8.coerce value) = requiredString ns field value := by
  simp [requiredString]

@[simp] theorem Pod.validate_json (p : Pod) : p.json.validate = p.validate := by
  obtain ⟨⟨name,_⟩,⟨containers,replicas⟩,_,_⟩ := p
  cases containers <;>
    simp [Pod.validate,podFieldErrors,Pod.json,PodSpec.json,ObjectMeta.json,List.enum_map,Function.comp_def,
      containerErrors,Container.json,requiredString_coerce]

@[simp] theorem Node.validate_json (n : Node) : n.json.validate = n.validate := by
  simp [Node.validate,nodeFieldErrors,Node.json,ObjectMeta.json,requiredString_coerce]

end Gokube
