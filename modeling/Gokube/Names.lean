import Gokube.Go

/-! `pkg/registry/names`: the random suffixes of generated names. `String(n)`
draws `Int63` values from the package's source and reads each five bits at a
time, keeping the groups that index `alphanums`. The draws are a list: the
values the source will produce, in order. -/

namespace Gokube.Names

def maxNameLength : Nat := 63
def randomLength : Nat := 5
def maxGeneratedNameLength : Nat := maxNameLength - randomLength

/-- Vowels are left out so that no word is formed. -/
def alphanums : Bytes := lit "bcdfghjklmnpqrstvwxz2456789"
def alphanumsIdxBits : Nat := 5
def alphanumsIdxMask : Nat := 1 <<< alphanumsIdxBits - 1
def maxAlphanumsPerInt : Nat := 63 / alphanumsIdxBits

/-- The iterations of `String`'s loop that read the `remaining` groups of one
value, while fewer than `n` bytes are written: the group `value & mask` is kept
when it indexes `alphanums`, then `value >>= 5`. -/
def readGroups (n : Nat) : (remaining value : Nat) → (out : Bytes) → Bytes
  | 0, _, out => out
  | remaining + 1, value, out =>
    if out.length < n then
      let idx := value &&& alphanumsIdxMask
      readGroups n remaining (value >>> alphanumsIdxBits)
        (if found : idx < alphanums.length then out ++ [alphanums.get ⟨idx,found⟩] else out)
    else out

/-- The refills of `String`'s loop: while fewer than `n` bytes are written, the
next draw is read group by group. `none` when the draws run out first. -/
def refill (n : Nat) : (draws : List Nat) → (out : Bytes) → Option (Bytes × List Nat)
  | draws, out =>
    if out.length < n then
      match draws with
      | [] => none
      | value :: rest => refill n rest (readGroups n maxAlphanumsPerInt value out)
    else some (out,draws)

/-- `String(n)`: one value is drawn before the loop, whatever `n`. -/
def String (n : Nat) : (draws : List Nat) → Option (Bytes × List Nat)
  | [] => none
  | value :: rest => refill n rest (readGroups n maxAlphanumsPerInt value [])

/-- The base `GenerateName` keeps: at most `MaxGeneratedNameLength` bytes. -/
def truncateBase (base : Bytes) : Bytes :=
  if base.length > maxGeneratedNameLength then base.take maxGeneratedNameLength else base

theorem truncateBase_of_le {base : Bytes} (short : base.length ≤ maxGeneratedNameLength) :
    truncateBase base = base :=
  if_neg (Nat.not_lt.mpr short)

end Gokube.Names
