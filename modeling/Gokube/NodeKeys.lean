import Gokube.Registry

/-! The keys the node registry builds with `path.Join(prefix, name)`. For a
name without `/`, `Join` splits the joined path into the prefix's elements and
the name, so `Clean` keeps the name as one element: the key is the prefix
followed by the name, except for the empty name, `.` and `..`, which `Clean`
drops or lets climb out of the prefix. -/

namespace Gokube

private theorem splitOn_nodeKey {name : Bytes} (noSlash : Path.slash ∉ name) :
    (lit "/registry/nodes//" ++ name).splitOn Path.slash = [[],lit "registry",lit "nodes",[],name] := by
  have shape : lit "/registry/nodes//" ++ name =
      [] ++ Path.slash :: (lit "registry" ++ Path.slash :: (lit "nodes" ++ Path.slash :: ([] ++ Path.slash :: name))) := by
    rw [show lit "/registry/nodes//" =
      [] ++ Path.slash :: (lit "registry" ++ Path.slash :: (lit "nodes" ++ Path.slash :: ([] ++ [Path.slash]))) by decide]
    simp
  have single : name.splitOn Path.slash = [name] :=
    List.splitOnP_eq_single _ _ fun x mem same => noSlash (by simpa using (beq_iff_eq.mp same) ▸ mem)
  rw [shape]
  simp only [List.splitOn] at single ⊢
  rw [List.splitOnP_first _ _ (by decide) _ (by decide),List.splitOnP_first _ _ (by decide) _ (by decide),
    List.splitOnP_first _ _ (by decide) _ (by decide),List.splitOnP_first _ _ (by decide) _ (by decide),single]

private theorem join_nodePrefix (name : Bytes) :
    Path.join [nodePrefix,name] = Path.clean (lit "/registry/nodes//" ++ name) := by
  have size : [nodePrefix,name].foldl (fun size e => size + e.length) 0 ≠ 0 := by
    simp [nodePrefix,show lit "/registry/nodes/" ≠ [] by decide]
  rw [Path.join,if_neg size]
  congr 1

private theorem cleanElements_nodeKey (name : Bytes) :
    Path.cleanElements true [] [[],lit "registry",lit "nodes",[],name] =
      if name = [] ∨ name = lit "." then [lit "registry",lit "nodes"]
      else if name = lit ".." then [lit "registry"]
      else [lit "registry",lit "nodes",name] := by
  rw [Path.cleanElements,if_pos (by decide),Path.cleanElements,if_neg (by decide),if_neg (by decide),
    Path.cleanElements,if_neg (by decide),if_neg (by decide),Path.cleanElements,if_pos (by decide),Path.cleanElements]
  by_cases skip : name = [] ∨ name = lit "."
  · rw [if_pos skip,if_pos skip]; rfl
  · rw [if_neg skip,if_neg skip]
    by_cases dots : name = lit ".."
    · rw [if_pos dots,if_pos dots]; rfl
    · rw [if_neg dots,if_neg dots]; rfl

/-- A node name without `/` is keyed as the node prefix followed by the name,
except the empty name and `.`, keyed `/registry/nodes`, and `..`, keyed
`/registry`. -/
theorem generateKey_nodePrefix {name : Bytes} (noSlash : Path.slash ∉ name) :
    generateKey nodePrefix name =
      if name = [] ∨ name = lit "." then lit "/registry/nodes"
      else if name = lit ".." then lit "/registry"
      else nodePrefix ++ name := by
  have rooted : (lit "/registry/nodes//" ++ name).head? = some Path.slash := by
    rw [List.head?_append]; rfl
  rw [generateKey,join_nodePrefix,Path.clean,if_neg (by simp [show lit "/registry/nodes//" ≠ [] by decide])]
  dsimp only
  simp only [rooted,splitOn_nodeKey noSlash,decide_True,ite_true,cleanElements_nodeKey]
  by_cases skip : name = [] ∨ name = lit "."
  · rw [if_pos skip,if_pos skip]; rfl
  · rw [if_neg skip,if_neg skip]
    by_cases dots : name = lit ".."
    · rw [if_pos dots,if_pos dots]; rfl
    · rw [if_neg dots,if_neg dots]
      simp only [List.intercalate,nodePrefix,List.map_cons,List.map_nil,List.intersperse,List.flatten,
        List.append_nil,← List.append_assoc,← lit_append]
      rfl

theorem generateKey_nodePrefix_self :
    Path.slash ∉ lit "self" ∧
      generateKey nodePrefix (lit "self") =
        if lit "self" = [] ∨ lit "self" = lit "." then lit "/registry/nodes"
        else if lit "self" = lit ".." then lit "/registry"
        else nodePrefix ++ lit "self" :=
  ⟨by decide,generateKey_nodePrefix (by decide)⟩

end Gokube
