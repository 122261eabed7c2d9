import Gokube.Go

/-! Go's `path.Join` and `path.Clean`, which key the node registry. `Clean` is
given by its documented rules: repeated slashes collapse, `.` elements go, an
inner `..` removes the element before it, a `..` at the start of a rooted
path is dropped, and an empty result is `.`. -/

namespace Gokube.Path

def slash : UInt8 := 47

/-- The elements of a path, by the stack of kept elements (top first); a `..`
that cannot remove an element is kept only in a path that is not rooted. -/
def cleanElements (rooted : Bool) : (kept : List Bytes) → (elems : List Bytes) → List Bytes
  | kept, [] => kept.reverse
  | kept, e :: rest =>
    if e = [] ∨ e = lit "." then cleanElements rooted kept rest
    else if e = lit ".." then
      match kept with
      | top :: below =>
        if top = lit ".." then cleanElements rooted (e :: kept) rest else cleanElements rooted below rest
      | [] => cleanElements rooted (if rooted then [] else [e]) rest
    else cleanElements rooted (e :: kept) rest

def clean (p : Bytes) : Bytes :=
  if p = [] then lit "." else
    let rooted := p.head? = some slash
    let body := (lit "/").intercalate (cleanElements rooted [] (p.splitOn slash))
    if rooted then lit "/" ++ body else if body = [] then lit "." else body

/-- `path.Join(elem...)`: the elements after the first non-empty one are joined
with `/`, and the result cleaned; `""` when every element is empty. -/
def join (elems : List Bytes) : Bytes :=
  if elems.foldl (fun size e => size + e.length) 0 = 0 then [] else
    clean (elems.foldl (fun buf e =>
      if buf ≠ [] ∨ e ≠ [] then (if buf ≠ [] then buf ++ lit "/" else buf) ++ e else buf) [])

end Gokube.Path
