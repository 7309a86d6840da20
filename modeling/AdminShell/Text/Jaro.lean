import AdminShell.Number.Arith

/-! # Jaro similarity

The Jaro similarity of two texts is `((m/|a| + m/|b|) + (m - t)/m) / 3`, where `m` counts
the characters of `a` matched, in order, to equal and not yet matched characters of `b` no
farther away than half the longer length less one, and `t` is half the number of matched
pairs that stand in a different order. Two empty texts are alike; an empty and a non-empty
one share nothing.

The similarity is a double, each quotient and sum rounded to the nearest double in the order
written. The rounding matters at the threshold: `(3/5 + 3/6 + 3/3) / 3` comes out just above
`0.7`, so a text with three of five characters matched counts as similar.
-/

namespace AdminShell.Text

open Number

abbrev Similarity := Number.Double

def matchIn (b : Array Char) (c : Char) (lo hi : Nat) (taken : Array Bool) : Option Nat :=
  (List.range' lo (hi - lo)).find? (fun j => b.getD j ' ' == c && !taken.getD j true)

def matchFlags (a b : Array Char) : Array Bool × Array Bool :=
  let range := max a.size b.size / 2 - 1
  (List.range a.size).foldl (fun (fa, fb) i =>
    let lo := i - range
    let hi := min b.size (i + range + 1)
    match matchIn b (a.getD i ' ') lo hi fb with
    | some j => (fa.set! i true, fb.set! j true)
    | none => (fa, fb))
    (Array.replicate a.size false, Array.replicate b.size false)

def matchedChars (s : Array Char) (flags : Array Bool) : List Char :=
  (List.range s.size).filterMap (fun i => if flags.getD i false then s[i]? else none)

def jaro (x y : String) : Similarity :=
  let a := x.toList.toArray
  let b := y.toList.toArray
  if a.size == 0 && b.size == 0 then nearest 1 1
  else if a.size == 0 || b.size == 0 then .zero
  else
    let (fa, fb) := matchFlags a b
    let ma := matchedChars a fa
    let mb := matchedChars b fb
    let m := ma.length
    if m == 0 then .zero
    else
      let t := ((ma.zip mb).filter (fun p => p.1 != p.2)).length / 2
      (((nearest m a.size).add (nearest m b.size)).add (nearest (m - t) m)).divNat 3

/-- The candidates more than 0.7 alike to a text, least alike first; equally alike ones keep
their order. -/
def similarTo (x : String) (candidates : List String) : List String :=
  let scored := (candidates.map (fun c => (jaro x c, c))).filter (fun p => (nearest 7 10).lt p.1)
  (scored.mergeSort (fun p q => p.1.le q.1)).map Prod.snd

end AdminShell.Text
