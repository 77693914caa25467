/-! # Code point range tables

A character property given as data: closed ranges of code points, sorted and
disjoint, searched by halving. The tables of this library (printable characters,
grapheme extenders) are values of this type.
-/

namespace GrammarLoader.Text

/-- Closed code point ranges `(lo, hi)`, in increasing order and pairwise disjoint. -/
structure RangeTable where
  ranges : Array (Nat × Nat)

namespace RangeTable

/-- Binary search over the ranges with indices in `[lo, hi)`. -/
def containsIn (t : RangeTable) (n : Nat) (lo hi : Nat) : Bool :=
  if h : lo < hi then
    let mid := (lo + hi) / 2
    let r := t.ranges.getD mid (0, 0)
    if n < r.1 then t.containsIn n lo mid
    else if r.2 < n then t.containsIn n (mid + 1) hi
    else true
  else false
termination_by hi - lo

/-- Whether some range of the table holds the code point. -/
def contains (t : RangeTable) (n : Nat) : Bool :=
  t.containsIn n 0 t.ranges.size

end RangeTable

end GrammarLoader.Text
