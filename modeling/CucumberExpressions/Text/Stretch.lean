/-! Sets of code points as ascending bounds: a stretch starts at every bound of even place and stops
before the next one. -/

namespace CucumberExpressions

/-- The number of entries among `bounds[lo..hi)` that are at most `n`, plus `lo`, for ascending
bounds. -/
def countUpTo (bounds : Array Nat) (n : Nat) (lo hi : Nat) : Nat :=
  if lo < hi then
    let mid := (lo + hi) / 2
    if bounds.getD mid 0 ≤ n then countUpTo bounds n (mid + 1) hi else countUpTo bounds n lo mid
  else lo
termination_by hi - lo

def inStretch (bounds : Array Nat) (n : Nat) : Bool :=
  countUpTo bounds n 0 bounds.size % 2 == 1

end CucumberExpressions
