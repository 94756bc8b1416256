/-! Non-negative fractions, compared exactly. -/

namespace CucumberExpressions

structure Ratio where
  num : Nat
  den : Nat

namespace Ratio

def scale (base : Nat) (exponent : Int) (r : Ratio) : Ratio :=
  ⟨r.num * base.pow exponent.toNat, r.den * base.pow (-exponent).toNat⟩

def le (r s : Ratio) : Bool := r.num * s.den ≤ s.num * r.den

def lt (r s : Ratio) : Bool := r.num * s.den < s.num * r.den

def times (r : Ratio) (n : Nat) : Ratio := ⟨r.num * n, r.den⟩

def floor (r : Ratio) : Nat := r.num / r.den

end Ratio

end CucumberExpressions
