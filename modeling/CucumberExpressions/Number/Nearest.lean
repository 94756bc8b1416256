import CucumberExpressions.Number.Double
import CucumberExpressions.Number.Ratio

/-! The binary64 number nearest to a fraction or a decimal; a tie goes to the even mantissa, and
what is too large for a finite number is infinite. -/

namespace CucumberExpressions

namespace Ratio

/-- The greatest `e` with `2 ^ e ≤ r`, for a fraction other than zero. -/
def log2 (r : Ratio) : Int :=
  let e : Int := (r.num.log2 : Int) - r.den.log2
  if (scale 2 e ⟨1, 1⟩).le r then e else e - 1

/-- The nearest whole number; a half goes to the even neighbour. -/
def round (r : Ratio) : Nat :=
  let n := r.floor
  let rest := 2 * (r.num - n * r.den)
  if r.den < rest || (r.den == rest && n % 2 == 1) then n + 1 else n

end Ratio

namespace Double

def zero : Double := ⟨0⟩

def infinity : Double := ⟨0x7ff0000000000000⟩

def negate (x : Double) : Double := ⟨x.bits ^^^ 0x8000000000000000⟩

/-- The nearest number. The bits of a finite number count the multiples of its unit in the last
place, those of smaller units included, so that rounding up to the next unit needs no further step.
-/
def nearest (r : Ratio) : Double :=
  if r.num = 0 then zero
  else
    let unit := max (r.log2 - 52) (-1074)
    let bits := (r.scale 2 (-unit)).round + (unit + 1074).toNat * Nat.pow 2 52
    if bits < infinity.bits.toNat then ⟨bits.toUInt64⟩ else infinity

/-- The number nearest to `digits * 10 ^ exponent`, where `digits` are decimal digits; very large
and very small exponents are told by the place of the leading digit. -/
def ofDecimal (digits : List Nat) (exponent : Int) : Double :=
  let digits := digits.dropWhile (· == 0)
  let lead := exponent + digits.length
  if digits.isEmpty || lead < -400 then zero
  else if 400 < lead then infinity
  else nearest (Ratio.scale 10 exponent ⟨digits.foldl (fun n d => n * 10 + d) 0, 1⟩)

def magnitude (x : Double) : Ratio := Ratio.scale 2 x.exponent ⟨x.mantissa, 1⟩

/-- A number that is none, told from others by `mark`. -/
def nan (mark : Nat) : Double := ⟨0x7ff8000000000000 + mark.toUInt64⟩

end Double

end CucumberExpressions
