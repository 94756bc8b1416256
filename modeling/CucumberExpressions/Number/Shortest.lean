import CucumberExpressions.Number.Double
import CucumberExpressions.Number.Ratio

/-! The shortest decimal of a binary number: the fewest digits that read back as the same number,
and of those the nearest. -/

namespace CucumberExpressions

structure Decimal where
  digits : Nat
  exponent : Int
  deriving DecidableEq, Repr

namespace Double

/-- The least `k` from `k` on, within `fuel` steps, with `r < 10 ^ k`. -/
def decimalPlaces (r : Ratio) (k : Int) : Nat → Int
  | 0 => k
  | fuel + 1 => if r.lt (Ratio.scale 10 k ⟨1, 1⟩) then k else decimalPlaces r (k + 1) fuel

/-- The numbers that round to `x` lie between its neighbours' midpoints, which are among them if the
mantissa is even. -/
def roundsTo (x : Double) (r : Ratio) : Bool :=
  let below := if x.fraction = 0 ∧ 1 < x.exponentField then 1 else 2
  let low := Ratio.scale 2 (x.exponent - 2) ⟨4 * x.mantissa - below, 1⟩
  let high := Ratio.scale 2 (x.exponent - 2) ⟨4 * x.mantissa + 2, 1⟩
  if x.mantissa % 2 = 0 then low.le r && r.le high else low.lt r && r.lt high

/-- The nearer of the two neighbours of `x` among the multiples of `10 ^ unit`, if it rounds to `x`;
else the other one, if that does. -/
def onGrid? (x : Double) (unit : Int) : Option Decimal :=
  let value := Ratio.scale 2 x.exponent ⟨x.mantissa, 1⟩
  let scaled := value.scale 10 (-unit)
  let d := scaled.floor
  let upFirst := 2 * (scaled.num - d * scaled.den) > scaled.den
    || (2 * (scaled.num - d * scaled.den) == scaled.den && d % 2 == 1)
  let candidates := if upFirst then [d + 1, d] else [d, d + 1]
  (candidates.find? fun n => x.roundsTo (Ratio.scale 10 unit ⟨n, 1⟩)).map (⟨·, unit⟩)

def shortest (x : Double) : Decimal :=
  let value := Ratio.scale 2 x.exponent ⟨x.mantissa, 1⟩
  let places := decimalPlaces value (-324) 640
  ((List.range 17).findSome? fun (n : Nat) => x.onGrid? (places - n - 1)).getD ⟨0, 0⟩

end Double

/-- How a decimal is laid out: positional for a leading digit from `10 ^ low` to below `10 ^ high`,
else with a two-digit exponent. -/
structure DecimalLayout where
  low : Int
  high : Int

def keyLayout : DecimalLayout := ⟨-4, 16⟩

def DecimalLayout.write (layout : DecimalLayout) (d : Decimal) : String :=
  let all := (toString d.digits).toList
  let digits := (all.reverse.dropWhile (· == '0')).reverse
  let lead : Int := d.exponent + all.length - 1
  if layout.low ≤ lead ∧ lead < layout.high then
    if lead < 0 then
      "0." ++ String.ofList (List.replicate (-lead - 1).toNat '0' ++ digits)
    else
      let whole := digits.take (lead.toNat + 1)
      let decimals := digits.drop (lead.toNat + 1)
      String.ofList (whole ++ List.replicate (lead.toNat + 1 - digits.length) '0') ++ "."
        ++ (if decimals = [] then "0" else String.ofList decimals)
  else
    let decimals := digits.drop 1
    let size := toString lead.natAbs
    String.ofList (digits.take 1 ++ if decimals = [] then [] else '.' :: decimals) ++ "e"
      ++ (if lead < 0 then "-" else "+") ++ (if size.length < 2 then "0" ++ size else size)

def Double.written (x : Double) : String :=
  if x.isNaN then "nan"
  else
    (if x.negative then "-" else "") ++
      if x.isInfinite then "inf"
      else if x.mantissa = 0 then "0.0"
      else keyLayout.write x.shortest

end CucumberExpressions
