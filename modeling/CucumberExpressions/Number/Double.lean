/-! Binary64 numbers: sign, mantissa and exponent. -/

namespace CucumberExpressions

structure Double where
  bits : UInt64
  deriving DecidableEq, Repr

namespace Double

def negative (x : Double) : Bool := x.bits >>> 63 == 1

def exponentField (x : Double) : Nat := (x.bits >>> 52).toNat % 2048

def fraction (x : Double) : Nat := x.bits.toNat % Nat.pow 2 52

def isNaN (x : Double) : Bool := x.exponentField == 2047 && x.fraction != 0

def isInfinite (x : Double) : Bool := x.exponentField == 2047 && x.fraction == 0

/-- A finite number is `mantissa * 2 ^ exponent`, up to its sign. -/
def mantissa (x : Double) : Nat :=
  if x.exponentField = 0 then x.fraction else Nat.pow 2 52 + x.fraction

def exponent (x : Double) : Int := max x.exponentField 1 - 1075

def isZero (x : Double) : Bool := x.mantissa == 0

def isInt (x : Double) (n : Int) : Bool :=
  x.exponentField != 2047 && (x.mantissa == 0 || x.negative == decide (n < 0)) &&
    x.mantissa * Nat.pow 2 x.exponent.toNat == n.natAbs * Nat.pow 2 (-x.exponent).toNat

def ofFloat (x : Float) : Double := ⟨x.toBits⟩

def toFloat (x : Double) : Float := .ofBits x.bits

end Double

end CucumberExpressions
