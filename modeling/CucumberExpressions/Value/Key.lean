import CucumberExpressions.Number.Shortest
import CucumberExpressions.Number.Numeral
import CucumberExpressions.Validation.Problem

/-! Keys that are not texts: how they are written in the path of a problem. -/

namespace CucumberExpressions

/-- A whole number of more digits than are read is not written either. -/
def writeInteger (n : Int) : String :=
  if n.natAbs < Nat.pow 10 longestInteger then toString n else "<unprintable int object>"

/-- The step that a key makes: a small whole number is an index, and every other key its written
form. -/
def Scalar.step : Scalar → Step
  | text s => .key s
  | null => .key "None"
  | bool b => .index b.toNat
  | int n => if -Int.pow 2 63 ≤ n ∧ n < Int.pow 2 63 then .index n else .key (writeInteger n)
  | double x => .key x.written
  | moment m => .key m.written
  | bytes bs => .key (quotedBytes bs)

end CucumberExpressions
