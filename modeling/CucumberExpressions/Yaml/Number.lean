import CucumberExpressions.Number.Numeral
import CucumberExpressions.Text.Lower

/-! Numbers of YAML, read from the texts of scalars: lines between digits count for nothing, and
numbers in base sixty have colons between their places. -/

namespace CucumberExpressions.Yaml

def withoutLines (text : String) : List Char := text.toList.filter (· != '_')

def splitColons : List Char → List (List Char)
  | [] => [[]]
  | c :: cs =>
    if c = ':' then [] :: splitColons cs
    else match splitColons cs with
      | [] => [[c]]
      | part :: parts => (c :: part) :: parts

/-- A number without its sign: binary, hexadecimal, octal after a zero, in base sixty with colons,
or decimal. -/
def readUnsigned (cs : List Char) : Except NumberError Int :=
  match cs with
  | [] => .error .empty
  | ['0'] => .ok 0
  | '0' :: 'b' :: digits => readWhole 2 digits
  | '0' :: 'x' :: digits => readWhole 16 digits
  | '0' :: _ => readWhole 8 cs
  | _ =>
    if cs.contains ':' then do
      let parts ← (splitColons cs).mapM (readWhole 10)
      return parts.foldl (fun n part => n * 60 + part) 0
    else readWhole 10 cs

def readInteger (text : String) : Except NumberError Int := do
  let (negative, cs) := splitSign (withoutLines text)
  let n ← readUnsigned cs
  return if negative then -n else n

/-- The sum of places in base sixty, the last one first; `base` is the value of the next one. -/
def sumPlaces (base : Nat) (sum : Float) : List Double → Except NumberError Float
  | [] => .ok sum
  | place :: places =>
    let factor := Double.nearest ⟨base, 1⟩
    if factor.isInfinite then .error .tooLarge
    else sumPlaces (base * 60) (sum + place.toFloat * factor.toFloat) places

def nanWord : String := ".nan"

def isNaNWord (text : String) : Bool :=
  (splitSign (lower (withoutLines text))).2 == nanWord.toList

def readFloat (text : String) : Except NumberError Double := do
  let cs := lower (withoutLines text)
  if cs = [] then throw .empty
  let (negative, cs) := splitSign cs
  let x ←
    if cs = ".inf".toList then pure .infinity
    else if cs = nanWord.toList then pure (.nan 0)
    else if cs.contains ':' then do
      let places ← (splitColons cs).mapM readDecimal
      Double.ofFloat <$> sumPlaces 1 0.0 places.reverse
    else readDecimal cs
  return if negative && !x.isNaN then x.negate else x

end CucumberExpressions.Yaml
