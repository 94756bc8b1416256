import CucumberExpressions.Number.Numeral
import CucumberExpressions.Value.Moment
import CucumberExpressions.Yaml.Place
import CucumberExpressions.Yaml.Resolve

/-! Moments of YAML, read from the texts of scalars. -/

namespace CucumberExpressions.Yaml

def takeNumber (cs : List Char) : Nat × List Char :=
  (decimalNumber (cs.takeWhile Char.isDigit), (cs.dropWhile Char.isDigit).drop 1)

def microseconds (digits : List Char) : Nat :=
  decimalNumber ((digits ++ List.replicate 6 '0').take 6)

def readOffset? (cs : List Char) : Option Int :=
  match cs with
  | [] => none
  | 'Z' :: _ => some 0
  | sign :: digits =>
    let (hours, rest) := takeNumber digits
    let minutes : Int := hours * 60 + (takeNumber rest).1
    some (if sign = '-' then -minutes else minutes)

def momentOf (cs : List Char) : Moment :=
  let (year, cs) := takeNumber cs
  let (month, cs) := takeNumber cs
  let day := decimalNumber (cs.takeWhile Char.isDigit)
  let cs := (cs.dropWhile Char.isDigit).dropWhile fun c => isSpaceOrTab c || c == 'T' || c == 't'
  if cs = [] then ⟨year, month, day, none⟩
  else
    let (hour, cs) := takeNumber cs
    let (minute, cs) := takeNumber cs
    let second := decimalNumber (cs.takeWhile Char.isDigit)
    let cs := cs.dropWhile Char.isDigit
    let (fraction, cs) := match cs with
      | '.' :: cs => (cs.takeWhile Char.isDigit, cs.dropWhile Char.isDigit)
      | cs => ([], cs)
    let offset? := readOffset? (cs.dropWhile isSpaceOrTab)
    ⟨year, month, day, some ⟨hour, minute, second, microseconds fraction, offset?⟩⟩

/-- The moment of a text, if it is of the shape of one; a newline at the end is overlooked. -/
def readMoment? (text : String) : Option Moment :=
  let cs := (dropNewline text).toList
  if isMoment cs then some (momentOf cs) else none

end CucumberExpressions.Yaml
