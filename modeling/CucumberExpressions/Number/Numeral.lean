import CucumberExpressions.Number.Nearest
import CucumberExpressions.Text.Digit
import CucumberExpressions.Text.Quoted

/-! Numerals: whole numbers in some base and decimal numbers, with a sign, in the digits of any
script and with blanks around them. -/

namespace CucumberExpressions

inductive NumberError
  | empty
  | notInteger (base : Nat) (literal : String)
  | notFloat (literal : String)
  | tooLong (digits : Nat)
  | tooLarge
  deriving DecidableEq, Repr

namespace NumberError

def message : NumberError → String
  | empty => "string index out of range"
  | notInteger base literal =>
    s!"invalid literal for int() with base {base}: "
      ++ String.ofList ((quoted literal).toList.take 200)
  | notFloat literal => "could not convert string to float: " ++ quoted literal
  | tooLong digits =>
    s!"Exceeds the limit (4300 digits) for integer string conversion: value has {digits} digits; "
      ++ "use sys.set_int_max_str_digits() to increase the limit"
  | tooLarge => "int too large to convert to float"

end NumberError

def longestInteger : Nat := 4300

def isHexDigit (c : Char) : Bool :=
  ('0' ≤ c && c ≤ '9') || ('A' ≤ c && c ≤ 'F') || ('a' ≤ c && c ≤ 'f')

def hexDigitValue (c : Char) : Nat :=
  if '0' ≤ c && c ≤ '9' then c.toNat - '0'.toNat
  else if 'a' ≤ c && c ≤ 'f' then c.toNat - 'a'.toNat + 10
  else c.toNat - 'A'.toNat + 10

def numberIn (base : Nat) (digits : List Char) : Nat :=
  digits.foldl (fun n c => n * base + hexDigitValue c) 0

def hexNumber (digits : List Char) : Nat := numberIn 16 digits

def decimalNumber (digits : List Char) : Nat := numberIn 10 digits

def splitSign (cs : List Char) : Bool × List Char :=
  match cs with
  | '-' :: cs => (true, cs)
  | '+' :: cs => (false, cs)
  | cs => (false, cs)

def skipBaseMark (base : Nat) (cs : List Char) : List Char :=
  match base, cs with
  | 2, '0' :: 'b' :: cs | 2, '0' :: 'B' :: cs => cs
  | 8, '0' :: 'o' :: cs | 8, '0' :: 'O' :: cs => cs
  | 16, '0' :: 'x' :: cs | 16, '0' :: 'X' :: cs => cs
  | _, cs => cs

/-- A whole number in some base; how long it may be is looked at before what follows it. -/
def readWhole (base : Nat) (literal : List Char) : Except NumberError Int :=
  let (negative, cs) := splitSign (trimFront (literal.map plainChar))
  let cs := skipBaseMark base cs
  let fits := fun c => isHexDigit c && hexDigitValue c < base
  let digits := cs.takeWhile fits
  if base = 10 ∧ longestInteger < digits.length then .error (.tooLong digits.length)
  else if digits.isEmpty || !(trimFront (cs.dropWhile fits)).isEmpty then
    .error (.notInteger base (String.ofList literal))
  else
    let n := numberIn base digits
    .ok (if negative then -n else n)

def infinityWords : List String := ["inf", "infinity"]

def decimalNumeral? (cs : List Char) : Option Double :=
  let word := String.ofList cs
  if infinityWords.contains word then some .infinity
  else if word = "nan" then some (.nan 0)
  else
    let whole := cs.takeWhile Char.isDigit
    let (decimals, cs) := match cs.dropWhile Char.isDigit with
      | '.' :: cs => (cs.takeWhile Char.isDigit, cs.dropWhile Char.isDigit)
      | cs => ([], cs)
    let exponent? : Option Int := match cs with
      | [] => some 0
      | 'e' :: cs =>
        let (negative, digits) := splitSign cs
        if digits.isEmpty || !digits.all Char.isDigit then none
        else some (if negative then -(decimalNumber digits : Int) else decimalNumber digits)
      | _ => none
    if (whole ++ decimals).isEmpty then none
    else exponent?.map fun e => .ofDecimal ((whole ++ decimals).map hexDigitValue) (e - decimals.length)

def readDecimal (literal : List Char) : Except NumberError Double :=
  let (negative, cs) := splitSign (trim (literal.map plainChar))
  match decimalNumeral? cs with
  | some x => .ok (if negative then x.negate else x)
  | none => .error (.notFloat (String.ofList literal))

end CucumberExpressions
