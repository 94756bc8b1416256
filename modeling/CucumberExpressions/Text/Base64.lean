/-! Base64: bytes from letters, digits and two signs; other characters between them count for
nothing. -/

namespace CucumberExpressions

def base64Value? (c : Char) : Option Nat :=
  if 'A' ≤ c ∧ c ≤ 'Z' then some (c.toNat - 'A'.toNat)
  else if 'a' ≤ c ∧ c ≤ 'z' then some (c.toNat - 'a'.toNat + 26)
  else if '0' ≤ c ∧ c ≤ '9' then some (c.toNat - '0'.toNat + 52)
  else if c = '+' then some 62
  else if c = '/' then some 63
  else none

def base64Groups : List Nat → Option (List UInt8)
  | [] => some []
  | a :: b :: c :: d :: rest =>
    (base64Groups rest).map fun bytes =>
      (a * 4 + b / 16).toUInt8 :: (b % 16 * 16 + c / 4).toUInt8 :: (c % 4 * 64 + d).toUInt8 :: bytes
  | [a, b, c] => some [(a * 4 + b / 16).toUInt8, (b % 16 * 16 + c / 4).toUInt8]
  | [a, b] => some [(a * 4 + b / 16).toUInt8]
  | [_] => none

/-- The characters up to the padding that fills the last group; `position` counts those of the
group. -/
def base64Digits (position padding : Nat) : List Char → Option (List Nat)
  | [] => if position = 0 then some [] else none
  | c :: cs =>
    if c = '=' then
      if 2 ≤ position ∧ 4 ≤ position + padding + 1 then some []
      else base64Digits position (if 2 ≤ position then padding + 1 else padding) cs
    else match base64Value? c with
      | none => base64Digits position padding cs
      | some n => (base64Digits ((position + 1) % 4) 0 cs).map (n :: ·)

def base64Decode? (text : String) : Option (List UInt8) :=
  (base64Digits 0 0 text.toList).bind base64Groups

end CucumberExpressions
