import CucumberExpressions.Text.Printable

/-! Quoted texts: one line between quote marks, with escapes for the mark, the backslash and what
does not print. -/

namespace CucumberExpressions

def hexDigits (width n : Nat) : List Char :=
  match width with
  | 0 => []
  | width + 1 => hexDigits width (n / 16) ++ [Nat.digitChar (n % 16)]

def numericEscape (c : Char) : List Char :=
  let n := c.toNat
  if n < 0x100 then '\\' :: 'x' :: hexDigits 2 n
  else if n < 0x10000 then '\\' :: 'u' :: hexDigits 4 n
  else '\\' :: 'U' :: hexDigits 8 n

/-- The double mark is chosen only for a text that has the single one and not the double one. -/
def quoteMark (text : List Char) : Char :=
  if text.contains '\'' && !text.contains '"' then '"' else '\''

def quotedChar (printable : Char → Bool) (mark c : Char) : List Char :=
  if c = mark ∨ c = '\\' then ['\\', c]
  else if c = '\t' then ['\\', 't']
  else if c = '\n' then ['\\', 'n']
  else if c = '\r' then ['\\', 'r']
  else if printable c then [c]
  else numericEscape c

def quoteChars (printable : Char → Bool) (text : List Char) : List Char :=
  let mark := quoteMark text
  mark :: (text.flatMap (quotedChar printable mark) ++ [mark])

def quoteWith (printable : Char → Bool) (text : String) : String :=
  String.ofList (quoteChars printable text.toList)

def quoted (text : String) : String := quoteWith isPrintable text

def quotedBytes (bs : List UInt8) : String :=
  "b" ++ quoteWith (fun c => ' ' ≤ c && c ≤ '~')
    (String.ofList (bs.map fun b => Char.ofNat b.toNat))

end CucumberExpressions
