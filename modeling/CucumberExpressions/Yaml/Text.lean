import CucumberExpressions.Yaml.Fault

/-! Texts that are read in parts, as far as they have been read. What is wrong in a part is met
before anything in it is looked at. -/

namespace CucumberExpressions.Yaml

/-- A text as far as it can be read, and the fault that a reader meets after it, if there is one. -/
structure Source where
  text : List Char
  fault? : Option Fault

/-- How many characters are read at once; two such parts are read before anything is looked at. -/
def readCharacters : Nat := 4096

/-- The parts of a text that are read before a fault right after it. -/
def wholeParts (text : List Char) : List Char :=
  let parts := text.length / readCharacters
  if parts < 2 then [] else text.take (parts * readCharacters)

def isAllowed (c : Char) : Bool :=
  let n := c.toNat
  n == 0x9 || n == 0xa || n == 0xd || (0x20 ≤ n && n ≤ 0x7e) || n == 0x85
    || (0xa0 ≤ n && n ≤ 0xd7ff) || (0xe000 ≤ n && n ≤ 0xfffd) || (0x10000 ≤ n && n ≤ 0x10ffff)

def Source.allowed (s : Source) : Source :=
  match s.text.find? (!isAllowed ·) with
  | some c => ⟨wholeParts (s.text.takeWhile isAllowed), some (.unprintable c)⟩
  | none => s

end CucumberExpressions.Yaml
