import CucumberExpressions.Cursor
import CucumberExpressions.Fixture.Basic
import CucumberExpressions.Node.Outline
import CucumberExpressions.Token.Listing

/-! Checking a fixture: what is expected of its expression beside what the lexer and the parser make
of it. -/

namespace CucumberExpressions

inductive Mismatch
  | tokens (expression : String) (expected actual : List Token)
  | tree (expression : String) (expected actual : Node)
  deriving DecidableEq

namespace Mismatch

def describe (what expected actual : String) : String :=
  what ++ "\nexpected:\n" ++ expected ++ "\nactual:\n" ++ actual

def message : Mismatch → String
  | tokens e expected actual =>
    describe s!"tokens of {quoted e} differ" (listing expected) (listing actual)
  | tree e expected actual =>
    describe s!"tree of {quoted e} differs" (expected.outline "  ") (actual.outline "  ")

end Mismatch

namespace Fixture

def tokenMismatch? (f : Fixture) : Option Mismatch := do
  let expected ← f.expectedTokens
  let actual := tokenize f.expression
  if actual = expected then none else some (.tokens f.expression expected actual)

def treeMismatch? (f : Fixture) : Noted Notice (Option Mismatch) :=
  match f.expectedTree with
  | none => pure none
  | some expected =>
    (fun actual =>
      if actual = expected then none else some (.tree f.expression expected actual)) <$>
      parse f.expression

def mismatches (f : Fixture) : Noted Notice (List Mismatch) :=
  (fun tree? => f.tokenMismatch?.toList ++ tree?.toList) <$> f.treeMismatch?

end Fixture

end CucumberExpressions
