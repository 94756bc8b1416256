import CucumberExpressions.Path.Basic
import CucumberExpressions.Text.Quoted
import CucumberExpressions.Validation.Guard
import CucumberExpressions.Value.Key

/-! Fixtures: an expression with the tokens and the tree that are expected of it, read from data. -/

namespace CucumberExpressions

structure Fixture where
  expression : String
  expectedTokens : Option (List Token)
  expectedTree : Option Node
  path : Option Path
  deriving DecidableEq

namespace Fixture

def name (f : Fixture) : String :=
  match f.path with
  | some p => p.stem
  | none => quoted f.expression

def fieldNames : List String := ["expression", "expected_tokens", "expected_ast", "path"]

def checkPath : Value → Checked Path
  | .scalar (.text s) => .ok (.ofString s)
  | _ => .fail .notPath

def keyProblem? (key : Scalar) : Option Problem :=
  match key with
  | .text name =>
    if fieldNames.contains name then none else some ⟨[.key name], .unknownKey⟩
  | key => some ⟨[key.step], .keyNotText⟩

/-- Reads a fixture; wrong keys are told after what is wrong with the fields. -/
def check : Value → Checked Fixture
  | .map es =>
    let front := Checked.both Prod.mk (Entries.require "expression" Value.checkText es)
      (Entries.allow "expected_tokens" Token.checkAll es)
    let back := Checked.both Prod.mk
      (Entries.allow "expected_ast" (Node.checkWithin groupGuard) es)
      (Entries.allow "path" checkPath es)
    (Checked.both (fun (expression, tokens) (tree, path) => ⟨expression, tokens, tree, path⟩)
      front back).withProblems (es.filterMap fun (key, _) => keyProblem? key)
  | _ => .fail .notRecord

end Fixture

end CucumberExpressions
