import CucumberExpressions.Scope.Run
import CucumberExpressions.Token.Lexer

/-! Cursors: a scope with a position that reading moves; and the tree of a token sequence or of an
expression. -/

namespace CucumberExpressions

structure Cursor where
  scope : Scope
  position : Nat

namespace Cursor

def ofTokens (tokens : List Token) : Cursor := ⟨.ofTokens tokens, 0⟩

def atEnd (c : Cursor) : Bool := c.scope.size ≤ c.position

def isAt (c : Cursor) (kinds : List Kind) : Bool :=
  c.scope.tokens[c.position]?.any (kinds.contains ·.kind)

def seek (c : Cursor) (position : Nat) : Cursor := { c with position }

def parse (c : Cursor) : Noted Notice (Node × Cursor) :=
  (fun (node, stop) => (node, c.seek stop)) <$> c.scope.expression

def parseRun (c : Cursor) : Noted Notice (List Node × Cursor) :=
  (fun r => (r.nodes, c.seek r.stop)) <$> c.scope.run c.position

end Cursor

def parseTokens (tokens : List Token) : Noted Notice Node :=
  Prod.fst <$> (Scope.ofTokens tokens).expression

def parse (expression : String) : Noted Notice Node := parseTokens (tokenize expression)

end CucumberExpressions
