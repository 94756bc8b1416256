/-! Notices of parsing: an opening bracket that opens nothing and is kept as text. -/

namespace CucumberExpressions

inductive Level
  | debug | warning
  deriving DecidableEq, Repr

def Level.name : Level → String
  | debug => "DEBUG"
  | warning => "WARNING"

/-- Positions count from the start of the scope the bracket stands in. -/
inductive Notice
  | unmatchedOptional (position : Nat)
  | unclosedParameter (position : Nat)
  deriving DecidableEq, Repr

namespace Notice

def level (_ : Notice) : Level := .debug

def message : Notice → String
  | unmatchedOptional i => s!"unmatched '(' at token {i}, keeping it as text"
  | unclosedParameter i => s!"no parameter closes '\x7b' at token {i}, keeping it as text"

def line (n : Notice) : String := n.level.name ++ ": " ++ n.message

end Notice

end CucumberExpressions
