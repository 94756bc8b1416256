import CucumberExpressions.Token.Basic
import CucumberExpressions.Text.Quoted

/-! The listing of a token sequence, one line per token with its kind and its quoted text; and the
kind a name stands for. -/

namespace CucumberExpressions

def Token.lineWith (printable : Char → Bool) (t : Token) : String :=
  t.kind.name ++ " " ++ quoteWith printable t.text

def listingWith (printable : Char → Bool) (tokens : List Token) : String :=
  "\n".intercalate (tokens.map (·.lineWith printable))

def listing (tokens : List Token) : String := listingWith isPrintable tokens

structure UnknownKind where
  name : String
  deriving DecidableEq, Repr

def UnknownKind.message (e : UnknownKind) : String := quoted e.name ++ " is not a valid TokenType"

def Kind.read (name : String) : Except UnknownKind Kind :=
  match ofName? name with
  | some k => .ok k
  | none => .error ⟨name⟩

end CucumberExpressions
