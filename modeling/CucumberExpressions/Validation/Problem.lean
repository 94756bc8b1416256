import CucumberExpressions.Node.Basic
import CucumberExpressions.Value.Basic

/-! Problems of data that is read as a tree or a fixture: where each one stands, and which rule is
broken there. -/

namespace CucumberExpressions

/-- A step into data; a tag names the kind that was chosen and moves nowhere. -/
inductive Step
  | key (name : String)
  | index (n : Int)
  | tag (kind : NodeKind)
  deriving DecidableEq, Repr

inductive Violation
  | missing
  | notText
  | notUnicode
  | notKind
  | otherTag
  | notTagged
  | tagAbsent
  | tagNotAllowed
  | notRecord
  | notSequence
  | tooFew
  | tooMany
  | escapedLeaf (kind : Kind)
  | notPath
  | unknownKey
  | keyNotText
  | recursion
  deriving DecidableEq, Repr

namespace Violation

def code : Violation → String
  | missing => "missing"
  | notText => "string_type"
  | notUnicode => "string_unicode"
  | notKind => "enum"
  | otherTag => "literal_error"
  | notTagged => "model_attributes_type"
  | tagAbsent => "union_tag_not_found"
  | tagNotAllowed => "union_tag_invalid"
  | notRecord => "model_type"
  | notSequence => "tuple_type"
  | tooFew => "too_short"
  | tooMany => "too_long"
  | escapedLeaf _ => "value_error"
  | notPath => "path_type"
  | unknownKey => "extra_forbidden"
  | keyNotText => "invalid_key"
  | recursion => "recursion_loop"

def message? : Violation → Option String
  | escapedLeaf k => some ("Value error, text node token must be unescaped, got " ++ k.name)
  | _ => none

end Violation

structure Problem where
  path : List Step
  violation : Violation
  deriving DecidableEq, Repr

def Problem.under (step : Step) (p : Problem) : Problem := { p with path := step :: p.path }

/-- What data was read as, or all that is wrong with it. -/
abbrev Checked (α : Type) := Except (List Problem) α

namespace Checked

variable {α β γ : Type}

def fail (v : Violation) : Checked α := .error [⟨[], v⟩]

def problems : Checked α → List Problem
  | .ok _ => []
  | .error ps => ps

def under (step : Step) : Checked α → Checked α
  | .ok a => .ok a
  | .error ps => .error (ps.map (·.under step))

/-- Two results together; the problems of both are kept, the first ones in front. -/
def both (f : α → β → γ) : Checked α → Checked β → Checked γ
  | .ok a, .ok b => .ok (f a b)
  | a, b => .error (a.problems ++ b.problems)

def withProblems (more : List Problem) : Checked α → Checked α
  | .ok a => if more = [] then .ok a else .error more
  | .error ps => .error (ps ++ more)

end Checked

def Entries.require {α : Type} (name : String) (check : Value → Checked α) (es : Entries) :
    Checked α :=
  match es.field? name with
  | none => .error [⟨[.key name], .missing⟩]
  | some v => (check v).under (.key name)

/-- The value of a field that may be absent or null. -/
def Entries.allow {α : Type} (name : String) (check : Value → Checked α) (es : Entries) :
    Checked (Option α) :=
  match es.field? name with
  | none | some (.scalar .null) => .ok none
  | some v => (some <$> check v).under (.key name)

def Value.checkText : Value → Checked String
  | .scalar (.text s) => .ok s
  | .scalar (.bytes bs) =>
    match String.fromUTF8? ⟨bs.toArray⟩ with
    | some s => .ok s
    | none => .fail .notUnicode
  | _ => .fail .notText

end CucumberExpressions
