/-! Paths of files: a root and parts, without the empty parts and the single dots of their written
form. -/

namespace CucumberExpressions

/-- Exactly two leading slashes are a root of their own. -/
inductive PathRoot
  | relative | slash | doubleSlash
  deriving DecidableEq, Repr

def PathRoot.name : PathRoot → String
  | relative => ""
  | slash => "/"
  | doubleSlash => "//"

structure Path where
  root : PathRoot
  parts : List String
  deriving DecidableEq, Repr

namespace Path

def splitSlashes : List Char → List (List Char)
  | [] => [[]]
  | c :: cs =>
    if c = '/' then [] :: splitSlashes cs
    else match splitSlashes cs with
      | [] => [[c]]
      | part :: parts => (c :: part) :: parts

def partsOf (text : String) : List String :=
  ((splitSlashes text.toList).map String.ofList).filter fun part => part != "" && part != "."

def rootOf (text : String) : PathRoot :=
  match (text.toList.takeWhile (· == '/')).length with
  | 0 => .relative
  | 2 => .doubleSlash
  | _ => .slash

def ofString (text : String) : Path := ⟨rootOf text, partsOf text⟩

def toString (p : Path) : String :=
  if p.root = .relative ∧ p.parts = [] then "."
  else p.root.name ++ "/".intercalate p.parts

instance : ToString Path := ⟨toString⟩

def join (p : Path) (part : String) : Path := { p with parts := p.parts ++ [part] }

def name (p : Path) : String := p.parts.getLastD ""

/-- The name without its last suffix; a dot in front or at the end makes no suffix. -/
def stem (p : Path) : String :=
  let letters := p.name.toList
  let suffix := letters.reverse.takeWhile (· != '.')
  let front := letters.take (letters.length - suffix.length - 1)
  if front = [] ∨ suffix = [] ∨ suffix.length = letters.length then p.name else String.ofList front

def hasNul (p : Path) : Bool := p.parts.any (·.toList.contains '\x00')

/-- Paths are ordered part by part, the root as the first part. -/
def sortKey (p : Path) : List String :=
  if p.root = .relative then p.parts else p.root.name :: p.parts

def partBefore (s t : String) : Bool := s.toList.lex t.toList fun c d => c < d

def le (p q : Path) : Bool := !q.sortKey.lex p.sortKey partBefore

end Path

end CucumberExpressions
