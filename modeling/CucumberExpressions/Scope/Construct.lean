import CucumberExpressions.Node.Basic
import CucumberExpressions.Noted
import CucumberExpressions.Notice
import CucumberExpressions.Scope.Basic

/-! The constructs that can start at a position of a scope: an optional group, a parameter, or one
token as text.

    optional  = "(" (optional | text)* ")"
    parameter = "{" TEXT? "}"
    text      = any single token -/

namespace CucumberExpressions

structure Match (limit : Nat) where
  node : Node
  consumed : Nat
  consumed_pos : 0 < consumed
  consumed_le : consumed ≤ limit

namespace Scope

abbrev MatchAt (s : Scope) (i : Nat) := Match (s.size - i)

def text (s : Scope) (i : Nat) (h : i < s.size) : s.MatchAt i :=
  ⟨.literal (s.tokens[i]), 1, by omega, by omega⟩

mutual

/-- A group reaches to the nearest close, which need not be the balanced one. -/
def optional? (s : Scope) (i : Nat) (h : i < s.size) : Noted Notice (Option (s.MatchAt i)) :=
  if s.tokens[i].kind = .mark .beginOptional then
    match found : s.close? (i + 1) h with
    | none => .note (.unmatchedOptional i) none
    | some e =>
      have start := le_of_close? found
      have stop := lt_size_of_close? found
      (fun nodes => some ⟨.branch .optional nodes, e - i + 1, by omega, by omega⟩) <$>
        (s.slice (i + 1) e).groupItems 0
  else pure none
termination_by (s.size, s.size - i, 0)
decreasing_by
  apply Prod.Lex.left
  rw [size_slice]
  omega

/-- The items of a group from position `i` on: groups inside it, and all else as text. -/
def groupItems (s : Scope) (i : Nat) : Noted Notice (List Node) :=
  if h : i < s.size then do
    let m := (← s.optional? i h).getD (s.text i h)
    (m.node :: ·) <$> s.groupItems (i + m.consumed)
  else pure []
termination_by (s.size, s.size - i, 1)
decreasing_by
  · apply Prod.Lex.right
    apply Prod.Lex.right
    omega
  · apply Prod.Lex.right
    apply Prod.Lex.left
    have := m.consumed_pos
    change s.size - (i + m.consumed) < s.size - i
    omega

end

/-- A parameter closes right after its opening bracket or after one token of text. -/
def parameter? (s : Scope) (i : Nat) (h : i < s.size) : Noted Notice (Option (s.MatchAt i)) :=
  if s.tokens[i].kind = .mark .beginParameter then
    let unclosed := .note (.unclosedParameter i) none
    if h1 : i + 1 < s.size then
      match s.tokens[i + 1].kind with
      | .mark .endParameter => pure (some ⟨.branch .parameter [], 2, by omega, by omega⟩)
      | .text =>
        if h2 : i + 2 < s.size then
          if s.tokens[i + 2].kind = .mark .endParameter then
            pure (some ⟨.branch .parameter [.leaf s.tokens[i + 1]], 3, by omega, by omega⟩)
          else unclosed
        else unclosed
      | _ => unclosed
    else unclosed
  else pure none

def item (s : Scope) (i : Nat) (h : i < s.size) : Noted Notice (s.MatchAt i) := do
  match ← s.optional? i h with
  | some m => pure m
  | none => return (← s.parameter? i h).getD (s.text i h)

end Scope

inductive Construct
  | text | optional | parameter
  deriving DecidableEq, Repr

structure OutOfRange where
  position : Nat
  deriving DecidableEq, Repr

def OutOfRange.message (_ : OutOfRange) : String := "tuple index out of range"

def Scope.read (s : Scope) (c : Construct) (i : Nat) :
    Except OutOfRange (Noted Notice (Option (s.MatchAt i))) :=
  if h : i < s.size then
    .ok <| match c with
      | .text => pure (some (s.text i h))
      | .optional => s.optional? i h
      | .parameter => s.parameter? i h
  else .error ⟨i⟩

end CucumberExpressions
