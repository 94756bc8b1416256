import CucumberExpressions.Scope.Construct

/-! Runs: the items between two spaces of a scope, split into alternatives; and the nodes of a
whole expression.

    expression = (run | WHITE_SPACE)*
    run        = item+ ("/" item*)* -/

namespace CucumberExpressions

structure Run where
  first : List Node
  others : List (List Node)
  stop : Nat
  deriving Repr

namespace Run

def empty (i : Nat) : Run := ⟨[], [], i⟩

def push (n : Node) (r : Run) : Run := { r with first := n :: r.first }

def split (r : Run) : Run := ⟨[], r.first :: r.others, r.stop⟩

/-- A run without a separator stands for its items, any other for one alternation. -/
def nodes (r : Run) : List Node :=
  match r.others with
  | [] => r.first
  | _ => [.branch .alternation ((r.first :: r.others).map (.branch .alternative))]

@[simp] theorem stop_empty (i : Nat) : (empty i).stop = i := rfl

@[simp] theorem stop_push (n : Node) (r : Run) : (r.push n).stop = r.stop := rfl

@[simp] theorem stop_split (r : Run) : r.split.stop = r.stop := rfl

end Run

namespace Scope

/-- The run that starts at position `i`, up to the next space outside a group or the end. -/
def run (s : Scope) (i : Nat) : Noted Notice Run :=
  if h : i < s.size then
    match s.tokens[i].kind with
    | .mark .whiteSpace => pure (.empty i)
    | .mark .alternation => Run.split <$> s.run (i + 1)
    | _ => do
      let m ← s.item i h
      Run.push m.node <$> s.run (i + m.consumed)
  else pure (.empty i)
termination_by s.size - i
decreasing_by
  · omega
  · have := m.consumed_pos
    omega

theorem le_stop_run (s : Scope) (i : Nat) : i ≤ (s.run i).value.stop := by
  fun_induction s.run i with
  | case1 => simp
  | case2 i _ _ ih =>
    simp only [Noted.value_map, Run.stop_split]
    omega
  | case3 i h _ _ ih =>
    simp only [Noted.value_bind, Noted.value_map, Run.stop_push]
    have := ih (s.item i h).value
    omega
  | case4 => simp

theorem lt_stop_run {s : Scope} {i : Nat} (h : i < s.size)
    (inside : s.tokens[i].kind ≠ .mark .whiteSpace) : i < (s.run i).value.stop := by
  rw [run, dif_pos h]
  split
  · contradiction
  · have := le_stop_run s (i + 1)
    simp only [Noted.value_map, Run.stop_split]
    omega
  · have := (s.item i h).value.consumed_pos
    have := le_stop_run s (i + (s.item i h).value.consumed)
    simp only [Noted.value_bind, Noted.value_map, Run.stop_push]
    omega

def nodesFrom (s : Scope) (i : Nat) : Noted Notice (List Node × Nat) :=
  if h : i < s.size then
    if space : s.tokens[i].kind = .mark .whiteSpace then
      (fun (later, stop) => (.leaf s.tokens[i] :: later, stop)) <$> s.nodesFrom (i + 1)
    else
      let r := s.run i
      have := lt_stop_run h space
      do
        let front ← r
        (fun (later, stop) => (front.nodes ++ later, stop)) <$> s.nodesFrom r.value.stop
  else pure ([], i)
termination_by s.size - i

def expression (s : Scope) : Noted Notice (Node × Nat) :=
  (fun (nodes, stop) => (.branch .expression nodes, stop)) <$> s.nodesFrom 0

end Scope

end CucumberExpressions
