import CucumberExpressions.Token.Basic

/-! Syntax trees: leaves that carry one token, and five kinds of branches, each with the kinds of
children it can have. -/

namespace CucumberExpressions

inductive BranchKind
  | expression | optional | parameter | alternation | alternative
  deriving DecidableEq, Repr

inductive NodeKind
  | text
  | branch (kind : BranchKind)
  deriving DecidableEq, Repr

namespace NodeKind

def all : List NodeKind :=
  [.branch .expression, .branch .optional, .branch .parameter, .branch .alternation,
    .branch .alternative, .text]

def name : NodeKind → String
  | text => "TEXT_NODE"
  | branch .expression => "EXPRESSION_NODE"
  | branch .optional => "OPTIONAL_NODE"
  | branch .parameter => "PARAMETER_NODE"
  | branch .alternation => "ALTERNATION_NODE"
  | branch .alternative => "ALTERNATIVE_NODE"

def ofName? (name : String) : Option NodeKind := all.find? (·.name = name)

theorem mem_all (k : NodeKind) : k ∈ all := by
  rcases k with _ | b
  · decide
  · cases b <;> decide

@[simp] theorem ofName?_name (k : NodeKind) : ofName? k.name = some k := by
  rcases k with _ | b
  · rfl
  · cases b <;> rfl

theorem name_injective {j k : NodeKind} (h : j.name = k.name) : j = k := by
  have found := congrArg ofName? h
  simpa using found

end NodeKind

inductive Node
  | leaf (token : Token)
  | branch (kind : BranchKind) (children : List Node)
  deriving Repr

namespace Node

mutual

def decEq : (a b : Node) → Decidable (a = b)
  | leaf s, leaf t =>
    if h : s = t then isTrue (by rw [h]) else isFalse (by simpa using h)
  | leaf _, branch _ _ => isFalse (by simp)
  | branch _ _, leaf _ => isFalse (by simp)
  | branch j as, branch k bs =>
    if h : j = k then
      match decEqAll as bs with
      | isTrue same => isTrue (by rw [h, same])
      | isFalse differ => isFalse (by simp [differ])
    else isFalse (by simp [h])

def decEqAll : (as bs : List Node) → Decidable (as = bs)
  | [], [] => isTrue rfl
  | [], _ :: _ => isFalse (by simp)
  | _ :: _, [] => isFalse (by simp)
  | a :: as, b :: bs =>
    match decEq a b with
    | isTrue same =>
      match decEqAll as bs with
      | isTrue rest => isTrue (by rw [same, rest])
      | isFalse differ => isFalse (by simp [differ])
    | isFalse differ => isFalse (by simp [differ])

end

instance : DecidableEq Node := decEq

section Fold

variable {α : Type} (onLeaf : Token → α) (onBranch : BranchKind → List α → α)

mutual

def fold : Node → α
  | leaf t => onLeaf t
  | branch k cs => onBranch k (foldAll cs)

def foldAll : List Node → List α
  | [] => []
  | n :: ns => fold n :: foldAll ns

end

theorem foldAll_eq_map (ns : List Node) :
    foldAll onLeaf onBranch ns = ns.map (fold onLeaf onBranch) := by
  induction ns with
  | nil => rfl
  | cons n ns ih => simp [foldAll, ih]

theorem fold_leaf (t : Token) : fold onLeaf onBranch (leaf t) = onLeaf t := rfl

theorem fold_branch (k : BranchKind) (cs : List Node) :
    fold onLeaf onBranch (branch k cs) = onBranch k (cs.map (fold onLeaf onBranch)) := by
  rw [fold, foldAll_eq_map]

end Fold

@[elab_as_elim]
theorem induction_children {motive : Node → Prop} (leaf : ∀ t, motive (.leaf t))
    (branch : ∀ k children, (∀ c ∈ children, motive c) → motive (.branch k children)) :
    ∀ n, motive n
  | .leaf t => leaf t
  | .branch k children => branch k children fun c _ => induction_children leaf branch c

def kind : Node → NodeKind
  | leaf _ => .text
  | branch k _ => .branch k

def children : Node → List Node
  | leaf _ => []
  | branch _ cs => cs

/-- The raw texts of the leaves in order; brackets and separators of branches are no part of it. -/
def text (n : Node) : String := n.fold Token.text fun _ => String.join

@[simp] theorem text_leaf (t : Token) : (leaf t).text = t.text := rfl

@[simp] theorem text_branch (k : BranchKind) (cs : List Node) :
    (branch k cs).text = String.join (cs.map text) := fold_branch ..

def groupDepth (n : Node) : Nat :=
  n.fold (fun _ => 0) fun k depths => depths.foldr max 0 + if k = .optional then 1 else 0

theorem groupDepth_branch_le_iff {k : BranchKind} {children : List Node} {depth : Nat} :
    (branch k children).groupDepth ≤ depth + (if k = .optional then 1 else 0) ↔
      ∀ c ∈ children, c.groupDepth ≤ depth := by
  rw [groupDepth, fold_branch, Nat.add_le_add_iff_right]
  induction children with
  | nil => simp
  | cons c children ih =>
    rw [List.forall_mem_cons, ← ih]
    exact Nat.max_le

def literal (t : Token) : Node := leaf t.unescape

end Node

def BranchKind.childKinds : BranchKind → List NodeKind
  | expression => [.text, .branch .optional, .branch .parameter, .branch .alternation]
  | optional => [.text, .branch .optional]
  | parameter => [.text]
  | alternation => [.branch .alternative]
  | alternative => [.text, .branch .optional, .branch .parameter]

def BranchKind.minChildren : BranchKind → Nat
  | alternation => 2
  | _ => 0

def BranchKind.maxChildren? : BranchKind → Option Nat
  | parameter => some 1
  | _ => none

end CucumberExpressions
