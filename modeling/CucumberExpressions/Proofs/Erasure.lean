import CucumberExpressions.Proofs.Frontier

/-! Erasure: trees without the tokens of their leaves. A map of trees that changes leaves only can
be done before a row is assembled as well as after it. -/

namespace CucumberExpressions

namespace Node

def KeepsBranches (h : Node → Node) : Prop :=
  ∀ k children, h (.branch k children) = .branch k (children.map h)

theorem keepsBranches_id : KeepsBranches id := by
  intro k children
  rw [List.map_id]
  rfl

/-- The tree with the same empty token at every leaf. -/
def erased (n : Node) : Node := n.fold (fun _ => .leaf ⟨"", .text⟩) .branch

theorem keepsBranches_erased : KeepsBranches erased := fun _ _ => fold_branch ..

end Node

theorem map_intercalate {α β : Type} (f : α → β) (separator : List α) (parts : List (List α)) :
    (separator.intercalate parts).map f =
      (separator.map f).intercalate (parts.map (List.map f)) := by
  induction parts with
  | nil => rfl
  | cons part parts ih =>
      cases parts with
      | nil => simp
      | cons next parts =>
          rw [List.intercalate_cons_cons, List.map_append, List.map_append, ih]
          simp [List.intercalate_cons_cons]

theorem Node.isToken_frontier_bracket {children others : List Node} (b : Bracket)
    (same : (children.flatMap frontier).map Sign.isToken =
      (others.flatMap frontier).map Sign.isToken) :
    (branch b.branch children).frontier.map Sign.isToken =
      (branch b.branch others).frontier.map Sign.isToken := by
  simp only [frontier_bracket, List.map_append, List.map_cons, same]

theorem Node.isToken_frontier_erased (n : Node) :
    n.erased.frontier.map Sign.isToken = n.frontier.map Sign.isToken := by
  induction n using Node.induction_children with
  | leaf t => rfl
  | branch k children ih =>
      have row : ((children.map erased).flatMap frontier).map Sign.isToken =
          (children.flatMap frontier).map Sign.isToken := by
        rw [List.flatMap_map, List.map_flatMap, List.map_flatMap]
        exact List.flatMap_congr ih
      rw [keepsBranches_erased]
      cases k with
      | expression => rw [frontier_expression, frontier_expression, row]
      | alternative => rw [frontier_alternative, frontier_alternative, row]
      | optional => exact isToken_frontier_bracket .optional row
      | parameter => exact isToken_frontier_bracket .parameter row
      | alternation =>
          have parts : ((children.map erased).map frontier).map (List.map Sign.isToken) =
              (children.map frontier).map (List.map Sign.isToken) := by
            rw [List.map_map, List.map_map, List.map_map]
            exact List.map_congr_left ih
          rw [frontier_alternation, frontier_alternation, map_intercalate, map_intercalate, parts]

namespace Assembly

variable {α : Type} (a : Assembly α) (h : Node → Node)

def mapNodes : Assembly α := { a with node? := fun x => (a.node? x).map h }

theorem alternatives_mapNodes (stretch : List α) :
    (a.mapNodes h).alternatives stretch = (a.alternatives stretch).map (List.map h) := by
  simp [alternatives, mapNodes, List.map_filterMap]

variable {h}

theorem stretchNodes_mapNodes (keeps : Node.KeepsBranches h) (stretch : List α) :
    (a.mapNodes h).stretchNodes stretch = (a.stretchNodes stretch).map h := by
  have alternatives : ∀ many : List (List Node),
      (many.map (List.map h)).map (Node.branch .alternative) =
        (many.map (Node.branch .alternative)).map h := by
    intro many
    rw [List.map_map, List.map_map]
    exact List.map_congr_left fun items _ => (keeps .alternative items).symm
  rw [stretchNodes, stretchNodes, alternatives_mapNodes]
  obtain ⟨items, others, found⟩ := List.exists_cons_of_ne_nil (a.alternatives_ne_nil stretch)
  rw [found]
  cases others with
  | nil => rfl
  | cons next others =>
      have whole := alternatives (items :: next :: others)
      rw [List.map_singleton, keeps, ← whole]
      rfl

theorem nodes_mapNodes (keeps : Node.KeepsBranches h) (row : List α) :
    (a.mapNodes h).nodes row = (a.nodes row).map h := by
  rw [nodes, nodes, List.map_flatMap]
  exact List.flatMap_congr fun stretch _ => a.stretchNodes_mapNodes keeps stretch

end Assembly

end CucumberExpressions
