import CucumberExpressions.Validation.Tree

/-! Reading trees with a guard against deep data, which takes a node for data that contains itself
if there is too much around it. -/

namespace CucumberExpressions

/-- Whether a node is let in, by the kinds of the nodes from itself outwards. -/
abbrev Guard := List NodeKind → Bool

/-- The guard follows 255 references to the rules of a kind; the outermost group takes two of them. -/
def groupLimit : Nat := 254

def groupGuard : Guard := fun way => way.count (.branch .optional) ≤ groupLimit

namespace Expected

def enter {α : Type} (guard : Guard) (way : List NodeKind) (inside : Checked α) : Checked α :=
  if guard way then inside else .fail .recursion

mutual

def checkWithin (guard : Guard) : Value → List NodeKind → Expected → Checked Node
  | .map es, way, plain k =>
    enter guard (k :: way) (build k es (childrenWithin guard es (k :: way)))
  | .map es, way, tagged kinds =>
    match choose kinds es with
    | .error v => .fail v
    | .ok k =>
      (enter guard (k :: way) (build k es (childrenWithin guard es (k :: way)))).under (.tag k)
  | .loop, _, tagged _ => (Checked.fail .recursion).under (.tag (.branch .optional))
  | _, way, plain k => enter guard (k :: way) (.fail .notRecord)
  | _, _, tagged _ => .fail .notTagged

def childrenWithin (guard : Guard) : Entries → List NodeKind → BranchKind → Checked (List Node)
  | [], _, k => if k.minChildren = 0 then .ok [] else .error [⟨[.key "nodes"], .missing⟩]
  | (key, v) :: es, way, k =>
    if key = .text "nodes" then
      match v with
      | .seq items => (gather k (allWithin guard items way (childOf k))).under (.key "nodes")
      | _ => .error [⟨[.key "nodes"], .notSequence⟩]
    else childrenWithin guard es way k

def allWithin (guard : Guard) : List Value → List NodeKind → Expected → List (Checked Node)
  | [], _, _ => []
  | v :: vs, way, e => checkWithin guard v way e :: allWithin guard vs way e

end

end Expected

namespace Node

def checkWithin (guard : Guard) (v : Value) : Checked Node :=
  Expected.checkWithin guard v [] .anyNode

/-- Whether every node of a tree is let in, where the tree is inside nodes of the kinds `way`. -/
def passes (guard : Guard) (n : Node) : List NodeKind → Bool :=
  n.fold (fun _ way => guard (.text :: way)) fun k children way =>
    guard (.branch k :: way) && children.all fun passes => passes (.branch k :: way)

variable {guard : Guard} {way : List NodeKind}

theorem passes_branch_iff {k : BranchKind} {children : List Node} :
    (branch k children).passes guard way = true ↔ guard (.branch k :: way) = true ∧
      ∀ c ∈ children, c.passes guard (.branch k :: way) = true := by
  rw [passes, fold_branch, Bool.and_eq_true, List.all_map, List.all_eq_true]
  rfl

theorem guard_of_passes {n : Node} (passes : n.passes guard way = true) :
    guard (n.kind :: way) = true := by
  cases n with
  | leaf t => exact passes
  | branch k children => exact (passes_branch_iff.1 passes).1

theorem passes_groupGuard_iff {n : Node} : n.passes groupGuard way = true ↔
    way.count (.branch .optional) + n.groupDepth ≤ groupLimit := by
  induction n using induction_children generalizing way with
  | leaf t =>
      have same : (NodeKind.text :: way).count (.branch .optional) =
          way.count (.branch .optional) := List.count_cons_of_ne (by decide)
      rw [groupDepth, fold_leaf, passes, fold_leaf, groupGuard, decide_eq_true_iff, same,
        Nat.add_zero]
  | branch k children ih =>
      have inner : (NodeKind.branch k :: way).count (.branch .optional) =
          way.count (.branch .optional) + if k = .optional then 1 else 0 := by
        simp [List.count_cons]
      have least : (if k = .optional then 1 else 0) ≤ (branch k children).groupDepth := by
        rw [groupDepth, fold_branch]
        exact Nat.le_add_left _ _
      rw [passes_branch_iff, groupGuard, decide_eq_true_iff]
      -- Where the branch is let in, its children share what is left of the limit.
      by_cases room : (NodeKind.branch k :: way).count (.branch .optional) ≤ groupLimit
      · obtain ⟨depth, sum⟩ := Nat.exists_eq_add_of_le room
        have bound : (branch k children).groupDepth ≤ depth + (if k = .optional then 1 else 0) ↔
            ∀ c ∈ children, c.groupDepth ≤ depth := groupDepth_branch_le_iff
        have each : (∀ c ∈ children, c.passes groupGuard (.branch k :: way) = true) ↔
            ∀ c ∈ children, c.groupDepth ≤ depth := by
          refine forall₂_congr fun c member => ?_
          rw [ih c member]
          omega
        rw [each, ← bound, and_iff_right room]
        omega
      · refine iff_of_false (fun passes => room passes.1) ?_
        omega

end Node

end CucumberExpressions
