import CucumberExpressions.Proofs.Assembly
import Mathlib.Data.List.DropRight

/-! Fusion: what becomes of a row when one of its spaces is an item like any other. The stretches on
its two sides become one, and that shows exactly if one of them has a separator. -/

namespace CucumberExpressions

namespace Assembly

variable {α : Type} (a : Assembly α)

def lastStretch (row : List α) : List α := row.rtakeWhile (!a.isSpace ·)

/-- The assembly that takes the element for an item. -/
def fuse [DecidableEq α] (x : α) : Assembly α :=
  { a with isSpace := fun y => a.isSpace y && y ≠ x }

theorem exists_lastStretch (row : List α) :
    ∃ before, row = before ++ a.lastStretch row ∧
      (∀ x ∈ before.getLast?, a.isSpace x = true) ∧
      ∀ x ∈ a.lastStretch row, a.isSpace x = false := by
  refine ⟨row.rdropWhile (!a.isSpace ·), List.rdropWhile_append_rtakeWhile.symm, ?_, ?_⟩
  · intro x last
    obtain ⟨nonempty, rfl⟩ := List.mem_getLast?_eq_getLast last
    have stop := List.rdropWhile_last_not (!a.isSpace ·) row nonempty
    simpa using stop
  · intro x member
    simpa using List.mem_rtakeWhile_imp member

theorem stretchNodes_nil : a.stretchNodes [] = [] := rfl

variable {a}

theorem nodes_append_left {before : List α} (border : ∀ x ∈ before.getLast?, a.isSpace x = true)
    (row : List α) : a.nodes (before ++ row) = a.nodes before ++ a.nodes row := by
  rcases List.eq_nil_or_concat before with rfl | ⟨front, x, rfl⟩
  · rfl
  · have space : a.isSpace x = true := border x (by simp)
    have alone := a.nodes_append_space space front []
    have cut := a.nodes_append_space space front row
    rw [nodes_nil, List.append_nil] at alone
    rw [List.concat_eq_append, alone, ← cut, List.append_assoc, List.singleton_append]

theorem nodes_append_right {stretch later : List α} (inside : ∀ x ∈ stretch, a.isSpace x = false)
    (border : ∀ x ∈ later.head?, a.isSpace x = true) :
    a.nodes (stretch ++ later) = a.stretchNodes stretch ++ a.nodes later := by
  by_cases empty : stretch = []
  · rw [empty, stretchNodes_nil]
    rfl
  · exact a.nodes_append empty inside border

theorem nodes_space_between {x : α} {n : Node} (space : a.isSpace x = true)
    (item : a.isSeparator x = false) (node : a.node? x = some n) {before front back later : List α}
    (left : ∀ y ∈ before.getLast?, a.isSpace y = true)
    (insideFront : ∀ y ∈ front, a.isSpace y = false)
    (insideBack : ∀ y ∈ back, a.isSpace y = false)
    (right : ∀ y ∈ later.head?, a.isSpace y = true) :
    a.nodes (before ++ (front ++ x :: (back ++ later))) = a.nodes before ++
      ((a.stretchNodes front ++ n :: a.stretchNodes back) ++ a.nodes later) := by
  have alone : a.stretchNodes [x] = [n] := by
    rw [a.stretchNodes_of_items (by simpa using item), List.filterMap_cons_some node]
    rfl
  rw [nodes_append_left left, nodes_append_right insideFront (by simpa using space),
    a.nodes_cons_space space, alone, nodes_append_right insideBack right]
  simp only [List.append_assoc, List.cons_append, List.nil_append]

theorem stretchNodes_append_item_iff {x : α} {n : Node} (item : a.isSeparator x = false)
    (node : a.node? x = some n) (front back : List α) :
    a.stretchNodes (front ++ x :: back) =
        a.stretchNodes front ++ n :: a.stretchNodes back ↔
      ∀ y ∈ front ++ back, a.isSeparator y = false := by
  constructor
  · intro same y member
    rw [← Bool.not_eq_true]
    intro separator
    have inAll : y ∈ front ++ x :: back := by
      rcases List.mem_append.1 member with inFront | inBack
      · exact List.mem_append_left _ inFront
      · exact List.mem_append_right _ (List.mem_cons_of_mem x inBack)
    -- The fused stretch is a single node, so nothing may stand beside the item.
    rw [a.stretchNodes_of_separator inAll separator] at same
    have length := congrArg List.length same
    rw [List.length_singleton, List.length_append, List.length_cons] at length
    rcases List.mem_append.1 member with inFront | inBack
    · rw [a.stretchNodes_of_separator inFront separator, List.length_singleton] at length
      omega
    · rw [a.stretchNodes_of_separator inBack separator, List.length_singleton] at length
      omega
  · intro items
    have itemsFront : ∀ y ∈ front, a.isSeparator y = false := fun y member =>
      items y (List.mem_append_left back member)
    have itemsBack : ∀ y ∈ back, a.isSeparator y = false := fun y member =>
      items y (List.mem_append_right front member)
    have itemsAll : ∀ y ∈ front ++ x :: back, a.isSeparator y = false := by
      intro y member
      rcases List.mem_append.1 member with inFront | inBack
      · exact itemsFront y inFront
      · rcases List.mem_cons.1 inBack with rfl | inBack
        · exact item
        · exact itemsBack y inBack
    rw [a.stretchNodes_of_items itemsAll, a.stretchNodes_of_items itemsFront,
      a.stretchNodes_of_items itemsBack, List.filterMap_append, List.filterMap_cons_some node]

variable [DecidableEq α]

theorem isSpace_fuse_self (x : α) : (a.fuse x).isSpace x = false := by
  simp [fuse]

theorem isSpace_fuse_of_ne {x y : α} (other : y ≠ x) : (a.fuse x).isSpace y = a.isSpace y := by
  simp [fuse, other]

theorem fuse_eq_self {x : α} (inside : a.isSpace x = false) : a.fuse x = a := by
  have same : (fun y => a.isSpace y && y ≠ x) = a.isSpace := by
    funext y
    by_cases here : y = x
    · rw [here, inside, Bool.false_and]
    · simp [here]
  rw [fuse, same]

theorem isSpace_fuse_of_notMem {x : α} {row : List α} (absent : x ∉ row) :
    ∀ y ∈ row, (a.fuse x).isSpace y = a.isSpace y := by
  intro y member
  apply isSpace_fuse_of_ne
  rintro rfl
  exact absent member

theorem nodes_fuse_of_notMem {x : α} {row : List α} (absent : x ∉ row) :
    (a.fuse x).nodes row = a.nodes row := by
  have same : (a.fuse x).nodes (row.map id) = a.nodes row :=
    nodes_map (isSpace_fuse_of_notMem absent) (fun _ _ => rfl) fun _ _ => rfl
  rwa [List.map_id] at same

theorem nodes_fuse_between {x : α} {before front back later : List α}
    (absentBefore : x ∉ before) (absentLater : x ∉ later)
    (left : ∀ y ∈ before.getLast?, a.isSpace y = true)
    (insideFront : ∀ y ∈ front, a.isSpace y = false)
    (insideBack : ∀ y ∈ back, a.isSpace y = false)
    (right : ∀ y ∈ later.head?, a.isSpace y = true) :
    (a.fuse x).nodes (before ++ (front ++ x :: (back ++ later))) = a.nodes before ++
      (a.stretchNodes (front ++ x :: back) ++ a.nodes later) := by
  have inside : ∀ y ∈ front ++ x :: back, (a.fuse x).isSpace y = false := by
    intro y member
    by_cases same : y = x
    · rw [same, isSpace_fuse_self]
    · rw [isSpace_fuse_of_ne same]
      rcases List.mem_append.1 member with inFront | inBack
      · exact insideFront y inFront
      · exact insideBack y ((List.mem_cons.1 inBack).resolve_left same)
  have leftFused : ∀ y ∈ before.getLast?, (a.fuse x).isSpace y = true := by
    intro y last
    rw [isSpace_fuse_of_notMem absentBefore y (List.mem_of_getLast? last)]
    exact left y last
  have rightFused : ∀ y ∈ later.head?, (a.fuse x).isSpace y = true := by
    intro y head
    rw [isSpace_fuse_of_notMem absentLater y (List.mem_of_head? head)]
    exact right y head
  have cut : before ++ (front ++ x :: (back ++ later)) =
      before ++ ((front ++ x :: back) ++ later) := by
    rw [List.append_assoc, List.cons_append]
  rw [cut, nodes_append_left leftFused, nodes_append_right inside rightFused,
    nodes_fuse_of_notMem absentBefore, nodes_fuse_of_notMem absentLater]
  rfl

/-- A space that becomes an item shows in the tree exactly if a separator stands in the stretch
before it or in the one after it. -/
theorem nodes_fuse_iff {x : α} {n : Node} {front back : List α} (space : a.isSpace x = true)
    (item : a.isSeparator x = false) (node : a.node? x = some n)
    (absentFront : x ∉ front) (absentBack : x ∉ back) :
    (a.fuse x).nodes (front ++ x :: back) = a.nodes (front ++ x :: back) ↔
      ∀ y ∈ a.lastStretch front ++ a.firstStretch back, a.isSeparator y = false := by
  obtain ⟨before, cutFront, left, insideFront⟩ := a.exists_lastStretch front
  obtain ⟨later, cutBack, right, insideBack⟩ := a.exists_firstStretch back
  have cut : front ++ x :: back =
      before ++ (a.lastStretch front ++ x :: (a.firstStretch back ++ later)) := by
    rw [← cutBack, ← List.append_assoc, ← cutFront]
  have absentBefore : x ∉ before := by
    intro member
    rw [cutFront] at absentFront
    exact absentFront (List.mem_append_left _ member)
  have absentLater : x ∉ later := by
    intro member
    rw [cutBack] at absentBack
    exact absentBack (List.mem_append_right _ member)
  rw [cut, nodes_space_between space item node left insideFront insideBack right,
    nodes_fuse_between absentBefore absentLater left insideFront insideBack right,
    List.append_right_inj, List.append_left_inj]
  exact stretchNodes_append_item_iff item node _ _

end Assembly

end CucumberExpressions
