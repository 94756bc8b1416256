import CucumberExpressions.Node.Basic
import Mathlib.Data.List.Forall2
import Mathlib.Data.List.SplitBy

/-! Assemblies: how a row of elements becomes nodes. The row is cut at its spaces, a stretch between
them is cut at its separators, and a stretch with a separator becomes one alternation. -/

namespace CucumberExpressions

/-- Which elements are spaces, which are separators, and the node an element brings, if any. -/
structure Assembly (α : Type) where
  isSpace : α → Bool
  isSeparator : α → Bool
  node? : α → Option Node

namespace Assembly

variable {α β : Type} (a : Assembly α) (b : Assembly β)

def alternatives (stretch : List α) : List (List Node) :=
  (stretch.splitOnP a.isSeparator).map (·.filterMap a.node?)

/-- A stretch without a separator stands for its items, any other for one alternation. -/
def stretchNodes (stretch : List α) : List Node :=
  match a.alternatives stretch with
  | [items] => items
  | many => [.branch .alternation (many.map (.branch .alternative))]

def stretches (row : List α) : List (List α) :=
  row.splitBy fun x y => !a.isSpace x && !a.isSpace y

def nodes (row : List α) : List Node := (a.stretches row).flatMap a.stretchNodes

def firstStretch (row : List α) : List α := row.takeWhile (!a.isSpace ·)

theorem nodes_nil : a.nodes [] = [] := rfl

theorem alternatives_nil : a.alternatives [] = [[]] := rfl

theorem alternatives_ne_nil (stretch : List α) : a.alternatives stretch ≠ [] := by
  simp [alternatives]

theorem alternatives_cons_separator {x : α} (separator : a.isSeparator x = true) (xs : List α) :
    a.alternatives (x :: xs) = [] :: a.alternatives xs := by
  simp [alternatives, List.splitOnP_cons_eq_if_modifyHead, separator]

theorem alternatives_cons_item {x : α} (item : a.isSeparator x = false) (xs : List α) :
    a.alternatives (x :: xs) =
      (a.alternatives xs).modifyHead ((a.node? x).toList ++ ·) := by
  rcases List.exists_cons_of_ne_nil
    (List.splitOnP_ne_nil a.isSeparator xs) with ⟨first, others, found⟩
  simp only [alternatives, List.splitOnP_cons_eq_if_modifyHead, item, found]
  cases node : a.node? x <;> simp [node]

theorem alternatives_append_items {front : List α}
    (items : ∀ x ∈ front, a.isSeparator x = false) (xs : List α) :
    a.alternatives (front ++ xs) =
      (a.alternatives xs).modifyHead (front.filterMap a.node? ++ ·) := by
  rcases List.exists_cons_of_ne_nil (a.alternatives_ne_nil xs) with ⟨first, others, found⟩
  induction front with
  | nil => simp [found]
  | cons x front ih =>
      have later := ih fun y member => items y (List.mem_cons_of_mem x member)
      rw [List.cons_append, alternatives_cons_item a (items x List.mem_cons_self), later, found]
      cases node : a.node? x <;> simp [node]

theorem stretches_cons_space {x : α} (space : a.isSpace x = true) (row : List α) :
    a.stretches (x :: row) = [x] :: a.stretches row := by
  rw [stretches, ← List.singleton_append, List.splitBy_append]
  · rfl
  · intro y last z _
    have same : x = y := by simpa using last
    rw [← same]
    simp [space]

theorem stretches_append {front : List α} (nonempty : front ≠ [])
    (inside : ∀ x ∈ front, a.isSpace x = false) {row : List α}
    (border : ∀ x ∈ row.head?, a.isSpace x = true) :
    a.stretches (front ++ row) = front :: a.stretches row := by
  rw [stretches, List.splitBy_append, List.splitBy_of_isChain nonempty]
  · rfl
  · apply List.Pairwise.isChain
    apply List.Pairwise.imp_of_mem _ (List.pairwise_of_forall fun _ _ => trivial)
    intro x y memberX memberY _
    simp [inside x memberX, inside y memberY]
  · intro x _ y head
    simp [border y head]

theorem nodes_cons_space {x : α} (space : a.isSpace x = true) (row : List α) :
    a.nodes (x :: row) = a.stretchNodes [x] ++ a.nodes row := by
  rw [nodes, stretches_cons_space a space, List.flatMap_cons]
  rfl

theorem nodes_append {front : List α} (nonempty : front ≠ [])
    (inside : ∀ x ∈ front, a.isSpace x = false) {row : List α}
    (border : ∀ x ∈ row.head?, a.isSpace x = true) :
    a.nodes (front ++ row) = a.stretchNodes front ++ a.nodes row := by
  rw [nodes, stretches_append a nonempty inside border, List.flatMap_cons]
  rfl

theorem length_alternatives (stretch : List α) :
    (a.alternatives stretch).length = stretch.countP a.isSeparator + 1 := by
  induction stretch with
  | nil => rfl
  | cons x stretch ih =>
      cases separator : a.isSeparator x with
      | true =>
          rw [alternatives_cons_separator a separator, List.length_cons, ih,
            List.countP_cons_of_pos separator]
      | false =>
          rw [alternatives_cons_item a separator, List.length_modifyHead, ih,
            List.countP_cons_of_neg (by rw [separator]; exact Bool.false_ne_true)]

theorem stretchNodes_of_items {stretch : List α} (items : ∀ x ∈ stretch, a.isSeparator x = false) :
    a.stretchNodes stretch = stretch.filterMap a.node? := by
  have alone : a.alternatives stretch = [stretch.filterMap a.node?] := by
    have cut := a.alternatives_append_items items []
    simpa [alternatives_nil] using cut
  rw [stretchNodes, alone]

theorem stretchNodes_of_separator {stretch : List α} {x : α} (member : x ∈ stretch)
    (separator : a.isSeparator x = true) :
    a.stretchNodes stretch =
      [.branch .alternation ((a.alternatives stretch).map (.branch .alternative))] := by
  have several : 0 < stretch.countP a.isSeparator := List.countP_pos_iff.2 ⟨x, member, separator⟩
  have length := a.length_alternatives stretch
  unfold stretchNodes
  split
  · next items found =>
      rw [found, List.length_singleton] at length
      omega
  · rfl

theorem nodes_of_items {row : List α} (inside : ∀ x ∈ row, a.isSpace x = false)
    (items : ∀ x ∈ row, a.isSeparator x = false) : a.nodes row = row.filterMap a.node? := by
  by_cases empty : row = []
  · rw [empty]
    rfl
  · have border : ∀ x ∈ ([] : List α).head?, a.isSpace x = true := by simp
    have stretch := a.nodes_append empty inside border
    rw [List.append_nil] at stretch
    rw [stretch, stretchNodes_of_items a items]
    exact List.append_nil _

theorem mem_row_of_mem_alternatives {stretch : List α} {items : List Node} {n : Node}
    (member : items ∈ a.alternatives stretch) (item : n ∈ items) :
    ∃ x ∈ stretch, a.node? x = some n := by
  induction stretch generalizing items with
  | nil =>
      rw [alternatives_nil, List.mem_singleton] at member
      rw [member] at item
      cases item
  | cons y stretch ih =>
      have later : ∀ items ∈ a.alternatives stretch, n ∈ items →
          ∃ x ∈ y :: stretch, a.node? x = some n := by
        intro items member item
        rcases ih member item with ⟨x, memberX, node⟩
        exact ⟨x, List.mem_cons_of_mem y memberX, node⟩
      cases separator : a.isSeparator y with
      | true =>
          rw [alternatives_cons_separator a separator] at member
          rcases List.mem_cons.1 member with rfl | member
          · cases item
          · exact later items member item
      | false =>
          rcases List.exists_cons_of_ne_nil (a.alternatives_ne_nil stretch)
            with ⟨first, others, found⟩
          rw [found] at later
          rw [alternatives_cons_item a separator, found, List.modifyHead_cons] at member
          rcases List.mem_cons.1 member with rfl | member
          · rcases List.mem_append.1 item with here | inFirst
            · exact ⟨y, List.mem_cons_self, Option.mem_toList.1 here⟩
            · exact later first List.mem_cons_self inFirst
          · exact later items (List.mem_cons_of_mem first member) item

theorem mem_nodes {row : List α} {n : Node} (member : n ∈ a.nodes row) :
    (∃ x ∈ row, a.node? x = some n) ∨
      ∃ many : List (List Node), 2 ≤ many.length ∧
        n = .branch .alternation (many.map (.branch .alternative)) ∧
        ∀ items ∈ many, ∀ m ∈ items, ∃ x ∈ row, a.node? x = some m := by
  rcases List.mem_flatMap.1 member with ⟨stretch, memberStretch, inside⟩
  have inRow : ∀ x ∈ stretch, x ∈ row := by
    intro x memberX
    rw [← List.flatten_splitBy (fun x y => !a.isSpace x && !a.isSpace y) row]
    exact List.mem_flatten.2 ⟨stretch, memberStretch, memberX⟩
  have source : ∀ items ∈ a.alternatives stretch, ∀ m ∈ items,
      ∃ x ∈ row, a.node? x = some m := by
    intro items memberItems m item
    rcases a.mem_row_of_mem_alternatives memberItems item with ⟨x, memberX, node⟩
    exact ⟨x, inRow x memberX, node⟩
  unfold stretchNodes at inside
  split at inside
  · next items found =>
      exact Or.inl (source items (by rw [found]; simp) n inside)
  · next many other =>
      refine Or.inr ⟨a.alternatives stretch, ?_, List.mem_singleton.1 inside, source⟩
      match found : a.alternatives stretch with
      | [] => exact absurd found (a.alternatives_ne_nil stretch)
      | [items] => exact absurd found (other items)
      | _ :: _ :: _ => simp

theorem exists_firstStretch (row : List α) :
    ∃ later, row = a.firstStretch row ++ later ∧ (∀ x ∈ later.head?, a.isSpace x = true) ∧
      ∀ x ∈ a.firstStretch row, a.isSpace x = false := by
  refine ⟨row.dropWhile (!a.isSpace ·), List.takeWhile_append_dropWhile.symm, ?_, ?_⟩
  · intro x head
    have stop := List.head?_dropWhile_not (!a.isSpace ·) row
    rw [Option.mem_def.1 head] at stop
    simpa using stop
  · intro x member
    simpa using List.all_eq_true.1 List.all_takeWhile x member

/-- A row ends, starts with a space, or starts with a stretch that ends with it or at a space. -/
@[elab_as_elim]
theorem induction_stretches {motive : List α → Prop} (nil : motive [])
    (space : ∀ x row, a.isSpace x = true → motive row → motive (x :: row))
    (stretch : ∀ front row, front ≠ [] → (∀ x ∈ front, a.isSpace x = false) →
      (∀ x ∈ row.head?, a.isSpace x = true) → motive row → motive (front ++ row))
    (row : List α) : motive row := by
  induction length : row.length using Nat.strong_induction_on generalizing row with
  | _ n ih =>
      subst length
      cases row with
      | nil => exact nil
      | cons x row =>
          cases isSpace : a.isSpace x with
          | true => exact space x row isSpace (ih row.length (by simp) row rfl)
          | false =>
              obtain ⟨later, cut, border, inside⟩ := a.exists_firstStretch (x :: row)
              have nonempty : a.firstStretch (x :: row) ≠ [] := by simp [firstStretch, isSpace]
              have shorter : later.length < (x :: row).length := by
                have positive := List.length_pos_iff.2 nonempty
                have length := congrArg List.length cut
                rw [List.length_append] at length
                omega
              rw [cut]
              exact stretch _ later nonempty inside border (ih _ shorter later rfl)

theorem nodes_append_space {x : α} (space : a.isSpace x = true) (front back : List α) :
    a.nodes (front ++ x :: back) = a.nodes front ++ a.stretchNodes [x] ++ a.nodes back := by
  induction front using a.induction_stretches with
  | nil => exact a.nodes_cons_space space back
  | space y row spaceY ih =>
      rw [List.cons_append, a.nodes_cons_space spaceY, ih, a.nodes_cons_space spaceY]
      simp only [List.append_assoc]
  | stretch run row nonempty inside border ih =>
      have borderBack : ∀ y ∈ (row ++ x :: back).head?, a.isSpace y = true := by
        intro y head
        cases row with
        | nil =>
            have same : x = y := by simpa using head
            rwa [← same]
        | cons z row => exact border y head
      rw [List.append_assoc, a.nodes_append nonempty inside borderBack, ih,
        a.nodes_append nonempty inside border]
      simp only [List.append_assoc]

/-- The elements `ys` of one row play the part that `x` plays in another. -/
structure Expands (x : α) (ys : List β) : Prop where
  nonempty : ys ≠ []
  space : a.isSpace x = true → ∃ y, ys = [y] ∧ b.isSpace y = true
  inside : a.isSpace x = false → ∀ y ∈ ys, b.isSpace y = false
  separator : a.isSeparator x = true → ∃ y, ys = [y] ∧ b.isSeparator y = true
  item : a.isSeparator x = false →
    (∀ y ∈ ys, b.isSeparator y = false) ∧ ys.filterMap b.node? = (a.node? x).toList

variable {a b}

theorem alternatives_flatten {xs : List α} {yss : List (List β)}
    (expands : List.Forall₂ (a.Expands b) xs yss) :
    b.alternatives yss.flatten = a.alternatives xs := by
  induction expands with
  | nil => rfl
  | @cons x ys xs yss here _ ih =>
      rw [List.flatten_cons]
      cases separator : a.isSeparator x with
      | true =>
          rcases here.separator separator with ⟨y, rfl, separatorY⟩
          rw [List.singleton_append, b.alternatives_cons_separator separatorY,
            a.alternatives_cons_separator separator, ih]
      | false =>
          rcases here.item separator with ⟨items, same⟩
          rw [b.alternatives_append_items items, a.alternatives_cons_item separator, ih, same]

theorem stretchNodes_flatten {xs : List α} {yss : List (List β)}
    (expands : List.Forall₂ (a.Expands b) xs yss) :
    b.stretchNodes yss.flatten = a.stretchNodes xs := by
  rw [stretchNodes, stretchNodes, alternatives_flatten expands]

theorem flatten_ne_nil {xs : List α} {yss : List (List β)}
    (expands : List.Forall₂ (a.Expands b) xs yss) (nonempty : xs ≠ []) : yss.flatten ≠ [] := by
  cases expands with
  | nil => exact absurd rfl nonempty
  | cons here _ => simp [here.nonempty]

theorem isSpace_head_flatten {xs : List α} {yss : List (List β)}
    (expands : List.Forall₂ (a.Expands b) xs yss)
    (border : ∀ x ∈ xs.head?, a.isSpace x = true) :
    ∀ y ∈ yss.flatten.head?, b.isSpace y = true := by
  intro y head
  cases expands with
  | nil => cases head
  | @cons x ys xs yss here _ =>
      rcases here.space (border x rfl) with ⟨z, rfl, space⟩
      have same : z = y := by simpa using head
      rw [← same]
      exact space

theorem not_isSpace_flatten {xs : List α} {yss : List (List β)}
    (expands : List.Forall₂ (a.Expands b) xs yss) (inside : ∀ x ∈ xs, a.isSpace x = false) :
    ∀ y ∈ yss.flatten, b.isSpace y = false := by
  induction expands with
  | nil => simp
  | @cons x ys xs yss here _ ih =>
      intro y member
      rw [List.flatten_cons, List.mem_append] at member
      rcases member with member | member
      · exact here.inside (inside x List.mem_cons_self) y member
      · exact ih (fun x later => inside x (List.mem_cons_of_mem _ later)) y member

theorem nodes_flatten {row : List α} {yss : List (List β)}
    (expands : List.Forall₂ (a.Expands b) row yss) : b.nodes yss.flatten = a.nodes row := by
  induction row using a.induction_stretches generalizing yss with
  | nil =>
      cases expands
      rfl
  | space x row space ih =>
      cases expands with
      | @cons _ ys _ yss here later =>
          have stretch : b.stretchNodes ys = a.stretchNodes [x] := by
            simpa using stretchNodes_flatten (.cons here .nil)
          rcases here.space space with ⟨y, rfl, spaceY⟩
          rw [List.flatten_cons, List.singleton_append, b.nodes_cons_space spaceY,
            a.nodes_cons_space space, ih later, stretch]
  | stretch front row nonempty inside border ih =>
      have expandsFront := List.forall₂_take front.length expands
      have expandsRow := List.forall₂_drop front.length expands
      rw [List.take_left] at expandsFront
      rw [List.drop_left] at expandsRow
      rw [← List.take_append_drop front.length yss, List.flatten_append,
        b.nodes_append (flatten_ne_nil expandsFront nonempty)
          (not_isSpace_flatten expandsFront inside) (isSpace_head_flatten expandsRow border),
        a.nodes_append nonempty inside border, stretchNodes_flatten expandsFront, ih expandsRow]

theorem nodes_map {f : α → β} {row : List α} (space : ∀ x ∈ row, b.isSpace (f x) = a.isSpace x)
    (separator : ∀ x ∈ row, b.isSeparator (f x) = a.isSeparator x)
    (item : ∀ x ∈ row, b.node? (f x) = a.node? x) :
    b.nodes (row.map f) = a.nodes row := by
  have expands : List.Forall₂ (a.Expands b) row (row.map fun x => [f x]) := by
    rw [List.forall₂_map_right_iff, List.forall₂_same]
    intro x member
    have spaceX := space x member
    have separatorX := separator x member
    have itemX := item x member
    exact
      { nonempty := List.cons_ne_nil _ _
        space := fun isSpace => ⟨f x, rfl, spaceX.trans isSpace⟩
        inside := fun inside => by simp [spaceX, inside]
        separator := fun isSeparator => ⟨f x, rfl, separatorX.trans isSeparator⟩
        item := fun isItem => by cases node : a.node? x <;> simp [separatorX, isItem, itemX, node] }
  rw [← nodes_flatten expands, ← List.flatMap_def, List.map_eq_flatMap]

end Assembly

end CucumberExpressions
