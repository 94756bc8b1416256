import CucumberExpressions.Proofs.Placement
import CucumberExpressions.Proofs.Reading

/-! The tree of a layout: spans, cuts and items of the positions are those of the pieces, so the
parser gives every token sequence the tree of its layout. -/

namespace CucumberExpressions

namespace Piece

open Layout

variable {ps before after : List Piece} {p : Piece} {k : Kind} {d i : Nat}

theorem find?_spans_placed (fitting : Fitting (before ++ p :: after))
    (bound : d < p.tokens.length) :
    (spans ((before ++ p :: after).flatMap tokens)).find? (·.covers (extent before + d)) =
      p.span? (extent before) := by
  have only : ∀ s ∈ spans ((before ++ p :: after).flatMap tokens),
      s.covers (extent before + d) → p.span? (extent before) = some s := by
    intro s member covers
    rcases (mem_spans_iff fitting).1 member with ⟨before', p', after', same, span⟩
    rcases (covers_of_span? span).1 covers with ⟨d', position, bound'⟩
    rcases placed_unique same position bound bound' with ⟨rfl, rfl, rfl⟩
    exact span
  cases span : p.span? (extent before) with
  | none =>
      rw [List.find?_eq_none]
      intro s member covers
      rw [only s member covers] at span
      cases span
  | some s =>
      have member := (mem_spans_iff fitting).2 ⟨before, p, after, rfl, span⟩
      have found := List.find?_isSome.2 ⟨s, member, (covers_of_span? span).2 ⟨d, rfl, bound⟩⟩
      rcases Option.isSome_iff_exists.1 found with ⟨s', first⟩
      have same := only s' (List.mem_of_find?_eq_some first) (List.find?_some first)
      rw [first, ← same, span]

theorem inner_placed {b : Bracket} {o c : Token} {inner : List Token} :
    (Span.mk b (extent before) (extent before + (inner.length + 1))).inner
      ((before ++ enclosed b o inner c :: after).flatMap tokens) = inner := by
  have split : (before ++ enclosed b o inner c :: after).flatMap tokens =
      (before.flatMap tokens ++ [o]) ++ inner ++ (c :: after.flatMap tokens) := by
    simp [tokens]
  have front : (before.flatMap tokens ++ [o]).length = extent before + 1 := by
    simp [extent]
  have whole : ((before.flatMap tokens ++ [o]) ++ inner).length =
      extent before + (inner.length + 1) := by
    rw [List.length_append, front]
    omega
  rw [Span.inner, split, List.take_left' whole, List.drop_left' front]

theorem item?_of_single {t : Token} (fitting : Fitting (before ++ single t :: after)) :
    item? ((before ++ single t :: after).flatMap tokens) (extent before) =
      some (single t).node := by
  have outside := find?_spans_placed fitting (d := 0) (by simp)
  have token : ((before ++ single t :: after).flatMap tokens)[extent before]? = some t := by
    simp [extent, tokens]
  rw [Nat.add_zero] at outside
  rw [item?, outside, token]
  rfl

theorem item?_of_enclosed {b : Bracket} {o c : Token} {inner : List Token}
    (fitting : Fitting (before ++ enclosed b o inner c :: after)) (bound : d < inner.length + 2) :
    item? ((before ++ enclosed b o inner c :: after).flatMap tokens) (extent before + d) =
      if d = 0 then some (enclosed b o inner c).node else none := by
  have here := find?_spans_placed fitting (d := d) (by rwa [length_tokens_enclosed])
  simp only [item?, here, span?, Span.node, inner_placed, node]
  simp

theorem filterMap_item? (fitting : Fitting (before ++ p :: after)) :
    (List.range' (extent before) p.tokens.length).filterMap
      (item? ((before ++ p :: after).flatMap tokens)) = [p.node] := by
  cases p with
  | single t =>
      rw [length_tokens_single, List.range'_one, List.filterMap_cons, item?_of_single fitting]
      rfl
  | enclosed b o inner c =>
      have rest : (List.range' (extent before + 1) (inner.length + 1)).filterMap
          (item? ((before ++ enclosed b o inner c :: after).flatMap tokens)) = [] := by
        rw [List.filterMap_eq_nil_iff]
        intro i member
        rcases List.mem_range'_1.1 member with ⟨atLeast, below⟩
        rcases Nat.exists_eq_add_of_le atLeast with ⟨d, rfl⟩
        rw [Nat.add_assoc, item?_of_enclosed fitting (by omega), if_neg (by omega)]
      have first := item?_of_enclosed fitting (d := 0) (by omega)
      rw [Nat.add_zero] at first
      rw [length_tokens_enclosed, List.range'_succ, List.filterMap_cons, first, rest]
      rfl

theorem cuts_placed (fitting : Fitting (before ++ p :: after)) (bound : d < p.tokens.length)
    (cuts : k = .mark .whiteSpace ∨ k = .mark .alternation) :
    (hasKind ((before ++ p :: after).flatMap tokens) k (extent before + d) &&
      !inGroup ((before ++ p :: after).flatMap tokens) (extent before + d)) = p.isSingle k := by
  rw [hasKind_placed bound, inGroup_placed fitting bound]
  have fits := fitting.right.1
  cases p with
  | single t =>
      rw [eq_zero_of_single bound]
      simp [hasKind, tokens, isSingle, isGroup]
  | enclosed b o inner c =>
      cases b with
      | optional => simp [isGroup, isSingle]
      | parameter =>
          have other : ¬ hasKind (enclosed .parameter o inner c).tokens k d := by
            rw [hasKind_enclosed, fits.1, fits.2.2]
            intro here
            rcases here with ⟨_, rfl⟩ | ⟨_, rfl⟩ | ⟨m, _, inside⟩
            · simp [Bracket.opening] at cuts
            · simp [Bracket.closing] at cuts
            · rw [kind_in_parameter fits.2.1 inside] at cuts
              simp at cuts
          simpa [isGroup, isSingle] using other

theorem expands_placed (fitting : Fitting (before ++ p :: after)) :
    Piece.assembly.Expands (Layout.assembly ((before ++ p :: after).flatMap tokens)) p
      (List.range' (extent before) p.tokens.length) := by
  have positions : ∀ i ∈ List.range' (extent before) p.tokens.length,
      ∃ d, i = extent before + d ∧ d < p.tokens.length := by
    intro i member
    rcases List.mem_range'_1.1 member with ⟨atLeast, below⟩
    exact ⟨i - extent before, by omega, by omega⟩
  have alone : ∀ k, p.isSingle k → List.range' (extent before) p.tokens.length =
      [extent before] := by
    intro k isSingle
    match p, isSingle with
    | single t, _ => rfl
  have spaces := fun d bound => cuts_placed fitting (d := d) bound (Or.inl rfl)
  have separators := fun d bound => cuts_placed fitting (d := d) bound (Or.inr rfl)
  constructor
  case nonempty =>
    have positive := p.length_tokens_pos
    rw [Ne, List.range'_eq_nil_iff]
    omega
  case space =>
    intro space
    exact ⟨_, alone _ space, (spaces 0 p.length_tokens_pos).trans space⟩
  case inside =>
    intro inside i member
    rcases positions i member with ⟨d, rfl, bound⟩
    exact (spaces d bound).trans inside
  case separator =>
    intro separator
    exact ⟨_, alone _ separator, (separators 0 p.length_tokens_pos).trans separator⟩
  case item =>
    intro item
    refine ⟨?_, filterMap_item? fitting⟩
    intro i member
    rcases positions i member with ⟨d, rfl, bound⟩
    exact (separators d bound).trans item

def positions (start : Nat) : List Piece → List (List Nat)
  | [] => []
  | p :: ps => List.range' start p.tokens.length :: positions (start + p.tokens.length) ps

theorem flatten_positions (start : Nat) (ps : List Piece) :
    (positions start ps).flatten = List.range' start (extent ps) := by
  induction ps generalizing start with
  | nil => rfl
  | cons p ps ih => rw [positions, List.flatten_cons, ih, extent_cons, List.range'_append_1]

theorem expands_positions (before : List Piece) (fitting : Fitting (before ++ ps)) :
    List.Forall₂ (Piece.assembly.Expands (Layout.assembly ((before ++ ps).flatMap tokens))) ps
      (positions (extent before) ps) := by
  induction ps generalizing before with
  | nil => exact .nil
  | cons p ps ih =>
      refine .cons (expands_placed fitting) ?_
      have later := ih (before ++ [p]) (by rwa [List.append_assoc])
      rwa [List.append_assoc, extent_append, extent_cons, extent_nil] at later

theorem tree_of_fitting (fitting : Fitting ps) :
    Layout.tree (ps.flatMap tokens) = .branch .expression (Piece.assembly.nodes ps) := by
  have expands := expands_positions [] fitting
  have nodes := Assembly.nodes_flatten expands
  rw [extent_nil, flatten_positions, ← List.range_eq_range'] at nodes
  rw [Layout.tree, ← nodes]
  rfl

end Piece

theorem Layout.groupDepth_item?_le {ts : List Token} {i : Nat} {n : Node}
    (item : Layout.item? ts i = some n) : n.groupDepth ≤ 1 := by
  unfold Layout.item? at item
  split at item
  · next s _ =>
      split at item
      · rw [← Option.some.inj item]
        have leaves : ∀ c ∈ (s.inner ts).map Node.literal, c.groupDepth ≤ 0 := by
          intro c member
          rcases List.mem_map.1 member with ⟨t, _, rfl⟩
          exact Nat.le_refl 0
        have bound := (Node.groupDepth_branch_le_iff (k := s.bracket.branch)).2 leaves
        exact bound.trans (by split <;> omega)
      · cases item
  · rcases Option.map_eq_some_iff.1 item with ⟨t, _, rfl⟩
    exact Nat.zero_le 1

theorem Layout.groupDepth_tree_le (ts : List Token) : (Layout.tree ts).groupDepth ≤ 1 := by
  apply Node.groupDepth_branch_le_iff.2
  intro n member
  rcases (Layout.assembly ts).mem_nodes member with ⟨i, _, item⟩ | ⟨many, _, rfl, items⟩
  · exact groupDepth_item?_le item
  · apply Node.groupDepth_branch_le_iff.2
    intro alternative memberMany
    rcases List.mem_map.1 memberMany with ⟨parts, memberParts, rfl⟩
    apply Node.groupDepth_branch_le_iff.2
    intro m memberM
    rcases items parts memberParts m memberM with ⟨i, _, item⟩
    exact groupDepth_item?_le item

theorem value_parseTokens (ts : List Token) : (parseTokens ts).value = Layout.tree ts := by
  rcases Piece.exists_fitting ts with ⟨ps, fitting, rfl⟩
  rw [Piece.tree_of_fitting fitting, parseTokens_of_fitting fitting]

theorem groupDepth_parseTokens_le (ts : List Token) : (parseTokens ts).value.groupDepth ≤ 1 := by
  rw [value_parseTokens]
  exact Layout.groupDepth_tree_le ts

/-- The parser gives every token sequence the tree of its layout, in which no group is inside
another. -/
theorem parseTokens_eq_layout_tree (ts : List Token) :
    (parseTokens ts).value = Layout.tree ts ∧ (parseTokens ts).value.groupDepth ≤ 1 :=
  ⟨value_parseTokens ts, groupDepth_parseTokens_le ts⟩

end CucumberExpressions
