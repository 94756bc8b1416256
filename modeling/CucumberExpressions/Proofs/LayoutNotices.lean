import CucumberExpressions.Proofs.LayoutTree

/-! The notices of a layout: which brackets are kept as text is said of their positions alone, and
parsing notes these brackets from left to right and nothing else. -/

namespace CucumberExpressions

namespace Layout

variable {ts : List Token} {i : Nat}

def opensGroup (ts : List Token) (i : Nat) : Bool := (groups ts).any (·.first = i)

/-- The position as the scope around it counts: a group counts from its first token inside. -/
def scopePosition (ts : List Token) (i : Nat) : Nat :=
  match (groups ts).find? (·.covers i) with
  | some g => i - g.first - 1
  | none => i

/-- An opening bracket without a group is noted everywhere, one without a parameter outside groups
only. -/
def notice? (ts : List Token) (i : Nat) : Option Notice :=
  if hasKind ts (.mark .beginOptional) i && !opensGroup ts i then
    some (.unmatchedOptional (scopePosition ts i))
  else if hasKind ts (.mark .beginParameter) i && !inGroup ts i && (parameterEnd? ts i).isNone then
    some (.unclosedParameter i)
  else none

theorem opensGroup_iff : opensGroup ts i ↔ ∃ e, IsGroup ts i e := by
  rw [opensGroup, List.any_eq_true]
  constructor
  · intro listed
    rcases listed with ⟨⟨bracket, b, e⟩, member, opens⟩
    rcases mem_groups_iff.1 member with ⟨-, group⟩
    have same : b = i := of_decide_eq_true opens
    rw [← same]
    exact ⟨e, group⟩
  · intro grouped
    rcases grouped with ⟨e, group⟩
    have member : ⟨.optional, i, e⟩ ∈ groups ts := mem_groups_iff.2 ⟨rfl, group⟩
    exact ⟨_, member, decide_eq_true rfl⟩

theorem scopePosition_outside (outside : inGroup ts i = false) : scopePosition ts i = i := by
  have none : (groups ts).find? (·.covers i) = none := by
    rw [List.find?_eq_none]
    intro s member covers
    rw [inGroup, List.any_eq_false] at outside
    exact outside s member covers
  rw [scopePosition, none]

theorem notice?_eq_none (group : hasKind ts (.mark .beginOptional) i → opensGroup ts i)
    (parameter : hasKind ts (.mark .beginParameter) i →
      inGroup ts i ∨ (parameterEnd? ts i).isSome) : notice? ts i = none := by
  unfold notice?
  split
  · next unmatched =>
      rw [Bool.and_eq_true, Bool.not_eq_true'] at unmatched
      rw [group unmatched.1] at unmatched
      cases unmatched.2
  · split
    · next unclosed =>
        rw [Bool.and_eq_true, Bool.and_eq_true, Bool.not_eq_true'] at unclosed
        rcases unclosed with ⟨⟨opens, outside⟩, none⟩
        rcases parameter opens with inside | closed
        · rw [inside] at outside
          cases outside
        · rw [← Option.not_isNone, none] at closed
          cases closed
    · rfl

theorem notice?_unmatched (opens : hasKind ts (.mark .beginOptional) i)
    (unmatched : opensGroup ts i = false) :
    notice? ts i = some (.unmatchedOptional (scopePosition ts i)) := by
  rw [notice?, opens, unmatched]
  rfl

theorem notice?_unclosed (opens : hasKind ts (.mark .beginParameter) i)
    (outside : inGroup ts i = false) (unclosed : parameterEnd? ts i = none) :
    notice? ts i = some (.unclosedParameter i) := by
  have other : hasKind ts (.mark .beginOptional) i = false := by
    rw [← Bool.not_eq_true]
    intro optional
    cases hasKind_unique opens optional
  rw [notice?, other, opens, outside, unclosed]
  rfl

end Layout

namespace Piece

open Layout

variable {ps before after : List Piece} {p : Piece} {d : Nat}

theorem opensGroup_placed (fitting : Fitting (before ++ p :: after))
    (bound : d < p.tokens.length) :
    opensGroup ((before ++ p :: after).flatMap tokens) (extent before + d) =
      (p.isGroup && d = 0) := by
  rw [Bool.eq_iff_iff, opensGroup_iff, Bool.and_eq_true, decide_eq_true_eq]
  constructor
  · intro grouped
    rcases grouped with ⟨e, group⟩
    rcases placed_of_isGroup fitting group with ⟨before', o, inner, c, after', same, start, _⟩
    have position : extent before + d = extent before' + 0 := start
    rcases placed_unique same position bound (by simp) with ⟨rfl, rfl, rfl⟩
    exact ⟨rfl, by omega⟩
  · intro opening
    rcases opening with ⟨isGroup, rfl⟩
    match p, isGroup with
    | enclosed .optional o inner c, _ => exact ⟨_, isGroup_placed fitting⟩

theorem find?_groups_placed {o c : Token} {inner : List Token}
    (fitting : Fitting (before ++ enclosed .optional o inner c :: after))
    (bound : d < inner.length + 2) :
    (groups ((before ++ enclosed .optional o inner c :: after).flatMap tokens)).find?
        (·.covers (extent before + d)) =
      some ⟨.optional, extent before, extent before + (inner.length + 1)⟩ := by
  have whole := find?_spans_placed fitting (d := d) (by rwa [length_tokens_enclosed])
  rw [spans, List.find?_append, span?] at whole
  cases group : (groups ((before ++ enclosed .optional o inner c :: after).flatMap tokens)).find?
      (·.covers (extent before + d)) with
  | some g =>
      rw [group] at whole
      exact whole
  | none =>
      -- A span of the parameters is no group.
      rw [group, Option.none_or] at whole
      have member := mem_parameters_iff.1 (List.mem_of_find?_eq_some whole)
      cases member.1

theorem scopePosition_inside {o c : Token} {inner : List Token}
    (fitting : Fitting (before ++ enclosed .optional o inner c :: after))
    (bound : d < inner.length + 1) :
    scopePosition ((before ++ enclosed .optional o inner c :: after).flatMap tokens)
      (extent before + (d + 1)) = d := by
  rw [scopePosition, find?_groups_placed fitting (by omega)]
  dsimp only
  omega

theorem notice?_single {t : Token} (fitting : Fitting (before ++ single t :: after)) :
    (notice? ((before ++ single t :: after).flatMap tokens) (extent before)).toList =
      (single t).notices (extent before) := by
  have unmatched := opensGroup_placed fitting (d := 0) (by simp)
  have outside := inGroup_placed fitting (d := 0) (by simp)
  have kind : ∀ k, hasKind ((before ++ single t :: after).flatMap tokens) k (extent before) ↔
      t.kind = k := by
    intro k
    rw [← Nat.add_zero (extent before), hasKind_placed (by simp)]
    exact hasKind_single
  rw [Nat.add_zero] at unmatched outside
  rw [notices]
  split
  · next opens =>
      rw [notice?_unmatched ((kind _).2 opens) unmatched, scopePosition_outside outside]
      rfl
  · next opens =>
      have unclosed : parameterEnd? ((before ++ single t :: after).flatMap tokens)
          (extent before) = none := by
        rw [Option.eq_none_iff_forall_ne_some]
        intro e found
        exact not_isParameter_single fitting (isParameter_of_parameterEnd? found)
      rw [notice?_unclosed ((kind _).2 opens) outside unclosed]
      rfl
  · next noOptional noParameter =>
      rw [notice?_eq_none (fun opens => absurd ((kind _).1 opens) noOptional)
        fun opens => absurd ((kind _).1 opens) noParameter]
      rfl

theorem notice?_parameter {o c : Token} {inner : List Token}
    (fitting : Fitting (before ++ enclosed .parameter o inner c :: after))
    (bound : d < inner.length + 2) :
    notice? ((before ++ enclosed .parameter o inner c :: after).flatMap tokens)
      (extent before + d) = none := by
  have fits := fitting.right.1
  have length := length_tokens_enclosed .parameter o inner c
  apply notice?_eq_none
  · rw [hasKind_placed (by omega)]
    intro opens
    exact absurd opens (not_opens_in_parameter fits)
  · rw [hasKind_placed (by omega), hasKind_enclosed]
    intro opens
    rcases opens with ⟨rfl, _⟩ | ⟨_, kind⟩ | ⟨m, _, inside⟩
    · rw [Nat.add_zero, parameterEnd?_of_isParameter (isParameter_placed fitting)]
      exact Or.inr rfl
    · cases fits.2.2.symm.trans kind
    · cases kind_in_parameter fits.2.1 inside

theorem notice?_opening {o c : Token} {inner : List Token}
    (fitting : Fitting (before ++ enclosed .optional o inner c :: after)) :
    notice? ((before ++ enclosed .optional o inner c :: after).flatMap tokens) (extent before) =
      none := by
  have opensGroup := opensGroup_iff.2 ⟨_, isGroup_placed fitting⟩
  apply notice?_eq_none
  · exact fun _ => opensGroup
  · intro opens
    cases hasKind_unique (isGroup_placed fitting).opens opens

theorem notice?_inside {o c : Token} {inner : List Token}
    (fitting : Fitting (before ++ enclosed .optional o inner c :: after))
    (bound : d < inner.length + 1) :
    notice? ((before ++ enclosed .optional o inner c :: after).flatMap tokens)
        (extent before + (d + 1)) =
      if hasKind inner (.mark .beginOptional) d then some (.unmatchedOptional d) else none := by
  have fits := fitting.right.1
  have length := length_tokens_enclosed .optional o inner c
  have opensGroup := opensGroup_placed fitting (d := d + 1) (by omega)
  have inside := inGroup_placed fitting (d := d + 1) (by omega)
  have unmatched : (decide (d + 1 = 0)) = false := decide_eq_false (Nat.succ_ne_zero d)
  rw [unmatched, Bool.and_false] at opensGroup
  have kind : hasKind ((before ++ enclosed .optional o inner c :: after).flatMap tokens)
        (.mark .beginOptional) (extent before + (d + 1)) ↔
      hasKind inner (.mark .beginOptional) d := by
    rw [hasKind_placed (by omega), hasKind_enclosed]
    simp [fits.2.2, Bracket.closing]
  split
  · next opens =>
      rw [notice?_unmatched (kind.2 opens) opensGroup, scopePosition_inside fitting bound]
  · next other =>
      apply notice?_eq_none
      · intro opens
        exact absurd (kind.1 opens) other
      · exact fun _ => Or.inl inside

theorem unmatchedFrom_eq_filterMap (start : Nat) (ts : List Token) :
    unmatchedFrom start ts = (List.range ts.length).filterMap fun d =>
      if hasKind ts (.mark .beginOptional) d then some (.unmatchedOptional (start + d))
      else none := by
  induction ts generalizing start with
  | nil => rfl
  | cons t ts ih =>
      have later : (fun d => if hasKind ts (.mark .beginOptional) d then
            some (Notice.unmatchedOptional (start + 1 + d)) else none) =
          (fun d => if hasKind (t :: ts) (.mark .beginOptional) d then
            some (Notice.unmatchedOptional (start + d)) else none) ∘ Nat.succ := by
        funext d
        rw [Nat.add_assoc, Nat.add_comm 1 d]
        rfl
      rw [List.length_cons, List.range_succ_eq_map, List.filterMap_cons, List.filterMap_map,
        ← later, ← ih, unmatchedFrom]
      simp only [hasKind_zero_iff]
      split
      · rfl
      · rfl

theorem filterMap_notice? (fitting : Fitting (before ++ p :: after)) :
    (List.range' (extent before) p.tokens.length).filterMap
      (notice? ((before ++ p :: after).flatMap tokens)) = p.notices (extent before) := by
  cases p with
  | single t =>
      rw [length_tokens_single, List.range'_one, ← notice?_single fitting, List.filterMap_cons]
      split
      · next none => rw [none]; rfl
      · next some => rw [some]; rfl
  | enclosed b o inner c =>
      rw [length_tokens_enclosed]
      cases b with
      | parameter =>
          rw [notices, List.filterMap_eq_nil_iff]
          intro i member
          rcases List.mem_range'_1.1 member with ⟨atLeast, below⟩
          rcases Nat.exists_eq_add_of_le atLeast with ⟨d, rfl⟩
          exact notice?_parameter fitting (by omega)
      | optional =>
          have closing : hasKind inner (.mark .beginOptional) inner.length = false := by
            simp [hasKind]
          have positions : List.range' (extent before + 1) (inner.length + 1) =
              (List.range (inner.length + 1)).map fun d => extent before + (d + 1) := by
            rw [List.range'_eq_map_range]
            apply List.map_congr_left
            intro d _
            omega
          rw [List.range'_succ, List.filterMap_cons, notice?_opening fitting, positions,
            List.filterMap_map, notices, unmatchedFrom_eq_filterMap]
          calc
            _ = (List.range (inner.length + 1)).filterMap fun d =>
                if hasKind inner (.mark .beginOptional) d then
                  some (Notice.unmatchedOptional d) else none := by
              apply List.filterMap_congr
              intro d member
              exact notice?_inside fitting (List.mem_range.1 member)
            _ = _ := by
              simp [List.range_succ, closing]

theorem noticesFrom_placed (before : List Piece) (fitting : Fitting (before ++ ps)) :
    noticesFrom (extent before) ps = (List.range' (extent before) (extent ps)).filterMap
      (notice? ((before ++ ps).flatMap tokens)) := by
  induction ps generalizing before with
  | nil => rfl
  | cons p ps ih =>
      have later := ih (before ++ [p]) (by rwa [List.append_assoc])
      rw [List.append_assoc, extent_append, extent_cons, extent_nil] at later
      rw [noticesFrom, extent_cons, ← List.range'_append_1, List.filterMap_append,
        filterMap_notice? fitting]
      exact congrArg _ later

end Piece

/-- The notices of parsing, position by position: each opening bracket that opens nothing is noted
once, where the layout says, and nothing else is. -/
theorem notices_parseTokens_eq_layout (ts : List Token) :
    (parseTokens ts).notices = (List.range ts.length).filterMap (Layout.notice? ts) := by
  rcases Piece.exists_fitting ts with ⟨ps, fitting, rfl⟩
  have placed := Piece.noticesFrom_placed [] fitting
  rw [Piece.extent_nil, ← List.range_eq_range'] at placed
  rw [parseTokens_of_fitting fitting, placed]
  rfl

end CucumberExpressions
