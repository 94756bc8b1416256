import CucumberExpressions.Proofs.Layout

/-! Placement: where the pieces of a token sequence stand. The enclosed pieces stand at the spans of
the layout, so that pieces and positions give the same tree. -/

namespace CucumberExpressions

namespace Piece

open Layout

variable {ps before after : List Piece} {p : Piece} {k : Kind} {d i : Nat}

def extent (ps : List Piece) : Nat := (ps.flatMap tokens).length

@[simp] theorem extent_nil : extent [] = 0 := rfl

@[simp] theorem extent_cons (p : Piece) (ps : List Piece) :
    extent (p :: ps) = p.tokens.length + extent ps := by
  simp [extent]

@[simp] theorem extent_append (ps qs : List Piece) : extent (ps ++ qs) = extent ps + extent qs := by
  simp [extent]

theorem eq_zero_of_single {t : Token} (bound : d < (single t).tokens.length) : d = 0 := by
  rw [length_tokens_single] at bound
  omega

def span? (start : Nat) : Piece → Option Span
  | enclosed b _ inner _ => some ⟨b, start, start + (inner.length + 1)⟩
  | single _ => none

theorem exists_placed (h : i < extent ps) :
    ∃ before p after d, ps = before ++ p :: after ∧ i = extent before + d ∧
      d < p.tokens.length := by
  induction ps generalizing i with
  | nil => simp at h
  | cons q ps ih =>
      by_cases here : i < q.tokens.length
      · exact ⟨[], q, ps, i, rfl, by simp, here⟩
      · have later : i - q.tokens.length < extent ps := by
          rw [extent_cons] at h
          omega
        rcases ih later with ⟨before, p, after, d, rfl, same, bound⟩
        refine ⟨q :: before, p, after, d, rfl, ?_, bound⟩
        rw [extent_cons]
        omega

theorem placed_unique {before' after' : List Piece} {p' : Piece} {d' : Nat}
    (same : before ++ p :: after = before' ++ p' :: after')
    (position : extent before + d = extent before' + d') (bound : d < p.tokens.length)
    (bound' : d' < p'.tokens.length) : before = before' ∧ p = p' ∧ after = after' := by
  -- The two cuts are one, or one of the pieces ends before the other begins.
  rcases List.append_eq_append_iff.1 same with ⟨middle, front, back⟩ | ⟨middle, front, back⟩
  · cases middle with
    | nil => simp_all
    | cons q middle =>
        rcases List.cons.inj back with ⟨rfl, _⟩
        subst front
        simp only [extent_append, extent_cons] at position
        omega
  · cases middle with
    | nil => simp_all
    | cons q middle =>
        rcases List.cons.inj back with ⟨rfl, _⟩
        subst front
        simp only [extent_append, extent_cons] at position
        omega

theorem hasKind_placed (bound : d < p.tokens.length) :
    hasKind ((before ++ p :: after).flatMap tokens) k (extent before + d) =
      hasKind p.tokens k d := by
  rw [hasKind, hasKind, List.flatMap_append, List.flatMap_cons, extent,
    List.getElem?_append_right (by omega), Nat.add_sub_cancel_left,
    List.getElem?_append_left bound]

theorem hasKind_after (d : Nat) :
    hasKind ((before ++ p :: after).flatMap tokens) k (extent before + p.tokens.length + d) =
      hasKind (after.flatMap tokens) k d := by
  rw [hasKind, hasKind, List.flatMap_append, List.flatMap_cons, extent, Nat.add_assoc,
    List.getElem?_append_right (by omega), Nat.add_sub_cancel_left,
    List.getElem?_append_right (by omega), Nat.add_sub_cancel_left]

theorem hasKind_behind_single {t : Token} (m : Nat) :
    hasKind ((before ++ single t :: after).flatMap tokens) k (extent before + (m + 1)) =
      hasKind (after.flatMap tokens) k m := by
  rw [← hasKind_after m, length_tokens_single, Nat.add_comm m 1, Nat.add_assoc]

theorem hasKind_single {t : Token} : hasKind (single t).tokens k 0 ↔ t.kind = k :=
  hasKind_zero_iff

theorem hasKind_enclosed {b : Bracket} {o c : Token} {inner : List Token} :
    hasKind (enclosed b o inner c).tokens k d ↔
      d = 0 ∧ o.kind = k ∨ d = inner.length + 1 ∧ c.kind = k ∨
        ∃ m, d = m + 1 ∧ hasKind inner k m := by
  cases d with
  | zero => simp [hasKind, tokens]
  | succ d =>
      rcases Nat.lt_trichotomy d inner.length with inside | last | past
      · have : d ≠ inner.length := by omega
        simp [hasKind, tokens, List.getElem?_append_left inside, this]
      · subst last
        simp [hasKind, tokens]
      · have : d ≠ inner.length := by omega
        have beyond : [c][d - inner.length]? = none :=
          List.getElem?_eq_none (by rw [List.length_singleton]; omega)
        simp [hasKind, tokens, this, List.getElem?_append_right (Nat.le_of_lt past),
          List.getElem?_eq_none (Nat.le_of_lt past), beyond]

theorem hasKind_mem {ts : List Token} {d : Nat} (h : hasKind ts k d) : ∃ t ∈ ts, t.kind = k := by
  rcases hasKind_iff.1 h with ⟨t, found, kind⟩
  exact ⟨t, List.mem_of_getElem? found, kind⟩

theorem not_close_after_single {t : Token} (fits : (single t).Fits (after.flatMap tokens))
    (opens : t.kind = .mark .beginOptional) :
    ∀ u ∈ after.flatMap tokens, u.kind ≠ .mark .endOptional := by
  intro u member closes
  exact fits .optional opens (Bracket.closedBy_optional_iff.2 ⟨u, member, closes⟩)

theorem kind_in_parameter {inner : List Token} (holds : Bracket.parameter.Holds inner)
    (inside : hasKind inner k d) : k = .text := by
  rcases hasKind_mem inside with ⟨t, member, rfl⟩
  have listed := List.mem_map_of_mem (f := Token.kind) member
  rcases holds with empty | text
  · rw [empty] at listed
    cases listed
  · rw [text] at listed
    exact List.mem_singleton.1 listed

theorem not_opens_in_parameter {o c : Token} {inner rest : List Token}
    (fits : (enclosed .parameter o inner c).Fits rest) :
    ¬ hasKind (enclosed .parameter o inner c).tokens (.mark .beginOptional) d := by
  rcases fits with ⟨opens, holds, closes⟩
  rw [hasKind_enclosed]
  intro here
  rcases here with ⟨_, kind⟩ | ⟨_, kind⟩ | ⟨m, _, inside⟩
  · cases opens.symm.trans kind
  · cases closes.symm.trans kind
  · cases kind_in_parameter holds inside

theorem opens_enclosed {b : Bracket} {o c : Token} {inner rest : List Token}
    (fits : (enclosed b o inner c).Fits rest) :
    hasKind (enclosed b o inner c).tokens (.mark b.opening) 0 :=
  hasKind_enclosed.2 (Or.inl ⟨rfl, fits.1⟩)

theorem closes_enclosed {b : Bracket} {o c : Token} {inner rest : List Token}
    (fits : (enclosed b o inner c).Fits rest) :
    hasKind (enclosed b o inner c).tokens (.mark b.closing) (inner.length + 1) :=
  hasKind_enclosed.2 (Or.inr (Or.inl ⟨rfl, fits.2.2⟩))

theorem not_closes_in_group {o c : Token} {inner rest : List Token}
    (fits : (enclosed .optional o inner c).Fits rest) (inside : d < inner.length + 1) :
    ¬ hasKind (enclosed .optional o inner c).tokens (.mark .endOptional) d := by
  rw [hasKind_enclosed]
  intro here
  rcases here with ⟨_, kind⟩ | ⟨last, _⟩ | ⟨m, _, innerKind⟩
  · cases fits.1.symm.trans kind
  · omega
  · rcases hasKind_mem innerKind with ⟨t, member, kind⟩
    exact fits.2.1 t member kind

theorem close_before_group {o c : Token} {inner : List Token}
    (fitting : Fitting (before ++ enclosed .optional o inner c :: after))
    (early : i < extent before)
    (opens : hasKind ((before ++ enclosed .optional o inner c :: after).flatMap tokens)
      (.mark .beginOptional) i) :
    ∃ m, i < m ∧ m < extent before ∧
      hasKind ((before ++ enclosed .optional o inner c :: after).flatMap tokens)
        (.mark .endOptional) m := by
  have closes := fitting.right.1.2.2
  rcases exists_placed early with ⟨front, q, back, d, rfl, rfl, bound⟩
  rw [List.append_assoc, List.cons_append] at fitting opens ⊢
  have fits := fitting.right.1
  rw [hasKind_placed bound] at opens
  cases q with
  | single t =>
      rw [eq_zero_of_single bound] at opens
      have unclosed := not_close_after_single fits (hasKind_single.1 opens)
      exact absurd closes (unclosed c (by simp [tokens]))
  | enclosed b o' inner' c' =>
      rw [length_tokens_enclosed] at bound
      cases b with
      | parameter => exact absurd opens (not_opens_in_parameter fits)
      | optional =>
          have different : d ≠ inner'.length + 1 := by
            intro last
            rw [last] at opens
            cases hasKind_unique opens (closes_enclosed fits)
          refine ⟨extent front + (inner'.length + 1), by omega, by simp; omega, ?_⟩
          rw [hasKind_placed (by rw [length_tokens_enclosed]; omega)]
          exact closes_enclosed fits

theorem isGroup_placed {o c : Token} {inner : List Token}
    (fitting : Fitting (before ++ enclosed .optional o inner c :: after)) :
    IsGroup ((before ++ enclosed .optional o inner c :: after).flatMap tokens) (extent before)
      (extent before + (inner.length + 1)) := by
  have fits := fitting.right.1
  have length := length_tokens_enclosed .optional o inner c
  constructor
  case opens =>
    rw [← Nat.add_zero (extent before), hasKind_placed (by omega)]
    exact opens_enclosed fits
  case closes =>
    rw [hasKind_placed (by omega)]
    exact closes_enclosed fits
  case lt => omega
  case nearest =>
    intro i afterOpening beforeClosing
    rcases Nat.exists_eq_add_of_lt afterOpening with ⟨d, rfl⟩
    rw [Nat.add_assoc, hasKind_placed (by omega)]
    exact not_closes_in_group fits (by omega)
  case first =>
    intro i early opensI
    exact close_before_group fitting early opensI

theorem not_isGroup_single {t : Token} {e : Nat} (fitting : Fitting (before ++ single t :: after)) :
    ¬ IsGroup ((before ++ single t :: after).flatMap tokens) (extent before) e := by
  intro group
  have opens := group.opens
  have closes := group.closes
  rcases Nat.exists_eq_add_of_lt group.lt with ⟨m, rfl⟩
  rw [← Nat.add_zero (extent before), hasKind_placed (by simp)] at opens
  rw [Nat.add_assoc, hasKind_behind_single] at closes
  rcases hasKind_mem closes with ⟨u, member, kind⟩
  exact not_close_after_single fitting.right.1 (hasKind_single.1 opens) u member kind

theorem placed_of_isGroup {b e : Nat} (fitting : Fitting ps)
    (group : IsGroup (ps.flatMap tokens) b e) :
    ∃ before o inner c after, ps = before ++ enclosed .optional o inner c :: after ∧
      b = extent before ∧ e = extent before + (inner.length + 1) := by
  rcases exists_placed (lt_length_of_hasKind group.opens)
    with ⟨before, p, after, d, rfl, rfl, bound⟩
  have fits := fitting.right.1
  have opens := group.opens
  rw [hasKind_placed bound] at opens
  cases p with
  | single t =>
      rw [eq_zero_of_single bound, Nat.add_zero] at group
      exact absurd group (not_isGroup_single fitting)
  | enclosed bracket o inner c =>
      have length := length_tokens_enclosed bracket o inner c
      cases bracket with
      | parameter => exact absurd opens (not_opens_in_parameter fits)
      | optional =>
          have placed := isGroup_placed fitting
          have atClose : d ≠ inner.length + 1 := by
            intro last
            rw [last] at opens
            cases hasKind_unique opens (closes_enclosed fits)
          -- An opening bracket inside the piece is not the first since the last close.
          have zero : d = 0 := by
            by_contra late
            rcases group.first (extent before) (by omega) placed.opens
              with ⟨m, afterOpening, beforeB, closes⟩
            exact placed.nearest m afterOpening (by omega) closes
          subst zero
          refine ⟨before, o, inner, c, after, rfl, rfl, ?_⟩
          rcases Nat.lt_trichotomy e (extent before + (inner.length + 1)) with early | same | late
          · exact absurd group.closes (placed.nearest e group.lt early)
          · exact same
          · exact absurd placed.closes (group.nearest _ placed.lt late)

def isGroup : Piece → Bool
  | enclosed .optional .. => true
  | _ => false

theorem inGroup_placed (fitting : Fitting (before ++ p :: after)) (bound : d < p.tokens.length) :
    inGroup ((before ++ p :: after).flatMap tokens) (extent before + d) = p.isGroup := by
  rw [Bool.eq_iff_iff, inGroup_iff]
  constructor
  · intro grouped
    rcases grouped with ⟨b, e, group, atLeast, atMost⟩
    rcases placed_of_isGroup fitting group with ⟨before', o, inner, c, after', same, rfl, rfl⟩
    have length := length_tokens_enclosed .optional o inner c
    rcases placed_unique same
      (by omega : extent before + d = extent before' + (extent before + d - extent before'))
      bound (by omega) with ⟨rfl, rfl, rfl⟩
    rfl
  · intro isGroup
    match p, isGroup with
    | enclosed .optional o inner c, _ =>
        rw [length_tokens_enclosed] at bound
        exact ⟨_, _, isGroup_placed fitting, by omega, by omega⟩

theorem closedBy_parameter_iff {rest : List Token} :
    Bracket.parameter.ClosedBy rest ↔ hasKind rest (.mark .endParameter) 0 ∨
      hasKind rest .text 0 ∧ hasKind rest (.mark .endParameter) 1 := by
  constructor
  · intro closed
    rcases closed with ⟨inner, closing, later, holds, closes, rfl⟩
    rcases Bracket.parameter_cases holds with rfl | ⟨name, rfl, isText⟩
    · exact Or.inl (hasKind_zero_iff.2 closes)
    · have second : hasKind (closing :: later) (.mark .endParameter) 0 :=
        hasKind_zero_iff.2 closes
      exact Or.inr ⟨hasKind_zero_iff.2 isText, second⟩
  · intro here
    rcases here with closes | ⟨isText, closes⟩
    · match rest with
      | [] => cases closes
      | closing :: later =>
          exact ⟨[], closing, later, Or.inl rfl, hasKind_zero_iff.1 closes, rfl⟩
    · match rest with
      | [] => cases isText
      | [_] => cases closes
      | name :: closing :: later =>
          have kinds : [name].map Token.kind = [.text] := by
            rw [List.map_singleton, hasKind_zero_iff.1 isText]
          have second : hasKind (closing :: later) (.mark .endParameter) 0 := closes
          exact ⟨[name], closing, later, Or.inr kinds, hasKind_zero_iff.1 second, rfl⟩

theorem isParameter_placed {o c : Token} {inner : List Token}
    (fitting : Fitting (before ++ enclosed .parameter o inner c :: after)) :
    IsParameter ((before ++ enclosed .parameter o inner c :: after).flatMap tokens)
      (extent before) (extent before + (inner.length + 1)) := by
  have fits := fitting.right.1
  have length := length_tokens_enclosed .parameter o inner c
  constructor
  case opens =>
    rw [← Nat.add_zero (extent before), hasKind_placed (by omega)]
    exact opens_enclosed fits
  case outside =>
    rw [← Nat.add_zero (extent before), inGroup_placed fitting (by omega)]
    exact Bool.false_ne_true
  case closes =>
    rw [hasKind_placed (by omega)]
    exact closes_enclosed fits
  case holds =>
    rcases Bracket.parameter_cases fits.2.1 with rfl | ⟨name, rfl, isText⟩
    · exact Or.inl rfl
    · refine Or.inr ⟨rfl, ?_⟩
      rw [hasKind_placed (by omega), hasKind_enclosed]
      exact Or.inr (Or.inr ⟨0, rfl, hasKind_zero_iff.2 isText⟩)

theorem not_isParameter_single {t : Token} {e : Nat}
    (fitting : Fitting (before ++ single t :: after)) :
    ¬ IsParameter ((before ++ single t :: after).flatMap tokens) (extent before) e := by
  intro parameter
  have opens := parameter.opens
  have closes := parameter.closes
  rw [← Nat.add_zero (extent before), hasKind_placed (by simp)] at opens
  have closed : Bracket.parameter.ClosedBy (after.flatMap tokens) := by
    rw [closedBy_parameter_iff]
    rcases parameter.holds with rfl | ⟨rfl, name⟩
    · rw [hasKind_behind_single] at closes
      exact Or.inl closes
    · rw [hasKind_behind_single] at closes name
      exact Or.inr ⟨name, closes⟩
  exact fitting.right.1 .parameter (hasKind_single.1 opens) closed

theorem placed_of_isParameter {b e : Nat} (fitting : Fitting ps)
    (parameter : IsParameter (ps.flatMap tokens) b e) :
    ∃ before o inner c after, ps = before ++ enclosed .parameter o inner c :: after ∧
      b = extent before ∧ e = extent before + (inner.length + 1) := by
  rcases exists_placed (lt_length_of_hasKind parameter.opens)
    with ⟨before, p, after, d, rfl, rfl, bound⟩
  have fits := fitting.right.1
  have opens := parameter.opens
  have outside := parameter.outside
  rw [hasKind_placed bound] at opens
  rw [inGroup_placed fitting bound] at outside
  cases p with
  | single t =>
      rw [eq_zero_of_single bound, Nat.add_zero] at parameter
      exact absurd parameter (not_isParameter_single fitting)
  | enclosed bracket o inner c =>
      cases bracket with
      | optional => exact absurd rfl outside
      | parameter =>
          have zero : d = 0 := by
            rcases hasKind_enclosed.1 opens with ⟨zero, _⟩ | ⟨_, kind⟩ | ⟨m, _, inside⟩
            · exact zero
            · cases fits.2.2.symm.trans kind
            · cases kind_in_parameter fits.2.1 inside
          subst zero
          exact ⟨before, o, inner, c, after, rfl, rfl,
            parameter.unique (isParameter_placed fitting)⟩

theorem covers_of_span? {start : Nat} {s : Span} (span : p.span? start = some s) :
    s.covers i ↔ ∃ d, i = start + d ∧ d < p.tokens.length := by
  match p, span with
  | enclosed b o inner c, rfl =>
      rw [length_tokens_enclosed, Span.covers, Bool.and_eq_true, decide_eq_true_eq,
        decide_eq_true_eq]
      dsimp only
      constructor
      · intro between
        rcases between with ⟨atLeast, atMost⟩
        exact ⟨i - start, by omega, by omega⟩
      · intro within
        rcases within with ⟨d, rfl, bound⟩
        exact ⟨by omega, by omega⟩

theorem mem_spans_iff {s : Span} (fitting : Fitting ps) :
    s ∈ spans (ps.flatMap tokens) ↔
      ∃ before p after, ps = before ++ p :: after ∧ p.span? (extent before) = some s := by
  rcases s with ⟨bracket, b, e⟩
  rw [spans, List.mem_append, mem_groups_iff, mem_parameters_iff]
  constructor
  · intro member
    rcases member with ⟨rfl, group⟩ | ⟨rfl, parameter⟩
    · rcases placed_of_isGroup fitting group with ⟨before, o, inner, c, after, rfl, rfl, rfl⟩
      exact ⟨before, _, after, rfl, rfl⟩
    · rcases placed_of_isParameter fitting parameter
        with ⟨before, o, inner, c, after, rfl, rfl, rfl⟩
      exact ⟨before, _, after, rfl, rfl⟩
  · intro placed
    rcases placed with ⟨before, p, after, rfl, span⟩
    match p, span with
    | enclosed .optional o inner c, rfl => exact Or.inl ⟨rfl, isGroup_placed fitting⟩
    | enclosed .parameter o inner c, rfl => exact Or.inr ⟨rfl, isParameter_placed fitting⟩

end Piece

end CucumberExpressions
