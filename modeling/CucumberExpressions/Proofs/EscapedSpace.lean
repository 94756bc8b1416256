import CucumberExpressions.Proofs.BracketLayout
import CucumberExpressions.Proofs.Escaping
import CucumberExpressions.Proofs.Fusion

/-! Escaping one space: behind a backslash a space ends no run any more. In a group it never did,
and outside it matters for the tree exactly where one of the two runs beside it has alternatives. -/

namespace CucumberExpressions

namespace Layout

/-- The positions of the run directly before `i`, back to the space outside groups that bounds it.
-/
def runBefore (ts : List Token) (i : Nat) : List Nat := (assembly ts).lastStretch (List.range i)

def runAfter (ts : List Token) (i : Nat) : List Nat :=
  (assembly ts).firstStretch (List.range' (i + 1) (ts.length - (i + 1)))

variable {ts : List Token} {i j : Nat} {t u : Token} {k : Kind}

theorem hasKind_of_getElem? (here : ts[i]? = some t) : hasKind ts k i = decide (t.kind = k) := by
  rw [hasKind, here]
  rfl

theorem getElem?_set_of_getElem? (here : ts[i]? = some t) : (ts.set i u)[i]? = some u :=
  List.getElem?_set_self (List.getElem?_eq_some_iff.1 here).1

theorem hasKind_set_of_ne (other : j ≠ i) : hasKind (ts.set i u) k j = hasKind ts k j := by
  rw [hasKind, hasKind, List.getElem?_set_ne other.symm]

theorem hasKind_set (here : ts[i]? = some t) (before : t.kind ≠ k) (after : u.kind ≠ k) :
    hasKind (ts.set i u) k = hasKind ts k := by
  funext j
  by_cases same : j = i
  · rw [same, hasKind_of_getElem? here, hasKind_of_getElem? (getElem?_set_of_getElem? here),
      decide_eq_false before, decide_eq_false after]
  · exact hasKind_set_of_ne same

theorem map_set_of_eq {β : Type} {f : Token → β} (here : ts[i]? = some t) (same : f u = f t) :
    (ts.set i u).map f = ts.map f := by
  have found : (ts.map f)[i]? = some (f t) := by
    rw [List.getElem?_map, here]
    rfl
  obtain ⟨bound, value⟩ := List.getElem?_eq_some_iff.1 found
  rw [List.map_set, same, ← value, List.set_getElem_self]

theorem IsParameter.kind_of_covered {b e : Nat} (parameter : IsParameter ts b e) (atLeast : b ≤ i)
    (atMost : i ≤ e) (kind : hasKind ts k i) :
    k = .mark .beginParameter ∨ k = .text ∨ k = .mark .endParameter := by
  obtain ⟨opens, -, closes, holds⟩ := parameter
  by_cases first : i = b
  · rw [first] at kind
    exact Or.inl (hasKind_unique kind opens)
  · by_cases last : i = e
    · rw [last] at kind
      exact Or.inr (Or.inr (hasKind_unique kind closes))
    · obtain rfl | ⟨rfl, name⟩ := holds
      · omega
      · obtain rfl : i = b + 1 := by omega
        exact Or.inr (Or.inl (hasKind_unique kind name))

theorem item?_of_space (here : ts[i]? = some t) (space : t.kind = .mark .whiteSpace)
    (outside : inGroup ts i = false) : item? ts i = some (.literal t) := by
  have kind : hasKind ts (.mark .whiteSpace) i := by
    rw [hasKind_of_getElem? here]
    exact decide_eq_true space
  have alone : (spans ts).find? (·.covers i) = none := by
    rw [List.find?_eq_none]
    intro s member covers
    rcases List.mem_append.1 member with group | parameter
    · rw [inGroup, List.any_eq_false] at outside
      exact outside s group covers
    · rw [Span.covers, Bool.and_eq_true, decide_eq_true_eq, decide_eq_true_eq] at covers
      have covered := (mem_parameters_iff.1 parameter).2.kind_of_covered covers.1 covers.2 kind
      simp at covered
  rw [item?, alone, here]
  rfl

section Space

variable (here : ts[i]? = some t) (space : t.kind = .mark .whiteSpace)
  (escaped : u.kind = .escaped .whiteSpace)

include here space escaped

theorem sameBrackets_set_space : SameBrackets (ts.set i u) ts := by
  have keeps : ∀ k, k ≠ .mark .whiteSpace → k ≠ .escaped .whiteSpace →
      hasKind (ts.set i u) k = hasKind ts k := by
    intro k notSpace notEscaped
    apply hasKind_set here
    · rw [space]
      exact notSpace.symm
    · rw [escaped]
      exact notEscaped.symm
  constructor
  case length => exact List.length_set
  case opening => exact fun b => keeps _ (by cases b <;> decide) (by cases b <;> decide)
  case closing => exact fun b => keeps _ (by cases b <;> decide) (by cases b <;> decide)
  case text => exact keeps _ (by decide) (by decide)

theorem assembly_set_space (same : u.unescape = t.unescape) :
    assembly (ts.set i u) = (assembly ts).fuse i := by
  have brackets := sameBrackets_set_space here space escaped
  have separators : hasKind (ts.set i u) (.mark .alternation) = hasKind ts (.mark .alternation) :=
    hasKind_set here (by rw [space]; decide) (by rw [escaped]; decide)
  have items : item? (ts.set i u) = item? ts :=
    brackets.item?_eq (map_set_of_eq here (congrArg Node.leaf same))
  have spaces : ∀ j, hasKind (ts.set i u) (.mark .whiteSpace) j =
      (hasKind ts (.mark .whiteSpace) j && j ≠ i) := by
    intro j
    by_cases position : j = i
    · rw [position, hasKind_of_getElem? (getElem?_set_of_getElem? here), escaped]
      simp
    · simp [hasKind_set_of_ne position, position]
  simp only [assembly, Assembly.fuse, brackets.inGroup_eq, separators, items, spaces,
    Bool.and_right_comm]

end Space

end Layout

section Parsing

open Layout

variable {ts : List Token} {i : Nat} {w : Token}

theorem range_eq_append_cons {n : Nat} (bound : i < n) :
    List.range n = List.range i ++ i :: List.range' (i + 1) (n - (i + 1)) := by
  obtain ⟨d, rfl⟩ := Nat.exists_eq_add_of_lt bound
  have behind : i + d + 1 - (i + 1) = d := by omega
  rw [behind, List.range_eq_range', List.range_eq_range', Nat.add_assoc, ← List.range'_append_1,
    List.range'_succ, Nat.zero_add]

theorem nodes_fuse_space_iff (here : ts[i]? = some w) (space : w.kind = .mark .whiteSpace)
    (outside : inGroup ts i = false) :
    ((assembly ts).fuse i).nodes (List.range ts.length) =
        (assembly ts).nodes (List.range ts.length) ↔
      ∀ j ∈ runBefore ts i ++ runAfter ts i, (assembly ts).isSeparator j = false := by
  have bound : i < ts.length := (List.getElem?_eq_some_iff.1 here).1
  have isSpace : (assembly ts).isSpace i = true := by
    simp [assembly, hasKind_of_getElem? here, space, outside]
  have isItem : (assembly ts).isSeparator i = false := by
    simp [assembly, hasKind_of_getElem? here, space]
  rw [range_eq_append_cons bound]
  apply Assembly.nodes_fuse_iff isSpace isItem (item?_of_space here space outside)
  · exact List.not_mem_range_self
  · rw [List.mem_range'_1]
    omega

/-- The tree of a token sequence depends on whether one of its spaces is escaped exactly if the
space stands outside groups and a run beside it has a separator; the notices never do. -/
theorem parseTokens_escapedSpace_iff (here : ts[i]? = some w) (space : w.kind = .mark .whiteSpace) :
    (parseTokens (ts.set i ⟨"\\" ++ w.text, .escaped .whiteSpace⟩)).notices =
        (parseTokens ts).notices ∧
      ((parseTokens (ts.set i ⟨"\\" ++ w.text, .escaped .whiteSpace⟩)).value =
          (parseTokens ts).value ↔
        inGroup ts i = true ∨
          ∀ j ∈ runBefore ts i ++ runAfter ts i, (assembly ts).isSeparator j = false) := by
  have plain : w.unescape = w := Token.unescape_of_not_isEscaped (by rw [space]; rfl)
  have unescaped : (⟨"\\" ++ w.text, .escaped .whiteSpace⟩ : Token).unescape = w.unescape := by
    rw [Token.unescape_backslash, plain, ← space]
  have brackets := sameBrackets_set_space here space
    (rfl : (⟨"\\" ++ w.text, .escaped .whiteSpace⟩ : Token).kind = .escaped .whiteSpace)
  have fused := assembly_set_space here space rfl unescaped
  rw [parseTokens_eq_layout, parseTokens_eq_layout, brackets.notice?_eq, brackets.length]
  refine ⟨rfl, ?_⟩
  rw [tree, tree, fused, brackets.length, Node.branch.injEq, eq_self, true_and]
  cases group : inGroup ts i with
  | true =>
      have inside : (assembly ts).isSpace i = false := by simp [assembly, group]
      rw [Assembly.fuse_eq_self inside]
      simp
  | false =>
      rw [nodes_fuse_space_iff here space group]
      simp

theorem parseTokens_escapedSpace_iff_group :
    ([⟨"(", .mark .beginOptional⟩, ⟨" ", .mark .whiteSpace⟩,
          ⟨")", .mark .endOptional⟩] : List Token)[1]? = some ⟨" ", .mark .whiteSpace⟩ ∧
      ([⟨" ", .mark .whiteSpace⟩, ⟨"/", .mark .alternation⟩] : List Token)[0]? =
        some ⟨" ", .mark .whiteSpace⟩ ∧
      (⟨" ", .mark .whiteSpace⟩ : Token).kind = .mark .whiteSpace ∧
      (parseTokens [⟨"(", .mark .beginOptional⟩, ⟨"\\ ", .escaped .whiteSpace⟩,
          ⟨")", .mark .endOptional⟩]).value =
        (parseTokens [⟨"(", .mark .beginOptional⟩, ⟨" ", .mark .whiteSpace⟩,
          ⟨")", .mark .endOptional⟩]).value ∧
      (parseTokens [⟨"\\ ", .escaped .whiteSpace⟩, ⟨"/", .mark .alternation⟩]).value ≠
        (parseTokens [⟨" ", .mark .whiteSpace⟩, ⟨"/", .mark .alternation⟩]).value := by
  have inside : ([⟨"(", .mark .beginOptional⟩, ⟨" ", .mark .whiteSpace⟩,
      ⟨")", .mark .endOptional⟩] : List Token)[1]? = some ⟨" ", .mark .whiteSpace⟩ := rfl
  have outside : ([⟨" ", .mark .whiteSpace⟩, ⟨"/", .mark .alternation⟩] : List Token)[0]? =
      some ⟨" ", .mark .whiteSpace⟩ := rfl
  refine ⟨inside, outside, rfl, ?_, ?_⟩
  · exact (parseTokens_escapedSpace_iff inside rfl).2.2 (Or.inl (by decide))
  · intro same
    exact absurd ((parseTokens_escapedSpace_iff outside rfl).2.1 same) (by decide)

end Parsing

end CucumberExpressions
