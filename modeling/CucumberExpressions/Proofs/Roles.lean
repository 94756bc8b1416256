import CucumberExpressions.Proofs.BracketLayout

/-! Roles: what the kind of a token means for the structure of a tree. Two token sequences with the
same roles have one tree but for the tokens at its leaves, and the same notices; no text of a token
has a part in that. -/

namespace CucumberExpressions

/-- All kinds that only bring text are one role, but for the plain text that can name a parameter.
-/
inductive Role
  | mark (m : Mark)
  | text
  | literal
  deriving DecidableEq, Repr

namespace Kind

def role : Kind → Role
  | mark m => .mark m
  | escaped _ => .literal
  | escape => .literal
  | text => .text

theorem role_eq_mark_iff {k : Kind} {m : Mark} : k.role = .mark m ↔ k = .mark m := by
  cases k <;> simp [role]

theorem role_eq_text_iff {k : Kind} : k.role = .text ↔ k = .text := by
  cases k <;> simp [role]

end Kind

namespace Layout

variable {ts us : List Token}

theorem hasKind_eq_of_roles (same : ts.map (·.kind.role) = us.map (·.kind.role)) {k : Kind}
    {r : Role} (only : ∀ k' : Kind, k'.role = r ↔ k' = k) : hasKind ts k = hasKind us k := by
  have byRole : ∀ vs : List Token, hasKind vs k =
      fun i => (vs.map (·.kind.role))[i]?.any (· = r) := by
    intro vs
    funext i
    simp only [hasKind, List.getElem?_map, Option.any_map, only]
  rw [byRole, byRole, same]

theorem sameBrackets_of_roles (same : ts.map (·.kind.role) = us.map (·.kind.role)) :
    SameBrackets ts us := by
  constructor
  case length =>
    have lengths := congrArg List.length same
    rwa [List.length_map, List.length_map] at lengths
  case opening => exact fun b => hasKind_eq_of_roles same fun _ => Kind.role_eq_mark_iff
  case closing => exact fun b => hasKind_eq_of_roles same fun _ => Kind.role_eq_mark_iff
  case text => exact hasKind_eq_of_roles same fun _ => Kind.role_eq_text_iff

theorem assembly_erased_eq (same : ts.map (·.kind.role) = us.map (·.kind.role)) :
    (assembly ts).mapNodes Node.erased = (assembly us).mapNodes Node.erased := by
  have brackets := sameBrackets_of_roles same
  have spaces : hasKind ts (.mark .whiteSpace) = hasKind us (.mark .whiteSpace) :=
    hasKind_eq_of_roles same fun _ => Kind.role_eq_mark_iff
  have separators : hasKind ts (.mark .alternation) = hasKind us (.mark .alternation) :=
    hasKind_eq_of_roles same fun _ => Kind.role_eq_mark_iff
  have blank : ∀ vs : List Token, vs.map (Node.erased ∘ Node.literal) =
      List.replicate vs.length (.leaf ⟨"", .text⟩) := by
    intro vs
    exact List.map_eq_replicate_iff.2 fun _ _ => rfl
  have leaves : ts.map (Node.erased ∘ Node.literal) = us.map (Node.erased ∘ Node.literal) := by
    rw [blank, blank, brackets.length]
  have items := brackets.map_item?_eq Node.keepsBranches_erased leaves
  simp only [assembly, Assembly.mapNodes, brackets.inGroup_eq, spaces, separators, items]

theorem erased_tree (ts : List Token) : (tree ts).erased =
    .branch .expression (((assembly ts).mapNodes Node.erased).nodes (List.range ts.length)) := by
  rw [tree, Node.keepsBranches_erased, Assembly.nodes_mapNodes _ Node.keepsBranches_erased]

end Layout

def leafPositions (isToken : List Bool) : List Nat :=
  (List.range isToken.length).filter (isToken.getD · false)

theorem leafPositions_cons (here : Bool) (later : List Bool) :
    leafPositions (here :: later) =
      (if here then [0] else []) ++ (leafPositions later).map Nat.succ := by
  rw [leafPositions, List.length_cons, List.range_succ_eq_map, List.filter_cons, List.filter_map]
  cases here <;> rfl

theorem filterMap_token?_of_shows {signs : List Sign} {ts : List Token}
    (shows : List.Forall₂ Sign.Shows signs ts) :
    (signs.filterMap Sign.token?).map some =
      (leafPositions (signs.map Sign.isToken)).map fun i => ts[i]?.map Token.unescape := by
  induction shows with
  | nil => rfl
  | @cons sign t signs ts here _ ih =>
      have later : ((leafPositions (signs.map Sign.isToken)).map Nat.succ).map
          (fun i => (t :: ts)[i]?.map Token.unescape) = (signs.filterMap Sign.token?).map some := by
        rw [ih, List.map_map]
        rfl
      rw [List.map_cons, leafPositions_cons, List.map_append, later]
      cases sign with
      | token u =>
          have leaf : u = t.unescape := here
          rw [leaf]
          rfl
      | mark m => rfl

/-- Kinds alone give a tree its structure, with the escaped marks and the lone backslash as one
kind: token sequences with the same roles have trees that differ in the tokens of the leaves alone,
where each carries what its token stands for, and they have the same notices. -/
theorem parseTokens_of_sameRoles {ts us : List Token}
    (same : ts.map (·.kind.role) = us.map (·.kind.role)) :
    (parseTokens ts).value.erased = (parseTokens us).value.erased ∧
      (∃ positions : List Nat, positions.Pairwise (· < ·) ∧
        (parseTokens ts).value.leaves.map some =
          positions.map (fun i => ts[i]?.map Token.unescape) ∧
        (parseTokens us).value.leaves.map some =
          positions.map (fun i => us[i]?.map Token.unescape)) ∧
      (parseTokens ts).notices = (parseTokens us).notices := by
  have brackets := Layout.sameBrackets_of_roles same
  have erased : (parseTokens ts).value.erased = (parseTokens us).value.erased := by
    rw [parseTokens_eq_layout, parseTokens_eq_layout, Layout.erased_tree, Layout.erased_tree,
      Layout.assembly_erased_eq same, brackets.length]
  have shape : (parseTokens ts).value.frontier.map Sign.isToken =
      (parseTokens us).value.frontier.map Sign.isToken := by
    rw [← Node.isToken_frontier_erased, erased, Node.isToken_frontier_erased]
  refine ⟨erased, ⟨leafPositions ((parseTokens ts).value.frontier.map Sign.isToken),
    ?_, ?_, ?_⟩, ?_⟩
  · exact List.pairwise_lt_range.filter _
  · rw [Node.leaves_eq_filterMap_frontier]
    exact filterMap_token?_of_shows (frontier_parseTokens_shows ts)
  · rw [Node.leaves_eq_filterMap_frontier, shape]
    exact filterMap_token?_of_shows (frontier_parseTokens_shows us)
  · rw [parseTokens_eq_layout, parseTokens_eq_layout, brackets.notice?_eq, brackets.length]

theorem parseTokens_of_sameRoles_group :
    (([⟨"(", .mark .beginOptional⟩, ⟨"\\", .escape⟩, ⟨")", .mark .endOptional⟩,
        ⟨"a", .text⟩] : List Token).map (·.kind.role) =
      ([⟨"", .mark .beginOptional⟩, ⟨"", .escaped .alternation⟩, ⟨"\x7b", .mark .endOptional⟩,
        ⟨")", .text⟩] : List Token).map (·.kind.role)) ∧
    (parseTokens [⟨"(", .mark .beginOptional⟩, ⟨"\\", .escape⟩, ⟨")", .mark .endOptional⟩,
        ⟨"a", .text⟩]).value.erased =
      (parseTokens [⟨"", .mark .beginOptional⟩, ⟨"", .escaped .alternation⟩,
        ⟨"\x7b", .mark .endOptional⟩, ⟨")", .text⟩]).value.erased := by
  have same : ([⟨"(", .mark .beginOptional⟩, ⟨"\\", .escape⟩, ⟨")", .mark .endOptional⟩,
        ⟨"a", .text⟩] : List Token).map (·.kind.role) =
      ([⟨"", .mark .beginOptional⟩, ⟨"", .escaped .alternation⟩, ⟨"\x7b", .mark .endOptional⟩,
        ⟨")", .text⟩] : List Token).map (·.kind.role) := rfl
  exact ⟨same, (parseTokens_of_sameRoles same).1⟩

end CucumberExpressions
