import CucumberExpressions.Proofs.Frontier

/-! Splitting at a space: a space between two token sequences is a node of its own, and the
sequences are parsed apart, unless a group that the first one leaves open is closed by the second
one. -/

namespace CucumberExpressions

/-- Whether an opening bracket of a group stands after the last closing one. -/
def OpenAtEnd (ts : List Token) : Prop :=
  ∃ before opening after, ts = before ++ opening :: after ∧
    opening.kind = .mark .beginOptional ∧ ∀ t ∈ after, t.kind ≠ .mark .endOptional

theorem openAtEnd_cons_iff {t : Token} {ts : List Token} :
    OpenAtEnd (t :: ts) ↔ OpenAtEnd ts ∨
      t.kind = .mark .beginOptional ∧ ∀ u ∈ ts, u.kind ≠ .mark .endOptional := by
  constructor
  · intro reaches
    rcases reaches with ⟨before, opening, after, same, opens, unclosed⟩
    cases before with
    | nil =>
        rcases List.cons.inj same with ⟨rfl, rfl⟩
        exact Or.inr ⟨opens, unclosed⟩
    | cons u before =>
        rcases List.cons.inj same with ⟨rfl, rfl⟩
        exact Or.inl ⟨before, opening, after, rfl, opens, unclosed⟩
  · intro reaches
    rcases reaches with ⟨before, opening, after, rfl, opens, unclosed⟩ | ⟨opens, unclosed⟩
    · exact ⟨t :: before, opening, after, rfl, opens, unclosed⟩
    · exact ⟨[], t, ts, rfl, opens, unclosed⟩

theorem OpenAtEnd.after_close {front back : List Token} {closing : Token}
    (closes : closing.kind = .mark .endOptional) (reaches : OpenAtEnd (front ++ closing :: back)) :
    OpenAtEnd back := by
  induction front with
  | nil =>
      rcases openAtEnd_cons_iff.1 reaches with later | ⟨opens, _⟩
      · exact later
      · rw [closes] at opens
        cases opens
  | cons t front ih =>
      rcases openAtEnd_cons_iff.1 reaches with later | ⟨_, unclosed⟩
      · exact ih later
      · exact absurd closes (unclosed closing (by simp))

theorem OpenAtEnd.after_other {front back : List Token}
    (other : ∀ t ∈ front, t.kind ≠ .mark .beginOptional) (reaches : OpenAtEnd (front ++ back)) :
    OpenAtEnd back := by
  induction front with
  | nil => exact reaches
  | cons t front ih =>
      rcases openAtEnd_cons_iff.1 reaches with later | ⟨opens, _⟩
      · exact ih (fun u member => other u (List.mem_cons_of_mem t member)) later
      · exact absurd opens (other t List.mem_cons_self)

namespace Piece

theorem openAtEnd_of_isUnmatched {ps : List Piece} (fitting : Fitting ps) {p : Piece}
    (member : p ∈ ps) (unmatched : p.isUnmatched = true) : OpenAtEnd (ps.flatMap tokens) := by
  rcases List.append_of_mem member with ⟨before, after, rfl⟩
  cases p with
  | enclosed => cases unmatched
  | single t =>
      have opens : t.kind = .mark .beginOptional := of_decide_eq_true unmatched
      refine ⟨before.flatMap tokens, t, after.flatMap tokens, by simp [tokens], opens, ?_⟩
      intro u later closes
      exact fitting.right.1 .optional opens (Bracket.closedBy_optional_iff.2 ⟨u, later, closes⟩)

theorem openAtEnd_of_enclosed {b : Bracket} {o c : Token} {inner rest : List Token}
    (fits : (enclosed b o inner c).Fits rest)
    (reaches : OpenAtEnd ((enclosed b o inner c).tokens ++ rest)) : OpenAtEnd rest := by
  rcases fits with ⟨opens, holds, closes⟩
  cases b with
  | optional =>
      have same : (enclosed .optional o inner c).tokens ++ rest = o :: inner ++ c :: rest := by
        simp [tokens]
      rw [same] at reaches
      exact reaches.after_close closes
  | parameter =>
      refine reaches.after_other ?_
      intro t member begins
      rw [tokens, List.mem_append, List.mem_cons, List.mem_singleton] at member
      rcases member with (rfl | inside) | rfl
      · rw [opens] at begins
        cases begins
      · rcases Bracket.parameter_cases holds with rfl | ⟨name, rfl, isText⟩
        · cases inside
        · rw [List.mem_singleton.1 inside, isText] at begins
          cases begins
      · rw [closes] at begins
        cases begins

theorem exists_first_unmatched {ps : List Piece} (fitting : Fitting ps)
    (reaches : OpenAtEnd (ps.flatMap tokens)) :
    ∃ front opening back, ps = front ++ single opening :: back ∧
      opening.kind = .mark .beginOptional ∧ ∀ p ∈ front, p.isUnmatched = false := by
  induction ps with
  | nil =>
      rcases reaches with ⟨before, opening, after, same, _⟩
      simp at same
  | cons p ps ih =>
      cases unmatched : p.isUnmatched with
      | true =>
          cases p with
          | enclosed => cases unmatched
          | single t => exact ⟨[], t, ps, rfl, of_decide_eq_true unmatched, by simp⟩
      | false =>
          have later : OpenAtEnd (ps.flatMap tokens) := by
            rw [List.flatMap_cons] at reaches
            cases p with
            | enclosed b o inner c => exact openAtEnd_of_enclosed fitting.1 reaches
            | single t =>
                refine reaches.after_other ?_
                intro u member
                rw [List.mem_singleton.1 member]
                exact of_decide_eq_false unmatched
          rcases ih fitting.2 later with ⟨front, opening, back, rfl, opens, matched⟩
          refine ⟨p :: front, opening, back, rfl, opens, ?_⟩
          intro q member
          rcases List.mem_cons.1 member with rfl | member
          · exact unmatched
          · exact matched q member

end Piece

section Parsing

open Piece

variable {l r : List Token} {w : Token}

theorem children_parseTokens {ps : List Piece} (fitting : Fitting ps) :
    (parseTokens (ps.flatMap tokens)).value.children = assembly.nodes ps := by
  rw [parseTokens_of_fitting fitting]
  rfl

theorem fits_space (space : w.kind = .mark .whiteSpace) (rest : List Token) :
    (single w).Fits rest :=
  fits_of_not_opening (by intro b; rw [space]; cases b <;> decide) rest

theorem children_append_space_of_apart (space : w.kind = .mark .whiteSpace)
    (apart : ¬ OpenAtEnd l ∨ ∀ t ∈ r, t.kind ≠ .mark .endOptional) :
    (parseTokens (l ++ [w] ++ r)).value.children =
      (parseTokens l).value.children ++ [.leaf w] ++ (parseTokens r).value.children := by
  rcases exists_fitting l with ⟨ps, fitting, rfl⟩
  rcases exists_fitting r with ⟨qs, fittingBack, rfl⟩
  have unmatched : (∀ p ∈ ps, p.isUnmatched = false) ∨
      ∀ t ∈ w :: qs.flatMap tokens, t.kind ≠ .mark .endOptional := by
    rcases apart with closed | noClose
    · refine Or.inl fun p member => Bool.eq_false_iff.2 fun isUnmatched => ?_
      exact closed (openAtEnd_of_isUnmatched fitting member isUnmatched)
    · refine Or.inr fun t member => ?_
      rcases List.mem_cons.1 member with rfl | later
      · rw [space]
        decide
      · exact noClose t later
  have all : Fitting (ps ++ single w :: qs) :=
    fitting.append ⟨fits_space space _, fittingBack⟩ rfl (by rw [space]; decide)
      (by rw [space]; decide) unmatched
  have cut : ps.flatMap tokens ++ [w] ++ qs.flatMap tokens =
      (ps ++ single w :: qs).flatMap tokens := by
    simp [tokens]
  have isSpace : assembly.isSpace (single w) = true := decide_eq_true space
  rw [cut, children_parseTokens all, children_parseTokens fitting,
    children_parseTokens fittingBack, assembly.nodes_append_space isSpace,
    stretchNodes_space space]

theorem children_append_space_ne (reaches : OpenAtEnd l)
    (closes : ∃ t ∈ r, t.kind = .mark .endOptional) :
    (parseTokens (l ++ [w] ++ r)).value.children ≠
      (parseTokens l).value.children ++ [.leaf w] ++ (parseTokens r).value.children := by
  rcases exists_fitting l with ⟨ps, fitting, rfl⟩
  rcases exists_fitting r with ⟨qs, fittingBack, rfl⟩
  rcases exists_first_unmatched fitting reaches with ⟨front, opening, back, rfl, opens, matched⟩
  have closed : Bracket.optional.ClosedBy (back.flatMap tokens ++ w :: qs.flatMap tokens) := by
    rcases closes with ⟨t, member, isClose⟩
    exact Bracket.closedBy_optional_iff.2 ⟨t, by simp [member], isClose⟩
  rcases closed with ⟨inner, closing, later, holds, isClose, same⟩
  rcases exists_fitting later with ⟨rest, fittingRest, rfl⟩
  -- The pieces before the bracket stay as they are, and the bracket opens a group.
  have group : Fitting (enclosed .optional opening inner closing :: rest) :=
    ⟨⟨opens, holds, isClose⟩, fittingRest⟩
  have all : Fitting (front ++ enclosed .optional opening inner closing :: rest) :=
    fitting.left.append group rfl (by rw [opens]; decide) (by rw [opens]; decide) (Or.inl matched)
  have cut : (front ++ single opening :: back).flatMap tokens ++ [w] ++ qs.flatMap tokens =
      (front ++ enclosed .optional opening inner closing :: rest).flatMap tokens := by
    have split := congrArg (front.flatMap tokens ++ [opening] ++ ·) same
    simpa [tokens] using split
  have alone : (single opening).signs = [.token opening.unescape] := by
    rw [signs, if_neg (by rw [opens]; decide)]
  rw [cut, children_parseTokens all, children_parseTokens fitting,
    children_parseTokens fittingBack]
  intro equal
  have shown := congrArg (List.flatMap Node.frontier) equal
  simp only [List.flatMap_append, frontier_nodes, List.flatMap_cons, alone, List.append_assoc]
    at shown
  cases List.append_cancel_left shown

/-- A space parts two token sequences exactly if no group that the first one leaves open is closed
by the second one. -/
theorem children_append_space_iff (l r : List Token) (w : Token)
    (space : w.kind = .mark .whiteSpace) :
    (parseTokens (l ++ [w] ++ r)).value.children =
        (parseTokens l).value.children ++ [.leaf w] ++ (parseTokens r).value.children ↔
      ¬ OpenAtEnd l ∨ ∀ t ∈ r, t.kind ≠ .mark .endOptional := by
  constructor
  · intro parted
    by_contra reaching
    rw [not_or, not_not, not_forall] at reaching
    rcases reaching with ⟨reaches, t, closes⟩
    rw [Classical.not_imp, not_not] at closes
    exact children_append_space_ne reaches ⟨t, closes⟩ parted
  · exact children_append_space_of_apart space

theorem children_append_space_iff_group :
    ((⟨" ", .mark .whiteSpace⟩ : Token).kind = .mark .whiteSpace) ∧
    (parseTokens ([⟨"(", .mark .beginOptional⟩] ++ [⟨" ", .mark .whiteSpace⟩] ++
        [⟨")", .mark .endOptional⟩])).value.children ≠
      (parseTokens [⟨"(", .mark .beginOptional⟩]).value.children ++
        [.leaf ⟨" ", .mark .whiteSpace⟩] ++
        (parseTokens [⟨")", .mark .endOptional⟩]).value.children ∧
    (parseTokens ([⟨"(", .mark .beginOptional⟩] ++ [⟨" ", .mark .whiteSpace⟩] ++
        [⟨"(", .mark .beginOptional⟩])).value.children =
      (parseTokens [⟨"(", .mark .beginOptional⟩]).value.children ++
        [.leaf ⟨" ", .mark .whiteSpace⟩] ++
        (parseTokens [⟨"(", .mark .beginOptional⟩]).value.children := by
  have reaches : OpenAtEnd [⟨"(", .mark .beginOptional⟩] := ⟨[], _, [], rfl, rfl, by simp⟩
  refine ⟨rfl, ?_, (children_append_space_iff _ _ _ rfl).2 (Or.inr (by decide))⟩
  intro parted
  rcases (children_append_space_iff _ _ _ rfl).1 parted with closed | noClose
  · exact closed reaches
  · exact noClose _ (List.mem_singleton_self _) rfl

end Parsing

end CucumberExpressions
