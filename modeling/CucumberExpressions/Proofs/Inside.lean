import CucumberExpressions.Proofs.Frontier
import CucumberExpressions.Proofs.Locality
import CucumberExpressions.Proofs.Looks

/-! Staying inside: a construct that is tried at a token is read without a miss and takes no more
than there is; its node shows the tokens that it takes. -/

namespace CucumberExpressions

namespace Looks

variable {s : Scope} {i : Nat}

def read (s : Scope) (c : Construct) (i : Nat) : Looking (Option Parsed) :=
  match c with
  | .text => some <$> text s i
  | .optional => optional? s i
  | .parameter => parameter? s i

theorem read_of_ok {c : Construct} {x : Noted Notice (Option (s.MatchAt i))}
    (reads : s.read c i = .ok x) : read s c i = found (Option.map Match.parsed <$> x) := by
  rw [Scope.read] at reads
  split at reads
  · next h =>
      obtain rfl := Except.ok.inj reads
      cases c with
      | text =>
          rw [read, text_found h]
          rfl
      | optional => exact optional?_found h
      | parameter => exact parameter?_found h
  · cases reads

theorem exists_read_of_lt (c : Construct) (h : i < s.size) :
    ∃ x, s.read c i = .ok x ∧ read s c i = found (Option.map Match.parsed <$> x) :=
  have reads := dif_pos h
  ⟨_, reads, read_of_ok reads⟩

theorem read_of_le (c : Construct) (outside : s.size ≤ i) : read s c i = throw ⟨i⟩ := by
  have missed : lookUp s.tokens i = throw ⟨i⟩ := lookUp_of_le outside
  cases c with
  | text =>
      rw [read, text, missed]
      rfl
  | optional =>
      rw [read, optional?_eq, missed]
      rfl
  | parameter =>
      rw [read, parameter?, missed]
      rfl

theorem read_error_iff (s : Scope) (c : Construct) (i : Nat) :
    (∃ e, (read s c i).run.value = .error e) ↔ s.size ≤ i := by
  constructor
  · rintro ⟨e, missed⟩
    by_contra inside
    obtain ⟨x, _, same⟩ := exists_read_of_lt c (Nat.lt_of_not_le inside)
    rw [same] at missed
    cases missed
  · intro outside
    refine ⟨⟨i⟩, ?_⟩
    rw [read_of_le c outside]
    rfl

theorem shows_of_fits {b : Bracket} {opening closing : Token} {inner : List Token}
    (fits : (Piece.enclosed b opening inner closing).Fits []) :
    List.Forall₂ Sign.Shows (Piece.enclosed b opening inner closing).node.frontier
      (Piece.enclosed b opening inner closing).tokens := by
  rw [Piece.frontier_node rfl]
  exact Piece.shows_signs fits

theorem shows_of_takes {c : Construct} {p : Piece} (takes : c.Takes p) :
    List.Forall₂ Sign.Shows p.node.frontier p.tokens := by
  match c, p, takes with
  | .text, .single t, _ => exact .cons rfl .nil
  | .optional, .enclosed .optional o inner closing, fits => exact shows_of_fits fits
  | .parameter, .enclosed .parameter o inner closing, fits => exact shows_of_fits fits

theorem shows_of_read {c : Construct} {p : Parsed} (reads : (read s c i).run.value = .ok (some p)) :
    p.consumed ≤ s.size - i ∧
      List.Forall₂ Sign.Shows p.node.frontier ((s.rest i).take p.consumed) := by
  have h : i < s.size := by
    by_contra outside
    rw [read_of_le c (Nat.le_of_not_lt outside)] at reads
    cases reads
  obtain ⟨x, here, same⟩ := exists_read_of_lt c h
  rw [same] at reads
  obtain ⟨m, matched, rfl⟩ := Option.map_eq_some_iff.1 (Except.ok.inj reads)
  obtain ⟨piece, later, takes, front⟩ := Scope.takes_of_read here matched
  obtain ⟨m', again, node, consumed⟩ := Scope.read_of_takes takes front
  rw [here, Except.ok.injEq] at again
  subst again
  obtain rfl : m' = m := Option.some.inj matched
  refine ⟨m'.consumed_le, ?_⟩
  change List.Forall₂ Sign.Shows m'.node.frontier ((s.rest i).take m'.consumed)
  rw [node, consumed, front, List.take_left]
  exact shows_of_takes takes

theorem unclosed_of_read (h : i < s.size) (opens : s.tokens[i].kind = .mark .beginOptional)
    (declines : (read s .optional i).run.value = .ok none) :
    ∀ u ∈ s.rest (i + 1), u.kind ≠ .mark .endOptional := by
  intro u member closes
  have closed : Bracket.optional.ClosedBy (s.rest (i + 1)) :=
    Bracket.closedBy_optional_iff.2 ⟨u, member, closes⟩
  obtain ⟨inner, closing, later, holds, closes, front⟩ := closed
  obtain ⟨m, reads, _⟩ := Scope.optional?_of_closed h opens holds closes front
  have here : read s .optional i = found (Option.map Match.parsed <$> s.optional? i h) :=
    optional?_found h
  rw [here, reads] at declines
  cases declines

end Looks

/-- Looks stay inside the scope. A construct misses just where it is tried behind the last token,
and elsewhere reads what the scope gives. What it takes is there, and is what its node shows, sign
by sign; and a group that stays open is one that nothing closes. So no look misses in all of
parsing. -/
theorem looks_stay_inside :
    (∀ (c : Construct) (ts : List Token) (i : Nat),
      ((∃ e, (Looks.read (.ofTokens ts) c i).run.value = .error e) ↔ ts.length ≤ i) ∧
      (∀ x, (Scope.ofTokens ts).read c i = .ok x →
        Looks.read (.ofTokens ts) c i = Looks.found (Option.map Match.parsed <$> x)) ∧
      ∀ p, (Looks.read (.ofTokens ts) c i).run.value = .ok (some p) →
        1 ≤ p.consumed ∧ p.consumed ≤ ts.length - i ∧ p.node.frontier.length = p.consumed ∧
        p.node.frontier.map Sign.kind =
          ((ts.drop i).take p.consumed).map (·.kind.unescaped)) ∧
    (∀ (ts : List Token) (i : Nat) (t : Token), ts[i]? = some t →
      t.kind = .mark .beginOptional →
      (Looks.read (.ofTokens ts) .optional i).run.value = .ok none →
      ∀ u ∈ ts.drop (i + 1), u.kind ≠ .mark .endOptional) ∧
    ∀ ts : List Token,
      (Looks.parse ts).run = ⟨.ok (parseTokens ts).value, (parseTokens ts).notices⟩ := by
  refine ⟨?_, ?_, ?_⟩
  · intro c ts i
    refine ⟨?_, ?_, ?_⟩
    · rw [Looks.read_error_iff, Scope.size_ofTokens]
    · intro x reads
      exact Looks.read_of_ok reads
    · intro p reads
      obtain ⟨fits, shows⟩ := Looks.shows_of_read reads
      rw [Scope.size_ofTokens] at fits
      have taken : ((ts.drop i).take p.consumed).length = p.consumed := by
        rw [List.length_take, List.length_drop]
        omega
      exact ⟨p.consumed_pos, fits, shows.length_eq.trans taken, Sign.map_kind_of_shows shows⟩
  · intro ts i t at_i opens declines
    obtain ⟨h, rfl⟩ := List.getElem?_eq_some_iff.1 at_i
    exact Looks.unclosed_of_read (s := .ofTokens ts) h opens declines
  · intro ts
    rw [Looks.parse_found]
    rfl

def groupAndBracket : List Token :=
  [⟨"(", .mark .beginOptional⟩, ⟨"\\)", .escaped .endOptional⟩, ⟨")", .mark .endOptional⟩,
    ⟨"(", .mark .beginOptional⟩]

theorem looks_stay_inside_groupAndBracket :
    (∃ p, (Looks.read (.ofTokens groupAndBracket) .optional 0).run.value = .ok (some p) ∧
      p.consumed = 3 ∧ p.node.frontier.map Sign.kind =
        [.mark .beginOptional, .mark .endOptional, .mark .endOptional]) ∧
    ((Looks.read (.ofTokens groupAndBracket) .optional 3).run.value = .ok none ∧
      ∀ u ∈ groupAndBracket.drop 4, u.kind ≠ .mark .endOptional) ∧
    ∃ e, (Looks.read (.ofTokens groupAndBracket) .text 4).run.value = .error e := by
  have takes : Construct.optional.Takes (.enclosed .optional ⟨"(", .mark .beginOptional⟩
      [⟨"\\)", .escaped .endOptional⟩] ⟨")", .mark .endOptional⟩) :=
    ⟨rfl, by simp [Bracket.Holds], rfl⟩
  have front : (Scope.ofTokens groupAndBracket).rest 0 =
      (Piece.enclosed .optional ⟨"(", .mark .beginOptional⟩
        [⟨"\\)", .escaped .endOptional⟩] ⟨")", .mark .endOptional⟩).tokens ++
      [⟨"(", .mark .beginOptional⟩] := rfl
  have unclosed : ¬ Bracket.optional.ClosedBy ((Scope.ofTokens groupAndBracket).rest 4) := by
    rw [Bracket.closedBy_optional_iff]
    decide
  have declines : (Scope.ofTokens groupAndBracket).read .optional 3 =
      .ok (.note (.unmatchedOptional 3) none) := by
    rw [Scope.read, dif_pos (by decide)]
    exact congrArg _ (Scope.optional?_of_unclosed (by decide) rfl unclosed)
  obtain ⟨m, reads, _, consumed⟩ := Scope.read_of_takes takes front
  obtain ⟨_, agrees, shows⟩ := looks_stay_inside.1 .optional groupAndBracket 0
  have matched : (Looks.read (.ofTokens groupAndBracket) .optional 0).run.value =
      .ok (some m.parsed) := by
    rw [agrees _ reads]
    rfl
  have three : m.parsed.consumed = 3 := consumed
  obtain ⟨_, _, _, kinds⟩ := shows _ matched
  have declined : (Looks.read (.ofTokens groupAndBracket) .optional 3).run.value = .ok none := by
    rw [(looks_stay_inside.1 .optional groupAndBracket 3).2.1 _ declines]
    rfl
  refine ⟨⟨m.parsed, matched, three, ?_⟩, ⟨declined, ?_⟩, ?_⟩
  · rw [kinds, three]
    rfl
  · exact looks_stay_inside.2.1 groupAndBracket 3 ⟨"(", .mark .beginOptional⟩ rfl rfl declined
  · exact (looks_stay_inside.1 .text groupAndBracket 4).1.2 (by decide)

end CucumberExpressions
