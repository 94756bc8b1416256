import CucumberExpressions.Proofs.Canonical
import CucumberExpressions.Proofs.Reading

/-! Literal expressions: with a backslash before each mark, any text is an expression that stands
for the text itself. -/

namespace CucumberExpressions

def escapeMarks (s : List Char) : List Char :=
  s.flatMap fun c => if (Mark.ofChar? c).isSome then ['\\', c] else [c]

def literalExpression (s : String) : String := .ofList (escapeMarks s.toList)

theorem escapeMarks_mark (m : Mark) (s : List Char) :
    escapeMarks (m.char :: s) = '\\' :: m.char :: escapeMarks s := by
  simp [escapeMarks]

theorem escapeMarks_other {c : Char} (other : ∀ m : Mark, c ≠ m.char) (s : List Char) :
    escapeMarks (c :: s) = c :: escapeMarks s := by
  have unmarked : Mark.ofChar? c = none := by
    rw [Option.eq_none_iff_forall_ne_some]
    intro m found
    exact other m (Mark.ofChar?_eq_some_iff.1 found)
  simp [escapeMarks, unmarked]

theorem escapeMarks_plain {run : List Char} (plain : ∀ c ∈ run, isPlain c) (s : List Char) :
    escapeMarks (run ++ s) = run ++ escapeMarks s := by
  induction run with
  | nil => rfl
  | cons c run ih =>
      have first := (isPlain_iff.1 (plain c List.mem_cons_self)).2
      have later := ih fun d member => plain d (List.mem_cons_of_mem c member)
      rw [List.cons_append, escapeMarks_other first, later, List.cons_append]

theorem head?_escapeMarks {s : List Char} {c : Char} (head : (escapeMarks s).head? = some c) :
    c = '\\' ∨ s.head? = some c ∧ ∀ m : Mark, c ≠ m.char := by
  cases s with
  | nil => cases head
  | cons d s =>
      by_cases marked : ∃ m : Mark, d = m.char
      · rcases marked with ⟨m, rfl⟩
        rw [escapeMarks_mark] at head
        exact Or.inl (Option.some.inj head).symm
      · have other : ∀ m : Mark, d ≠ m.char := not_exists.1 marked
        rw [escapeMarks_other other] at head
        cases head
        exact Or.inr ⟨rfl, other⟩

theorem escape_endsBefore_escapeMarks (s : List Char) :
    Kind.escape.EndsBefore (escapeMarks s) := by
  intro c head m
  rcases head?_escapeMarks head with rfl | ⟨_, other⟩
  · exact escape_ne_char m
  · exact other m

theorem text_endsBefore_escapeMarks {s : List Char} (ends : Kind.text.EndsBefore s) :
    Kind.text.EndsBefore (escapeMarks s) := by
  intro c head
  rcases head?_escapeMarks head with rfl | ⟨same, _⟩
  · decide
  · exact ends c same

theorem exists_first_literal {s : List Char} (nonempty : s ≠ []) :
    ∃ (t : Token) (rest : List Char), s = t.unescape.text.toList ++ rest ∧
      t.unescape.text.toList ≠ [] ∧ escapeMarks s = t.text.toList ++ escapeMarks rest ∧
      t.kind.Fits t.text.toList ∧ t.kind.EndsBefore (escapeMarks rest) ∧
      ∀ m : Mark, t.kind ≠ .mark m := by
  rcases List.exists_cons_of_ne_nil nonempty with ⟨c, rest, rfl⟩
  by_cases marked : ∃ m : Mark, c = m.char
  · rcases marked with ⟨m, rfl⟩
    refine ⟨⟨.ofList ['\\', m.char], .escaped m⟩, rest, ?_⟩
    simp [Token.unescape, Kind.isEscaped, Kind.Fits, Kind.EndsBefore, escapeMarks_mark]
  · have other : ∀ m : Mark, c ≠ m.char := not_exists.1 marked
    by_cases backslash : c = '\\'
    · subst backslash
      refine ⟨⟨.ofList ['\\'], .escape⟩, rest, ?_⟩
      have ends := escape_endsBefore_escapeMarks rest
      simp [Token.unescape, Kind.isEscaped, Kind.Fits, escapeMarks_other other, ends]
    · have plain : isPlain c := isPlain_iff.2 ⟨backslash, other⟩
      rcases Kind.Fits.text_run plain rest with ⟨run, later, same, fits, ends⟩
      have escaped := escapeMarks_plain (fits_text_iff.1 fits).2 later
      have behind := text_endsBefore_escapeMarks ends
      rw [same]
      refine ⟨⟨.ofList run, .text⟩, later, ?_⟩
      simp [Token.unescape, Kind.isEscaped, escaped, fits, fits.1, behind]

def Unmarked (ts : List Token) : Prop := ∀ t ∈ ts, ∀ m : Mark, t.kind ≠ .mark m

theorem tokensOf_escapeMarks (s : List Char) :
    Unmarked (tokensOf (escapeMarks s)) ∧
      (tokensOf (escapeMarks s)).flatMap (·.unescape.text.toList) = s := by
  -- A token of text takes many characters at once, so the induction is on their number.
  induction length : s.length using Nat.strong_induction_on generalizing s with
  | _ n ih =>
      subst length
      by_cases empty : s = []
      · have none : tokensOf (escapeMarks s) = [] := by
          rw [empty]
          exact tokensOf_nil
        rw [none, empty]
        exact ⟨nofun, rfl⟩
      · rcases exists_first_literal empty with ⟨t, rest, same, taken, escaped, fits, ends, other⟩
        have shorter : rest.length < s.length := by
          have positive := List.length_pos_iff.2 taken
          rw [same, List.length_append]
          omega
        rcases ih rest.length shorter rest rfl with ⟨others, whole⟩
        rw [escaped, tokensOf_append fits ends]
        constructor
        · intro u member
          rcases List.mem_cons.1 member with rfl | later
          · exact other
          · exact others u later
        · rw [List.flatMap_cons, whole, ← same]

namespace Unmarked

variable {t : Token} {ts : List Token}

theorem tail (unmarked : Unmarked (t :: ts)) : Unmarked ts := by
  intro u member
  exact unmarked u (List.mem_cons_of_mem t member)

theorem not_opening (unmarked : Unmarked (t :: ts)) (b : Bracket) : t.kind ≠ .mark b.opening :=
  unmarked t List.mem_cons_self b.opening

theorem fitting (unmarked : Unmarked ts) : Piece.Fitting (ts.map .single) := by
  induction ts with
  | nil => trivial
  | cons t ts ih => exact ⟨Piece.fits_of_not_opening unmarked.not_opening _, ih unmarked.tail⟩

theorem noticesFrom_eq_nil (unmarked : Unmarked ts) (i : Nat) :
    Piece.noticesFrom i (ts.map .single) = [] := by
  induction ts generalizing i with
  | nil => rfl
  | cons t ts ih =>
      rw [List.map_cons, Piece.noticesFrom, Piece.notices_of_not_opening unmarked.not_opening,
        List.nil_append]
      exact ih unmarked.tail _

theorem nodes_eq_map (unmarked : Unmarked ts) :
    Piece.assembly.nodes (ts.map .single) = ts.map .literal := by
  have uncut : ∀ m : Mark, ∀ p ∈ ts.map Piece.single, p.isSingle (.mark m) = false := by
    intro m p member
    rcases List.mem_map.1 member with ⟨t, inside, rfl⟩
    exact decide_eq_false (unmarked t inside m)
  rw [Piece.assembly.nodes_of_items (uncut .whiteSpace) (uncut .alternation), List.filterMap_map]
  exact congrFun (List.filterMap_eq_map (f := Node.literal)) ts

end Unmarked

theorem parseTokens_of_unmarked {ts : List Token} (unmarked : Unmarked ts) :
    parseTokens ts = ⟨.branch .expression (ts.map .literal), []⟩ := by
  have tokens : (ts.map Piece.single).flatMap Piece.tokens = ts := by
    rw [List.flatMap_map]
    exact List.flatMap_singleton' ts
  have parsed := parseTokens_of_fitting unmarked.fitting
  rw [tokens, unmarked.nodes_eq_map, unmarked.noticesFrom_eq_nil] at parsed
  exact parsed

/-- Every text can be written as an expression that stands for it: with a backslash before each mark
it is parsed into leaves alone, their text is the given one, and nothing is noted. -/
theorem parse_literalExpression (s : String) :
    (∃ leaves : List Token,
      (parse (literalExpression s)).value = .branch .expression (leaves.map .leaf)) ∧
      (parse (literalExpression s)).value.text = s ∧
      (parse (literalExpression s)).notices = [] := by
  rcases tokensOf_escapeMarks s.toList with ⟨unmarked, whole⟩
  have parsed : parse (literalExpression s) =
      ⟨.branch .expression ((tokensOf (escapeMarks s.toList)).map .literal), []⟩ := by
    rw [parse, tokenize, literalExpression, String.toList_ofList]
    exact parseTokens_of_unmarked unmarked
  rw [parsed]
  refine ⟨⟨(tokensOf (escapeMarks s.toList)).map Token.unescape, ?_⟩, ?_, rfl⟩
  · rw [List.map_map]
    rfl
  · rw [Node.text_branch, ← String.toList_inj, String.toList_join, List.map_map, List.flatMap_map]
    exact whole

end CucumberExpressions
