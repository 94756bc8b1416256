import CucumberExpressions.Proofs.Locality
import CucumberExpressions.Proofs.WellFormed

/-! Operations on a cursor: whatever was done before, the cursor has its scope, parsing answers the
tree of all tokens, and a run is read from wherever the cursor stands to the next end of a run. -/

namespace CucumberExpressions

namespace Cursor

inductive Operation
  | isAt (kinds : List Kind)
  | atEnd
  | parse
  | parseRun
  | seek (position : Nat)
  deriving DecidableEq, Repr

inductive Answer
  | truth (b : Bool)
  | tree (n : Node)
  | row (nodes : List Node)
  | done
  deriving DecidableEq, Repr

structure Step where
  before : Cursor
  operation : Operation
  outcome : Noted Notice (Answer × Cursor)

def perform (c : Cursor) : Operation → Noted Notice (Answer × Cursor)
  | .isAt kinds => pure (.truth (c.isAt kinds), c)
  | .atEnd => pure (.truth c.atEnd, c)
  | .parse => (fun (n, later) => (.tree n, later)) <$> c.parse
  | .parseRun => (fun (nodes, later) => (.row nodes, later)) <$> c.parseRun
  | .seek position => pure (.done, c.seek position)

def history (c : Cursor) : List Operation → List Step
  | [] => []
  | op :: ops => ⟨c, op, c.perform op⟩ :: (c.perform op).value.2.history ops

end Cursor

/-- Whether no run goes on at the position: at a space, and from the end on. -/
def AtBorder (ts : List Token) (i : Nat) : Prop :=
  ts.length ≤ i ∨ Layout.hasKind ts (.mark .whiteSpace) i = true

/-- What reading a run from one position to another can come to. -/
structure IsRun (ts : List Token) (start stop : Nat) (nodes : List Node) : Prop where
  stays : AtBorder ts start → nodes = [] ∧ stop = start
  moves : ¬ AtBorder ts start → nodes ≠ [] ∧ start < stop ∧ stop ≤ ts.length ∧ AtBorder ts stop
  alternation : (∃ n, nodes = [n] ∧ n.kind = .branch .alternation) ∨
    ∀ n ∈ nodes, n.kind ≠ .branch .alternation

/-- Whether a step is what the tokens and the position before it make it. -/
def Cursor.Step.Lawful (ts : List Token) (s : Cursor.Step) : Prop :=
  s.before.scope = .ofTokens ts ∧ s.outcome.value.2.scope = .ofTokens ts ∧
    match s.operation with
    | .isAt kinds => s.outcome =
        pure (.truth (ts[s.before.position]?.any (kinds.contains ·.kind)), s.before)
    | .atEnd => s.outcome = pure (.truth (decide (ts.length ≤ s.before.position)), s.before)
    | .parse => s.outcome =
        ⟨(.tree (parseTokens ts).value, s.before.seek ts.length), (parseTokens ts).notices⟩
    | .parseRun => ∃ nodes stop, s.outcome.value = (.row nodes, s.before.seek stop) ∧
        IsRun ts s.before.position stop nodes
    | .seek position => s.outcome = pure (.done, s.before.seek position)

namespace Piece

variable {ts : List Token} {i : Nat} {front back : List Piece}

theorem getElem?_of_tokens {p : Piece} {ps : List Piece} {t : Token} {later : List Token}
    (first : p.tokens = t :: later) (tokens : (p :: ps).flatMap tokens = ts.drop i) :
    ts[i]? = some t := by
  rw [← List.head?_drop, ← tokens, List.flatMap_cons, first]
  rfl

theorem atBorder_of_border (border : ∀ p ∈ back.head?, assembly.isSpace p = true)
    (tokens : back.flatMap tokens = ts.drop i) : AtBorder ts i := by
  cases back with
  | nil => exact Or.inl (List.drop_eq_nil_iff.1 tokens.symm)
  | cons p back =>
      match p, border p rfl with
      | single t, space =>
          have here : ts[i]? = some t := getElem?_of_tokens rfl tokens
          exact Or.inr (Layout.hasKind_iff.2 ⟨t, here, of_decide_eq_true space⟩)

theorem eq_nil_of_atBorder (fitting : Fitting (front ++ back))
    (inside : ∀ p ∈ front, assembly.isSpace p = false)
    (tokens : (front ++ back).flatMap tokens = ts.drop i) (border : AtBorder ts i) :
    front = [] := by
  cases front with
  | nil => rfl
  | cons p front =>
      obtain ⟨t, later, same⟩ := List.exists_cons_of_ne_nil p.tokens_ne_nil
      have here : ts[i]? = some t := getElem?_of_tokens same tokens
      have notSpace := p.kind_ne_space fitting.1 same (inside p List.mem_cons_self)
      rcases border with past | space
      · rw [List.getElem?_eq_none past] at here
        cases here
      · obtain ⟨u, found, kind⟩ := Layout.hasKind_iff.1 space
        rw [here] at found
        cases found
        exact absurd kind notSpace

theorem stretchNodes_cases (front : List Piece) :
    (∃ many, assembly.stretchNodes front = [.branch .alternation many]) ∨
      assembly.stretchNodes front = front.map node := by
  by_cases separated : ∃ p ∈ front, assembly.isSeparator p = true
  · obtain ⟨p, member, separator⟩ := separated
    exact Or.inl ⟨_, assembly.stretchNodes_of_separator member separator⟩
  · have items : ∀ p ∈ front, assembly.isSeparator p = false := by
      intro p member
      rw [← Bool.not_eq_true]
      exact fun separator => separated ⟨p, member, separator⟩
    right
    rw [assembly.stretchNodes_of_items items]
    exact congrFun List.filterMap_eq_map front

theorem stretchNodes_ne_nil (nonempty : front ≠ []) : assembly.stretchNodes front ≠ [] := by
  rcases stretchNodes_cases front with ⟨many, single⟩ | pieces
  · rw [single]
    exact List.cons_ne_nil _ _
  · rw [pieces]
    exact fun empty => nonempty (List.map_eq_nil_iff.1 empty)

theorem alternation_stretchNodes (front : List Piece) :
    (∃ n, assembly.stretchNodes front = [n] ∧ n.kind = .branch .alternation) ∨
      ∀ n ∈ assembly.stretchNodes front, n.kind ≠ .branch .alternation := by
  rcases stretchNodes_cases front with ⟨many, single⟩ | pieces
  · exact Or.inl ⟨_, single, rfl⟩
  · right
    intro n member alternation
    rw [pieces] at member
    obtain ⟨p, -, rfl⟩ := List.mem_map.1 member
    have kind := p.kind_node
    rw [alternation] at kind
    exact absurd kind (by decide)

theorem isRun_stretchNodes (fitting : Fitting (front ++ back))
    (inside : ∀ p ∈ front, assembly.isSpace p = false)
    (border : ∀ p ∈ back.head?, assembly.isSpace p = true)
    (tokens : (front ++ back).flatMap tokens = ts.drop i) :
    IsRun ts i (i + extent front) (assembly.stretchNodes front) := by
  constructor
  case stays =>
    intro atBorder
    rw [eq_nil_of_atBorder fitting inside tokens atBorder]
    exact ⟨rfl, rfl⟩
  case moves =>
    intro notBorder
    have nonempty : front ≠ [] := by
      rintro rfl
      exact notBorder (atBorder_of_border border tokens)
    have later : back.flatMap Piece.tokens = ts.drop (i + extent front) := by
      rw [← List.drop_drop, ← tokens, List.flatMap_append, extent, List.drop_left]
    have within : extent front ≤ ts.length - i := by
      have length := congrArg List.length tokens
      rw [List.flatMap_append, List.length_append, List.length_drop] at length
      rw [extent]
      omega
    have positive : 0 < extent front := by
      obtain ⟨p, rest, rfl⟩ := List.exists_cons_of_ne_nil nonempty
      have := p.length_tokens_pos
      rw [extent_cons]
      omega
    exact ⟨stretchNodes_ne_nil nonempty, by omega, by omega, atBorder_of_border border later⟩
  case alternation => exact alternation_stretchNodes front

end Piece

theorem expression_ofTokens (ts : List Token) : (Scope.ofTokens ts).expression =
    ⟨((parseTokens ts).value, ts.length), (parseTokens ts).notices⟩ := by
  obtain ⟨ps, fitting, rfl⟩ := Piece.exists_fitting ts
  have nodes := Scope.nodesFrom_of_fitting fitting (Scope.rest_ofTokens_zero _)
  rw [Nat.zero_add] at nodes
  rw [parseTokens, Scope.expression, nodes]
  rfl

theorem lawful_perform {ts : List Token} {c : Cursor} (scope : c.scope = .ofTokens ts)
    (op : Cursor.Operation) : Cursor.Step.Lawful ts ⟨c, op, c.perform op⟩ := by
  obtain ⟨_, position⟩ := c
  subst scope
  refine ⟨rfl, by cases op <;> rfl, ?_⟩
  cases op with
  | isAt kinds =>
      have found : (Scope.ofTokens ts).tokens[position]? = ts[position]? := List.getElem?_toArray
      simp only [Cursor.perform, Cursor.isAt, found]
  | atEnd => simp only [Cursor.perform, Cursor.atEnd, Scope.size_ofTokens]
  | parse =>
      simp only [Cursor.perform, Cursor.parse, expression_ofTokens]
      rfl
  | parseRun =>
      obtain ⟨front, back, fitting, inside, border, tokens⟩ :=
        Piece.exists_first_run (ts.drop position)
      have run : (Cursor.mk (.ofTokens ts) position).parseRun =
          ⟨(Piece.assembly.stretchNodes front,
            (Cursor.mk (.ofTokens ts) position).seek (position + Piece.extent front)),
            Piece.noticesFrom position front⟩ :=
        Cursor.parseRun_of_fitting fitting inside border tokens.symm
      refine ⟨_, _, ?_, Piece.isRun_stretchNodes fitting inside border tokens⟩
      rw [Cursor.perform, run]
      rfl
  | seek position => rfl

theorem lawful_history {ts : List Token} {c : Cursor} (scope : c.scope = .ofTokens ts)
    (ops : List Cursor.Operation) : ∀ s ∈ c.history ops, s.Lawful ts := by
  induction ops generalizing c with
  | nil => simp [Cursor.history]
  | cons op ops ih =>
      have first := lawful_perform scope op
      intro s member
      rcases List.mem_cons.1 member with rfl | later
      · exact first
      · exact ih first.2.1 s later

/-- Every operation of every sequence on a cursor over the tokens answers by the tokens and the
position at which it finds the cursor. -/
theorem lawful_of_mem_history (ts : List Token) (ops : List Cursor.Operation) :
    ∀ s ∈ (Cursor.ofTokens ts).history ops, s.Lawful ts :=
  lawful_history rfl ops

theorem lawful_of_mem_history_group :
    ∃ s ∈ (Cursor.ofTokens [⟨"(", .mark .beginOptional⟩, ⟨")", .mark .endOptional⟩]).history
        [.seek 1, .parseRun],
      s.operation = .parseRun ∧ ∃ nodes, s.outcome.value.1 = .row nodes ∧ nodes ≠ [] := by
  have notBorder : ¬ AtBorder [⟨"(", .mark .beginOptional⟩, ⟨")", .mark .endOptional⟩] 1 := by
    simp [AtBorder, Layout.hasKind]
  refine ⟨_, List.mem_cons_of_mem _ List.mem_cons_self, rfl, ?_⟩
  obtain ⟨-, -, nodes, stop, outcome, run⟩ := lawful_of_mem_history
    [⟨"(", .mark .beginOptional⟩, ⟨")", .mark .endOptional⟩] [.seek 1, .parseRun] _
    (List.mem_cons_of_mem _ List.mem_cons_self)
  exact ⟨nodes, congrArg Prod.fst outcome, (run.moves notBorder).1⟩

end CucumberExpressions
