import CucumberExpressions.Notice
import CucumberExpressions.Proofs.Assembly

/-! Pieces: the cut of a token sequence into bracketed stretches and single tokens, and what the
pieces come to as a tree and as notices. Every token sequence has such a cut. -/

namespace CucumberExpressions

inductive Bracket
  | optional | parameter
  deriving DecidableEq, Repr

namespace Bracket

def opening : Bracket → Mark
  | optional => .beginOptional
  | parameter => .beginParameter

def closing : Bracket → Mark
  | optional => .endOptional
  | parameter => .endParameter

def branch : Bracket → BranchKind
  | optional => .optional
  | parameter => .parameter

/-- A group encloses all that does not close it, a parameter at most one token of text. -/
def Holds : Bracket → List Token → Prop
  | optional, inner => ∀ t ∈ inner, t.kind ≠ .mark .endOptional
  | parameter, inner => inner.map Token.kind = [] ∨ inner.map Token.kind = [.text]

/-- Whether the bracket, once open, is closed by what follows. -/
def ClosedBy (b : Bracket) (rest : List Token) : Prop :=
  ∃ inner closing later, b.Holds inner ∧ closing.kind = .mark b.closing ∧
    rest = inner ++ closing :: later

theorem parameter_cases {inner : List Token} (holds : parameter.Holds inner) :
    inner = [] ∨ ∃ t, inner = [t] ∧ t.kind = .text := by
  rcases holds with empty | text
  · exact Or.inl (List.map_eq_nil_iff.1 empty)
  · exact Or.inr (List.map_eq_singleton_iff.1 text)

theorem closedBy_optional_iff {rest : List Token} :
    optional.ClosedBy rest ↔ ∃ t ∈ rest, t.kind = .mark .endOptional := by
  constructor
  · intro closed
    rcases closed with ⟨inner, closing, later, _, closes, rfl⟩
    exact ⟨closing, by simp, closes⟩
  · intro closed
    rcases closed with ⟨t, member, closes⟩
    have found : (rest.find? (·.kind = .mark .endOptional)).isSome := by
      simpa using ⟨t, member, closes⟩
    rcases Option.isSome_iff_exists.1 found with ⟨closing, first⟩
    rcases List.find?_eq_some_iff_append.1 first with ⟨closes, inner, later, same, before⟩
    exact ⟨inner, closing, later, fun u memberU => by simpa using before u memberU,
      of_decide_eq_true closes, same⟩

theorem ClosedBy.append {b : Bracket} {rest : List Token} (closed : b.ClosedBy rest)
    (more : List Token) : b.ClosedBy (rest ++ more) := by
  rcases closed with ⟨inner, closing, later, holds, closes, rfl⟩
  exact ⟨inner, closing, later ++ more, holds, closes, by simp⟩

theorem closedBy_parameter_of_append {rest more : List Token} {border : Token}
    (notText : border.kind ≠ .text) (notClose : border.kind ≠ .mark .endParameter)
    (closed : parameter.ClosedBy (rest ++ border :: more)) : parameter.ClosedBy rest := by
  rcases closed with ⟨inner, closing, later, holds, closes, same⟩
  rcases List.append_eq_append_iff.1 same with ⟨middle, rfl, back⟩ | ⟨middle, rfl, back⟩
  · cases middle with
    | nil =>
        rcases List.cons.inj back with ⟨rfl, _⟩
        exact absurd closes notClose
    | cons t middle =>
        -- The border would stand inside the parameter, which holds nothing but text.
        rcases List.cons.inj back with ⟨rfl, _⟩
        rcases parameter_cases holds with empty | ⟨name, single, isText⟩
        · simp at empty
        · have member : border ∈ [name] := by
            rw [← single]
            simp
          rw [List.mem_singleton.1 member] at notText
          exact absurd isText notText
  · cases middle with
    | nil =>
        rcases List.cons.inj back with ⟨rfl, _⟩
        exact absurd closes notClose
    | cons t middle =>
        rcases List.cons.inj back with ⟨rfl, _⟩
        exact ⟨inner, closing, middle, holds, closes, rfl⟩

end Bracket

/-- Tokens between two brackets, or one token on its own. -/
inductive Piece
  | enclosed (bracket : Bracket) (opening : Token) (inner : List Token) (closing : Token)
  | single (token : Token)
  deriving DecidableEq, Repr

namespace Piece

def tokens : Piece → List Token
  | enclosed _ opening inner closing => opening :: inner ++ [closing]
  | single t => [t]

def node : Piece → Node
  | enclosed b _ inner _ => .branch b.branch (inner.map .literal)
  | single t => .literal t

def isSingle (k : Kind) : Piece → Bool
  | enclosed .. => false
  | single t => t.kind = k

def assembly : Assembly Piece where
  isSpace := isSingle (.mark .whiteSpace)
  isSeparator := isSingle (.mark .alternation)
  node? p := some p.node

/-- Whether the tokens of the piece belong together before `rest`: a bracket stands on its own only
where nothing closes it. -/
def Fits : Piece → List Token → Prop
  | enclosed b opening inner closing, _ =>
    opening.kind = .mark b.opening ∧ b.Holds inner ∧ closing.kind = .mark b.closing
  | single t, rest => ∀ b : Bracket, t.kind = .mark b.opening → ¬ b.ClosedBy rest

theorem tokens_ne_nil (p : Piece) : p.tokens ≠ [] := by
  cases p <;> simp [tokens]

@[simp] theorem length_tokens_enclosed (b : Bracket) (o : Token) (inner : List Token) (c : Token) :
    (enclosed b o inner c).tokens.length = inner.length + 2 := by
  simp [tokens]

@[simp] theorem length_tokens_single (t : Token) : (single t).tokens.length = 1 := rfl

theorem length_tokens_pos (p : Piece) : 0 < p.tokens.length :=
  List.length_pos_iff.2 p.tokens_ne_nil

theorem kind_ne_of_not_isSingle {p : Piece} {rest ts : List Token} {t : Token} {k : Kind}
    (fits : p.Fits rest) (tokens : p.tokens = t :: ts) (other : p.isSingle k = false)
    (notOpening : ∀ b : Bracket, .mark b.opening ≠ k) : t.kind ≠ k := by
  cases p with
  | enclosed b opening inner closing =>
      rcases List.cons.inj tokens with ⟨rfl, _⟩
      rcases fits with ⟨opens, _⟩
      rw [opens]
      exact notOpening b
  | single u =>
      rcases List.cons.inj tokens with ⟨rfl, _⟩
      exact of_decide_eq_false other

theorem kind_ne_space {p : Piece} {rest ts : List Token} {t : Token} (fits : p.Fits rest)
    (tokens : p.tokens = t :: ts) (inside : assembly.isSpace p = false) :
    t.kind ≠ .mark .whiteSpace :=
  kind_ne_of_not_isSingle fits tokens inside fun b => by cases b <;> decide

theorem kind_ne_separator {p : Piece} {rest ts : List Token} {t : Token} (fits : p.Fits rest)
    (tokens : p.tokens = t :: ts) (item : assembly.isSeparator p = false) :
    t.kind ≠ .mark .alternation :=
  kind_ne_of_not_isSingle fits tokens item fun b => by cases b <;> decide

theorem stretchNodes_space {t : Token} (space : t.kind = .mark .whiteSpace) :
    assembly.stretchNodes [.single t] = [.leaf t] := by
  have plain : t.unescape = t := Token.unescape_of_not_isEscaped (by rw [space]; rfl)
  have item : assembly.isSeparator (.single t) = false := by simp [assembly, isSingle, space]
  rw [Assembly.stretchNodes, assembly.alternatives_cons_item item, assembly.alternatives_nil]
  simp [assembly, node, Node.literal, plain]

theorem fits_of_not_opening {t : Token} (other : ∀ b : Bracket, t.kind ≠ .mark b.opening)
    (rest : List Token) : (single t).Fits rest := by
  intro b opens
  exact absurd opens (other b)

def Fitting : List Piece → Prop
  | [] => True
  | p :: ps => p.Fits (ps.flatMap tokens) ∧ Fitting ps

theorem Fitting.right {front back : List Piece} (h : Fitting (front ++ back)) : Fitting back := by
  induction front with
  | nil => exact h
  | cons p front ih => exact ih h.2

abbrev isUnmatched : Piece → Bool := isSingle (.mark .beginOptional)

theorem Fits.of_append {p : Piece} {rest more : List Token} (fits : p.Fits (rest ++ more)) :
    p.Fits rest := by
  cases p with
  | enclosed => exact fits
  | single t => exact fun b opens closed => fits b opens (closed.append more)

theorem Fitting.left {front back : List Piece} (fitting : Fitting (front ++ back)) :
    Fitting front := by
  induction front with
  | nil => trivial
  | cons p front ih =>
      rcases fitting with ⟨fits, later⟩
      rw [List.append_eq, List.flatMap_append] at fits
      exact ⟨fits.of_append, ih later⟩

theorem Fits.append {p : Piece} {rest more : List Token} {border : Token} (fits : p.Fits rest)
    (notText : border.kind ≠ .text) (notClose : border.kind ≠ .mark .endParameter)
    (apart : p.isUnmatched = false ∨ ∀ t ∈ border :: more, t.kind ≠ .mark .endOptional) :
    p.Fits (rest ++ border :: more) := by
  cases p with
  | enclosed => exact fits
  | single t =>
      intro b opens closed
      cases b with
      | parameter =>
          exact fits .parameter opens (Bracket.closedBy_parameter_of_append notText notClose closed)
      | optional =>
          rcases Bracket.closedBy_optional_iff.1 closed with ⟨u, member, closes⟩
          rcases List.mem_append.1 member with before | after
          · exact fits .optional opens (Bracket.closedBy_optional_iff.2 ⟨u, before, closes⟩)
          · rcases apart with matched | unclosed
            · exact of_decide_eq_false matched opens
            · exact unclosed u after closes

theorem Fitting.append {front back : List Piece} {border : Token} {more : List Token}
    (fitting : Fitting front) (fittingBack : Fitting back)
    (tokens : back.flatMap Piece.tokens = border :: more)
    (notText : border.kind ≠ .text) (notClose : border.kind ≠ .mark .endParameter)
    (apart : (∀ p ∈ front, p.isUnmatched = false) ∨
      ∀ t ∈ border :: more, t.kind ≠ .mark .endOptional) :
    Fitting (front ++ back) := by
  induction front with
  | nil => exact fittingBack
  | cons p front ih =>
      constructor
      · rw [List.append_eq, List.flatMap_append, tokens]
        exact fitting.1.append notText notClose (apart.imp_left fun all => all p List.mem_cons_self)
      · exact ih fitting.2
          (apart.imp_left fun all q member => all q (List.mem_cons_of_mem p member))

theorem exists_fitting (ts : List Token) : ∃ ps, Fitting ps ∧ ps.flatMap tokens = ts := by
  -- A bracketed piece takes several tokens at once, so the induction is on their number.
  induction length : ts.length using Nat.strong_induction_on generalizing ts with
  | _ n ih =>
      subst length
      cases ts with
      | nil => exact ⟨[], trivial, rfl⟩
      | cons t ts =>
          by_cases closed : ∃ b : Bracket, t.kind = .mark b.opening ∧ b.ClosedBy ts
          · rcases closed with ⟨b, opens, inner, closing, later, holds, closes, rfl⟩
            rcases ih later.length (by simp; omega) later rfl with ⟨ps, fitting, same⟩
            refine ⟨.enclosed b t inner closing :: ps, ⟨⟨opens, holds, closes⟩, fitting⟩, ?_⟩
            simp [tokens, same]
          · rcases ih ts.length (by simp) ts rfl with ⟨ps, fitting, same⟩
            refine ⟨.single t :: ps, ⟨?_, fitting⟩, by simp [tokens, same]⟩
            intro b opens closedBy
            rw [same] at closedBy
            exact closed ⟨b, opens, closedBy⟩

/-- The notices for the brackets that open a group in a group, the first token standing at `i`. -/
def unmatchedFrom (i : Nat) : List Token → List Notice
  | [] => []
  | t :: ts =>
    if t.kind = .mark .beginOptional then .unmatchedOptional i :: unmatchedFrom (i + 1) ts
    else unmatchedFrom (i + 1) ts

def notices (i : Nat) : Piece → List Notice
  | enclosed .optional _ inner _ => unmatchedFrom 0 inner
  | enclosed .parameter .. => []
  | single t =>
    match t.kind with
    | .mark .beginOptional => [.unmatchedOptional i]
    | .mark .beginParameter => [.unclosedParameter i]
    | _ => []

theorem notices_of_not_opening {t : Token} (other : ∀ b : Bracket, t.kind ≠ .mark b.opening)
    (i : Nat) : (single t).notices i = [] := by
  rw [notices]
  split
  · next opens => exact absurd opens (other .optional)
  · next opens => exact absurd opens (other .parameter)
  · rfl

def noticesFrom (i : Nat) : List Piece → List Notice
  | [] => []
  | p :: ps => p.notices i ++ noticesFrom (i + p.tokens.length) ps

theorem noticesFrom_append (i : Nat) (front back : List Piece) :
    noticesFrom i (front ++ back) =
      noticesFrom i front ++ noticesFrom (i + (front.flatMap tokens).length) back := by
  induction front generalizing i with
  | nil => simp [noticesFrom]
  | cons p front ih =>
      simp [noticesFrom, ih, Nat.add_assoc]

end Piece

end CucumberExpressions
