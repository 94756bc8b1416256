import CucumberExpressions.Proofs.Piece

/-! Layout: the tree of a token sequence said of its positions alone. A closing bracket of a group
belongs to the first opening bracket since the closing bracket before it, whatever stands
between. -/

namespace CucumberExpressions

namespace Layout

variable {ts : List Token} {k : Kind} {b e i : Nat}

def hasKind (ts : List Token) (k : Kind) (i : Nat) : Bool := ts[i]?.any (·.kind = k)

/-- The position after the last closing bracket of a group before `e`, or the start. -/
def afterClose (ts : List Token) : Nat → Nat
  | 0 => 0
  | e + 1 => if hasKind ts (.mark .endOptional) e then e + 1 else afterClose ts e

def opener? (ts : List Token) (e : Nat) : Option Nat :=
  if hasKind ts (.mark .endOptional) e then
    (List.range' (afterClose ts e) (e - afterClose ts e)).find?
      (hasKind ts (.mark .beginOptional))
  else none

structure Span where
  bracket : Bracket
  first : Nat
  last : Nat
  deriving DecidableEq, Repr

namespace Span

def covers (i : Nat) (s : Span) : Bool := s.first ≤ i && i ≤ s.last

def inner (ts : List Token) (s : Span) : List Token := (ts.take s.last).drop (s.first + 1)

def node (ts : List Token) (s : Span) : Node :=
  .branch s.bracket.branch ((s.inner ts).map .literal)

end Span

def groups (ts : List Token) : List Span :=
  (List.range ts.length).filterMap fun e => (opener? ts e).map (⟨.optional, ·, e⟩)

def inGroup (ts : List Token) (i : Nat) : Bool := (groups ts).any (·.covers i)

def parameterEnd? (ts : List Token) (b : Nat) : Option Nat :=
  if hasKind ts (.mark .beginParameter) b && !inGroup ts b then
    if hasKind ts (.mark .endParameter) (b + 1) then some (b + 1)
    else if hasKind ts .text (b + 1) && hasKind ts (.mark .endParameter) (b + 2) then some (b + 2)
    else none
  else none

def parameters (ts : List Token) : List Span :=
  (List.range ts.length).filterMap fun b => (parameterEnd? ts b).map (⟨.parameter, b, ·⟩)

def spans (ts : List Token) : List Span := groups ts ++ parameters ts

/-- The item that starts at the position: a span at its first token, nothing inside it, and any
token outside as text. -/
def item? (ts : List Token) (i : Nat) : Option Node :=
  match (spans ts).find? (·.covers i) with
  | some s => if i = s.first then some (s.node ts) else none
  | none => ts[i]?.map .literal

/-- Spaces and separators cut a row of positions only outside groups. -/
def assembly (ts : List Token) : Assembly Nat where
  isSpace i := hasKind ts (.mark .whiteSpace) i && !inGroup ts i
  isSeparator i := hasKind ts (.mark .alternation) i && !inGroup ts i
  node? := item? ts

def tree (ts : List Token) : Node :=
  .branch .expression ((assembly ts).nodes (List.range ts.length))

/-- A group: two brackets without a close between them, and every opening bracket before them
closed before them. -/
structure IsGroup (ts : List Token) (b e : Nat) : Prop where
  opens : hasKind ts (.mark .beginOptional) b
  closes : hasKind ts (.mark .endOptional) e
  lt : b < e
  nearest : ∀ i, b < i → i < e → ¬ hasKind ts (.mark .endOptional) i
  first : ∀ i < b, hasKind ts (.mark .beginOptional) i →
    ∃ c, i < c ∧ c < b ∧ hasKind ts (.mark .endOptional) c

/-- A parameter: two brackets outside groups with at most one token of text between them. -/
structure IsParameter (ts : List Token) (b e : Nat) : Prop where
  opens : hasKind ts (.mark .beginParameter) b
  outside : ¬ inGroup ts b
  closes : hasKind ts (.mark .endParameter) e
  holds : e = b + 1 ∨ e = b + 2 ∧ hasKind ts .text (b + 1)

theorem hasKind_iff : hasKind ts k i ↔ ∃ t, ts[i]? = some t ∧ t.kind = k := by
  simp [hasKind, Option.any_eq_true]

theorem hasKind_zero_iff {t : Token} : hasKind (t :: ts) k 0 ↔ t.kind = k := by
  simp [hasKind]

theorem hasKind_unique {k' : Kind} (h : hasKind ts k i) (h' : hasKind ts k' i) : k = k' := by
  rcases hasKind_iff.1 h with ⟨t, found, rfl⟩
  rcases hasKind_iff.1 h' with ⟨t', found', rfl⟩
  rw [found] at found'
  cases found'
  rfl

theorem lt_length_of_hasKind (h : hasKind ts k i) : i < ts.length := by
  rcases hasKind_iff.1 h with ⟨t, found, _⟩
  exact (List.getElem?_eq_some_iff.1 found).1

theorem afterClose_le (ts : List Token) (e : Nat) : afterClose ts e ≤ e := by
  induction e with
  | zero => exact Nat.le_refl 0
  | succ e ih =>
      rw [afterClose]
      split <;> omega

theorem not_close_of_afterClose (late : afterClose ts e ≤ i) (early : i < e) :
    ¬ hasKind ts (.mark .endOptional) i := by
  induction e with
  | zero => omega
  | succ e ih =>
      rw [afterClose] at late
      split at late
      · omega
      · next other =>
          by_cases last : i = e
          · rwa [last]
          · exact ih late (by omega)

theorem close_before_afterClose (h : i < afterClose ts e) :
    ∃ c, i ≤ c ∧ c < afterClose ts e ∧ hasKind ts (.mark .endOptional) c := by
  induction e with
  | zero => simp [afterClose] at h
  | succ e ih =>
      rw [afterClose] at h ⊢
      split at h
      · next closes =>
          rw [if_pos closes]
          exact ⟨e, by omega, by omega, closes⟩
      · next other =>
          rw [if_neg other]
          exact ih h

theorem isGroup_of_opener? (found : opener? ts e = some b) : IsGroup ts b e := by
  unfold opener? at found
  split at found
  · next closes =>
      rcases List.find?_range'_eq_some.1 found with ⟨opens, member, first⟩
      rw [List.mem_range'_1] at member
      refine ⟨opens, closes, by omega, ?_, ?_⟩
      · intro i after before
        exact not_close_of_afterClose (by omega) before
      · intro i before opensI
        have early : i < afterClose ts e := by
          by_contra late
          simpa [opensI] using first i (by omega) before
        rcases close_before_afterClose early with ⟨c, atLeast, below, close⟩
        have different : i ≠ c := by
          intro same
          rw [same] at opensI
          cases hasKind_unique opensI close
        exact ⟨c, by omega, by omega, close⟩
  · cases found

theorem opener?_of_isGroup (group : IsGroup ts b e) : opener? ts e = some b := by
  have lt := group.lt
  have bound := afterClose_le ts e
  have late : afterClose ts e ≤ b := by
    by_contra early
    rcases close_before_afterClose (Nat.lt_of_not_le early) with ⟨c, atLeast, below, close⟩
    by_cases same : b = c
    · rw [← same] at close
      cases hasKind_unique group.opens close
    · exact group.nearest c (by omega) (by omega) close
  rw [opener?, if_pos group.closes, List.find?_range'_eq_some]
  refine ⟨group.opens, by rw [List.mem_range'_1]; omega, ?_⟩
  intro i after before
  rw [Bool.not_eq_true']
  by_contra opens
  rw [Bool.not_eq_false] at opens
  rcases group.first i before opens with ⟨c, afterC, beforeC, close⟩
  exact not_close_of_afterClose (by omega : afterClose ts e ≤ c) (by omega) close

theorem opener?_eq_some_iff : opener? ts e = some b ↔ IsGroup ts b e :=
  ⟨isGroup_of_opener?, opener?_of_isGroup⟩

theorem mem_groups_iff {s : Span} :
    s ∈ groups ts ↔ s.bracket = .optional ∧ IsGroup ts s.first s.last := by
  rw [groups, List.mem_filterMap]
  constructor
  · intro listed
    rcases listed with ⟨e, _, found⟩
    rcases Option.map_eq_some_iff.1 found with ⟨b, opener, rfl⟩
    exact ⟨rfl, opener?_eq_some_iff.1 opener⟩
  · intro grouped
    rcases s with ⟨bracket, b, e⟩
    rcases grouped with ⟨rfl, group⟩
    refine ⟨e, List.mem_range.2 (lt_length_of_hasKind group.closes), ?_⟩
    rw [opener?_eq_some_iff.2 group]
    rfl

theorem inGroup_iff : inGroup ts i ↔ ∃ b e, IsGroup ts b e ∧ b ≤ i ∧ i ≤ e := by
  rw [inGroup, List.any_eq_true]
  constructor
  · intro covered
    rcases covered with ⟨⟨bracket, b, e⟩, member, covers⟩
    rcases mem_groups_iff.1 member with ⟨-, group⟩
    exact ⟨b, e, group, by simpa [Span.covers] using covers⟩
  · intro grouped
    rcases grouped with ⟨b, e, group, covers⟩
    have member : ⟨.optional, b, e⟩ ∈ groups ts := mem_groups_iff.2 ⟨rfl, group⟩
    exact ⟨_, member, by simpa [Span.covers] using covers⟩

theorem isParameter_of_parameterEnd? (found : parameterEnd? ts b = some e) :
    IsParameter ts b e := by
  unfold parameterEnd? at found
  split at found
  · next opens =>
      rw [Bool.and_eq_true, Bool.not_eq_true', ← Bool.not_eq_true] at opens
      split at found
      · next closes =>
          cases found
          exact ⟨opens.1, opens.2, closes, Or.inl rfl⟩
      · split at found
        · next named =>
            rw [Bool.and_eq_true] at named
            cases found
            exact ⟨opens.1, opens.2, named.2, Or.inr ⟨rfl, named.1⟩⟩
        · cases found
  · cases found

theorem parameterEnd?_of_isParameter (parameter : IsParameter ts b e) :
    parameterEnd? ts b = some e := by
  have opens : (hasKind ts (.mark .beginParameter) b && !inGroup ts b) = true := by
    simpa using And.intro parameter.opens parameter.outside
  rw [parameterEnd?, if_pos opens]
  rcases parameter with ⟨_, _, closes, rfl | ⟨rfl, name⟩⟩
  · rw [if_pos closes]
  · have other : ¬ hasKind ts (.mark .endParameter) (b + 1) := by
      intro early
      cases hasKind_unique name early
    rw [if_neg other, if_pos (by rw [name, closes]; rfl)]

theorem parameterEnd?_eq_some_iff : parameterEnd? ts b = some e ↔ IsParameter ts b e :=
  ⟨isParameter_of_parameterEnd?, parameterEnd?_of_isParameter⟩

theorem IsParameter.unique {e' : Nat} (h : IsParameter ts b e) (h' : IsParameter ts b e') :
    e = e' := by
  rw [← parameterEnd?_eq_some_iff] at h h'
  exact Option.some.inj (h.symm.trans h')

theorem mem_parameters_iff {s : Span} :
    s ∈ parameters ts ↔ s.bracket = .parameter ∧ IsParameter ts s.first s.last := by
  rw [parameters, List.mem_filterMap]
  constructor
  · intro listed
    rcases listed with ⟨b, _, found⟩
    rcases Option.map_eq_some_iff.1 found with ⟨e, last, rfl⟩
    exact ⟨rfl, parameterEnd?_eq_some_iff.1 last⟩
  · intro placed
    rcases s with ⟨bracket, b, e⟩
    rcases placed with ⟨rfl, parameter⟩
    refine ⟨b, List.mem_range.2 (lt_length_of_hasKind parameter.opens), ?_⟩
    rw [parameterEnd?_eq_some_iff.2 parameter]
    rfl

end Layout

end CucumberExpressions
