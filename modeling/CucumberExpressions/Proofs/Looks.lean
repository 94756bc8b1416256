import CucumberExpressions.Proofs.Reading

/-! Looks: reading in which each look at a token or at a close may miss, and nothing is known of a
match but that it is of some tokens. Where a construct is tried at a token no look misses, so what
is read in this way is what is read at positions that are known to be inside. -/

namespace CucumberExpressions

/-- Reading that may miss. Nothing makes up for a miss: all reading ends there, with what was noted
before. -/
abbrev Looking := ExceptT OutOfRange (Noted Notice)

@[ext]
structure Parsed where
  node : Node
  consumed : Nat
  consumed_pos : 0 < consumed

def Match.parsed {limit : Nat} (m : Match limit) : Parsed := ⟨m.node, m.consumed, m.consumed_pos⟩

namespace Looks

open MonadAttach (pbind)

variable {α β : Type}

def lookUp (table : Array α) (i : Nat) : Looking α :=
  match table[i]? with
  | some a => pure a
  | none => throw ⟨i⟩

theorem lookUp_of_lt {table : Array α} {i : Nat} (h : i < table.size) :
    lookUp table i = pure table[i] := by
  rw [lookUp, Array.getElem?_eq_getElem h]

theorem lookUp_of_le {table : Array α} {i : Nat} (h : table.size ≤ i) :
    lookUp table i = throw ⟨i⟩ := by
  rw [lookUp, Array.getElem?_eq_none h]

theorem lt_size_of_lookUp {table : Array α} {i : Nat} {a : α}
    (at_i : MonadAttach.CanReturn (lookUp table i) a) : i < table.size := by
  by_contra outside
  rw [lookUp_of_le (Nat.le_of_not_lt outside)] at at_i
  cases at_i

def found (x : Noted Notice α) : Looking α := ExceptT.lift x

@[simp] theorem found_pure (a : α) : found (pure a) = pure a := rfl

@[simp] theorem found_bind (x : Noted Notice α) (f : α → Noted Notice β) :
    found (x >>= f) = found x >>= fun a => found (f a) := rfl

@[simp] theorem found_map (f : α → β) (x : Noted Notice α) : found (f <$> x) = f <$> found x := by
  rw [← bind_pure_comp, ← bind_pure_comp, found_bind]
  rfl

def firstOf (otherwise : Looking Parsed) : List (Looking (Option Parsed)) → Looking Parsed
  | [] => otherwise
  | reading :: more => do
    match ← reading with
    | some p => pure p
    | none => firstOf otherwise more

def text (s : Scope) (i : Nat) : Looking Parsed := do
  let t ← lookUp s.tokens i
  return ⟨.literal t, 1, Nat.succ_pos _⟩

mutual

/-- The close is looked for from the next position on, which may be the end. -/
def optional? (s : Scope) (i : Nat) : Looking (Option Parsed) :=
  pbind (lookUp s.tokens i) fun t _ => do
    if t.kind = .mark .beginOptional then
      match ← lookUp s.closes (i + 1) with
      | none => found (.note (.unmatchedOptional i) none)
      | some e =>
        let nodes ← groupItems (s.slice (i + 1) e) 0
        return some ⟨.branch .optional nodes, e - i + 1, Nat.succ_pos _⟩
    else return none
termination_by (s.size, s.size - i, 0)
decreasing_by
  apply Prod.Lex.left
  have inside : i < s.size := lt_size_of_lookUp ‹_›
  rw [Scope.size_slice]
  omega

def groupItems (s : Scope) (i : Nat) : Looking (List Node) := do
  if i < s.size then
    let p ← firstOf (text s i) [optional? s i]
    (p.node :: ·) <$> groupItems s (i + p.consumed)
  else return []
termination_by (s.size, s.size - i, 1)
decreasing_by
  · apply Prod.Lex.right
    apply Prod.Lex.right
    omega
  · apply Prod.Lex.right
    apply Prod.Lex.left
    have := p.consumed_pos
    omega

end

/-- The tokens that follow are at most two, and fewer at the end. -/
def parameter? (s : Scope) (i : Nat) : Looking (Option Parsed) := do
  let t ← lookUp s.tokens i
  if t.kind = .mark .beginParameter then
    let following := (s.tokens.extract (i + 1) (i + 3)).toList.map Token.kind
    if following.take 1 = [.mark .endParameter] then
      return some ⟨.branch .parameter [], 2, Nat.succ_pos _⟩
    else if following = [.text, .mark .endParameter] then
      let name ← lookUp s.tokens (i + 1)
      return some ⟨.branch .parameter [.leaf name], 3, Nat.succ_pos _⟩
    else found (.note (.unclosedParameter i) none)
  else return none

def item (s : Scope) (i : Nat) : Looking Parsed :=
  firstOf (text s i) [optional? s i, parameter? s i]

def run (s : Scope) (i : Nat) : Looking Run := do
  if i < s.size then
    match (← lookUp s.tokens i).kind with
    | .mark .whiteSpace => return .empty i
    | .mark .alternation => Run.split <$> run s (i + 1)
    | _ =>
      let p ← item s i
      Run.push p.node <$> run s (i + p.consumed)
  else return .empty i
termination_by s.size - i
decreasing_by
  · omega
  · have := p.consumed_pos
    omega

variable {s : Scope} {i : Nat}

theorem lookUp_tokens (h : i < s.size) : lookUp s.tokens i = pure s.tokens[i] := lookUp_of_lt h

theorem lookUp_of_rest {t : Token} {later : List Token} (front : s.rest i = t :: later) :
    lookUp s.tokens i = pure t := by
  have h := Scope.lt_size_of_rest front
  obtain ⟨rfl, _⟩ := (Scope.rest_cons_iff h).1 front
  exact lookUp_of_lt h

theorem lookUp_closes (h : i ≤ s.size) : lookUp s.closes i = pure (s.close? i h) := by
  have inside : i < s.closes.size := by
    rw [Scope.size_closes]
    omega
  exact lookUp_of_lt inside

theorem text_found (h : i < s.size) : text s i = pure (s.text i h).parsed := by
  rw [text, lookUp_tokens h]
  rfl

theorem optional?_eq (s : Scope) (i : Nat) : optional? s i = do
    let t ← lookUp s.tokens i
    if t.kind = .mark .beginOptional then
      match ← lookUp s.closes (i + 1) with
      | none => found (.note (.unmatchedOptional i) none)
      | some e =>
        let nodes ← groupItems (s.slice (i + 1) e) 0
        return some ⟨.branch .optional nodes, e - i + 1, Nat.succ_pos _⟩
    else return none := by
  rw [optional?]
  exact WeaklyLawfulMonadAttach.pbind_eq_bind

theorem optional?_found_of_inner (h : i < s.size)
    (inner : ∀ e, groupItems (s.slice (i + 1) e) 0 = found ((s.slice (i + 1) e).groupItems 0)) :
    optional? s i = found (Option.map Match.parsed <$> s.optional? i h) := by
  rw [optional?_eq, lookUp_tokens h, pure_bind, Scope.optional?]
  by_cases opens : s.tokens[i].kind = .mark .beginOptional
  · rw [if_pos opens, if_pos opens, lookUp_closes h, pure_bind]
    -- Both sides look at the same entry, each in a match of its own.
    split
    · next unclosed =>
        split
        · rfl
        · next closed => cases unclosed.symm.trans closed
    · next e closed =>
        split
        · next unclosed => cases closed.symm.trans unclosed
        · next e' closed' =>
            obtain rfl : e = e' := Option.some.inj (closed.symm.trans closed')
            rw [inner, bind_pure_comp, found_map, found_map, Functor.map_map]
            rfl
  · rw [if_neg opens, if_neg opens]
    rfl

theorem firstOf_cons_found {limit : Nat} (otherwise : Looking Parsed)
    (x : Noted Notice (Option (Match limit))) (more : List (Looking (Option Parsed))) :
    firstOf otherwise (found (Option.map Match.parsed <$> x) :: more) =
      found x >>= fun m? => (m?.map fun m => pure m.parsed).getD (firstOf otherwise more) := by
  rw [firstOf, found_map, bind_map_left]
  apply bind_congr
  intro m?
  cases m? <;> rfl

theorem groupItems_found_of_optional?
    (group : ∀ i h, optional? s i = found (Option.map Match.parsed <$> s.optional? i h)) (i : Nat) :
    groupItems s i = found (s.groupItems i) := by
  induction gap : s.size - i using Nat.strong_induction_on generalizing i with
  | _ gap ih =>
      subst gap
      rw [groupItems, Scope.groupItems]
      by_cases h : i < s.size
      · have later : ∀ m : s.MatchAt i, groupItems s (i + m.consumed) =
            found (s.groupItems (i + m.consumed)) := by
          intro m
          have := m.consumed_pos
          exact ih (s.size - (i + m.consumed)) (by omega) _ rfl
        rw [if_pos h, dif_pos h, text_found h, group i h, firstOf_cons_found, found_bind,
          bind_assoc]
        apply bind_congr
        intro m?
        rw [found_map, ← later]
        cases m? <;> rfl
      · rw [if_neg h, dif_neg h, found_pure]

theorem groupItems_found (s : Scope) (i : Nat) : groupItems s i = found (s.groupItems i) := by
  induction size : s.size using Nat.strong_induction_on generalizing s i with
  | _ size ih =>
      subst size
      apply groupItems_found_of_optional?
      intro i h
      apply optional?_found_of_inner h
      intro e
      exact ih _ (by rw [Scope.size_slice]; omega) _ _ rfl

theorem optional?_found (h : i < s.size) :
    optional? s i = found (Option.map Match.parsed <$> s.optional? i h) :=
  optional?_found_of_inner h fun _ => groupItems_found _ 0

theorem following_eq (s : Scope) (i : Nat) :
    (s.tokens.extract (i + 1) (i + 3)).toList.map Token.kind =
      ((s.rest (i + 1)).take 2).map Token.kind := by
  have two : i + 3 - (i + 1) = 2 := by omega
  rw [Array.toList_extract, List.extract_eq_take_drop, Scope.rest, two]

theorem closedBy_parameter_of_following {rest : List Token}
    (closes : ((rest.take 2).map Token.kind).take 1 = [.mark .endParameter] ∨
      (rest.take 2).map Token.kind = [.text, .mark .endParameter]) :
    Bracket.parameter.ClosedBy rest := by
  match rest with
  | [] => simp at closes
  | [t] =>
      have shut : t.kind = .mark .endParameter := by simpa using closes
      exact ⟨[], t, [], Or.inl rfl, shut, rfl⟩
  | t :: u :: later =>
      obtain shut | ⟨name, shut⟩ : t.kind = .mark .endParameter ∨
          t.kind = .text ∧ u.kind = .mark .endParameter := by simpa using closes
      · exact ⟨[], t, u :: later, Or.inl rfl, shut, rfl⟩
      · exact ⟨[t], u, later, Or.inr (by rw [List.map_singleton, name]), shut, rfl⟩

theorem parameter?_of_closed {inner later : List Token} {closing : Token} (h : i < s.size)
    (opens : s.tokens[i].kind = .mark .beginParameter) (holds : Bracket.parameter.Holds inner)
    (closes : closing.kind = .mark .endParameter)
    (front : s.rest (i + 1) = inner ++ closing :: later) :
    parameter? s i =
      pure (some ⟨.branch .parameter (inner.map .literal), inner.length + 2, Nat.succ_pos _⟩) := by
  rw [parameter?, lookUp_tokens h, pure_bind, following_eq, if_pos opens]
  obtain rfl | ⟨name, rfl, isText⟩ := Bracket.parameter_cases holds
  · have shut : (((s.rest (i + 1)).take 2).map Token.kind).take 1 = [.mark .endParameter] := by
      rw [front]
      simp [closes]
    exact if_pos shut
  · have named : ((s.rest (i + 1)).take 2).map Token.kind = [.text, .mark .endParameter] := by
      rw [front]
      simp [closes, isText]
    have plain : name.unescape = name := Token.unescape_of_not_isEscaped (by rw [isText]; rfl)
    rw [named, lookUp_of_rest front, List.map_singleton, Node.literal, plain]
    rfl

theorem parameter?_of_unclosed (h : i < s.size)
    (opens : s.tokens[i].kind = .mark .beginParameter)
    (unclosed : ¬ Bracket.parameter.ClosedBy (s.rest (i + 1))) :
    parameter? s i = found (.note (.unclosedParameter i) none) := by
  have notShut : (((s.rest (i + 1)).take 2).map Token.kind).take 1 ≠ [.mark .endParameter] :=
    fun shut => unclosed (closedBy_parameter_of_following (Or.inl shut))
  have notNamed : ((s.rest (i + 1)).take 2).map Token.kind ≠ [.text, .mark .endParameter] :=
    fun named => unclosed (closedBy_parameter_of_following (Or.inr named))
  rw [parameter?, lookUp_tokens h, pure_bind, following_eq, if_pos opens]
  simp only [if_neg notShut, if_neg notNamed]

theorem parameter?_found (h : i < s.size) :
    parameter? s i = found (Option.map Match.parsed <$> s.parameter? i h) := by
  by_cases opens : s.tokens[i].kind = .mark .beginParameter
  · by_cases closed : Bracket.parameter.ClosedBy (s.rest (i + 1))
    · obtain ⟨inner, closing, later, holds, closes, front⟩ := closed
      obtain ⟨m, reads, node, consumed⟩ := Scope.parameter?_of_closed h opens holds closes front
      rw [parameter?_of_closed h opens holds closes front, reads]
      exact congrArg (pure ∘ some) (Parsed.ext node.symm consumed.symm)
    · rw [parameter?_of_unclosed h opens closed, Scope.parameter?_of_unclosed h opens closed]
      rfl
  · rw [parameter?, lookUp_tokens h, pure_bind, if_neg opens, Scope.parameter?_of_ne h opens]
    rfl

theorem item_found (h : i < s.size) : item s i = found (Match.parsed <$> s.item i h) := by
  rw [item, Scope.item, text_found h, optional?_found h, parameter?_found h, firstOf_cons_found,
    map_bind, found_bind]
  apply bind_congr
  intro m?
  cases m? with
  | some m => rfl
  | none =>
      change firstOf _ [_] = found (Match.parsed <$> (s.parameter? i h >>= _))
      rw [firstOf_cons_found, map_bind, found_bind]
      apply bind_congr
      intro m?
      cases m? <;> rfl

theorem run_found (s : Scope) (i : Nat) : run s i = found (s.run i) := by
  fun_induction s.run i with
  | case1 i h space =>
      rw [run, if_pos h, lookUp_tokens h, pure_bind]
      split
      · rfl
      · next other => cases space.symm.trans other
      · next other _ => exact absurd space other
  | case2 i h separator ih =>
      rw [run, if_pos h, lookUp_tokens h, pure_bind, found_map, ih]
      split
      · next other => cases separator.symm.trans other
      · rfl
      · next other => exact absurd separator other
  | case3 i h notSpace notSeparator ih =>
      rw [run, if_pos h, lookUp_tokens h, pure_bind, item_found h]
      split
      · next space => exact absurd space notSpace
      · next separator => exact absurd separator notSeparator
      · rw [found_bind, found_map, bind_map_left]
        apply bind_congr
        intro m
        rw [found_map, ← ih]
        rfl
  | case4 i h =>
      rw [run, if_neg h, found_pure]

theorem lt_stop_of_run {t : Token} {r : Run} (at_i : MonadAttach.CanReturn (lookUp s.tokens i) t)
    (inside : t.kind ≠ .mark .whiteSpace) (ran : MonadAttach.CanReturn (run s i) r) :
    i < r.stop := by
  have h : i < s.size := lt_size_of_lookUp at_i
  rw [lookUp_tokens h] at at_i
  rw [run_found] at ran
  obtain rfl : s.tokens[i] = t := Except.ok.inj at_i
  obtain rfl : (s.run i).value = r := Except.ok.inj ran
  exact Scope.lt_stop_run h inside

def nodesFrom (s : Scope) (i : Nat) : Looking (List Node × Nat) := do
  if i < s.size then
    pbind (lookUp s.tokens i) fun t at_i => do
      if space : t.kind = .mark .whiteSpace then
        (fun (later, stop) => (.leaf t :: later, stop)) <$> nodesFrom s (i + 1)
      else
        pbind (run s i) fun front _ =>
          (fun (later, stop) => (front.nodes ++ later, stop)) <$> nodesFrom s front.stop
  else return ([], i)
termination_by s.size - i
decreasing_by
  · omega
  · have := lt_stop_of_run at_i space ‹_›
    omega

def parse (tokens : List Token) : Looking Node :=
  (fun (nodes, _) => .branch .expression nodes) <$> nodesFrom (.ofTokens tokens) 0

theorem nodesFrom_eq (s : Scope) (i : Nat) : nodesFrom s i =
    if i < s.size then do
      let t ← lookUp s.tokens i
      if t.kind = .mark .whiteSpace then
        (fun (later, stop) => (.leaf t :: later, stop)) <$> nodesFrom s (i + 1)
      else
        let front ← run s i
        (fun (later, stop) => (front.nodes ++ later, stop)) <$> nodesFrom s front.stop
    else pure ([], i) := by
  rw [nodesFrom]
  split
  · rw [← WeaklyLawfulMonadAttach.pbind_eq_bind]
    congr 1
    funext t at_i
    split
    · rfl
    · exact WeaklyLawfulMonadAttach.pbind_eq_bind
  · rfl

theorem nodesFrom_found (s : Scope) (i : Nat) : nodesFrom s i = found (s.nodesFrom i) := by
  fun_induction s.nodesFrom i with
  | case1 i h space ih =>
      rw [nodesFrom_eq, if_pos h, lookUp_tokens h, pure_bind, if_pos space, ih, found_map]
  | case2 i h inside r _ ih =>
      rw [nodesFrom_eq, if_pos h, lookUp_tokens h, pure_bind, if_neg inside, run_found, found_bind]
      simp only [found_map, ← ih]
      rfl
  | case3 i h =>
      rw [nodesFrom_eq, if_neg h, found_pure]

theorem parse_found (tokens : List Token) : parse tokens = found (parseTokens tokens) := by
  rw [parse, nodesFrom_found, parseTokens, Scope.expression, found_map, found_map, Functor.map_map]

end Looks

end CucumberExpressions
