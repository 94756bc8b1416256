import CucumberExpressions.Cursor
import CucumberExpressions.Proofs.Piece

/-! Reading: a scope whose tokens are cut into fitting pieces is read piece by piece, each with its
own node, its own length and its own notices. -/

namespace CucumberExpressions

namespace Scope

variable {s : Scope} {i : Nat} {t : Token} {inner later : List Token} {closing : Token}

def rest (s : Scope) (i : Nat) : List Token := s.tokens.toList.drop i

@[simp] theorem rest_ofTokens_zero (ts : List Token) : (ofTokens ts).rest 0 = ts := rfl

theorem length_rest (s : Scope) (i : Nat) : (s.rest i).length = s.size - i := by
  rw [rest, List.length_drop, Array.length_toList, size]

theorem rest_eq_cons (h : i < s.size) : s.rest i = s.tokens[i] :: s.rest (i + 1) := by
  rw [rest, List.drop_eq_getElem_cons (by rwa [Array.length_toList]), Array.getElem_toList]
  rfl

theorem lt_size_of_rest (front : s.rest i = t :: later) : i < s.size := by
  have length := s.length_rest i
  rw [front, List.length_cons] at length
  omega

theorem rest_cons_iff (h : i < s.size) :
    s.rest i = t :: later ↔ s.tokens[i] = t ∧ s.rest (i + 1) = later := by
  rw [rest_eq_cons h, List.cons.injEq]

theorem rest_add (front : s.rest i = inner ++ later) : s.rest (i + inner.length) = later := by
  rw [rest, ← List.drop_drop, ← rest, front, List.drop_left]

theorem close?_of_rest (h : i ≤ s.size) (holds : Bracket.optional.Holds inner)
    (closes : closing.kind = .mark .endOptional) (front : s.rest i = inner ++ closing :: later) :
    s.close? i h = some (i + inner.length) := by
  have before : inner.findIdx? Token.isClose = none := by
    rw [List.findIdx?_eq_none_iff]
    intro t member
    simpa [Token.isClose] using holds t member
  have here : (closing :: later).findIdx? Token.isClose = some 0 := by
    simp [List.findIdx?_cons, Token.isClose, closes]
  have first : (s.rest i).findIdx? Token.isClose = some inner.length := by
    rw [front, List.findIdx?_append, before, here]
    simp
  rw [close?_eq, nearestClose?, ← rest, first]
  rfl

theorem close?_eq_none (h : i ≤ s.size) (unclosed : ¬ Bracket.optional.ClosedBy (s.rest i)) :
    s.close? i h = none := by
  rw [close?_eq, nearestClose?, ← rest, Option.map_eq_none_iff, List.findIdx?_eq_none_iff]
  intro t member
  rw [Bracket.closedBy_optional_iff] at unclosed
  by_contra closes
  exact unclosed ⟨t, member, by simpa [Token.isClose] using closes⟩

theorem slice_of_rest (front : s.rest i = inner ++ later) :
    s.slice i (i + inner.length) = ofTokens inner := by
  have taken : (s.tokens.extract i (i + inner.length)).toList = inner := by
    rw [Array.toList_extract, List.extract_eq_take_drop, ← rest, front, Nat.add_sub_cancel_left,
      List.take_left]
  rw [slice, taken]

theorem optional?_of_ne (h : i < s.size) (other : s.tokens[i].kind ≠ .mark .beginOptional) :
    s.optional? i h = pure none := by
  rw [optional?, if_neg other]

theorem optional?_of_unclosed (h : i < s.size) (opens : s.tokens[i].kind = .mark .beginOptional)
    (unclosed : ¬ Bracket.optional.ClosedBy (s.rest (i + 1))) :
    s.optional? i h = .note (.unmatchedOptional i) none := by
  rw [optional?, if_pos opens]
  split
  · rfl
  · next found =>
      rw [close?_eq_none h unclosed] at found
      cases found

theorem groupItems_of_holds (holds : Bracket.optional.Holds (s.rest i)) :
    s.groupItems i = ⟨(s.rest i).map .literal, Piece.unmatchedFrom i (s.rest i)⟩ := by
  induction tokens : s.rest i generalizing i with
  | nil =>
      have atEnd : ¬ i < s.size := by
        have length := s.length_rest i
        rw [tokens, List.length_nil] at length
        omega
      rw [groupItems, dif_neg atEnd]
      rfl
  | cons t ts ih =>
      have h := lt_size_of_rest tokens
      obtain ⟨here, after⟩ := (rest_cons_iff h).1 tokens
      have holdsAfter : Bracket.optional.Holds (s.rest (i + 1)) := by
        intro u member
        rw [after] at member
        exact holds u (by rw [tokens]; exact List.mem_cons_of_mem t member)
      have unclosed : ¬ Bracket.optional.ClosedBy (s.rest (i + 1)) := by
        rw [Bracket.closedBy_optional_iff]
        intro closed
        obtain ⟨u, member, closes⟩ := closed
        exact holdsAfter u member closes
      have later := ih holdsAfter after
      rw [groupItems, dif_pos h, ← here]
      by_cases opens : s.tokens[i].kind = .mark .beginOptional
      · rw [optional?_of_unclosed h opens unclosed]
        apply Noted.ext <;> simp [Scope.text, later, Piece.unmatchedFrom, opens]
      · rw [optional?_of_ne h opens]
        apply Noted.ext <;> simp [Scope.text, later, Piece.unmatchedFrom, opens]

def ReadsAs (x : Noted Notice (Option (s.MatchAt i))) (node : Node) (consumed : Nat)
    (notices : List Notice) : Prop :=
  ∃ m, x = ⟨some m, notices⟩ ∧ m.node = node ∧ m.consumed = consumed

theorem optional?_of_closed (h : i < s.size) (opens : s.tokens[i].kind = .mark .beginOptional)
    (holds : Bracket.optional.Holds inner) (closes : closing.kind = .mark .endOptional)
    (front : s.rest (i + 1) = inner ++ closing :: later) :
    ReadsAs (s.optional? i h) (.branch .optional (inner.map .literal)) (inner.length + 2)
      (Piece.unmatchedFrom 0 inner) := by
  have close := close?_of_rest h holds closes front
  rw [optional?, if_pos opens]
  split
  · next found =>
      rw [close] at found
      cases found
  · next e found =>
      rw [close] at found
      have items : (ofTokens inner).groupItems 0 =
          ⟨inner.map .literal, Piece.unmatchedFrom 0 inner⟩ := groupItems_of_holds holds
      cases found
      rw [slice_of_rest front, items]
      exact ⟨_, rfl, rfl, by dsimp only; omega⟩

theorem parameter?_of_ne (h : i < s.size) (other : s.tokens[i].kind ≠ .mark .beginParameter) :
    s.parameter? i h = pure none := by
  rw [parameter?, if_neg other]

theorem parameter?_of_unclosed (h : i < s.size)
    (opens : s.tokens[i].kind = .mark .beginParameter)
    (unclosed : ¬ Bracket.parameter.ClosedBy (s.rest (i + 1))) :
    s.parameter? i h = .note (.unclosedParameter i) none := by
  rw [parameter?, if_pos opens]
  split
  · next h1 =>
      split
      · next closes =>
          exact absurd ⟨[], _, _, Or.inl rfl, closes, rest_eq_cons h1⟩ unclosed
      · next name =>
          split
          · next h2 =>
              refine if_neg fun closes => unclosed ?_
              refine ⟨[s.tokens[i + 1]], s.tokens[i + 2], s.rest (i + 3), ?_, closes, ?_⟩
              · exact Or.inr (by rw [List.map_singleton, name])
              · rw [rest_eq_cons h1, rest_eq_cons h2]
                rfl
          · rfl
      · rfl
  · rfl

theorem parameter?_of_closed (h : i < s.size)
    (opens : s.tokens[i].kind = .mark .beginParameter)
    (holds : Bracket.parameter.Holds inner) (closes : closing.kind = .mark .endParameter)
    (front : s.rest (i + 1) = inner ++ closing :: later) :
    ReadsAs (s.parameter? i h) (.branch .parameter (inner.map .literal)) (inner.length + 2) [] := by
  rw [parameter?, if_pos opens]
  rcases Bracket.parameter_cases holds with rfl | ⟨name, rfl, isText⟩
  · have h1 := lt_size_of_rest front
    obtain ⟨rfl, _⟩ := (rest_cons_iff h1).1 front
    rw [dif_pos h1]
    split
    · exact ⟨_, rfl, rfl, rfl⟩
    · next name => simp [closes] at name
    · next other _ => exact absurd closes other
  · have h1 := lt_size_of_rest front
    obtain ⟨rfl, after⟩ := (rest_cons_iff h1).1 front
    have h2 := lt_size_of_rest after
    obtain ⟨rfl, _⟩ := (rest_cons_iff h2).1 after
    have plain : s.tokens[i + 1].unescape = s.tokens[i + 1] :=
      Token.unescape_of_not_isEscaped (by rw [isText]; rfl)
    rw [dif_pos h1]
    split
    · next other => simp [isText] at other
    · rw [dif_pos h2, if_pos closes]
      exact ⟨_, rfl, by simp [Node.literal, plain], rfl⟩
    · next other => exact absurd isText other

theorem item_of_optional {h : i < s.size} {node : Node} {consumed : Nat} {notices : List Notice}
    (reads : ReadsAs (s.optional? i h) node consumed notices) :
    ∃ m, s.item i h = ⟨m, notices⟩ ∧ m.node = node ∧ m.consumed = consumed := by
  obtain ⟨m, same, sameNode, sameConsumed⟩ := reads
  refine ⟨m, ?_, sameNode, sameConsumed⟩
  rw [item, same]
  apply Noted.ext <;> simp

theorem item_of_parameter {h : i < s.size} {node : Node} {consumed : Nat} {notices : List Notice}
    (other : s.tokens[i].kind ≠ .mark .beginOptional)
    (reads : ReadsAs (s.parameter? i h) node consumed notices) :
    ∃ m, s.item i h = ⟨m, notices⟩ ∧ m.node = node ∧ m.consumed = consumed := by
  obtain ⟨m, same, sameNode, sameConsumed⟩ := reads
  refine ⟨m, ?_, sameNode, sameConsumed⟩
  rw [item, optional?_of_ne h other, same]
  apply Noted.ext <;> simp

theorem item_of_enclosed {b : Bracket} {opening : Token} (h : i < s.size)
    (fits : (Piece.enclosed b opening inner closing).Fits later)
    (front : s.rest i = (Piece.enclosed b opening inner closing).tokens ++ later) :
    ∃ m, s.item i h = ⟨m, (Piece.enclosed b opening inner closing).notices i⟩ ∧
      m.node = (Piece.enclosed b opening inner closing).node ∧
      m.consumed = inner.length + 2 := by
  obtain ⟨opens, holds, closes⟩ := fits
  have split : s.rest i = opening :: (inner ++ closing :: later) := by
    simp [front, Piece.tokens]
  obtain ⟨rfl, after⟩ := (rest_cons_iff h).1 split
  cases b with
  | optional => exact item_of_optional (optional?_of_closed h opens holds closes after)
  | parameter =>
      refine item_of_parameter ?_ (parameter?_of_closed h opens holds closes after)
      rw [opens]
      decide

theorem item_of_single (h : i < s.size) (fits : (Piece.single t).Fits later)
    (front : s.rest i = t :: later) :
    s.item i h = ⟨s.text i h, (Piece.single t).notices i⟩ := by
  obtain ⟨rfl, rfl⟩ := (rest_cons_iff h).1 front
  by_cases group : s.tokens[i].kind = .mark .beginOptional
  · have other : s.tokens[i].kind ≠ .mark .beginParameter := by
      rw [group]
      decide
    rw [item, optional?_of_unclosed h group (fits .optional group), parameter?_of_ne h other]
    apply Noted.ext <;> simp [Piece.notices, group]
  · by_cases parameter : s.tokens[i].kind = .mark .beginParameter
    · rw [item, optional?_of_ne h group,
        parameter?_of_unclosed h parameter (fits .parameter parameter)]
      apply Noted.ext <;> simp [Piece.notices, parameter]
    · rw [item, optional?_of_ne h group, parameter?_of_ne h parameter]
      apply Noted.ext
      · simp
      · simp only [Noted.notices_bind, Noted.notices_pure, Piece.notices]
        split <;> simp_all

theorem item_of_fits {p : Piece} (h : i < s.size) (fits : p.Fits later)
    (front : s.rest i = p.tokens ++ later) :
    ∃ m, s.item i h = ⟨m, p.notices i⟩ ∧ m.node = p.node ∧ m.consumed = p.tokens.length := by
  cases p with
  | enclosed b opening inner closing =>
      rw [Piece.length_tokens_enclosed]
      exact item_of_enclosed h fits front
  | single t =>
      obtain ⟨rfl, _⟩ := (rest_cons_iff h).1 front
      exact ⟨s.text i h, item_of_single h fits front, rfl, rfl⟩

theorem run_of_nil (front : s.rest i = []) : s.run i = pure (.empty i) := by
  have length := s.length_rest i
  rw [front, List.length_nil] at length
  rw [run, dif_neg (by omega)]

theorem run_of_space (front : s.rest i = t :: later) (space : t.kind = .mark .whiteSpace) :
    s.run i = pure (.empty i) := by
  have h := lt_size_of_rest front
  obtain ⟨rfl, _⟩ := (rest_cons_iff h).1 front
  rw [run, dif_pos h, space]

theorem run_of_separator (front : s.rest i = t :: later)
    (separator : t.kind = .mark .alternation) : s.run i = Run.split <$> s.run (i + 1) := by
  have h := lt_size_of_rest front
  obtain ⟨rfl, _⟩ := (rest_cons_iff h).1 front
  rw [run, dif_pos h, separator]

theorem run_of_fits {p : Piece} (fits : p.Fits later) (front : s.rest i = p.tokens ++ later)
    (inside : Piece.assembly.isSpace p = false) (item : Piece.assembly.isSeparator p = false) :
    s.run i = ⟨(s.run (i + p.tokens.length)).value.push p.node,
      p.notices i ++ (s.run (i + p.tokens.length)).notices⟩ := by
  obtain ⟨t, ts, tokens⟩ := List.exists_cons_of_ne_nil p.tokens_ne_nil
  have split := front
  rw [tokens, List.cons_append] at split
  have h := lt_size_of_rest split
  obtain ⟨rfl, _⟩ := (rest_cons_iff h).1 split
  have notSpace := p.kind_ne_space fits tokens inside
  have notSeparator := p.kind_ne_separator fits tokens item
  obtain ⟨m, same, sameNode, sameConsumed⟩ := item_of_fits h fits front
  rw [run, dif_pos h]
  split
  · next space => exact absurd space notSpace
  · next separator => exact absurd separator notSeparator
  · rw [same, ← sameNode, ← sameConsumed]
    rfl

theorem run_of_border {back : List Piece}
    (border : ∀ p ∈ back.head?, Piece.assembly.isSpace p = true)
    (tokens : s.rest i = back.flatMap Piece.tokens) : s.run i = pure (.empty i) := by
  cases back with
  | nil => exact run_of_nil tokens
  | cons p back =>
      have space := border p rfl
      cases p with
      | enclosed => cases space
      | single t => exact run_of_space tokens (of_decide_eq_true space)

theorem run_of_fitting {front back : List Piece} (fitting : Piece.Fitting (front ++ back))
    (inside : ∀ p ∈ front, Piece.assembly.isSpace p = false)
    (border : ∀ p ∈ back.head?, Piece.assembly.isSpace p = true)
    (tokens : s.rest i = (front ++ back).flatMap Piece.tokens) :
    (s.run i).value.first :: (s.run i).value.others = Piece.assembly.alternatives front ∧
      (s.run i).value.stop = i + (front.flatMap Piece.tokens).length ∧
      (s.run i).notices = Piece.noticesFrom i front := by
  induction front generalizing i with
  | nil =>
      rw [run_of_border border tokens]
      exact ⟨rfl, rfl, rfl⟩
  | cons p front ih =>
      rw [List.cons_append, List.flatMap_cons] at tokens
      rcases ih fitting.2
        (fun q member => inside q (List.mem_cons_of_mem p member)) (rest_add tokens)
        with ⟨alternatives, stop, notices⟩
      have length : ((p :: front).flatMap Piece.tokens).length =
          p.tokens.length + (front.flatMap Piece.tokens).length := by simp
      rw [length, ← Nat.add_assoc, ← stop, Piece.noticesFrom, ← notices]
      cases separator : Piece.assembly.isSeparator p with
      | true =>
          cases p with
          | enclosed => cases separator
          | single t =>
              have kind : t.kind = .mark .alternation := of_decide_eq_true separator
              rw [run_of_separator tokens kind,
                Assembly.alternatives_cons_separator _ separator, ← alternatives]
              refine ⟨rfl, rfl, ?_⟩
              simp [Piece.notices, Piece.tokens, kind]
      | false =>
          rw [run_of_fits fitting.1 tokens (inside p List.mem_cons_self) separator,
            Assembly.alternatives_cons_item _ separator, ← alternatives]
          exact ⟨rfl, rfl, rfl⟩

theorem nodes_of_alternatives {r : Run} {stretch : List Piece}
    (same : r.first :: r.others = Piece.assembly.alternatives stretch) :
    r.nodes = Piece.assembly.stretchNodes stretch := by
  rw [Assembly.stretchNodes, ← same, Run.nodes]
  cases r.others <;> rfl

theorem nodesFrom_of_space (h : i < s.size) (space : s.tokens[i].kind = .mark .whiteSpace) :
    s.nodesFrom i = (fun (later, stop) => (.leaf s.tokens[i] :: later, stop)) <$>
      s.nodesFrom (i + 1) := by
  rw [nodesFrom, dif_pos h, dif_pos space]

theorem nodesFrom_of_run (h : i < s.size) (inside : s.tokens[i].kind ≠ .mark .whiteSpace) :
    s.nodesFrom i = ⟨((s.run i).value.nodes ++ (s.nodesFrom (s.run i).value.stop).value.1,
        (s.nodesFrom (s.run i).value.stop).value.2),
      (s.run i).notices ++ (s.nodesFrom (s.run i).value.stop).notices⟩ := by
  rw [nodesFrom, dif_pos h, dif_neg inside]
  rfl

theorem nodesFrom_of_fitting {ps : List Piece} (fitting : Piece.Fitting ps)
    (tokens : s.rest i = ps.flatMap Piece.tokens) :
    s.nodesFrom i = ⟨(Piece.assembly.nodes ps, i + (ps.flatMap Piece.tokens).length),
      Piece.noticesFrom i ps⟩ := by
  induction ps using Piece.assembly.induction_stretches generalizing i with
  | nil =>
      have length := s.length_rest i
      rw [tokens, List.flatMap_nil, List.length_nil] at length
      rw [nodesFrom, dif_neg (by omega)]
      rfl
  | space p row space ih =>
      cases p with
      | enclosed => cases space
      | single t =>
          have kind : t.kind = .mark .whiteSpace := of_decide_eq_true space
          have h := lt_size_of_rest tokens
          obtain ⟨rfl, after⟩ := (rest_cons_iff h).1 tokens
          rw [nodesFrom_of_space h kind, ih fitting.2 after, Assembly.nodes_cons_space _ space,
            Piece.stretchNodes_space kind]
          apply Noted.ext
          · simp [Piece.tokens]
            omega
          · simp [Piece.noticesFrom, Piece.notices, Piece.tokens, kind]
  | stretch front row nonempty inside border ih =>
      obtain ⟨alternatives, stop, notices⟩ := run_of_fitting fitting inside border tokens
      have stretch := nodes_of_alternatives alternatives
      have here : ∃ h : i < s.size, s.tokens[i].kind ≠ .mark .whiteSpace := by
        cases front with
        | nil => exact absurd rfl nonempty
        | cons p front =>
            obtain ⟨t, ts, same⟩ := List.exists_cons_of_ne_nil p.tokens_ne_nil
            simp only [List.cons_append, List.flatMap_cons, same] at tokens
            have h := lt_size_of_rest tokens
            obtain ⟨rfl, _⟩ := (rest_cons_iff h).1 tokens
            exact ⟨h, p.kind_ne_space fitting.1 same (inside p List.mem_cons_self)⟩
      obtain ⟨h, notSpace⟩ := here
      have later := ih fitting.right (rest_add (by rw [tokens, List.flatMap_append]))
      rw [nodesFrom_of_run h notSpace, stop, notices, stretch, later, Piece.noticesFrom_append,
        Assembly.nodes_append _ nonempty inside border, List.flatMap_append, List.length_append,
        Nat.add_assoc]

end Scope

/-- A sequence of fitting pieces is parsed into the nodes and the notices of the pieces. -/
theorem parseTokens_of_fitting {ps : List Piece} (fitting : Piece.Fitting ps) :
    parseTokens (ps.flatMap Piece.tokens) =
      ⟨.branch .expression (Piece.assembly.nodes ps), Piece.noticesFrom 0 ps⟩ := by
  have nodes := Scope.nodesFrom_of_fitting fitting (Scope.rest_ofTokens_zero _)
  rw [parseTokens, Scope.expression, nodes]
  rfl

end CucumberExpressions
