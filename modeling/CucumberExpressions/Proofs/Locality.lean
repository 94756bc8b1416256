import CucumberExpressions.Proofs.LayoutNotices

/-! Locality: a match depends on the tokens that it takes and not on those around them, and a run on
what follows its start. Only the notices outside groups tell where they are read. -/

namespace CucumberExpressions

def Construct.Takes : Construct → Piece → Prop
  | .text, .single _ => True
  | .optional, .enclosed .optional o inner c => (Piece.enclosed .optional o inner c).Fits []
  | .parameter, .enclosed .parameter o inner c => (Piece.enclosed .parameter o inner c).Fits []
  | _, _ => False

/-- The notices for what a piece holds. An opening bracket on its own is text, without a notice. -/
def Piece.innerNotices : Piece → List Notice
  | enclosed .optional _ inner _ => unmatchedFrom 0 inner
  | _ => []

namespace Scope

variable {s : Scope} {i : Nat} {c : Construct} {p : Piece} {later : List Token}

theorem read_of_takes (takes : c.Takes p) (front : s.rest i = p.tokens ++ later) :
    ∃ m, s.read c i = .ok ⟨some m, p.innerNotices⟩ ∧ m.node = p.node ∧
      m.consumed = p.tokens.length := by
  match c, p, takes with
  | .text, .single t, _ =>
      have h := lt_size_of_rest front
      obtain ⟨rfl, _⟩ := (rest_cons_iff h).1 front
      exact ⟨s.text i h, dif_pos h, rfl, rfl⟩
  | .optional, .enclosed .optional o inner closing, ⟨opens, holds, closes⟩ =>
      have split : s.rest i = o :: (inner ++ closing :: later) := by simp [front, Piece.tokens]
      have h := lt_size_of_rest split
      obtain ⟨rfl, after⟩ := (rest_cons_iff h).1 split
      obtain ⟨m, reads, node, consumed⟩ := optional?_of_closed h opens holds closes after
      refine ⟨m, ?_, node, by rw [consumed, Piece.length_tokens_enclosed]⟩
      rw [read, dif_pos h, reads]
      rfl
  | .parameter, .enclosed .parameter o inner closing, ⟨opens, holds, closes⟩ =>
      have split : s.rest i = o :: (inner ++ closing :: later) := by simp [front, Piece.tokens]
      have h := lt_size_of_rest split
      obtain ⟨rfl, after⟩ := (rest_cons_iff h).1 split
      obtain ⟨m, reads, node, consumed⟩ := parameter?_of_closed h opens holds closes after
      refine ⟨m, ?_, node, by rw [consumed, Piece.length_tokens_enclosed]⟩
      rw [read, dif_pos h, reads]
      rfl

theorem exists_enclosed_of_match {b : Bracket} {h : i < s.size}
    {x : Noted Notice (Option (s.MatchAt i))} {m : s.MatchAt i}
    (ofNe : s.tokens[i].kind ≠ .mark b.opening → x.value = none)
    (ofUnclosed : s.tokens[i].kind = .mark b.opening → ¬ b.ClosedBy (s.rest (i + 1)) →
      x.value = none) (found : x.value = some m) :
    ∃ inner closing later, (Piece.enclosed b s.tokens[i] inner closing).Fits [] ∧
      s.rest i = (Piece.enclosed b s.tokens[i] inner closing).tokens ++ later := by
  have opens : s.tokens[i].kind = .mark b.opening := by
    by_contra other
    rw [ofNe other] at found
    cases found
  have closed : b.ClosedBy (s.rest (i + 1)) := by
    by_contra unclosed
    rw [ofUnclosed opens unclosed] at found
    cases found
  obtain ⟨inner, closing, later, holds, closes, after⟩ := closed
  refine ⟨inner, closing, later, ⟨opens, holds, closes⟩, ?_⟩
  rw [rest_eq_cons h, after]
  simp [Piece.tokens]

theorem takes_of_read {x : Noted Notice (Option (s.MatchAt i))} {m : s.MatchAt i}
    (reads : s.read c i = .ok x) (found : x.value = some m) :
    ∃ p later, c.Takes p ∧ s.rest i = p.tokens ++ later := by
  by_cases h : i < s.size
  · rw [read, dif_pos h, Except.ok.injEq] at reads
    cases c with
    | text => exact ⟨.single s.tokens[i], s.rest (i + 1), trivial, rest_eq_cons h⟩
    | optional =>
        obtain ⟨inner, closing, later, fits, front⟩ := exists_enclosed_of_match (b := .optional)
          (fun other => by rw [← reads, optional?_of_ne h other]; rfl)
          (fun opens unclosed => by rw [← reads, optional?_of_unclosed h opens unclosed]; rfl) found
        exact ⟨.enclosed .optional s.tokens[i] inner closing, later, fits, front⟩
    | parameter =>
        obtain ⟨inner, closing, later, fits, front⟩ := exists_enclosed_of_match (b := .parameter)
          (fun other => by rw [← reads, parameter?_of_ne h other]; rfl)
          (fun opens unclosed => by rw [← reads, parameter?_of_unclosed h opens unclosed]; rfl) found
        exact ⟨.enclosed .parameter s.tokens[i] inner closing, later, fits, front⟩
  · rw [read, dif_neg h] at reads
    cases reads

theorem read_between {ts : List Token} {x : Noted Notice (Option ((ofTokens ts).MatchAt i))}
    {m : (ofTokens ts).MatchAt i} (reads : (ofTokens ts).read c i = .ok x)
    (found : x.value = some m) (before after : List Token) :
    ∃ m', (ofTokens (before ++ (ts.drop i).take m.consumed ++ after)).read c before.length =
        .ok ⟨some m', x.notices⟩ ∧ m'.consumed = m.consumed ∧ m'.node = m.node := by
  obtain ⟨p, later, takes, front⟩ := takes_of_read reads found
  obtain ⟨m₀, here, node, consumed⟩ := read_of_takes takes front
  rw [reads, Except.ok.injEq] at here
  subst here
  obtain rfl : m₀ = m := Option.some.inj found
  have tokens : (ts.drop i).take m₀.consumed = p.tokens := by
    have same : ts.drop i = p.tokens ++ later := front
    rw [same, consumed, List.take_left]
  have there : (ofTokens (before ++ p.tokens ++ after)).rest before.length = p.tokens ++ after := by
    rw [rest, toList_tokens_ofTokens, List.append_assoc, List.drop_left]
  obtain ⟨m', reads', node', consumed'⟩ := read_of_takes takes there
  rw [tokens]
  exact ⟨m', reads', consumed'.trans consumed.symm, node'.trans node.symm⟩

end Scope

def Notice.shift (offset : Nat) : Notice → Notice
  | unmatchedOptional i => .unmatchedOptional (offset + i)
  | unclosedParameter i => .unclosedParameter (offset + i)

theorem Notice.shift_zero (n : Notice) : n.shift 0 = n := by
  cases n with
  | unmatchedOptional i => rw [shift, Nat.zero_add]
  | unclosedParameter i => rw [shift, Nat.zero_add]

namespace Layout

/-- The notice at a position as a scope tells it that starts some tokens earlier. What stands in a
group is counted from the start of the group's inside, wherever the group is. -/
def noticeAfter? (offset : Nat) (ts : List Token) (i : Nat) : Option Notice :=
  (notice? ts i).map fun n => if inGroup ts i then n else n.shift offset

theorem noticeAfter?_zero (ts : List Token) : noticeAfter? 0 ts = notice? ts := by
  funext i
  simp [noticeAfter?, Notice.shift_zero]

theorem noticeAfter?_inside {ts : List Token} {i : Nat} (inside : inGroup ts i = true)
    (offset : Nat) : noticeAfter? offset ts i = notice? ts i := by
  simp [noticeAfter?, inside]

theorem noticeAfter?_outside {ts : List Token} {i : Nat} (outside : inGroup ts i = false)
    (offset : Nat) : noticeAfter? offset ts i = (notice? ts i).map (Notice.shift offset) := by
  simp [noticeAfter?, outside]

end Layout

namespace Piece

open Layout

variable {p : Piece} {before front back after : List Piece}

theorem notices_of_isGroup (group : p.isGroup = true) (i j : Nat) : p.notices i = p.notices j := by
  match p, group with
  | enclosed .optional _ _ _, _ => rfl

theorem notices_add (other : p.isGroup = false) (offset i : Nat) :
    p.notices (offset + i) = (p.notices i).map (Notice.shift offset) := by
  match p, other with
  | enclosed .parameter _ _ _, _ => rfl
  | single t, _ =>
      rw [notices, notices]
      split <;> rfl

theorem filterMap_noticeAfter? (fitting : Fitting (before ++ p :: after)) (offset : Nat) :
    (List.range' (extent before) p.tokens.length).filterMap
        (noticeAfter? offset ((before ++ p :: after).flatMap tokens)) =
      p.notices (offset + extent before) := by
  have inside : ∀ i ∈ List.range' (extent before) p.tokens.length,
      inGroup ((before ++ p :: after).flatMap tokens) i = p.isGroup := by
    intro i member
    obtain ⟨atLeast, below⟩ := List.mem_range'_1.1 member
    obtain ⟨d, rfl⟩ := Nat.exists_eq_add_of_le atLeast
    exact inGroup_placed fitting (by omega)
  cases group : p.isGroup with
  | true =>
      rw [notices_of_isGroup group _ (extent before), ← filterMap_notice? fitting]
      apply List.filterMap_congr
      intro i member
      exact noticeAfter?_inside ((inside i member).trans group) offset
  | false =>
      rw [notices_add group, ← filterMap_notice? fitting, List.map_filterMap]
      apply List.filterMap_congr
      intro i member
      exact noticeAfter?_outside ((inside i member).trans group) offset

theorem noticesFrom_after (before : List Piece) (fitting : Fitting (before ++ (front ++ back)))
    (offset : Nat) : noticesFrom (offset + extent before) front =
      (List.range' (extent before) (extent front)).filterMap
        (noticeAfter? offset ((before ++ (front ++ back)).flatMap tokens)) := by
  induction front generalizing before with
  | nil => rfl
  | cons p front ih =>
      rw [List.cons_append] at fitting ⊢
      have later := ih (before ++ [p]) (by rwa [List.append_assoc])
      rw [List.append_assoc, extent_append, extent_cons, extent_nil, ← Nat.add_assoc] at later
      rw [noticesFrom, extent_cons, ← List.range'_append_1, List.filterMap_append,
        filterMap_noticeAfter? fitting]
      exact congrArg _ later

theorem exists_first_run (ts : List Token) :
    ∃ front back, Fitting (front ++ back) ∧ (∀ p ∈ front, assembly.isSpace p = false) ∧
      (∀ p ∈ back.head?, assembly.isSpace p = true) ∧ (front ++ back).flatMap tokens = ts := by
  obtain ⟨ps, fitting, tokens⟩ := exists_fitting ts
  obtain ⟨back, cut, border, inside⟩ := assembly.exists_firstStretch ps
  rw [cut] at fitting tokens
  exact ⟨assembly.firstStretch ps, back, fitting, inside, border, tokens⟩

end Piece

theorem Cursor.parseRun_of_fitting {c : Cursor} {front back : List Piece}
    (fitting : Piece.Fitting (front ++ back))
    (inside : ∀ p ∈ front, Piece.assembly.isSpace p = false)
    (border : ∀ p ∈ back.head?, Piece.assembly.isSpace p = true)
    (tokens : c.scope.rest c.position = (front ++ back).flatMap Piece.tokens) :
    c.parseRun = ⟨(Piece.assembly.stretchNodes front, c.seek (c.position + Piece.extent front)),
      Piece.noticesFrom c.position front⟩ := by
  obtain ⟨alternatives, stop, notices⟩ := Scope.run_of_fitting fitting inside border tokens
  apply Noted.ext
  · rw [parseRun, Noted.value_map, Scope.nodes_of_alternatives alternatives, stop]
    rfl
  · rw [parseRun, Noted.notices_map, notices]

/-- Reading is local. A construct that matches does so with the same outcome between any other
tokens; and a run from a position on is the run of the tokens from there on, but for the positions
of what is noted outside groups. -/
theorem reading_local :
    (∀ (c : Construct) (ts : List Token) (i : Nat)
        (x : Noted Notice (Option ((Scope.ofTokens ts).MatchAt i)))
        (m : (Scope.ofTokens ts).MatchAt i),
      (Scope.ofTokens ts).read c i = .ok x → x.value = some m →
      ∀ before after : List Token, ∃ m',
        (Scope.ofTokens (before ++ (ts.drop i).take m.consumed ++ after)).read c before.length =
            .ok ⟨some m', x.notices⟩ ∧ m'.consumed = m.consumed ∧ m'.node = m.node) ∧
    ∀ (ts : List Token) (i : Nat),
      ((Cursor.ofTokens ts).seek i).parseRun.value =
          ((Cursor.ofTokens (ts.drop i)).parseRun.value.1, (Cursor.ofTokens ts).seek
            (i + (Cursor.ofTokens (ts.drop i)).parseRun.value.2.position)) ∧
        (Cursor.ofTokens (ts.drop i)).parseRun.notices =
          (List.range (Cursor.ofTokens (ts.drop i)).parseRun.value.2.position).filterMap
            (Layout.notice? (ts.drop i)) ∧
        ((Cursor.ofTokens ts).seek i).parseRun.notices =
          (List.range (Cursor.ofTokens (ts.drop i)).parseRun.value.2.position).filterMap
            (Layout.noticeAfter? i (ts.drop i)) := by
  constructor
  · intro c ts i x m reads found before after
    exact Scope.read_between reads found before after
  · intro ts i
    obtain ⟨front, back, fitting, inside, border, tokens⟩ := Piece.exists_first_run (ts.drop i)
    have here : ((Cursor.ofTokens ts).seek i).parseRun = ⟨(Piece.assembly.stretchNodes front,
        (Cursor.ofTokens ts).seek (i + Piece.extent front)), Piece.noticesFrom i front⟩ :=
      Cursor.parseRun_of_fitting fitting inside border tokens.symm
    have fresh : (Cursor.ofTokens (ts.drop i)).parseRun = ⟨(Piece.assembly.stretchNodes front,
        (Cursor.ofTokens (ts.drop i)).seek (0 + Piece.extent front)),
        Piece.noticesFrom 0 front⟩ :=
      Cursor.parseRun_of_fitting fitting inside border tokens.symm
    have noted : ∀ offset, Piece.noticesFrom offset front =
        (List.range (Piece.extent front)).filterMap
          (Layout.noticeAfter? offset (ts.drop i)) := by
      intro offset
      have placed := Piece.noticesFrom_after [] fitting offset
      rwa [Piece.extent_nil, ← List.range_eq_range', Nat.add_zero, List.nil_append, tokens]
        at placed
    rw [here, fresh, noted, noted, Layout.noticeAfter?_zero, Nat.zero_add]
    exact ⟨rfl, rfl, rfl⟩

theorem reading_local_group :
    ∃ m : (Scope.ofTokens [⟨"(", .mark .beginOptional⟩, ⟨"(", .mark .beginOptional⟩,
        ⟨")", .mark .endOptional⟩]).MatchAt 0,
      (Scope.ofTokens [⟨"(", .mark .beginOptional⟩, ⟨"(", .mark .beginOptional⟩,
          ⟨")", .mark .endOptional⟩]).read .optional 0 =
        .ok ⟨some m, [.unmatchedOptional 0]⟩ ∧
      ∃ m', (Scope.ofTokens ([⟨"(", .mark .beginOptional⟩] ++
            ([⟨"(", .mark .beginOptional⟩, ⟨"(", .mark .beginOptional⟩,
              ⟨")", .mark .endOptional⟩] : List Token).take m.consumed ++
            [⟨")", .mark .endOptional⟩])).read .optional 1 =
          .ok ⟨some m', [.unmatchedOptional 0]⟩ ∧
        m'.consumed = m.consumed ∧ m'.node = m.node := by
  have takes : Construct.optional.Takes (.enclosed .optional ⟨"(", .mark .beginOptional⟩
      [⟨"(", .mark .beginOptional⟩] ⟨")", .mark .endOptional⟩) :=
    ⟨rfl, by simp [Bracket.Holds], rfl⟩
  have front : (Scope.ofTokens [⟨"(", .mark .beginOptional⟩, ⟨"(", .mark .beginOptional⟩,
      ⟨")", .mark .endOptional⟩]).rest 0 =
        (Piece.enclosed .optional ⟨"(", .mark .beginOptional⟩ [⟨"(", .mark .beginOptional⟩]
          ⟨")", .mark .endOptional⟩).tokens ++ [] := rfl
  obtain ⟨m, reads, -⟩ := Scope.read_of_takes takes front
  exact ⟨m, reads, reading_local.1 .optional _ 0 _ m reads rfl [_] [_]⟩

end CucumberExpressions
