import CucumberExpressions.Proofs.Layout
import CucumberExpressions.Proofs.Reading
import Mathlib.Data.Set.Basic
import Mathlib.Order.Bounds.Defs

/-! Scanning: the table of closes against a look at every token. Each entry of the table is the
first close at or after its position; and parsing that has no table, but goes from each opening
bracket through the tokens behind it until they close it, gives the same tree and the same
notices. -/

namespace CucumberExpressions

/-- The positions at or after `i` at which a group can close. An escaped close is none of them. -/
def closesFrom (ts : List Token) (i : Nat) : Set Nat :=
  {j | i ≤ j ∧ Layout.hasKind ts (.mark .endOptional) j}

theorem add_mem_closesFrom_iff {ts : List Token} {i n : Nat} :
    i + n ∈ closesFrom ts i ↔ ∃ h : n < (ts.drop i).length, (ts.drop i)[n].isClose := by
  have here : i + n ∈ closesFrom ts i ↔ ∃ t, (ts.drop i)[n]? = some t ∧ t.isClose := by
    simp [closesFrom, Layout.hasKind_iff, Token.isClose]
  rw [here]
  constructor
  · rintro ⟨t, at_n, closes⟩
    obtain ⟨h, rfl⟩ := List.getElem?_eq_some_iff.1 at_n
    exact ⟨h, closes⟩
  · rintro ⟨h, closes⟩
    exact ⟨_, List.getElem?_eq_getElem h, closes⟩

theorem nearestClose?_eq_some_iff {ts : List Token} {i j : Nat} :
    nearestClose? ts i = some j ↔ IsLeast (closesFrom ts i) j := by
  constructor
  · intro found
    obtain ⟨n, first, rfl⟩ := Option.map_eq_some_iff.1 found
    obtain ⟨h, closes, before⟩ := List.findIdx?_eq_some_iff_getElem.1 first
    refine ⟨add_mem_closesFrom_iff.2 ⟨h, closes⟩, ?_⟩
    intro j member
    obtain ⟨m, rfl⟩ := Nat.exists_eq_add_of_le member.1
    obtain ⟨_, closesM⟩ := add_mem_closesFrom_iff.1 member
    by_contra early
    exact before m (by omega) closesM
  · intro least
    obtain ⟨n, rfl⟩ := Nat.exists_eq_add_of_le least.1.1
    obtain ⟨h, closes⟩ := add_mem_closesFrom_iff.1 least.1
    refine Option.map_eq_some_iff.2 ⟨n, List.findIdx?_eq_some_iff_getElem.2 ⟨h, closes, ?_⟩, rfl⟩
    intro m early closesM
    have atLeast := least.2 (add_mem_closesFrom_iff.2 ⟨by omega, closesM⟩)
    omega

theorem nearestClose?_eq_none_iff {ts : List Token} {i : Nat} :
    nearestClose? ts i = none ↔ closesFrom ts i = ∅ := by
  rw [nearestClose?, Option.map_eq_none_iff, List.findIdx?_eq_none_iff,
    Set.eq_empty_iff_forall_notMem]
  constructor
  · intro unclosed j member
    obtain ⟨n, rfl⟩ := Nat.exists_eq_add_of_le member.1
    obtain ⟨h, closes⟩ := add_mem_closesFrom_iff.1 member
    rw [unclosed _ (List.getElem_mem h)] at closes
    cases closes
  · intro empty t member
    obtain ⟨n, h, rfl⟩ := List.mem_iff_getElem.1 member
    by_contra closes
    exact empty (i + n) (add_mem_closesFrom_iff.2 ⟨h, by simpa using closes⟩)

theorem Scope.getElem?_closes_ofTokens {ts : List Token} {i : Nat} (h : i ≤ ts.length) :
    (ofTokens ts).closes[i]? = some (nearestClose? ts i) := by
  have entry := getElem?_closeTable 0 ts i h
  simpa [ofTokens] using entry

theorem Scope.getElem?_closes_eq_some_iff {ts : List Token} {i j : Nat} :
    (ofTokens ts).closes[i]? = some (some j) ↔ IsLeast (closesFrom ts i) j := by
  by_cases h : i ≤ ts.length
  · rw [getElem?_closes_ofTokens h, Option.some.injEq, nearestClose?_eq_some_iff]
  · have outside : (ofTokens ts).closes.size ≤ i := by
      rw [size_closes, size_ofTokens]
      omega
    rw [Array.getElem?_eq_none outside]
    refine iff_of_false (fun found => by cases found) fun least => ?_
    have inside := Layout.lt_length_of_hasKind least.1.2
    have start := least.1.1
    omega

theorem Scope.getElem?_closes_eq_none_iff {ts : List Token} {i : Nat} (h : i ≤ ts.length) :
    (ofTokens ts).closes[i]? = some none ↔ closesFrom ts i = ∅ := by
  rw [getElem?_closes_ofTokens h, Option.some.injEq, nearestClose?_eq_none_iff]

theorem closeTable_of_holds (start : Nat) {inner : List Token}
    (holds : Bracket.optional.Holds inner) :
    closeTable start inner = List.replicate (inner.length + 1) none := by
  induction inner generalizing start with
  | nil => rfl
  | cons t inner ih =>
      have other : t.isClose = false := by
        simpa [Token.isClose] using holds t List.mem_cons_self
      have later := ih (start + 1) fun u member => holds u (List.mem_cons_of_mem t member)
      rw [closeTable, later, other, List.length_cons, List.replicate_succ]
      rfl

theorem exists_front_of_isLeast {ts : List Token} {i j : Nat}
    (least : IsLeast (closesFrom ts i) j) :
    ∃ inner later, Bracket.optional.Holds inner ∧ ts.drop i = inner ++ later ∧
      j = i + inner.length := by
  obtain ⟨n, rfl⟩ := Nat.exists_eq_add_of_le least.1.1
  obtain ⟨bound, _⟩ := add_mem_closesFrom_iff.1 least.1
  refine ⟨(ts.drop i).take n, (ts.drop i).drop n, ?_, (List.take_append_drop n _).symm, ?_⟩
  · intro t member closes
    obtain ⟨m, h, rfl⟩ := List.mem_take_iff_getElem.1 member
    have early : i + m ∈ closesFrom ts i :=
      add_mem_closesFrom_iff.2 ⟨by omega, by simpa [Token.isClose] using closes⟩
    have atLeast := least.2 early
    omega
  · rw [List.length_take]
    omega

theorem Scope.closes_slice {ts : List Token} {i j : Nat} (least : IsLeast (closesFrom ts i) j) :
    ((ofTokens ts).slice i j).closes = Array.replicate (j - i + 1) none := by
  obtain ⟨inner, later, holds, front, rfl⟩ := exists_front_of_isLeast least
  have slice : (ofTokens ts).slice i (i + inner.length) = ofTokens inner := slice_of_rest front
  rw [slice, Nat.add_sub_cancel_left, ← List.toArray_replicate, ← closeTable_of_holds 0 holds]
  rfl

namespace Scanning

def scan : List Token → Option (List Token × List Token)
  | [] => none
  | t :: ts =>
    if t.kind = .mark .endOptional then some ([], ts)
    else (scan ts).map fun (inner, later) => (t :: inner, later)

def close? : Bracket → List Token → Option (List Token × List Token)
  | .optional, ts => scan ts
  | .parameter, ⟨_, .mark .endParameter⟩ :: later => some ([], later)
  | .parameter, ⟨name, .text⟩ :: ⟨_, .mark .endParameter⟩ :: later => some ([⟨name, .text⟩], later)
  | .parameter, _ => none

def inside : Bracket → List Bracket
  | .optional => [.optional]
  | .parameter => []

def unclosedNotice (i : Nat) : Bracket → Notice
  | .optional => .unmatchedOptional i
  | .parameter => .unclosedParameter i

variable {b : Bracket} {brackets : List Bracket} {t : Token} {ts inner later : List Token}
  {i : Nat}

theorem scan_append {c : Token} (holds : Bracket.optional.Holds inner)
    (closes : c.kind = .mark .endOptional) :
    scan (inner ++ c :: later) = some (inner, later) := by
  induction inner with
  | nil => rw [List.nil_append, scan, if_pos closes]
  | cons t inner ih =>
      obtain ⟨other, holdsLater⟩ := List.forall_mem_cons.1 holds
      rw [List.cons_append, scan, if_neg other, ih holdsLater]
      rfl

theorem exists_of_scan (found : scan ts = some (inner, later)) :
    Bracket.optional.Holds inner ∧ ∃ c, c.kind = .mark .endOptional ∧ ts = inner ++ c :: later := by
  induction ts generalizing inner with
  | nil => cases found
  | cons t ts ih =>
      rw [scan] at found
      split at found
      · next closes =>
          cases found
          exact ⟨List.forall_mem_nil _, t, closes, rfl⟩
      · next other =>
          obtain ⟨⟨front, behind⟩, foundLater, same⟩ := Option.map_eq_some_iff.1 found
          cases same
          obtain ⟨holds, c, closes, rfl⟩ := ih foundLater
          exact ⟨List.forall_mem_cons.2 ⟨other, holds⟩, c, closes, rfl⟩

theorem close?_append {c : Token} (holds : b.Holds inner) (closes : c.kind = .mark b.closing) :
    close? b (inner ++ c :: later) = some (inner, later) := by
  cases b with
  | optional => exact scan_append holds closes
  | parameter =>
      obtain ⟨text, kind⟩ := c
      cases closes
      obtain rfl | ⟨⟨name, _⟩, rfl, rfl⟩ := Bracket.parameter_cases holds <;> rfl

theorem exists_of_close? (found : close? b ts = some (inner, later)) :
    b.Holds inner ∧ ∃ c, c.kind = .mark b.closing ∧ ts = inner ++ c :: later := by
  cases b with
  | optional => exact exists_of_scan found
  | parameter =>
      unfold close? at found
      split at found
      · next nobody => cases nobody
      · cases found
        exact ⟨Or.inl rfl, _, rfl, rfl⟩
      · cases found
        exact ⟨Or.inr rfl, _, rfl, rfl⟩
      · cases found

theorem close?_eq_none (unclosed : ¬ b.ClosedBy ts) : close? b ts = none := by
  rw [Option.eq_none_iff_forall_ne_some]
  rintro ⟨inner, later⟩ found
  obtain ⟨holds, c, closes, tokens⟩ := exists_of_close? found
  exact unclosed ⟨inner, c, later, holds, closes, tokens⟩

theorem length_of_close? (found : close? b ts = some (inner, later)) :
    ts.length = inner.length + later.length + 1 := by
  obtain ⟨_, c, _, rfl⟩ := exists_of_close? found
  rw [List.length_append, List.length_cons]
  omega

inductive Item
  | single (token : Token)
  | enclosed (bracket : Bracket) (nodes : List Node)

namespace Item

def node : Item → Node
  | single t => .literal t
  | enclosed b nodes => .branch b.branch nodes

def isSingle (k : Kind) : Item → Bool
  | single t => t.kind = k
  | enclosed .. => false

def assembly : Assembly Item where
  isSpace := isSingle (.mark .whiteSpace)
  isSeparator := isSingle (.mark .alternation)
  node? item := some item.node

end Item

/-- The items of tokens of which the first stands at `i`. Nothing is looked up: where one of the
brackets opens, the tokens behind it are gone through anew for its close. What it encloses is read
in the same way, and counted from zero. -/
def items (brackets : List Bracket) (i : Nat) : List Token → Noted Notice (List Item)
  | [] => pure []
  | t :: ts =>
    match brackets.find? (t.kind = .mark ·.opening) with
    | none => (.single t :: ·) <$> items brackets (i + 1) ts
    | some b =>
      match _ : close? b ts with
      | none => do
        let item ← .note (unclosedNotice i b) (.single t)
        (item :: ·) <$> items brackets (i + 1) ts
      | some (inner, later) => do
        let enclosed ← items (inside b) 0 inner
        (.enclosed b (enclosed.map Item.node) :: ·) <$>
          items brackets (i + inner.length + 2) later
termination_by ts => ts.length
decreasing_by
  · exact Nat.lt_succ_self _
  · exact Nat.lt_succ_self _
  · have := length_of_close? ‹_›
    rw [List.length_cons]
    omega
  · have := length_of_close? ‹_›
    rw [List.length_cons]
    omega

def parse (ts : List Token) : Noted Notice Node :=
  (fun row => .branch .expression (Item.assembly.nodes row)) <$> items [.optional, .parameter] 0 ts

theorem opening_injective {b b' : Bracket} (same : b.opening = b'.opening) : b = b' := by
  cases b <;> cases b' <;> first | rfl | cases same

theorem find?_opening (listed : b ∈ brackets) (opens : t.kind = .mark b.opening) :
    brackets.find? (t.kind = .mark ·.opening) = some b := by
  cases found : brackets.find? (t.kind = .mark ·.opening) with
  | none => exact absurd (decide_eq_true opens) (List.find?_eq_none.1 found b listed)
  | some b' =>
      have first := List.find?_some found
      have opens' : t.kind = .mark b'.opening := of_decide_eq_true first
      rw [opening_injective (Kind.mark.inj (opens'.symm.trans opens))]

theorem items_nil : items brackets i [] = pure [] := by
  rw [items]

theorem items_cons_single (other : ∀ b ∈ brackets, t.kind ≠ .mark b.opening) :
    items brackets i (t :: ts) = (.single t :: ·) <$> items brackets (i + 1) ts := by
  have none : brackets.find? (t.kind = .mark ·.opening) = none := by
    simpa using other
  rw [items]
  simp only [none]

theorem items_cons_unclosed (listed : b ∈ brackets) (opens : t.kind = .mark b.opening)
    (unclosed : ¬ b.ClosedBy ts) :
    items brackets i (t :: ts) = ⟨.single t :: (items brackets (i + 1) ts).value,
      unclosedNotice i b :: (items brackets (i + 1) ts).notices⟩ := by
  rw [items]
  simp only [find?_opening listed opens]
  split
  · rfl
  · next found =>
      rw [close?_eq_none unclosed] at found
      cases found

theorem items_cons_closed {c : Token} (listed : b ∈ brackets) (opens : t.kind = .mark b.opening)
    (holds : b.Holds inner) (closes : c.kind = .mark b.closing) :
    items brackets i (t :: (inner ++ c :: later)) =
      ⟨.enclosed b ((items (inside b) 0 inner).value.map Item.node) ::
          (items brackets (i + inner.length + 2) later).value,
        (items (inside b) 0 inner).notices ++
          (items brackets (i + inner.length + 2) later).notices⟩ := by
  have found : close? b (inner ++ c :: later) = some (inner, later) := close?_append holds closes
  rw [items]
  simp only [find?_opening listed opens]
  split
  · next none =>
      rw [found] at none
      cases none
  · next again =>
      rw [found] at again
      cases again
      rfl

theorem items_of_holds (holds : Bracket.optional.Holds inner) :
    items [.optional] i inner = ⟨inner.map .single, Piece.unmatchedFrom i inner⟩ := by
  induction inner generalizing i with
  | nil => exact items_nil
  | cons t inner ih =>
      obtain ⟨_, holdsLater⟩ := List.forall_mem_cons.1 holds
      have later := ih (i := i + 1) holdsLater
      by_cases opens : t.kind = .mark .beginOptional
      · have unclosed : ¬ Bracket.optional.ClosedBy inner := by
          rw [Bracket.closedBy_optional_iff]
          rintro ⟨u, member, closes⟩
          exact holdsLater u member closes
        rw [items_cons_unclosed (b := .optional) List.mem_cons_self opens unclosed, later,
          Piece.unmatchedFrom, if_pos opens]
        rfl
      · have other : ∀ b ∈ [Bracket.optional], t.kind ≠ .mark b.opening :=
          List.forall_mem_singleton.2 opens
        rw [items_cons_single other, later, Piece.unmatchedFrom, if_neg opens]
        rfl

theorem items_no_brackets (ts : List Token) : items [] i ts = ⟨ts.map .single, []⟩ := by
  induction ts generalizing i with
  | nil => exact items_nil
  | cons t ts ih =>
      rw [items_cons_single (List.forall_mem_nil _), ih]
      rfl

theorem items_inside (holds : b.Holds inner) (o c : Token) (j : Nat) :
    items (inside b) 0 inner = ⟨inner.map .single, (Piece.enclosed b o inner c).notices j⟩ := by
  cases b with
  | optional => exact items_of_holds holds
  | parameter => exact items_no_brackets inner

def Item.ofPiece : Piece → Item
  | .enclosed b _ inner _ => .enclosed b (inner.map .literal)
  | .single t => .single t

theorem mem_brackets (b : Bracket) : b ∈ [Bracket.optional, .parameter] := by
  cases b <;> decide

theorem notices_of_opening (opens : t.kind = .mark b.opening) :
    (Piece.single t).notices i = [unclosedNotice i b] := by
  cases b <;> rw [Piece.notices, opens] <;> rfl

theorem items_of_fitting {ps : List Piece} (fitting : Piece.Fitting ps) :
    items [.optional, .parameter] i (ps.flatMap Piece.tokens) =
      ⟨ps.map Item.ofPiece, Piece.noticesFrom i ps⟩ := by
  induction ps generalizing i with
  | nil => exact items_nil
  | cons p ps ih =>
      obtain ⟨fits, fittingLater⟩ := fitting
      rw [List.flatMap_cons, Piece.noticesFrom]
      cases p with
      | enclosed b o inner c =>
          obtain ⟨opens, holds, closes⟩ := fits
          have tokens : (Piece.enclosed b o inner c).tokens ++ ps.flatMap Piece.tokens =
              o :: (inner ++ c :: ps.flatMap Piece.tokens) := by simp [Piece.tokens]
          have nodes : (inner.map Item.single).map Item.node = inner.map .literal := by
            rw [List.map_map]
            rfl
          rw [tokens, items_cons_closed (mem_brackets b) opens holds closes,
            items_inside holds o c i, ih fittingLater, Piece.length_tokens_enclosed, nodes]
          rfl
      | single t =>
          change items [.optional, .parameter] i (t :: ps.flatMap Piece.tokens) = _
          by_cases opens : ∃ b : Bracket, t.kind = .mark b.opening
          · obtain ⟨b, opens⟩ := opens
            rw [items_cons_unclosed (mem_brackets b) opens (fits b opens), ih fittingLater,
              notices_of_opening opens]
            rfl
          · have other : ∀ b : Bracket, t.kind ≠ .mark b.opening := not_exists.1 opens
            rw [items_cons_single fun b _ => other b, ih fittingLater,
              Piece.notices_of_not_opening other]
            rfl

theorem nodes_ofPiece (ps : List Piece) :
    Item.assembly.nodes (ps.map Item.ofPiece) = Piece.assembly.nodes ps := by
  apply Assembly.nodes_map
  · intro p _
    cases p <;> rfl
  · intro p _
    cases p <;> rfl
  · intro p _
    cases p <;> rfl

theorem parse_eq (ts : List Token) : parse ts = parseTokens ts := by
  obtain ⟨ps, fitting, rfl⟩ := Piece.exists_fitting ts
  rw [parse, items_of_fitting fitting, parseTokens_of_fitting fitting]
  apply Noted.ext
  · exact congrArg (Node.branch .expression) (nodes_ofPiece ps)
  · rfl

end Scanning

/-- The table agrees with a look at every token. It has an entry for each position and one for the
end, which is the first position from there on at which a group can close, and is empty where there
is none; a slice up to such a position has an empty table; and parsing with a scan for the close of
each opening bracket gives the tree and the notices that parsing with the table gives. -/
theorem close_table_agrees_with_scan (ts : List Token) :
    (Scope.ofTokens ts).closes.size = ts.length + 1 ∧
    (∀ i ≤ ts.length,
      (∀ j, (Scope.ofTokens ts).closes[i]? = some (some j) ↔ IsLeast (closesFrom ts i) j) ∧
      ((Scope.ofTokens ts).closes[i]? = some none ↔ closesFrom ts i = ∅)) ∧
    (∀ i j, (Scope.ofTokens ts).closes[i]? = some (some j) →
      ((Scope.ofTokens ts).slice i j).closes = Array.replicate (j - i + 1) none) ∧
    Scanning.parse ts = parseTokens ts := by
  refine ⟨?_, ?_, ?_, Scanning.parse_eq ts⟩
  · rw [Scope.size_closes, Scope.size_ofTokens]
  · intro i h
    exact ⟨fun _ => Scope.getElem?_closes_eq_some_iff, Scope.getElem?_closes_eq_none_iff h⟩
  · intro i j found
    exact Scope.closes_slice (Scope.getElem?_closes_eq_some_iff.1 found)

def twoCloses : List Token :=
  [⟨"(", .mark .beginOptional⟩, ⟨"\\)", .escaped .endOptional⟩, ⟨")", .mark .endOptional⟩,
    ⟨"b", .text⟩, ⟨")", .mark .endOptional⟩]

theorem close_table_agrees_with_scan_twoCloses :
    (0 ≤ twoCloses.length ∧ IsLeast (closesFrom twoCloses 0) 2) ∧
    (5 ≤ twoCloses.length ∧ closesFrom twoCloses 5 = ∅) ∧
    (Scope.ofTokens twoCloses).closes[0]? = some (some 2) ∧
      ((Scope.ofTokens twoCloses).slice 0 2).closes = #[none, none, none] := by
  obtain ⟨_, entries, slices, _⟩ := close_table_agrees_with_scan twoCloses
  have first : (Scope.ofTokens twoCloses).closes[0]? = some (some 2) := by decide
  have last : (Scope.ofTokens twoCloses).closes[5]? = some none := by decide
  have least := ((entries 0 (by decide)).1 2).1 first
  have none := (entries 5 (by decide)).2.1 last
  exact ⟨⟨by decide, least⟩, ⟨by decide, none⟩, first, slices 0 2 first⟩

end CucumberExpressions
