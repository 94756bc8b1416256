import CucumberExpressions.Fixture.Check
import CucumberExpressions.Proofs.Guarded
import CucumberExpressions.Proofs.LayoutTree
import CucumberExpressions.Proofs.WellFormed

/-! Written data: tokens and well-formed trees that are written as data are read back, so a fixture
that is written from a parse is met. -/

namespace CucumberExpressions

theorem Token.check_toValue (t : Token) : Token.check t.toValue = .ok t :=
  Token.check_eq_ok_iff.2
    ⟨_, rfl, ⟨_, rfl, Or.inl rfl⟩, ⟨_, rfl, Or.inl rfl⟩⟩

theorem Token.checkAll_toValue (ts : List Token) :
    Token.checkAll (.seq (ts.map Token.toValue)) = .ok ts := by
  have found : (ts.map Token.toValue).map Token.check = ts.map .ok := by
    rw [List.map_map]
    exact List.map_congr_left fun t _ => t.check_toValue
  have explained : ∀ r ∈ (ts.map .ok : List (Checked Token)), r.Explained := by
    intro r member
    rcases List.mem_map.1 member with ⟨t, _, rfl⟩
    exact Checked.explained_ok t
  have none := (Checked.problems_mapIdx_eq_nil_iff explained).2 ⟨ts, rfl⟩
  simp only [Token.checkAll, found, none, Checked.filterMap_toOption_ok]

namespace Node

theorem toValue_leaf (t : Token) : (leaf t).toValue =
    .map [(.text "type", .text NodeKind.text.name), (.text "token", t.toValue)] := rfl

theorem toValue_branch (k : BranchKind) (children : List Node) : (branch k children).toValue =
    .map [(.text "type", .text (NodeKind.branch k).name),
      (.text "nodes", .seq (children.map toValue))] := fold_branch ..

end Node

namespace Expected

def kinds : Expected → List NodeKind
  | tagged kinds => kinds
  | plain kind => [kind]

theorem kinds_childOf (k : BranchKind) : (childOf k).kinds = k.childKinds := by
  cases k <;> rfl

theorem takes_of_tag {e : Expected} {es : Entries} {k : NodeKind} (expected : k ∈ e.kinds)
    (tag : es.field? "type" = some (.text k.name)) : e.Takes es k := by
  cases e with
  | tagged kinds => exact ⟨expected, tag⟩
  | plain kind =>
      refine ⟨List.mem_singleton.1 expected, ?_⟩
      intro v found
      rw [tag] at found
      exact (Option.some.inj found).symm

end Expected

theorem Node.WellFormed.conforms_toValue {n : Node} (wellFormed : n.WellFormed) {e : Expected}
    (expected : n.kind ∈ e.kinds) : Conforms e n.toValue n := by
  induction wellFormed generalizing e with
  | leaf plain =>
      exact .text (Expected.takes_of_tag expected rfl) rfl
        (Token.check_eq_ok_iff.1 (Token.check_toValue _)) plain
  | @branch k children kinds _ enough few ih =>
      have each : List.Forall₂ (Conforms (.childOf k)) (children.map Node.toValue) children := by
        rw [List.forall₂_map_left_iff, List.forall₂_same]
        intro c member
        apply ih c member
        rw [Expected.kinds_childOf]
        exact kinds c member
      rw [Node.toValue_branch, conforms_branch_iff]
      exact ⟨Expected.takes_of_tag expected rfl, _, Or.inl rfl, each, enough, few⟩

theorem Node.WellFormed.check_toValue {n : Node} (wellFormed : n.WellFormed) :
    Node.check n.toValue = .ok n :=
  (Expected.check_eq_ok_iff_conforms n .anyNode n.toValue).2
    (wellFormed.conforms_toValue n.kind.mem_all)

theorem Node.WellFormed.checkWithin_toValue {n : Node} (wellFormed : n.WellFormed) {guard : Guard}
    (passes : n.passes guard [] = true) : Node.checkWithin guard n.toValue = .ok n :=
  (Expected.checkWithin_eq_ok_iff n.toValue [] .anyNode n).2 ⟨wellFormed.check_toValue, passes⟩

theorem Node.WellFormed.checkAs_toValue {n : Node} (wellFormed : n.WellFormed) :
    Node.checkAs n.kind n.toValue = .ok n :=
  (Expected.check_eq_ok_iff_conforms n (.plain n.kind) n.toValue).2
    (wellFormed.conforms_toValue (List.mem_singleton_self _))

namespace Fixture

theorem check_of_fields {es : Entries} {s : String} {tokens? : Option (List Token)}
    {tree? : Option Node} {path? : Option Path}
    (expression : es.require "expression" Value.checkText = .ok s)
    (tokens : es.allow "expected_tokens" Token.checkAll = .ok tokens?)
    (tree : es.allow "expected_ast" (Node.checkWithin groupGuard) = .ok tree?)
    (path : es.allow "path" checkPath = .ok path?)
    (keys : ∀ entry ∈ es, keyProblem? entry.1 = none) :
    check (.map es) = .ok ⟨s, tokens?, tree?, path?⟩ := by
  have known : es.filterMap (fun entry => keyProblem? entry.1) = [] :=
    List.filterMap_eq_nil_iff.2 keys
  rw [check, expression, tokens, tree, path]
  change Checked.withProblems (es.filterMap fun entry => keyProblem? entry.1)
    (.ok (⟨s, tokens?, tree?, path?⟩ : Fixture)) = _
  rw [known]
  rfl

def ofParse (s : String) : Fixture := ⟨s, some (tokenize s), some (parse s).value, none⟩

def entriesOfParse (s : String) : Entries :=
  [(.text "expression", .text s),
    (.text "expected_tokens", .seq ((tokenize s).map Token.toValue)),
    (.text "expected_ast", (parse s).value.toValue)]

theorem check_entriesOfParse (s : String) : check (.map (entriesOfParse s)) = .ok (ofParse s) := by
  have given : (parse s).value.toValue ≠ .null := by
    cases (parse s).value with
    | leaf t => simp [Node.toValue_leaf, Value.null]
    | branch k children => simp [Node.toValue_branch, Value.null]
  apply check_of_fields
  case expression => exact Entries.require_eq_ok_iff.2 ⟨_, rfl, rfl⟩
  case tokens => exact Entries.allow_of_field rfl nofun (Token.checkAll_toValue _)
  case tree =>
    have shallow := groupDepth_parseTokens_le (tokenize s)
    have bound : (parse s).value.groupDepth ≤ groupLimit := shallow.trans (by decide)
    have passes : (parse s).value.passes groupGuard [] = true :=
      Node.passes_groupGuard_iff.2 (by simpa using bound)
    have wellFormed := wellFormed_parseTokens (tokenize s)
    exact Entries.allow_of_field rfl given (wellFormed.checkWithin_toValue passes)
  case path => exact Entries.allow_of_absent rfl
  case keys =>
    intro entry member
    simp only [entriesOfParse, List.mem_cons, List.not_mem_nil, or_false] at member
    rcases member with rfl | rfl | rfl <;> rfl

theorem mismatches_ofParse (s : String) : (ofParse s).mismatches.value = [] := by
  have tokens : (ofParse s).tokenMismatch? = none := by
    simp [tokenMismatch?, ofParse]
  have tree : (ofParse s).treeMismatch?.value = none := by
    simp [treeMismatch?, ofParse]
  rw [mismatches, Noted.value_map, tokens, tree]
  rfl

end Fixture

/-- Parsing makes only nodes that their kinds accept, the whole tree is read back from its data, and
a fixture that is written from a parse is read and met. -/
theorem parse_data_reads_back :
    (∀ ts : List Token,
      (∀ n, n.PartOf (parseTokens ts).value → Node.checkAs n.kind n.toValue = .ok n) ∧
      Node.check (parseTokens ts).value.toValue = .ok (parseTokens ts).value) ∧
    ∀ s : String,
      Fixture.check (.map (Fixture.entriesOfParse s)) = .ok (Fixture.ofParse s) ∧
      (Fixture.ofParse s).mismatches.value = [] := by
  constructor
  · intro ts
    have wellFormed := wellFormed_parseTokens ts
    exact ⟨fun n part => (wellFormed.part part).checkAs_toValue, wellFormed.check_toValue⟩
  · intro s
    exact ⟨Fixture.check_entriesOfParse s, Fixture.mismatches_ofParse s⟩

theorem parse_data_reads_back_group :
    (Node.leaf ⟨"a", .text⟩).PartOf (parseTokens
      [⟨"(", .mark .beginOptional⟩, ⟨"a", .text⟩, ⟨")", .mark .endOptional⟩]).value ∧
      Node.checkAs .text (Node.leaf ⟨"a", .text⟩).toValue = .ok (.leaf ⟨"a", .text⟩) := by
  have tree : (parseTokens
      [⟨"(", .mark .beginOptional⟩, ⟨"a", .text⟩, ⟨")", .mark .endOptional⟩]).value =
        .branch .expression [.branch .optional [.leaf ⟨"a", .text⟩]] := by cbv
  have part : (Node.leaf ⟨"a", .text⟩).PartOf (parseTokens
      [⟨"(", .mark .beginOptional⟩, ⟨"a", .text⟩, ⟨")", .mark .endOptional⟩]).value := by
    rw [tree]
    exact .child (List.mem_singleton_self _) (.child (List.mem_singleton_self _) (.whole _))
  exact ⟨part, (parse_data_reads_back.1 _).1 _ part⟩

end CucumberExpressions
