import CucumberExpressions.Proofs.TokenData
import Mathlib.Data.List.Forall2

/-! Conforming data: which data is a tree, said as a grammar with one rule for each kind of node.
Reading accepts what the grammar derives and nothing else, and gives the tree that is derived. -/

namespace CucumberExpressions

/-- The items under `nodes`; a mapping without this field has none. -/
def Entries.Lists (es : Entries) (items : List Value) : Prop :=
  es.field? "nodes" = some (.seq items) ∨ es.field? "nodes" = none ∧ items = []

/-- Whether the tag of a mapping allows a node of the kind. -/
def Expected.Takes : Expected → Entries → NodeKind → Prop
  | tagged kinds, es, k => k ∈ kinds ∧ es.field? "type" = some (.text k.name)
  | plain kind, es, k => k = kind ∧ ∀ v ∈ es.field? "type", v = .text k.name

/-- The data is a tree that can stand at the place. -/
inductive Conforms : Expected → Value → Node → Prop
  | text {e : Expected} {es : Entries} {v : Value} {t : Token} :
      e.Takes es .text →
      es.field? "token" = some v → v.IsToken t → t.kind.isEscaped = false →
      Conforms e (.map es) (.leaf t)
  | expression {e : Expected} {es : Entries} {items : List Value} {children : List Node} :
      e.Takes es (.branch .expression) →
      es.Lists items →
      List.Forall₂ (Conforms (.tagged
        [.text, .branch .optional, .branch .parameter, .branch .alternation])) items children →
      Conforms e (.map es) (.branch .expression children)
  | optional {e : Expected} {es : Entries} {items : List Value} {children : List Node} :
      e.Takes es (.branch .optional) →
      es.Lists items →
      List.Forall₂ (Conforms (.tagged [.text, .branch .optional])) items children →
      Conforms e (.map es) (.branch .optional children)
  | parameter {e : Expected} {es : Entries} {items : List Value} {children : List Node} :
      e.Takes es (.branch .parameter) →
      es.Lists items → items.length ≤ 1 →
      List.Forall₂ (Conforms (.plain .text)) items children →
      Conforms e (.map es) (.branch .parameter children)
  | alternation {e : Expected} {es : Entries} {items : List Value} {children : List Node} :
      e.Takes es (.branch .alternation) →
      es.field? "nodes" = some (.seq items) → 2 ≤ items.length →
      List.Forall₂ (Conforms (.plain (.branch .alternative))) items children →
      Conforms e (.map es) (.branch .alternation children)
  | alternative {e : Expected} {es : Entries} {items : List Value} {children : List Node} :
      e.Takes es (.branch .alternative) →
      es.Lists items →
      List.Forall₂ (Conforms (.tagged [.text, .branch .optional, .branch .parameter]))
        items children →
      Conforms e (.map es) (.branch .alternative children)

namespace Expected

theorem choose_eq_ok_iff {kinds : List NodeKind} {es : Entries} {k : NodeKind} :
    choose kinds es = .ok k ↔ k ∈ kinds ∧ es.field? "type" = some (.text k.name) := by
  unfold choose
  split
  · next none => simp [none]
  · next name found =>
      rw [found]
      split
      · next k' chosen =>
          have satisfied := List.find?_some chosen
          have named : k'.name = name := of_decide_eq_true satisfied
          constructor
          · intro same
            cases same
            exact ⟨List.mem_of_find?_eq_some chosen, by rw [named]; rfl⟩
          · rintro ⟨_, same⟩
            have names : name = k.name := by simpa [Value.text] using same
            rw [NodeKind.name_injective (named.trans names)]
      · next unknown =>
          refine iff_of_false (by simp) ?_
          rintro ⟨member, same⟩
          rw [List.find?_eq_none] at unknown
          have names : name = k.name := by simpa [Value.text] using same
          exact unknown k member (decide_eq_true names.symm)
  · next v notText found =>
      refine iff_of_false (by simp) ?_
      rintro ⟨_, same⟩
      rw [found] at same
      exact notText k.name (Option.some.inj same)

theorem checkTag_eq_ok_iff {k : NodeKind} {es : Entries} {u : Unit} :
    checkTag k es = .ok u ↔ ∀ v ∈ es.field? "type", v = .text k.name := by
  unfold checkTag
  split
  · next none => simp [none]
  · next name found => simp [found, Value.text]
  · next v notText found =>
      refine iff_of_false (by simp) ?_
      intro only
      exact notText k.name (only v found)

def Holds (es : Entries) : Node → Prop
  | .leaf t => es.require "token" Token.checkLeaf = .ok t
  | .branch k children => checkChildren es k = .ok children

theorem build_eq_ok_iff {k : NodeKind} {es : Entries} {n : Node} :
    build k es (checkChildren es) = .ok n ↔
      n.kind = k ∧ (∀ v ∈ es.field? "type", v = .text k.name) ∧ Holds es n := by
  cases k with
  | text =>
      simp only [build, Checked.both_eq_ok_iff, checkTag_eq_ok_iff]
      constructor
      · rintro ⟨_, t, tag, token, rfl⟩
        exact ⟨rfl, tag, token⟩
      · rintro ⟨kind, tag, holds⟩
        cases n with
        | leaf t => exact ⟨(), t, tag, holds, rfl⟩
        | branch => cases kind
  | branch b =>
      simp only [build, Checked.both_eq_ok_iff, checkTag_eq_ok_iff]
      constructor
      · rintro ⟨_, children, tag, found, rfl⟩
        exact ⟨rfl, tag, found⟩
      · rintro ⟨kind, tag, holds⟩
        cases n with
        | leaf => cases kind
        | branch b' children =>
            cases kind
            exact ⟨(), children, tag, holds, rfl⟩

theorem check_map_eq_ok_iff {e : Expected} {es : Entries} {n : Node} :
    check (.map es) e = .ok n ↔ e.Takes es n.kind ∧ Holds es n := by
  cases e with
  | plain kind =>
      rw [check, build_eq_ok_iff, Takes]
      constructor
      · rintro ⟨rfl, tag, holds⟩
        exact ⟨⟨rfl, tag⟩, holds⟩
      · rintro ⟨⟨rfl, tag⟩, holds⟩
        exact ⟨rfl, tag, holds⟩
  | tagged kinds =>
      rw [check, Takes, ← choose_eq_ok_iff]
      split
      · next v refused => simp [refused, Checked.fail]
      · next k chosen =>
          have tag := (choose_eq_ok_iff.1 chosen).2
          rw [Checked.under_eq_ok_iff, build_eq_ok_iff, chosen]
          constructor
          · rintro ⟨rfl, _, holds⟩
            exact ⟨rfl, holds⟩
          · rintro ⟨same, holds⟩
            cases same
            exact ⟨rfl, by simp [tag], holds⟩

theorem exists_map_of_check {e : Expected} {v : Value} {n : Node} (read : check v e = .ok n) :
    ∃ es, v = .map es := by
  cases v with
  | map es => exact ⟨es, rfl⟩
  | _ => cases e <;> simp [check, Checked.fail, Checked.under] at read

theorem checkAll_eq_map (items : List Value) (e : Expected) :
    checkAll items e = items.map (check · e) := by
  induction items with
  | nil => rfl
  | cons v items ih => rw [checkAll, ih, List.map_cons]

/-- The children of a branch from what stands under `nodes`, where each is read by `read`. -/
def childrenBy (read : Value → Expected → Checked Node) (k : BranchKind) :
    Option Value → Checked (List Node)
  | none => if k.minChildren = 0 then .ok [] else .error [⟨[.key "nodes"], .missing⟩]
  | some (.seq items) => (gather k (items.map (read · (childOf k)))).under (.key "nodes")
  | some _ => .error [⟨[.key "nodes"], .notSequence⟩]

theorem eq_childrenBy {read : Value → Expected → Checked Node} {k : BranchKind}
    (children : Entries → Checked (List Node)) (nil : children [] = childrenBy read k none)
    (cons : ∀ key v es, children ((key, v) :: es) =
      if key = .text "nodes" then childrenBy read k (some v) else children es) (es : Entries) :
    children es = childrenBy read k (es.field? "nodes") := by
  induction es with
  | nil => exact nil
  | cons entry es ih =>
      rcases entry with ⟨key, v⟩
      rw [cons, Entries.field?]
      split
      · rfl
      · exact ih

theorem checkChildren_eq (es : Entries) (k : BranchKind) :
    checkChildren es k = childrenBy check k (es.field? "nodes") := by
  refine eq_childrenBy (checkChildren · k) rfl (fun key v es => ?_) es
  cases v with
  | seq items => rw [checkChildren, childrenBy, checkAll_eq_map]
  | _ => rfl

theorem explained_gather (k : BranchKind) (found : List (Checked Node)) :
    (gather k found).Explained := by
  unfold gather
  extract_lets valid wrong short
  split
  · exact Checked.explained_fail _
  · split
    · exact Checked.explained_ok _
    · next told => exact Checked.explained_error_iff.2 told

theorem explained_checkTag (k : NodeKind) (es : Entries) : (checkTag k es).Explained := by
  unfold checkTag
  split
  · exact Checked.explained_ok _
  · split
    · exact Checked.explained_ok _
    · exact Checked.explained_problem _
  · exact Checked.explained_problem _

theorem explained_childrenBy {read : Value → Expected → Checked Node} {k : BranchKind}
    (nodes? : Option Value) : (childrenBy read k nodes?).Explained := by
  unfold childrenBy
  split
  · split
    · exact Checked.explained_ok _
    · exact Checked.explained_problem _
  · exact (explained_gather k _).under _
  · exact Checked.explained_problem _

theorem explained_checkChildren (es : Entries) (k : BranchKind) :
    (checkChildren es k).Explained := by
  rw [checkChildren_eq]
  exact explained_childrenBy _

theorem explained_build {children : BranchKind → Checked (List Node)}
    (explained : ∀ b, (children b).Explained) (k : NodeKind) (es : Entries) :
    (build k es children).Explained := by
  cases k with
  | text =>
      have token : (Entries.require "token" Token.checkLeaf es).Explained :=
        Entries.explained_require Token.explained_checkLeaf
      exact (explained_checkTag .text es).both token
  | branch b => exact (explained_checkTag (.branch b) es).both (explained b)

theorem explained_check (v : Value) (e : Expected) : (check v e).Explained := by
  cases v with
  | map es =>
      cases e with
      | plain k =>
          rw [check]
          exact explained_build (explained_checkChildren es) k es
      | tagged kinds =>
          rw [check]
          split
          · exact Checked.explained_fail _
          · next k _ => exact (explained_build (explained_checkChildren es) k es).under _
  | loop =>
      cases e with
      | plain k => exact Checked.explained_fail _
      | tagged kinds => exact (Checked.explained_fail _).under _
  | _ => cases e <;> exact Checked.explained_fail _

theorem gather_eq_ok_iff {k : BranchKind} {found : List (Checked Node)} {children : List Node}
    (explained : ∀ r ∈ found, r.Explained) :
    gather k found = .ok children ↔ found = children.map .ok ∧
      k.minChildren ≤ children.length ∧ ∀ m ∈ k.maxChildren?, children.length ≤ m := by
  unfold gather
  extract_lets valid wrong short
  have many : k.maxChildren?.any (· < valid.length) ↔
      ¬ ∀ m ∈ k.maxChildren?, valid.length ≤ m := by
    cases k.maxChildren? <;> simp
  have few : short = [] ↔ k.minChildren ≤ valid.length := by
    rw [← Nat.not_lt]
    exact ite_eq_right_iff.trans (by simp)
  have values : ∀ all : List Node, found = all.map .ok → valid = all := by
    intro all same
    rw [← Checked.filterMap_toOption_ok all, ← same]
  constructor
  · intro read
    split at read
    · cases read
    · next notMany =>
        split at read
        · next untold =>
            rcases List.append_eq_nil_iff.1 untold with ⟨noneWrong, notShort⟩
            rcases (Checked.problems_mapIdx_eq_nil_iff explained).1 noneWrong with ⟨all, same⟩
            have given : valid = children := Except.ok.inj read
            rw [← given]
            rw [many, not_not] at notMany
            exact ⟨by rw [values all same, same], few.1 notShort, notMany⟩
        · cases read
  · rintro ⟨same, enough, notMany⟩
    rw [← values children same] at enough notMany
    have noneWrong : wrong = [] :=
      (Checked.problems_mapIdx_eq_nil_iff explained).2 ⟨children, same⟩
    rw [if_neg (many.not.2 (not_not.2 notMany)), noneWrong, few.2 enough, values children same]
    rfl

theorem map_check_eq_iff {e : Expected} {items : List Value} {children : List Node} :
    items.map (check · e) = children.map .ok ↔
      List.Forall₂ (fun v n => check v e = .ok n) items children := by
  rw [← List.forall₂_eq_eq_eq, List.forall₂_map_left_iff, List.forall₂_map_right_iff]

theorem checkChildren_eq_ok_iff {es : Entries} {k : BranchKind} {children : List Node} :
    checkChildren es k = .ok children ↔ ∃ items, es.Lists items ∧
      List.Forall₂ (fun v n => check v (childOf k) = .ok n) items children ∧
      k.minChildren ≤ children.length ∧ ∀ m ∈ k.maxChildren?, children.length ≤ m := by
  have explained : ∀ items : List Value, ∀ r ∈ items.map (check · (childOf k)), r.Explained := by
    intro items r member
    rcases List.mem_map.1 member with ⟨v, _, rfl⟩
    exact explained_check v (childOf k)
  rw [checkChildren_eq]
  unfold childrenBy Entries.Lists
  split
  · next absent =>
      -- Without the field there are no items, so the branch has no children.
      simp only [absent, reduceCtorEq, false_or, true_and, exists_eq_left, List.forall₂_nil_left_iff]
      constructor
      · intro read
        split at read
        · next possible =>
            cases read
            exact ⟨rfl, Nat.le_of_eq possible, fun m _ => Nat.zero_le m⟩
        · cases read
      · rintro ⟨rfl, enough, _⟩
        exact if_pos (Nat.le_zero.1 enough)
  · next items found =>
      rw [Checked.under_eq_ok_iff, gather_eq_ok_iff (explained items), map_check_eq_iff]
      simp [found]
  · next v notSequence found =>
      refine iff_of_false (by simp) ?_
      rintro ⟨items, same | ⟨absent, _⟩, _⟩
      · rw [found] at same
        exact notSequence items (Option.some.inj same)
      · rw [found] at absent
        cases absent

end Expected

theorem conforms_branch_iff {e : Expected} {es : Entries} {k : BranchKind} {children : List Node} :
    Conforms e (.map es) (.branch k children) ↔ e.Takes es (.branch k) ∧ ∃ items, es.Lists items ∧
      List.Forall₂ (Conforms (.childOf k)) items children ∧
      k.minChildren ≤ children.length ∧ ∀ m ∈ k.maxChildren?, children.length ≤ m := by
  constructor
  · intro conforms
    cases conforms with
    | expression tag lists each => exact ⟨tag, _, lists, each, Nat.zero_le _, nofun⟩
    | optional tag lists each => exact ⟨tag, _, lists, each, Nat.zero_le _, nofun⟩
    | alternative tag lists each => exact ⟨tag, _, lists, each, Nat.zero_le _, nofun⟩
    | parameter tag lists few each =>
        refine ⟨tag, _, lists, each, Nat.zero_le _, ?_⟩
        intro m limit
        cases limit
        rwa [← each.length_eq]
    | alternation tag found many each =>
        refine ⟨tag, _, Or.inl found, each, ?_, nofun⟩
        rwa [← each.length_eq]
  · rintro ⟨tag, items, lists, each, enough, few⟩
    cases k with
    | expression => exact .expression tag lists each
    | optional => exact .optional tag lists each
    | alternative => exact .alternative tag lists each
    | parameter =>
        refine .parameter tag lists ?_ each
        rw [each.length_eq]
        exact few 1 rfl
    | alternation =>
        rw [← each.length_eq] at enough
        rcases lists with found | ⟨_, rfl⟩
        · exact .alternation tag found enough each
        · cases enough

theorem forall₂_congr_right {α β : Type} {R S : α → β → Prop} {xs : List α} {ys : List β}
    (same : ∀ y ∈ ys, ∀ x, R x y ↔ S x y) : List.Forall₂ R xs ys ↔ List.Forall₂ S xs ys := by
  induction ys generalizing xs with
  | nil => simp
  | cons y ys ih =>
      cases xs with
      | nil => simp
      | cons x xs =>
          have later : List.Forall₂ R xs ys ↔ List.Forall₂ S xs ys :=
            ih fun z member => same z (List.mem_cons_of_mem y member)
          rw [List.forall₂_cons, List.forall₂_cons, same y List.mem_cons_self, later]

theorem Expected.check_eq_ok_iff_conforms (n : Node) (e : Expected) (v : Value) :
    check v e = .ok n ↔ Conforms e v n := by
  induction n using Node.induction_children generalizing e v with
  | leaf t =>
      constructor
      · intro read
        rcases exists_map_of_check read with ⟨es, rfl⟩
        rcases check_map_eq_ok_iff.1 read with ⟨tag, holds⟩
        rcases Entries.require_eq_ok_iff.1 holds with ⟨token, found, leaf⟩
        rcases Token.checkLeaf_eq_ok_iff.1 leaf with ⟨isToken, plain⟩
        exact .text tag found isToken plain
      · intro conforms
        cases conforms with
        | text tag found isToken plain =>
            refine check_map_eq_ok_iff.2 ⟨tag, Entries.require_eq_ok_iff.2 ⟨_, found, ?_⟩⟩
            exact Token.checkLeaf_eq_ok_iff.2 ⟨isToken, plain⟩
  | branch k children ih =>
      have agrees : ∀ es : Entries, check (.map es) e = .ok (.branch k children) ↔
          Conforms e (.map es) (.branch k children) := by
        intro es
        have each : ∀ items : List Value,
            List.Forall₂ (fun item c => check item (childOf k) = .ok c) items children ↔
              List.Forall₂ (Conforms (childOf k)) items children :=
          fun _ => forall₂_congr_right fun c member item => ih c member (childOf k) item
        rw [check_map_eq_ok_iff, Holds, checkChildren_eq_ok_iff, conforms_branch_iff]
        simp only [each]
        rfl
      constructor
      · intro read
        rcases exists_map_of_check read with ⟨es, rfl⟩
        exact (agrees es).1 read
      · intro conforms
        have mapping : ∃ es, v = .map es := by
          cases conforms <;> exact ⟨_, rfl⟩
        rcases mapping with ⟨es, rfl⟩
        exact (agrees es).2 conforms

/-- Reading accepts exactly the data that the grammar derives, gives the tree that is derived, and
says of all other data what is wrong with it. -/
theorem check_accepts_conforming (v : Value) :
    (∀ n, Node.check v = .ok n ↔ Conforms (.tagged
      [.branch .expression, .branch .optional, .branch .parameter, .branch .alternation,
        .branch .alternative, .text]) v n) ∧
      Node.check v ≠ .error [] := by
  constructor
  · intro n
    exact Expected.check_eq_ok_iff_conforms n .anyNode v
  · exact Expected.explained_check v .anyNode

end CucumberExpressions
