import CucumberExpressions.Proofs.Conforming

/-! Problems by place: what is wrong with data inside a tree is told with the tree as it is told of
that data alone, and in the order of the data. Only a parameter with too many valid children keeps
to itself what is wrong with the others. -/

namespace CucumberExpressions

namespace Problem

def behind (place : List Step) (p : Problem) : Problem := { p with path := place ++ p.path }

def Through (place : List Step) (p : Problem) : Prop := place <+: p.path

instance (place : List Step) : DecidablePred (Through place) :=
  fun p => inferInstanceAs (Decidable (place <+: p.path))

variable {place rest : List Step} {p : Problem}

theorem behind_behind (place rest : List Step) (p : Problem) :
    (p.behind rest).behind place = p.behind (place ++ rest) := by
  simp [behind]

@[simp] theorem through_behind_append : (p.behind place).Through (place ++ rest) ↔ p.Through rest :=
  List.prefix_append_right_inj place

theorem Through.front (through : p.Through (place ++ rest)) : p.Through place :=
  (List.prefix_append place rest).trans through

theorem map_behind_behind (place rest : List Step) (ps : List Problem) :
    (ps.map (·.behind rest)).map (·.behind place) = ps.map (·.behind (place ++ rest)) := by
  rw [List.map_map]
  exact List.map_congr_left fun p _ => p.behind_behind place rest

theorem filter_through_behind (place rest : List Step) (ps : List Problem) :
    (ps.map (·.behind place)).filter (·.Through (place ++ rest)) =
      (ps.filter (·.Through rest)).map (·.behind place) := by
  rw [List.filter_map]
  simp [Function.comp_def]

theorem filter_through_front (place rest : List Step) (ps : List Problem) :
    (ps.filter (·.Through place)).filter (·.Through (place ++ rest)) =
      ps.filter (·.Through (place ++ rest)) := by
  rw [List.filter_filter]
  refine List.filter_congr fun p _ => ?_
  by_cases inside : p.Through (place ++ rest)
  · simp [inside, inside.front]
  · simp [inside]

theorem through_index_behind_iff {i j : Nat} :
    (p.behind [.index i]).Through [.index j] ↔ i = j := by
  simp only [Through, behind, List.cons_append, List.nil_append, List.cons_prefix_cons,
    List.nil_prefix, and_true, Step.index.injEq, Int.natCast_inj, eq_comm]

end Problem

namespace Checked

variable {α β γ : Type}

theorem problems_under (r : Checked α) (step : Step) :
    (r.under step).problems = r.problems.map (·.behind [step]) := by
  cases r <;> rfl

theorem problems_both (f : α → β → γ) (r : Checked α) (s : Checked β) :
    (both f r s).problems = r.problems ++ s.problems := by
  cases r <;> cases s <;> rfl

end Checked

/-- The steps from a branch to the sequence of its children: over its tag, where that chose the
kind. -/
def Expected.toChildren : Expected → BranchKind → List Step
  | tagged _, k => [.tag (.branch k), .key "nodes"]
  | plain _, _ => [.key "nodes"]

/-- The value is read as a branch of the kind, and its children are read from the items. -/
def Value.IsBranch (v : Value) (e : Expected) (k : BranchKind) (items : List Value) : Prop :=
  ∃ es : Entries, v = .map es ∧ e.Takes es (.branch k) ∧ es.field? "nodes" = some (.seq items)

def BranchKind.validAmong (k : BranchKind) (items : List Value) : Nat :=
  items.countP fun v => ((Expected.childOf k).check v).isOk

section Row

variable {α : Type} {found : List (Checked α)}

def rowProblems (found : List (Checked α)) : List Problem :=
  (found.mapIdx fun i r => r.problems.map (·.behind [.index i])).flatten

theorem pairwise_rowProblems (found : List (Checked α)) :
    (rowProblems found).Pairwise fun p q => ∀ i j : Nat,
      p.Through [.index i] → q.Through [.index j] → i ≤ j := by
  have among : ∀ {m n : Nat} {r s : Checked α}, m ≤ n →
      ∀ p ∈ r.problems.map (·.behind [.index m]), ∀ q ∈ s.problems.map (·.behind [.index n]),
        ∀ i j : Nat, p.Through [.index i] → q.Through [.index j] → i ≤ j := by
    intro m n r s before p first q second i j throughI throughJ
    rcases List.mem_map.1 first with ⟨p, _, rfl⟩
    rcases List.mem_map.1 second with ⟨q, _, rfl⟩
    rw [Problem.through_index_behind_iff] at throughI throughJ
    omega
  rw [rowProblems, List.pairwise_flatten]
  constructor
  · intro row member
    rcases List.mem_mapIdx.1 member with ⟨i, bound, rfl⟩
    exact List.pairwise_of_forall_mem_list (among (Nat.le_refl i))
  · rw [List.pairwise_iff_getElem]
    intro m n _ _ before
    simp only [List.getElem_mapIdx]
    exact among (Nat.le_of_lt before)

theorem filter_flatten_mapIdx {β γ : Type} {f : Nat → β → List γ} {bs : List β} {i : Nat} {b : β}
    {ofPlace : γ → Bool} (here : bs[i]? = some b)
    (apart : ∀ j ≠ i, ∀ b, (f j b).filter ofPlace = []) :
    (bs.mapIdx f).flatten.filter ofPlace = (f i b).filter ofPlace := by
  induction bs generalizing f i with
  | nil => simp at here
  | cons c bs ih =>
      rw [List.mapIdx_cons, List.flatten_cons, List.filter_append]
      cases i with
      | zero =>
          cases here
          have later : (bs.mapIdx fun j => f (j + 1)).flatten.filter ofPlace = [] := by
            rw [List.filter_flatten, List.flatten_eq_nil_iff]
            intro row member
            rcases List.mem_map.1 member with ⟨inner, inRows, rfl⟩
            rcases List.mem_mapIdx.1 inRows with ⟨j, bound, rfl⟩
            exact apart (j + 1) (Nat.succ_ne_zero j) _
          rw [later, List.append_nil]
      | succ i =>
          rw [apart 0 (Nat.succ_ne_zero i).symm c, List.nil_append]
          refine ih (by simpa using here) fun j different => apart (j + 1) ?_
          omega

theorem filter_rowProblems {i : Nat} {r : Checked α} (here : found[i]? = some r) :
    (rowProblems found).filter (·.Through [.index i]) = r.problems.map (·.behind [.index i]) := by
  rw [rowProblems, filter_flatten_mapIdx here]
  · rw [List.filter_eq_self]
    intro p member
    rcases List.mem_map.1 member with ⟨q, _, rfl⟩
    exact decide_eq_true (Problem.through_index_behind_iff.2 rfl)
  · intro j different s
    rw [List.filter_eq_nil_iff]
    intro p member through
    rcases List.mem_map.1 member with ⟨q, _, rfl⟩
    exact different (Problem.through_index_behind_iff.1 (of_decide_eq_true through))

end Row

namespace Expected

theorem problems_gather (k : BranchKind) (items : List Value) :
    (gather k (items.map (check · (childOf k)))).problems =
      if k.maxChildren?.any (· < k.validAmong items) then [⟨[], .tooMany⟩]
      else rowProblems (items.map (check · (childOf k))) ++
        if k.validAmong items < k.minChildren then [⟨[], .tooFew⟩] else [] := by
  unfold gather
  extract_lets valid wrong short
  have count : valid.length = k.validAmong items := by
    rw [List.length_filterMap_eq_countP, List.countP_map, BranchKind.validAmong]
    refine List.countP_congr fun v _ => ?_
    cases read : check v (childOf k) <;> simp [read, Except.toOption, Except.isOk, Except.toBool]
  have rows : wrong = rowProblems (items.map (check · (childOf k))) := by
    simp only [wrong, Checked.problems_under]
    rfl
  rw [← count, ← rows]
  split
  · rfl
  · change Checked.problems (if wrong ++ short = [] then .ok valid else .error (wrong ++ short)) =
      wrong ++ short
    split
    · next none => exact none.symm
    · rfl

theorem problems_build_branch {k : BranchKind} {es : Entries}
    (tag : ∀ v ∈ es.field? "type", v = .text (NodeKind.branch k).name) :
    (build (.branch k) es (checkChildren es)).problems = (checkChildren es k).problems := by
  rw [build, checkTag_eq_ok_iff (u := ()).2 tag, Checked.problems_both]
  rfl

theorem problems_check_of_isBranch {e : Expected} {v : Value} {k : BranchKind} {items : List Value}
    (branch : v.IsBranch e k items) :
    (e.check v).problems = (gather k (items.map (check · (childOf k)))).problems.map
      (·.behind (e.toChildren k)) := by
  rcases branch with ⟨es, rfl, takes, found⟩
  have children : (checkChildren es k).problems =
      (gather k (items.map (check · (childOf k)))).problems.map (·.behind [.key "nodes"]) := by
    rw [checkChildren_eq, found, childrenBy, Checked.problems_under]
  cases e with
  | plain kind =>
      rcases takes with ⟨rfl, tag⟩
      rw [check, problems_build_branch tag, children]
      rfl
  | tagged kinds =>
      have chosen := choose_eq_ok_iff.2 takes
      have tag : ∀ v ∈ es.field? "type", v = .text (NodeKind.branch k).name := by
        simp [takes.2]
      rw [check, chosen, Checked.problems_under, problems_build_branch tag, children,
        Problem.map_behind_behind]
      rfl

theorem pairwise_problems_gather (k : BranchKind) (items : List Value) :
    (gather k (items.map (check · (childOf k)))).problems.Pairwise fun p q => ∀ i j : Nat,
      p.Through [.index i] → q.Through [.index j] → i ≤ j := by
  rw [problems_gather]
  split
  · exact List.pairwise_singleton _ _
  · rw [List.pairwise_append]
    refine ⟨pairwise_rowProblems _, ?_, ?_⟩
    · split <;> simp
    · -- That there are too few children is told of their sequence and not of one of them.
      intro p _ q last i j _ through
      split at last
      · rw [List.mem_singleton.1 last] at through
        simp [Problem.Through] at through
      · cases last

end Expected

/-- `d` stands at the place in `v`, and `e` is what is expected there. The way to it leads through
the children of branches whose tags are right, and through no parameter with two valid children or
more. -/
inductive Reaches (start : Expected) (v : Value) : List Step → Expected → Value → Prop
  | whole : Reaches start v [] start v
  | child {place : List Step} {e : Expected} {d c : Value} {k : BranchKind} {items : List Value}
      {i : Nat} :
      Reaches start v place e d → d.IsBranch e k items →
      (k = .parameter → k.validAmong items < 2) → items[i]? = some c →
      Reaches start v (place ++ (e.toChildren k ++ [Step.index i])) (.childOf k) c

theorem BranchKind.tooMany_iff {k : BranchKind} {n : Nat} :
    k.maxChildren?.any (· < n) ↔ k = .parameter ∧ 2 ≤ n := by
  cases k with
  | parameter => simp only [maxChildren?, Option.any_some, decide_eq_true_eq, true_and]; omega
  | _ => simp [maxChildren?]

section Reached

variable {start e : Expected} {v d c : Value} {place : List Step} {k : BranchKind}
  {items : List Value}

theorem filter_problems_child {i : Nat} (branch : d.IsBranch e k items)
    (few : k = .parameter → k.validAmong items < 2) (here : items[i]? = some c) :
    (e.check d).problems.filter (·.Through (e.toChildren k ++ [Step.index i])) =
      ((Expected.childOf k).check c).problems.map (·.behind (e.toChildren k ++ [Step.index i])) := by
  have notMany : ¬ k.maxChildren?.any (· < k.validAmong items) := by
    rw [BranchKind.tooMany_iff]
    exact fun many => Nat.not_lt.2 many.2 (few many.1)
  have found : (items.map (Expected.check · (.childOf k)))[i]? =
      some (Expected.check c (.childOf k)) := by
    rw [List.getElem?_map, here, Option.map_some]
  have short : (if k.validAmong items < k.minChildren then [(⟨[], .tooFew⟩ : Problem)] else []).filter
      (·.Through [.index i]) = [] := by
    split <;> simp [Problem.Through]
  rw [Expected.problems_check_of_isBranch branch, Problem.filter_through_behind,
    Expected.problems_gather, if_neg notMany, List.filter_append, short, List.append_nil,
    filter_rowProblems found, Problem.map_behind_behind]

/-- What is told of a place that is reached is what is wrong with the data there. -/
theorem filter_problems_reached (reached : Reaches start v place e d) :
    (start.check v).problems.filter (·.Through place) =
      (e.check d).problems.map (·.behind place) := by
  induction reached with
  | whole => simp [Problem.Through, Problem.behind]
  | @child place e d c k items i _ branch few here ih =>
      calc (start.check v).problems.filter (·.Through (place ++ (e.toChildren k ++ [Step.index i])))
          = ((e.check d).problems.map (·.behind place)).filter
              (·.Through (place ++ (e.toChildren k ++ [Step.index i]))) := by
            rw [← Problem.filter_through_front, ih]
        _ = (((Expected.childOf k).check c).problems.map
              (·.behind (e.toChildren k ++ [Step.index i]))).map (·.behind place) := by
            rw [Problem.filter_through_behind, filter_problems_child branch few here]
        _ = ((Expected.childOf k).check c).problems.map
              (·.behind (place ++ (e.toChildren k ++ [Step.index i]))) :=
            Problem.map_behind_behind place _ _

theorem filter_problems_branch (reached : Reaches start v place e d)
    (branch : d.IsBranch e k items) :
    (start.check v).problems.filter (·.Through place) =
      (Expected.gather k (items.map (Expected.check · (.childOf k)))).problems.map
        (·.behind (place ++ e.toChildren k)) := by
  rw [filter_problems_reached reached, Expected.problems_check_of_isBranch branch,
    Problem.map_behind_behind]

theorem pairwise_problems_reached (reached : Reaches start v place e d)
    (branch : d.IsBranch e k items) :
    (start.check v).problems.Pairwise fun p q => ∀ i j : Nat,
      p.Through (place ++ e.toChildren k ++ [Step.index i]) →
      q.Through (place ++ e.toChildren k ++ [Step.index j]) → i ≤ j := by
  have ordered : ((start.check v).problems.filter (·.Through place)).Pairwise fun p q =>
      ∀ i j : Nat, p.Through (place ++ e.toChildren k ++ [Step.index i]) →
        q.Through (place ++ e.toChildren k ++ [Step.index j]) → i ≤ j := by
    rw [filter_problems_branch reached branch, List.pairwise_map]
    simp only [Problem.through_behind_append]
    exact Expected.pairwise_problems_gather k items
  refine (List.pairwise_filter.1 ordered).imp ?_
  intro p q each i j throughI throughJ
  have first : p.Through place := throughI.front.front
  have second : q.Through place := throughJ.front.front
  exact each (decide_eq_true first) (decide_eq_true second) i j throughI throughJ

/-- Checking a tree hides no problem. What it tells of data inside, reached through branches whose
tags are right, is what is wrong with that data alone where it stands, with its place in front;
problems of siblings come in the order of the siblings. A parameter with two valid children or more
brings this one problem and no other. An alternation with fewer than two brings this problem once,
after all those of its children. -/
theorem check_hides_no_problem (reached : Reaches .anyNode v place e d) :
    (Node.check v).problems.filter (·.Through place) = (e.check d).problems.map (·.behind place) ∧
    (∀ k items, d.IsBranch e k items → (Node.check v).problems.Pairwise fun p q => ∀ i j : Nat,
      p.Through (place ++ e.toChildren k ++ [Step.index i]) →
      q.Through (place ++ e.toChildren k ++ [Step.index j]) → i ≤ j) ∧
    (∀ items, d.IsBranch e .parameter items → 2 ≤ BranchKind.parameter.validAmong items →
      (Node.check v).problems.filter (·.Through place) =
        [⟨place ++ e.toChildren .parameter, .tooMany⟩]) ∧
    ∀ items, d.IsBranch e .alternation items → BranchKind.alternation.validAmong items < 2 →
      (Node.check v).problems.filter (·.Through place) =
        (rowProblems (items.map (Expected.check · (.childOf .alternation)))).map
          (·.behind (place ++ e.toChildren .alternation)) ++
        [⟨place ++ e.toChildren .alternation, .tooFew⟩] := by
  refine ⟨filter_problems_reached reached,
    fun k items branch => pairwise_problems_reached reached branch, ?_, ?_⟩
  · intro items branch many
    refine (filter_problems_branch reached branch).trans ?_
    rw [Expected.problems_gather, if_pos (BranchKind.tooMany_iff.2 ⟨rfl, many⟩)]
    simp [Problem.behind]
  · intro items branch few
    have short : BranchKind.alternation.validAmong items < BranchKind.alternation.minChildren := few
    refine (filter_problems_branch reached branch).trans ?_
    rw [Expected.problems_gather, if_neg (by simp [BranchKind.tooMany_iff]), if_pos short,
      List.map_append]
    simp [Problem.behind]

end Reached

def unlistedGroup : Value := .record [("type", .text "OPTIONAL_NODE"), ("nodes", .null)]

def loneAlternation : Value :=
  .record [("type", .text "ALTERNATION_NODE"),
    ("nodes", .seq [.record [("nodes", .seq [unlistedGroup])]])]

def crowdedParameter : Value :=
  .record [("type", .text "PARAMETER_NODE"), ("nodes", .seq [
    (Node.leaf ⟨"a", .text⟩).toValue, (Node.leaf ⟨"b", .text⟩).toValue, .null])]

def troubledExpression : Value :=
  .record [("type", .text "EXPRESSION_NODE"), ("nodes", .seq [loneAlternation, crowdedParameter])]

theorem check_hides_no_problem_troubledExpression :
    (Node.check troubledExpression).problems.filter (·.Through
      [.tag (.branch .expression), .key "nodes", .index 0, .tag (.branch .alternation), .key "nodes",
        .index 0, .key "nodes", .index 0]) =
      [⟨[.tag (.branch .expression), .key "nodes", .index 0, .tag (.branch .alternation),
        .key "nodes", .index 0, .key "nodes", .index 0, .tag (.branch .optional), .key "nodes"],
        .notSequence⟩] ∧
    (Node.check troubledExpression).problems.filter (·.Through
      [.tag (.branch .expression), .key "nodes", .index 0]) =
      [⟨[.tag (.branch .expression), .key "nodes", .index 0, .tag (.branch .alternation),
        .key "nodes", .index 0, .key "nodes", .index 0, .tag (.branch .optional), .key "nodes"],
        .notSequence⟩,
       ⟨[.tag (.branch .expression), .key "nodes", .index 0, .tag (.branch .alternation),
        .key "nodes"], .tooFew⟩] ∧
    (Node.check troubledExpression).problems.filter (·.Through
      [.tag (.branch .expression), .key "nodes", .index 1]) =
      [⟨[.tag (.branch .expression), .key "nodes", .index 1, .tag (.branch .parameter),
        .key "nodes"], .tooMany⟩] := by
  have expression : troubledExpression.IsBranch .anyNode .expression
      [loneAlternation, crowdedParameter] := ⟨_, rfl, ⟨by decide, rfl⟩, rfl⟩
  have alternation : loneAlternation.IsBranch (.childOf .expression) .alternation _ :=
    ⟨_, rfl, ⟨by decide, rfl⟩, rfl⟩
  have alternative : Value.IsBranch (.record [("nodes", .seq [unlistedGroup])])
      (.childOf .alternation) .alternative _ := ⟨_, rfl, ⟨rfl, nofun⟩, rfl⟩
  have parameter : crowdedParameter.IsBranch (.childOf .expression) .parameter _ :=
    ⟨_, rfl, ⟨by decide, rfl⟩, rfl⟩
  have atRoot : Reaches .anyNode troubledExpression [] .anyNode troubledExpression := .whole
  have atAlternation := atRoot.child (i := 0) expression nofun rfl
  have atParameter := atRoot.child (i := 1) expression nofun rfl
  have atAlternative := atAlternation.child (i := 0) alternation nofun rfl
  have atGroup := atAlternative.child (i := 0) alternative nofun rfl
  refine ⟨(check_hides_no_problem atGroup).1.trans rfl, ?_, ?_⟩
  · exact ((check_hides_no_problem atAlternation).2.2.2 _ alternation (by decide)).trans rfl
  · exact (check_hides_no_problem atParameter).2.2.1 _ parameter (by decide)

end CucumberExpressions
