import CucumberExpressions.Proofs.BrokenRules
import CucumberExpressions.Validation.Guard

/-! Reading with a guard against deep data: it accepts what reading accepts, of the trees that the
guard lets in, and where it tells of no data that contains itself, it is reading without a guard. -/

namespace CucumberExpressions

namespace Checked

variable {α β γ : Type}

def TellsRecursion (r : Checked α) : Prop := ∃ p ∈ r.problems, p.violation = .recursion

theorem tellsRecursion_under {r : Checked α} {step : Step} :
    (r.under step).TellsRecursion ↔ r.TellsRecursion := by
  simp [TellsRecursion, problems_under, Problem.behind]

theorem tellsRecursion_both {f : α → β → γ} {r : Checked α} {s : Checked β} :
    (both f r s).TellsRecursion ↔ r.TellsRecursion ∨ s.TellsRecursion := by
  simp only [TellsRecursion, problems_both, List.mem_append, or_and_right, exists_or]

end Checked

namespace Expected

variable {guard : Guard} {way : List NodeKind}

section Enter

variable {α : Type} {inside : Checked α}

theorem enter_of_guard (letIn : guard way = true) : enter guard way inside = inside :=
  if_pos letIn

theorem enter_of_not_guard (refused : ¬ guard way = true) :
    enter guard way inside = .fail .recursion := if_neg refused

theorem enter_fail_ne_ok (v : Violation) (a : α) : enter guard way (.fail v) ≠ .ok a := by
  by_cases letIn : guard way = true
  · rw [enter_of_guard letIn]
    nofun
  · rw [enter_of_not_guard letIn]
    nofun

theorem explained_enter (explained : inside.Explained) : (enter guard way inside).Explained := by
  by_cases letIn : guard way = true
  · rwa [enter_of_guard letIn]
  · rw [enter_of_not_guard letIn]
    exact Checked.explained_fail _

theorem guard_of_not_tellsRecursion (untold : ¬ (enter guard way inside).TellsRecursion) :
    guard way = true := by
  by_contra refused
  rw [enter_of_not_guard refused] at untold
  exact untold ⟨_, List.mem_singleton_self _, rfl⟩

end Enter

theorem allWithin_eq_map (items : List Value) (way : List NodeKind) (e : Expected) :
    allWithin guard items way e = items.map (checkWithin guard · way e) := by
  induction items with
  | nil => rfl
  | cons v items ih => rw [allWithin, ih, List.map_cons]

theorem childrenWithin_eq (es : Entries) (way : List NodeKind) (k : BranchKind) :
    childrenWithin guard es way k =
      childrenBy (checkWithin guard · way ·) k (es.field? "nodes") := by
  refine eq_childrenBy (childrenWithin guard · way k) rfl (fun key v es => ?_) es
  cases v with
  | seq items => rw [childrenWithin, childrenBy, allWithin_eq_map]
  | _ => rfl

theorem explained_childrenWithin (es : Entries) (way : List NodeKind) (k : BranchKind) :
    (childrenWithin guard es way k).Explained := by
  rw [childrenWithin_eq]
  exact explained_childrenBy _

theorem explained_checkWithin (v : Value) (way : List NodeKind) (e : Expected) :
    (checkWithin guard v way e).Explained := by
  cases v with
  | map es =>
      have inside : ∀ k,
          (enter guard (k :: way) (build k es (childrenWithin guard es (k :: way)))).Explained :=
        fun k => explained_enter (explained_build (explained_childrenWithin es _) k es)
      cases e with
      | plain k =>
          rw [checkWithin]
          exact inside k
      | tagged kinds =>
          rw [checkWithin]
          split
          · exact Checked.explained_fail _
          · next k _ => exact (inside k).under _
  | loop =>
      cases e with
      | plain k => exact explained_enter (Checked.explained_fail _)
      | tagged kinds => exact (Checked.explained_fail _).under _
  | _ =>
      cases e with
      | plain k => exact explained_enter (Checked.explained_fail _)
      | tagged kinds => exact Checked.explained_fail _

section Agreement

variable {es : Entries} {k : BranchKind}

theorem tellsRecursion_gather {found : List (Checked Node)} {r : Checked Node}
    (few : k.maxChildren?.any (· < (found.filterMap Except.toOption).length) = false)
    (member : r ∈ found) (tells : r.TellsRecursion) : (gather k found).TellsRecursion := by
  obtain ⟨i, bound, rfl⟩ := List.mem_iff_getElem.1 member
  obtain ⟨p, told, recursive⟩ := tells
  unfold gather
  extract_lets valid wrong short
  have row : p.under (.index i) ∈ wrong := by
    refine List.mem_flatten.2 ⟨_, List.mem_mapIdx.2 ⟨i, bound, rfl⟩, ?_⟩
    rw [Checked.problems_under]
    exact List.mem_map_of_mem told
  have some : p.under (.index i) ∈ wrong ++ short := List.mem_append_left short row
  rw [few, if_neg Bool.false_ne_true, if_neg (List.ne_nil_of_mem some)]
  exact ⟨_, some, recursive⟩

theorem checkWithin_plain_of_not_guard {k : NodeKind} (refused : ¬ guard (k :: way) = true)
    (v : Value) : checkWithin guard v way (.plain k) = .fail .recursion := by
  cases v <;> rw [checkWithin, enter_of_not_guard refused] <;> nofun

theorem checkWithin_text_of_guard (letIn : guard (.text :: way) = true) (v : Value) :
    checkWithin guard v way (.plain .text) = check v (.plain .text) := by
  cases v <;> rw [checkWithin, enter_of_guard letIn] <;> first | rfl | nofun

/-- A parameter with too many children hides their problems, but its children are let in all alike.
-/
theorem map_checkWithin_parameter {items : List Value}
    (untold : ¬ (gather .parameter
      (items.map (checkWithin guard · way (.plain .text)))).TellsRecursion) :
    items.map (checkWithin guard · way (.plain .text)) = items.map (check · (.plain .text)) := by
  by_cases letIn : guard (.text :: way) = true
  · exact List.map_congr_left fun v _ => checkWithin_text_of_guard letIn v
  · have refused := checkWithin_plain_of_not_guard letIn
    have none : (items.map (checkWithin guard · way (.plain .text))).filterMap Except.toOption =
        [] := by
      rw [List.filterMap_map, List.filterMap_eq_nil_iff]
      intro v _
      rw [Function.comp_apply, refused]
      rfl
    by_cases empty : items = []
    · rw [empty]
      rfl
    · obtain ⟨v, member⟩ := List.exists_mem_of_ne_nil items empty
      have few : BranchKind.parameter.maxChildren?.any (· <
          ((items.map (checkWithin guard · way (.plain .text))).filterMap
            Except.toOption).length) = false := by
        rw [none]
        rfl
      refine absurd (tellsRecursion_gather few (List.mem_map_of_mem member) ?_) untold
      rw [refused]
      exact ⟨_, List.mem_singleton_self _, rfl⟩

theorem childrenWithin_of_not_tellsRecursion
    (ih : ∀ items, es.field? "nodes" = some (.seq items) → ∀ v ∈ items, ∀ e,
      ¬ (checkWithin guard v way e).TellsRecursion → checkWithin guard v way e = check v e)
    (untold : ¬ (childrenWithin guard es way k).TellsRecursion) :
    childrenWithin guard es way k = checkChildren es k := by
  rw [childrenWithin_eq] at untold ⊢
  rw [checkChildren_eq]
  cases found : es.field? "nodes" with
  | none => rfl
  | some nodes =>
      rw [found] at untold
      cases nodes with
      | seq items =>
          have gathered := mt Checked.tellsRecursion_under.2 untold
          have each : items.map (checkWithin guard · way (childOf k)) =
              items.map (check · (childOf k)) := by
            by_cases parameter : k = .parameter
            · subst parameter
              exact map_checkWithin_parameter gathered
            · have unlimited : k.maxChildren? = none := by
                cases k <;> first | rfl | contradiction
              refine List.map_congr_left fun v member => ih items found v member _ fun tells => ?_
              exact gathered (tellsRecursion_gather (by rw [unlimited, Option.any_none])
                (List.mem_map_of_mem member) tells)
          simp only [childrenBy, each]
      | _ => rfl

theorem enter_of_not_tellsRecursion {kind : NodeKind}
    (same : ∀ b, ¬ (childrenWithin guard es (kind :: way) b).TellsRecursion →
      childrenWithin guard es (kind :: way) b = checkChildren es b)
    (untold : ¬ (enter guard (kind :: way)
      (build kind es (childrenWithin guard es (kind :: way)))).TellsRecursion) :
    enter guard (kind :: way) (build kind es (childrenWithin guard es (kind :: way))) =
      build kind es (checkChildren es) := by
  have letIn := guard_of_not_tellsRecursion untold
  rw [enter_of_guard letIn] at untold ⊢
  cases kind with
  | text => rfl
  | branch b =>
      rw [build, Checked.tellsRecursion_both, not_or] at untold
      rw [build, build, same b untold.2]

end Agreement

/-- Where no data is said to contain itself, the guard has changed nothing. -/
theorem checkWithin_of_not_tellsRecursion (v : Value) (way : List NodeKind) (e : Expected)
    (untold : ¬ (checkWithin guard v way e).TellsRecursion) :
    checkWithin guard v way e = check v e := by
  induction v using Value.induction_items generalizing way e with
  | parts v ih =>
      cases v with
      | map es =>
          have same : ∀ kind b, ¬ (childrenWithin guard es (kind :: way) b).TellsRecursion →
              childrenWithin guard es (kind :: way) b = checkChildren es b := by
            intro kind b
            exact childrenWithin_of_not_tellsRecursion fun items found v member e =>
              ih es rfl items found v member (kind :: way) e
          cases e with
          | plain k =>
              rw [checkWithin] at untold ⊢
              rw [check, enter_of_not_tellsRecursion (same k) untold]
          | tagged kinds =>
              rw [checkWithin] at untold ⊢
              rw [check]
              cases chosen : choose kinds es with
              | error v => rfl
              | ok k =>
                  rw [chosen] at untold
                  have inside := mt Checked.tellsRecursion_under.2 untold
                  simp only [enter_of_not_tellsRecursion (same k) inside]
      | _ =>
          cases e with
          | plain k => exact enter_of_guard (guard_of_not_tellsRecursion untold)
          | tagged kinds => rfl

section Accepted

variable {es : Entries}

theorem map_checkWithin_eq_iff {e : Expected} {items : List Value} {children : List Node}
    (ih : ∀ v ∈ items, ∀ n,
      checkWithin guard v way e = .ok n ↔ check v e = .ok n ∧ n.passes guard way = true) :
    items.map (checkWithin guard · way e) = children.map .ok ↔
      items.map (check · e) = children.map .ok ∧ ∀ c ∈ children, c.passes guard way = true := by
  induction items generalizing children with
  | nil => cases children <;> simp
  | cons v items rest =>
      cases children with
      | nil => simp
      | cons c children =>
          have later : items.map (checkWithin guard · way e) = children.map .ok ↔
              items.map (check · e) = children.map .ok ∧
                ∀ c ∈ children, c.passes guard way = true :=
            rest fun w member => ih w (List.mem_cons_of_mem v member)
          simp only [List.map_cons, List.cons.injEq, ih v List.mem_cons_self, later,
            List.forall_mem_cons]
          tauto

theorem childrenWithin_eq_ok_iff {k : BranchKind} {children : List Node}
    (ih : ∀ items, es.field? "nodes" = some (.seq items) → ∀ v ∈ items, ∀ e n,
      checkWithin guard v way e = .ok n ↔ check v e = .ok n ∧ n.passes guard way = true) :
    childrenWithin guard es way k = .ok children ↔
      checkChildren es k = .ok children ∧ ∀ c ∈ children, c.passes guard way = true := by
  rw [childrenWithin_eq, checkChildren_eq]
  cases found : es.field? "nodes" with
  | none =>
      refine ⟨fun read => ⟨read, ?_⟩, And.left⟩
      rw [childrenBy] at read
      split at read
      · cases read
        exact List.forall_mem_nil _
      · cases read
  | some nodes =>
      cases nodes with
      | seq items =>
          have told : ∀ r ∈ items.map (checkWithin guard · way (childOf k)), r.Explained := by
            intro r member
            rcases List.mem_map.1 member with ⟨v, _, rfl⟩
            exact explained_checkWithin v way (childOf k)
          have told' : ∀ r ∈ items.map (check · (childOf k)), r.Explained := by
            intro r member
            rcases List.mem_map.1 member with ⟨v, _, rfl⟩
            exact explained_check v (childOf k)
          simp only [childrenBy, Checked.under_eq_ok_iff, gather_eq_ok_iff told,
            gather_eq_ok_iff told',
            map_checkWithin_eq_iff fun v member n => ih items found v member (childOf k) n]
          tauto
      | _ => simp [childrenBy]

theorem kind_of_build {kind : NodeKind} {children : BranchKind → Checked (List Node)} {n : Node}
    (read : build kind es children = .ok n) : n.kind = kind := by
  cases kind <;> obtain ⟨_, _, _, _, rfl⟩ := Checked.both_eq_ok_iff.1 read <;> rfl

theorem build_branch_eq_ok_iff {b : BranchKind} {children : BranchKind → Checked (List Node)}
    {n : Node} : build (.branch b) es children = .ok n ↔
      checkTag (.branch b) es = .ok () ∧ ∃ cs, children b = .ok cs ∧ .branch b cs = n := by
  rw [build, Checked.both_eq_ok_iff]
  constructor
  · rintro ⟨_, cs, tag, read, same⟩
    exact ⟨tag, cs, read, same⟩
  · rintro ⟨tag, cs, read, same⟩
    exact ⟨(), cs, tag, read, same⟩

theorem enter_eq_ok_iff {kind : NodeKind} {n : Node}
    (ih : ∀ b children, childrenWithin guard es (kind :: way) b = .ok children ↔
      checkChildren es b = .ok children ∧ ∀ c ∈ children, c.passes guard (kind :: way) = true) :
    enter guard (kind :: way) (build kind es (childrenWithin guard es (kind :: way))) = .ok n ↔
      build kind es (checkChildren es) = .ok n ∧ n.passes guard way = true := by
  by_cases letIn : guard (kind :: way) = true
  · rw [enter_of_guard letIn]
    cases kind with
    | text =>
        refine (and_iff_left_of_imp fun read => ?_).symm
        obtain ⟨_, _, _, _, rfl⟩ := Checked.both_eq_ok_iff.1 read
        exact letIn
    | branch b =>
        simp only [build_branch_eq_ok_iff, ih]
        constructor
        · rintro ⟨tag, cs, ⟨read, passes⟩, rfl⟩
          exact ⟨⟨tag, cs, read, rfl⟩, Node.passes_branch_iff.2 ⟨letIn, passes⟩⟩
        · rintro ⟨⟨tag, cs, read, rfl⟩, passes⟩
          exact ⟨tag, cs, ⟨read, (Node.passes_branch_iff.1 passes).2⟩, rfl⟩
  · rw [enter_of_not_guard letIn]
    refine iff_of_false nofun ?_
    rintro ⟨read, passes⟩
    have entered := Node.guard_of_passes passes
    rw [kind_of_build read] at entered
    exact letIn entered

end Accepted

/-- With a guard, the trees that are accepted are those it lets in. -/
theorem checkWithin_eq_ok_iff (v : Value) (way : List NodeKind) (e : Expected) (n : Node) :
    checkWithin guard v way e = .ok n ↔ check v e = .ok n ∧ n.passes guard way = true := by
  induction v using Value.induction_items generalizing way e n with
  | parts v ih =>
      cases v with
      | map es =>
          have children : ∀ kind b children,
              childrenWithin guard es (kind :: way) b = .ok children ↔
                checkChildren es b = .ok children ∧
                  ∀ c ∈ children, c.passes guard (kind :: way) = true := by
            intro kind b children
            exact childrenWithin_eq_ok_iff fun items found v member e n =>
              ih es rfl items found v member (kind :: way) e n
          cases e with
          | plain k => rw [checkWithin, check, enter_eq_ok_iff (children k)]
          | tagged kinds =>
              rw [checkWithin, check]
              cases choose kinds es with
              | error v => simp [Checked.fail]
              | ok k => simp only [Checked.under_eq_ok_iff, enter_eq_ok_iff (children k)]
      | _ =>
          cases e with
          | plain k =>
              refine iff_of_false (enter_fail_ne_ok _ n) ?_
              simp [check, Checked.fail]
          | tagged kinds => simp [checkWithin, check, Checked.fail, Checked.under]

end Expected

end CucumberExpressions
