import CucumberExpressions.Node.Outline
import CucumberExpressions.Proofs.Lines
import Mathlib.Data.List.Basic

/-! The outline tells its tree, whichever characters print and however many spaces the lines are
indented by: the first line tells the kind of a node, and its children end at the first line that is
not indented. -/

namespace CucumberExpressions

theorem NodeKind.notMem_name (k : NodeKind) {c : Char} (other : isNameLetter c = false) :
    c ∉ k.name.toList := by
  have letters : ∀ k ∈ all, k.name.toList.all isNameLetter = true := by decide +kernel
  intro member
  have letter := List.all_eq_true.1 (letters k k.mem_all) c member
  rw [other] at letter
  cases letter

structure IsIndent (indent : String) : Prop where
  head : indent.toList.head? = some ' '
  spaces : ∀ c ∈ indent.toList, c = ' '

namespace IsIndent

variable {indent : String}

theorem head?_append (isIndent : IsIndent indent) (line : String) :
    (indent ++ line).toList.head? = some ' ' := by
  rw [String.toList_append, List.head?_append, isIndent.head, Option.some_or]

theorem newline_notMem (isIndent : IsIndent indent) : '\n' ∉ indent.toList :=
  fun newline => absurd (isIndent.spaces _ newline) (by decide)

end IsIndent

def Flush (lines : List String) : Prop := ∀ line ∈ lines.head?, line.toList.head? ≠ some ' '

theorem Flush.nil : Flush [] := by simp [Flush]

theorem indented_append_inj {indent : String} (isIndent : IsIndent indent)
    {lines lines' rest rest' : List String} (flush : Flush rest) (flush' : Flush rest')
    (same : lines.map (indent ++ ·) ++ rest = lines'.map (indent ++ ·) ++ rest') :
    lines = lines' ∧ rest = rest' := by
  induction lines generalizing lines' with
  | nil =>
      cases lines' with
      | nil => exact ⟨rfl, same⟩
      | cons line lines' =>
          simp only [List.map_nil, List.nil_append, List.map_cons, List.cons_append] at same
          exact absurd (isIndent.head?_append line) (flush _ (by simp [same]))
  | cons line lines ih =>
      cases lines' with
      | nil =>
          simp only [List.map_nil, List.nil_append, List.map_cons, List.cons_append] at same
          exact absurd (isIndent.head?_append line) (flush' _ (by simp [← same]))
      | cons line' lines' =>
          simp only [List.map_cons, List.cons_append, List.cons.injEq, String.append_right_inj]
            at same
          rcases same with ⟨rfl, later⟩
          rcases ih later with ⟨rfl, sameRest⟩
          exact ⟨rfl, sameRest⟩

namespace Node

variable {printable : Char → Bool} {indent : String}

def headLineWith (printable : Char → Bool) : Node → String
  | leaf t => leafLineWith printable t
  | branch k _ => (NodeKind.branch k).name

def forestLinesWith (printable : Char → Bool) (indent : String) (ns : List Node) : List String :=
  ns.flatMap (·.outlineLinesWith printable indent)

theorem outlineLinesWith_eq (n : Node) : n.outlineLinesWith printable indent =
    n.headLineWith printable :: (forestLinesWith printable indent n.children).map (indent ++ ·) := by
  cases n with
  | leaf t => rfl
  | branch k cs =>
      rw [outlineLinesWith, fold_branch, children, forestLinesWith, List.map_flatMap,
        List.flatMap_map]
      rfl

theorem toList_leafLineWith (t : Token) : (leafLineWith printable t).toList =
    NodeKind.text.name.toList ++ ' ' ::
      ((quoteWith printable t.text).toList ++ ' ' :: t.kind.name.toList) := by
  have blank : " ".toList = [' '] := rfl
  simp [leafLineWith, blank]

theorem leafLineWith_inj {t u : Token} (same : leafLineWith printable t = leafLineWith printable u) :
    t = u := by
  have chars := congrArg String.toList same
  rw [toList_leafLineWith, toList_leafLineWith, List.append_cancel_left_eq, List.cons.injEq] at chars
  rcases quoteWith_append_inj chars.2 with ⟨text, names⟩
  have kind : t.kind = u.kind :=
    Kind.name_injective (String.toList_inj.1 (List.cons.inj names).2)
  rcases t with ⟨_, _⟩
  rcases u with ⟨_, _⟩
  rw [Token.mk.injEq]
  exact ⟨text, kind⟩

theorem space_mem_leafLineWith (printable : Char → Bool) (t : Token) :
    ' ' ∈ (leafLineWith printable t).toList := by
  rw [toList_leafLineWith]
  simp

theorem leafLineWith_ne_name (t : Token) (k : NodeKind) : leafLineWith printable t ≠ k.name := by
  intro same
  have space := space_mem_leafLineWith printable t
  rw [same] at space
  exact k.notMem_name rfl space

theorem head?_headLineWith (n : Node) : (n.headLineWith printable).toList.head? ≠ some ' ' := by
  cases n with
  | leaf t =>
      have letter : NodeKind.text.name.toList.head? = some 'T' := by decide +kernel
      rw [headLineWith, toList_leafLineWith, List.head?_append, letter,
        Option.some_or]
      decide
  | branch k cs => exact fun blank => NodeKind.notMem_name _ rfl (List.mem_of_head? blank)

theorem newline_notMem_headLineWith (n : Node) : '\n' ∉ (n.headLineWith printable).toList := by
  cases n with
  | leaf t =>
      rw [headLineWith, toList_leafLineWith]
      simp only [List.mem_append, List.mem_cons]
      rintro (name | blank | quotes | blank | kind)
      · exact NodeKind.notMem_name _ rfl name
      · exact absurd blank (by decide)
      · exact newline_notMem_quoteWith _ quotes
      · exact absurd blank (by decide)
      · exact t.kind.notMem_name rfl kind
  | branch k cs => exact NodeKind.notMem_name _ rfl

theorem flush_forestLinesWith (printable : Char → Bool) (indent : String) (ns : List Node) :
    Flush (forestLinesWith printable indent ns) := by
  cases ns with
  | nil => exact Flush.nil
  | cons n ns =>
      intro line first
      rw [forestLinesWith, List.flatMap_cons, outlineLinesWith_eq] at first
      rw [← Option.some.inj first]
      exact n.head?_headLineWith

theorem forestLinesWith_inj {ms ns : List Node}
    (each : ∀ m ∈ ms, ∀ n rest rest', Flush rest → Flush rest' →
      m.outlineLinesWith printable indent ++ rest = n.outlineLinesWith printable indent ++ rest' →
        m = n ∧ rest = rest')
    (same : forestLinesWith printable indent ms = forestLinesWith printable indent ns) :
    ms = ns := by
  induction ms generalizing ns with
  | nil =>
      cases ns with
      | nil => rfl
      | cons n ns =>
          rw [forestLinesWith, forestLinesWith, List.flatMap_cons, outlineLinesWith_eq n] at same
          exact absurd same (by simp)
  | cons m ms ih =>
      cases ns with
      | nil =>
          rw [forestLinesWith, forestLinesWith, List.flatMap_cons, outlineLinesWith_eq m] at same
          exact absurd same (by simp)
      | cons n ns =>
          have flush := flush_forestLinesWith printable indent
          rcases each m (by simp) n _ _ (flush ms) (flush ns) same with ⟨rfl, later⟩
          rw [ih (fun m member => each m (by simp [member])) later]

/-- An outline tells its node and where it ends, if what follows is not indented. -/
theorem outlineLinesWith_append_inj (isIndent : IsIndent indent) (m : Node) :
    ∀ n rest rest', Flush rest → Flush rest' →
      m.outlineLinesWith printable indent ++ rest = n.outlineLinesWith printable indent ++ rest' →
        m = n ∧ rest = rest' := by
  -- What follows a child is the outline of the next one or what follows the parent; neither is
  -- indented as far as the lines below the child, so the induction has to leave it open.
  induction m using induction_children with
  | leaf t =>
      intro n rest rest' flush flush' same
      rw [outlineLinesWith_eq, outlineLinesWith_eq, List.cons_append, List.cons_append,
        List.cons.injEq] at same
      rcases same with ⟨first, later⟩
      cases n with
      | leaf u => exact ⟨congrArg leaf (leafLineWith_inj first), later⟩
      | branch k ds => exact absurd first (leafLineWith_ne_name t _)
  | branch k cs ih =>
      intro n rest rest' flush flush' same
      rw [outlineLinesWith_eq, outlineLinesWith_eq, List.cons_append, List.cons_append,
        List.cons.injEq] at same
      rcases same with ⟨first, later⟩
      cases n with
      | leaf u => exact absurd first.symm (leafLineWith_ne_name u _)
      | branch l ds =>
          have kind : k = l := NodeKind.branch.inj (NodeKind.name_injective first)
          rcases indented_append_inj isIndent flush flush' later with ⟨below, sameRest⟩
          have children : cs = ds := forestLinesWith_inj ih below
          rw [kind, children]
          exact ⟨rfl, sameRest⟩

theorem mem_outlineLinesWith (isIndent : IsIndent indent) (n : Node) :
    ∀ line ∈ n.outlineLinesWith printable indent, '\n' ∉ line.toList ∧
      (' ' ∈ line.toList ∨ ∃ k : NodeKind, line = k.name) := by
  induction n using induction_children with
  | leaf t =>
      intro line member
      rw [outlineLinesWith_eq, children, forestLinesWith, List.flatMap_nil, List.map_nil,
        List.mem_singleton] at member
      rw [member]
      exact ⟨newline_notMem_headLineWith _, Or.inl (space_mem_leafLineWith printable t)⟩
  | branch k cs ih =>
      intro line member
      rw [outlineLinesWith_eq, List.mem_cons, List.mem_map] at member
      rcases member with rfl | ⟨inner, below, rfl⟩
      · exact ⟨newline_notMem_headLineWith _, Or.inr ⟨.branch k, rfl⟩⟩
      · rcases List.mem_flatMap.1 below with ⟨c, child, inChild⟩
        rw [String.toList_append, List.mem_append, List.mem_append, not_or]
        have whole := (ih c child inner inChild).1
        exact ⟨⟨isIndent.newline_notMem, whole⟩, Or.inl (Or.inl (List.mem_of_head? isIndent.head))⟩

theorem linesOf_outlineWith (isIndent : IsIndent indent) (n : Node) :
    linesOf (n.outlineWith printable indent) = n.outlineLinesWith printable indent := by
  refine linesOf_intercalate ?_ fun line member => (n.mem_outlineLinesWith isIndent line member).1
  rw [outlineLinesWith_eq]
  exact List.cons_ne_nil _ _

theorem outlineWith_inj (isIndent : IsIndent indent) {m n : Node}
    (same : m.outlineWith printable indent = n.outlineWith printable indent) : m = n := by
  have lines := congrArg linesOf same
  rw [linesOf_outlineWith isIndent, linesOf_outlineWith isIndent] at lines
  have ended : m.outlineLinesWith printable indent ++ [] =
      n.outlineLinesWith printable indent ++ [] := by rw [lines]
  exact (outlineLinesWith_append_inj isIndent m n [] [] Flush.nil Flush.nil ended).1

mutual

/-- The nodes of a tree with their depths: a node comes before its children, and these from left to
right. -/
def visits (depth : Nat) : Node → List (Nat × Node)
  | leaf t => [(depth, leaf t)]
  | branch k cs => (depth, branch k cs) :: visitsAll (depth + 1) cs

def visitsAll (depth : Nat) : List Node → List (Nat × Node)
  | [] => []
  | n :: ns => visits depth n ++ visitsAll depth ns

end

theorem visitsAll_eq_flatMap (depth : Nat) (ns : List Node) :
    visitsAll depth ns = ns.flatMap (visits depth) := by
  induction ns with
  | nil => rfl
  | cons n ns ih => rw [visitsAll, ih, List.flatMap_cons]

def lineAt (printable : Char → Bool) (indent : String) (depth : Nat) (n : Node) : String :=
  String.join (List.replicate depth indent) ++ n.headLineWith printable

theorem join_replicate_succ_append (depth : Nat) (line : String) :
    String.join (List.replicate (depth + 1) indent) ++ line =
      String.join (List.replicate depth indent) ++ (indent ++ line) := by
  rw [List.replicate_succ', String.join_append, String.append_assoc]
  simp [String.join]

theorem map_lineAt_visits (n : Node) (depth : Nat) :
    (n.visits depth).map (fun (d, m) => lineAt printable indent d m) =
      (n.outlineLinesWith printable indent).map
        (String.join (List.replicate depth indent) ++ ·) := by
  induction n using induction_children generalizing depth with
  | leaf t => rfl
  | branch k cs ih =>
      have below : (visitsAll (depth + 1) cs).map (fun (d, m) => lineAt printable indent d m) =
          (forestLinesWith printable indent cs).map fun line =>
            String.join (List.replicate depth indent) ++ (indent ++ line) := by
        rw [visitsAll_eq_flatMap, List.map_flatMap, forestLinesWith, List.map_flatMap]
        refine List.flatMap_congr fun c member => ?_
        rw [ih c member]
        exact List.map_congr_left fun line _ => join_replicate_succ_append depth line
      rw [visits, List.map_cons, below, outlineLinesWith_eq, List.map_cons, List.map_map]
      rfl

/-- The outline is faithful, whichever characters print and however many spaces it is indented by:
it is the same for two trees only if they are the same, and its lines are those of the nodes, one
each, a node before its children and these from left to right. -/
theorem outlineWith_faithful (printable : Char → Bool) {indent : String} (isIndent : IsIndent indent) :
    (∀ m n : Node, m.outlineWith printable indent = n.outlineWith printable indent ↔ m = n) ∧
      ∀ n : Node, linesOf (n.outlineWith printable indent) =
        (n.visits 0).map fun (depth, m) => lineAt printable indent depth m := by
  constructor
  · intro m n
    exact ⟨outlineWith_inj isIndent, congrArg _⟩
  · intro n
    rw [linesOf_outlineWith isIndent, map_lineAt_visits]
    simp [String.join]

theorem outlineWith_faithful_forged_line :
    IsIndent " " ∧
    (branch .optional [leaf ⟨"x' TEXT\n TEXT_NODE 'a", .text⟩]).outline " " ≠
      (branch .optional [leaf ⟨"x", .text⟩, leaf ⟨"a", .text⟩]).outline " " ∧
    linesOf ((branch .optional [branch .optional [leaf ⟨"x' TEXT\n TEXT_NODE 'a", .text⟩],
        leaf ⟨"\\", .escape⟩]).outline " ") =
      ["OPTIONAL_NODE", " OPTIONAL_NODE", "  TEXT_NODE \"x' TEXT\\n TEXT_NODE 'a\" TEXT",
        " TEXT_NODE '\\\\' ESCAPE"] := by
  have isIndent : IsIndent " " := by
    have chars : " ".toList = [' '] := rfl
    constructor <;> simp [chars]
  have faithful := outlineWith_faithful isPrintable isIndent
  refine ⟨isIndent, ?_, (faithful.2 _).trans (by decide +kernel)⟩
  rw [outline, outline, Ne, faithful.1]
  decide

end Node

end CucumberExpressions
