import CucumberExpressions.Proofs.Erasure
import CucumberExpressions.Proofs.LayoutNotices

/-! Layouts of the same brackets: the groups, the parameters and the notices of a token sequence
depend on where its brackets and its texts stand, and on nothing else of its tokens. -/

namespace CucumberExpressions

namespace Layout

/-- Whether the same brackets stand at the same positions, and text, the only thing that a parameter
can hold. -/
structure SameBrackets (ts us : List Token) : Prop where
  length : ts.length = us.length
  opening : ∀ b : Bracket, hasKind ts (.mark b.opening) = hasKind us (.mark b.opening)
  closing : ∀ b : Bracket, hasKind ts (.mark b.closing) = hasKind us (.mark b.closing)
  text : hasKind ts .text = hasKind us .text

namespace SameBrackets

variable {ts us : List Token} (same : SameBrackets ts us)

include same

theorem afterClose_eq : afterClose ts = afterClose us := by
  have close : hasKind ts (.mark .endOptional) = hasKind us (.mark .endOptional) :=
    same.closing .optional
  funext e
  induction e with
  | zero => rfl
  | succ e ih => rw [afterClose, afterClose, close, ih]

theorem opener?_eq : opener? ts = opener? us := by
  have opens : hasKind ts (.mark .beginOptional) = hasKind us (.mark .beginOptional) :=
    same.opening .optional
  have closes : hasKind ts (.mark .endOptional) = hasKind us (.mark .endOptional) :=
    same.closing .optional
  funext e
  rw [opener?, opener?, opens, closes, same.afterClose_eq]

theorem groups_eq : groups ts = groups us := by
  rw [groups, groups, same.opener?_eq, same.length]

theorem inGroup_eq : inGroup ts = inGroup us := by
  funext i
  rw [inGroup, inGroup, same.groups_eq]

theorem parameterEnd?_eq : parameterEnd? ts = parameterEnd? us := by
  have opens : hasKind ts (.mark .beginParameter) = hasKind us (.mark .beginParameter) :=
    same.opening .parameter
  have closes : hasKind ts (.mark .endParameter) = hasKind us (.mark .endParameter) :=
    same.closing .parameter
  funext b
  rw [parameterEnd?, parameterEnd?, opens, closes, same.text, same.inGroup_eq]

theorem spans_eq : spans ts = spans us := by
  rw [spans, spans, parameters, parameters, same.groups_eq, same.parameterEnd?_eq, same.length]

theorem notice?_eq : notice? ts = notice? us := by
  have group : hasKind ts (.mark .beginOptional) = hasKind us (.mark .beginOptional) :=
    same.opening .optional
  have parameter : hasKind ts (.mark .beginParameter) = hasKind us (.mark .beginParameter) :=
    same.opening .parameter
  funext i
  rw [notice?, notice?, group, parameter, opensGroup, opensGroup, scopePosition, scopePosition,
    same.groups_eq, same.inGroup_eq, same.parameterEnd?_eq]

theorem map_item?_eq {h : Node → Node} (keeps : Node.KeepsBranches h)
    (leaves : ts.map (h ∘ Node.literal) = us.map (h ∘ Node.literal)) (i : Nat) :
    (item? ts i).map h = (item? us i).map h := by
  rw [item?, item?, same.spans_eq]
  split
  · next s _ =>
      have inner : (s.inner ts).map (h ∘ Node.literal) = (s.inner us).map (h ∘ Node.literal) := by
        rw [Span.inner, Span.inner, List.map_drop, List.map_take, leaves, List.map_drop,
          List.map_take]
      have node : h (s.node ts) = h (s.node us) := by
        rw [Span.node, Span.node, keeps, keeps, List.map_map, List.map_map, inner]
      split
      · exact congrArg some node
      · rfl
  · rw [Option.map_map, Option.map_map, ← List.getElem?_map, ← List.getElem?_map, leaves]

theorem item?_eq (literals : ts.map Node.literal = us.map Node.literal) :
    item? ts = item? us := by
  funext i
  have items := same.map_item?_eq Node.keepsBranches_id literals i
  rw [Option.map_id] at items
  exact items

end SameBrackets

end Layout

theorem parseTokens_eq_layout (ts : List Token) :
    parseTokens ts =
      ⟨Layout.tree ts, (List.range ts.length).filterMap (Layout.notice? ts)⟩ := by
  obtain ⟨ps, fitting, rfl⟩ := Piece.exists_fitting ts
  have placed := Piece.noticesFrom_placed [] fitting
  rw [Piece.extent_nil, ← List.range_eq_range'] at placed
  rw [parseTokens_of_fitting fitting, placed, Piece.tree_of_fitting fitting]
  rfl

end CucumberExpressions
