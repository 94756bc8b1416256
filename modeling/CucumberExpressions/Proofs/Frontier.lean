import CucumberExpressions.Proofs.Canonical
import CucumberExpressions.Proofs.Reading

/-! Frontiers: what a tree shows of the tokens it was made of, from left to right. Parsing loses no
token, doubles none and moves none. -/

namespace CucumberExpressions

/-- A leaf shows its token, a branch the marks of its brackets and separators. -/
inductive Sign
  | token (t : Token)
  | mark (m : Mark)
  deriving DecidableEq, Repr

namespace Sign

def kind : Sign → Kind
  | token t => t.kind
  | mark m => .mark m

def text : Sign → String
  | token t => t.text
  | mark m => m.char.toString

def isToken : Sign → Bool
  | token _ => true
  | mark _ => false

def token? : Sign → Option Token
  | token t => some t
  | mark _ => none

theorem map_text_filter_isToken (signs : List Sign) :
    (signs.filter isToken).map text = (signs.filterMap token?).map Token.text := by
  induction signs with
  | nil => rfl
  | cons sign signs ih =>
      cases sign with
      | token t => exact congrArg _ ih
      | mark m => exact ih

/-- Whether the sign stands for the token: by the token it unescapes to, or by its mark alone. -/
def Shows : Sign → Token → Prop
  | token u, t => u = t.unescape
  | mark m, t => t.kind = .mark m

theorem Shows.kind_eq {sign : Sign} {t : Token} (shows : sign.Shows t) :
    sign.kind = t.kind.unescaped := by
  cases sign with
  | token u =>
      rw [kind, shows, Token.kind_unescape]
  | mark m =>
      have same : t.kind = .mark m := shows
      rw [kind, same]
      rfl

theorem map_kind_of_shows {signs : List Sign} {ts : List Token}
    (shows : List.Forall₂ Shows signs ts) : signs.map kind = ts.map (·.kind.unescaped) := by
  rw [← List.forall₂_eq_eq_eq, List.forall₂_map_left_iff, List.forall₂_map_right_iff]
  exact shows.imp fun _ _ shown => shown.kind_eq

theorem Shows.text_eq {sign : Sign} {t : Token} (shows : sign.Shows t)
    (fits : t.kind.Fits t.text.toList) : sign.text = t.unescape.text := by
  cases sign with
  | token u =>
      rw [text, shows]
  | mark m =>
      have same : t.kind = .mark m := shows
      have plain : t.unescape = t := Token.unescape_of_not_isEscaped (by rw [same]; rfl)
      rw [same] at fits
      rw [text, plain, ← String.toList_inj, fits, Char.toString_eq_singleton,
        String.toList_singleton]

end Sign

namespace Node

def frontier (n : Node) : List Sign :=
  n.fold (fun t => [.token t]) fun k parts =>
    match k with
    | .expression | .alternative => parts.flatten
    | .optional => .mark .beginOptional :: parts.flatten ++ [.mark .endOptional]
    | .parameter => .mark .beginParameter :: parts.flatten ++ [.mark .endParameter]
    | .alternation => [.mark .alternation].intercalate parts

theorem frontier_expression (ns : List Node) :
    (branch .expression ns).frontier = ns.flatMap frontier := fold_branch ..

theorem frontier_alternative (ns : List Node) :
    (branch .alternative ns).frontier = ns.flatMap frontier := fold_branch ..

theorem frontier_alternation (ns : List Node) :
    (branch .alternation ns).frontier = [.mark .alternation].intercalate (ns.map frontier) :=
  fold_branch ..

theorem frontier_bracket (b : Bracket) (ns : List Node) :
    (branch b.branch ns).frontier =
      .mark b.opening :: ns.flatMap frontier ++ [.mark b.closing] := by
  cases b <;> exact fold_branch ..

end Node

def Node.leaves (n : Node) : List Token := n.fold (fun t => [t]) fun _ => List.flatten

theorem Node.leaves_leaf (t : Token) : (leaf t).leaves = [t] := rfl

theorem Node.leaves_branch (k : BranchKind) (cs : List Node) :
    (branch k cs).leaves = (cs.map leaves).flatten := fold_branch ..

theorem filterMap_token?_intercalate (m : Mark) (parts : List (List Sign)) :
    ([.mark m].intercalate parts).filterMap Sign.token? =
      (parts.map (List.filterMap Sign.token?)).flatten := by
  induction parts with
  | nil => rfl
  | cons part parts ih =>
      rw [List.map_cons, List.flatten_cons, ← ih]
      cases parts with
      | nil => simp
      | cons next parts =>
          rw [List.intercalate_cons_cons, List.filterMap_append, List.filterMap_append,
            List.filterMap_cons_none rfl, List.filterMap_nil, List.append_nil]

theorem filterMap_token?_bracket (opening closing : Mark) (parts : List (List Sign)) :
    (Sign.mark opening :: parts.flatten ++ [Sign.mark closing]).filterMap Sign.token? =
      (parts.map (List.filterMap Sign.token?)).flatten := by
  rw [List.filterMap_append, List.filterMap_cons_none rfl, List.filterMap_flatten]
  exact List.append_nil _

theorem intercalate_append_cons {α : Type} (separator xs ys : List α) (zs : List (List α)) :
    separator.intercalate ((xs ++ ys) :: zs) = xs ++ separator.intercalate (ys :: zs) := by
  cases zs with
  | nil => simp
  | cons z zs => simp [List.append_assoc]

def tokenText (signs : List Sign) : String :=
  String.join ((signs.filter Sign.isToken).map Sign.text)

theorem Node.leaves_eq_filterMap_frontier (n : Node) :
    n.leaves = n.frontier.filterMap Sign.token? := by
  induction n using Node.induction_children with
  | leaf t => rfl
  | branch k children ih =>
      have parts : children.map leaves =
          (children.map frontier).map (List.filterMap Sign.token?) := by
        rw [List.map_map]
        exact List.map_congr_left ih
      rw [leaves_branch, parts, frontier, fold_branch]
      cases k with
      | expression => exact List.filterMap_flatten.symm
      | alternative => exact List.filterMap_flatten.symm
      | optional => exact (filterMap_token?_bracket _ _ _).symm
      | parameter => exact (filterMap_token?_bracket _ _ _).symm
      | alternation => exact (filterMap_token?_intercalate _ _).symm

theorem join_map_flatten {α : Type} (f : α → String) (parts : List (List α)) :
    String.join (parts.flatten.map f) =
      String.join (parts.map fun part => String.join (part.map f)) := by
  induction parts with
  | nil => rfl
  | cons part parts ih =>
      rw [List.flatten_cons, List.map_append, String.join_append, ih, List.map_cons,
        String.join_cons]

theorem Node.text_eq_join_leaves (n : Node) : n.text = String.join (n.leaves.map Token.text) := by
  induction n using Node.induction_children with
  | leaf t =>
      rw [leaves_leaf, List.map_singleton, String.join_cons, String.join_nil, String.append_empty,
        text_leaf]
  | branch k children ih =>
      rw [text_branch, leaves_branch, join_map_flatten, List.map_map]
      exact congrArg String.join (List.map_congr_left ih)

theorem Node.text_eq_tokenText (n : Node) : n.text = tokenText n.frontier := by
  rw [tokenText, Sign.map_text_filter_isToken, ← leaves_eq_filterMap_frontier, text_eq_join_leaves]

namespace Piece

def signs : Piece → List Sign
  | enclosed b _ inner _ =>
    .mark b.opening :: inner.map (.token ·.unescape) ++ [.mark b.closing]
  | single t => if t.kind = .mark .alternation then [.mark .alternation] else [.token t.unescape]

theorem frontier_node {p : Piece} (item : assembly.isSeparator p = false) :
    p.node.frontier = p.signs := by
  cases p with
  | enclosed b o inner c =>
      have leaves : (inner.map Node.literal).flatMap Node.frontier =
          inner.map (.token ·.unescape) := by
        induction inner with
        | nil => rfl
        | cons t inner ih =>
            rw [List.map_cons, List.flatMap_cons, ih item]
            rfl
      rw [node, Node.frontier_bracket, leaves, signs]
  | single t => rw [signs, if_neg (of_decide_eq_false item)]; rfl

theorem signs_separator {p : Piece} (separator : assembly.isSeparator p = true) :
    p.signs = [.mark .alternation] := by
  cases p with
  | enclosed => cases separator
  | single t => exact if_pos (of_decide_eq_true separator)

theorem frontier_alternatives (stretch : List Piece) :
    [.mark .alternation].intercalate
        ((assembly.alternatives stretch).map (·.flatMap Node.frontier)) =
      stretch.flatMap signs := by
  induction stretch with
  | nil => rfl
  | cons p stretch ih =>
      rw [List.flatMap_cons, ← ih]
      rcases List.exists_cons_of_ne_nil (assembly.alternatives_ne_nil stretch)
        with ⟨first, others, found⟩
      cases separator : assembly.isSeparator p with
      | true =>
          rw [assembly.alternatives_cons_separator separator, found, signs_separator separator]
          simp
      | false =>
          have items : (assembly.node? p).toList ++ first = p.node :: first := rfl
          rw [assembly.alternatives_cons_item separator, found, List.modifyHead_cons, items,
            List.map_cons, List.map_cons, List.flatMap_cons, frontier_node separator,
            intercalate_append_cons]

theorem frontier_stretchNodes (stretch : List Piece) :
    (assembly.stretchNodes stretch).flatMap Node.frontier = stretch.flatMap signs := by
  rw [← frontier_alternatives, Assembly.stretchNodes]
  split
  · next items found => rw [found, List.map_singleton, List.intercalate_singleton]
  · have alternative : Node.frontier ∘ Node.branch .alternative = (·.flatMap Node.frontier) :=
      funext Node.frontier_alternative
    rw [List.flatMap_singleton, Node.frontier_alternation, List.map_map, alternative]

theorem frontier_nodes (ps : List Piece) :
    (assembly.nodes ps).flatMap Node.frontier = ps.flatMap signs := by
  induction ps using assembly.induction_stretches with
  | nil => rfl
  | space p row space ih =>
      rw [assembly.nodes_cons_space space, List.flatMap_append, frontier_stretchNodes, ih,
        List.flatMap_singleton, List.flatMap_cons]
  | stretch front row nonempty inside border ih =>
      rw [assembly.nodes_append nonempty inside border, List.flatMap_append,
        frontier_stretchNodes, ih, List.flatMap_append]

theorem shows_signs {p : Piece} {rest : List Token} (fits : p.Fits rest) :
    List.Forall₂ Sign.Shows p.signs p.tokens := by
  cases p with
  | enclosed b opening inner closing =>
      rcases fits with ⟨opens, _, closes⟩
      have shown : List.Forall₂ Sign.Shows (inner.map (.token ·.unescape)) inner := by
        rw [List.forall₂_map_left_iff, List.forall₂_same]
        exact fun t _ => rfl
      exact .cons opens (List.rel_append shown (.cons closes .nil))
  | single t =>
      rw [signs]
      split
      · next separator => exact .cons separator .nil
      · exact .cons rfl .nil

theorem Fitting.shows_signs {ps : List Piece} (fitting : Fitting ps) :
    List.Forall₂ Sign.Shows (ps.flatMap signs) (ps.flatMap tokens) := by
  induction ps with
  | nil => exact .nil
  | cons p ps ih =>
      rw [List.flatMap_cons, List.flatMap_cons]
      exact List.rel_append (Piece.shows_signs fitting.1) (ih fitting.2)

end Piece

theorem Token.text_eq_of_fits {t : Token} (fits : t.kind.Fits t.text.toList) :
    t.text = (if t.kind.isEscaped then "\\" else "") ++ t.unescape.text := by
  cases escaped : t.kind.isEscaped with
  | false =>
      rw [Token.unescape_of_not_isEscaped escaped]
      simp
  | true =>
      have behind : ∃ c, t.text.toList = ['\\', c] := by
        cases kind : t.kind with
        | escaped m =>
            rw [kind] at fits
            exact ⟨m.char, fits⟩
        | _ =>
            rw [kind] at escaped
            cases escaped
      rcases behind with ⟨c, chars⟩
      rw [Token.unescape, if_pos escaped, ← String.toList_inj, String.toList_append, chars]
      simp

theorem frontier_parseTokens_shows (ts : List Token) :
    List.Forall₂ Sign.Shows (parseTokens ts).value.frontier ts := by
  rcases Piece.exists_fitting ts with ⟨ps, fitting, rfl⟩
  rw [parseTokens_of_fitting fitting, Node.frontier_expression, Piece.frontier_nodes]
  exact fitting.shows_signs

theorem kind_frontier_parseTokens (ts : List Token) :
    (parseTokens ts).value.frontier.map Sign.kind = ts.map (·.kind.unescaped) :=
  Sign.map_kind_of_shows (frontier_parseTokens_shows ts)

theorem text_frontier_parse (s : String) :
    (parse s).value.frontier.map Sign.text = (tokenize s).map (·.unescape.text) := by
  rw [← List.forall₂_eq_eq_eq, List.forall₂_map_left_iff, List.forall₂_map_right_iff]
  have fitting : List.Forall₂ (fun t sign => t.kind.Fits t.text.toList ∧ Sign.Shows sign t)
      (tokenize s) (parse s).value.frontier := by
    rw [List.forall₂_and_left]
    exact ⟨(canonical_tokenize s).1, (frontier_parseTokens_shows (tokenize s)).flip⟩
  exact fitting.flip.imp fun _ _ both => both.2.text_eq both.1

/-- Parsing loses no token, doubles none and moves none. The signs of the tree stand one by one for
the tokens; written out, they are the expression without the backslashes of the escaped marks, and
the text of the tree is what remains of that without the marks of the branches. -/
theorem parse_frontier_shows_tokens :
    (∀ ts : List Token,
      (parseTokens ts).value.frontier.length = ts.length ∧
      (parseTokens ts).value.frontier.map Sign.kind = ts.map (·.kind.unescaped) ∧
      List.Forall₂ Sign.Shows (parseTokens ts).value.frontier ts) ∧
    ∀ s : String,
      String.join ((tokenize s).map fun t =>
        (if t.kind.isEscaped then "\\" else "") ++ t.unescape.text) = s ∧
      String.join ((parse s).value.frontier.map Sign.text) =
        String.join ((tokenize s).map (·.unescape.text)) ∧
      (parse s).value.text =
        String.join (((parse s).value.frontier.filter Sign.isToken).map Sign.text) := by
  constructor
  · intro ts
    have shows := frontier_parseTokens_shows ts
    exact ⟨shows.length_eq, kind_frontier_parseTokens ts, shows⟩
  · intro s
    refine ⟨?_, ?_, Node.text_eq_tokenText _⟩
    · have texts : (tokenize s).map Token.text = (tokenize s).map fun t =>
          (if t.kind.isEscaped then "\\" else "") ++ t.unescape.text :=
        List.map_congr_left fun t member =>
          Token.text_eq_of_fits ((canonical_tokenize s).1 t member)
      rw [← texts]
      exact textOf_tokenize s
    · rw [text_frontier_parse]

end CucumberExpressions
