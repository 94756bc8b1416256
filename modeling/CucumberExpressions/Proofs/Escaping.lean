import CucumberExpressions.Proofs.Frontier

/-! Escaping: a bracket or a slash that a tree keeps as text means the same behind a backslash, and
then nothing is left to note. -/

namespace CucumberExpressions

/-- Whether tokens of the kind shape a tree and do not only part its text. -/
def Kind.isStructural : Kind → Bool
  | mark m => m != .whiteSpace
  | _ => false

namespace Token

def escape (t : Token) : Token :=
  match t.kind with
  | .mark m => ⟨"\\" ++ t.text, .escaped m⟩
  | _ => t

def isKept (t : Token) (sign : Sign) : Bool := sign.isToken && t.kind.isStructural

def escapeKept (t : Token) (sign : Sign) : Token := if t.isKept sign then t.escape else t

end Token

def escapeKept (ts : List Token) : List Token :=
  ts.zipWith Token.escapeKept (parseTokens ts).value.frontier

/-- The expression with a backslash before each bracket and slash that its tree keeps as text. -/
def withEscapes (s : String) : String :=
  String.join <| (tokenize s).zipWith
    (fun t sign => (if t.isKept sign then "\\" else "") ++ t.text) (parse s).value.frontier

namespace Token

theorem escapeKept_cases (t : Token) (sign : Sign) :
    (t.isKept sign = false ∧ t.escapeKept sign = t) ∨
      ∃ m, t.isKept sign = true ∧ t.kind = .mark m ∧ m ≠ .whiteSpace ∧
        t.escapeKept sign = ⟨"\\" ++ t.text, .escaped m⟩ := by
  cases kept : t.isKept sign with
  | false => exact Or.inl ⟨rfl, if_neg (Bool.eq_false_iff.1 kept)⟩
  | true =>
      have structural : t.kind.isStructural = true := (Bool.and_eq_true_iff.1 kept).2
      cases marked : t.kind with
      | mark m =>
          rw [marked] at structural
          have escaped : t.escape = ⟨"\\" ++ t.text, .escaped m⟩ := by
            rw [escape, marked]
          refine Or.inr ⟨m, rfl, rfl, bne_iff_ne.1 structural, ?_⟩
          rw [escapeKept, if_pos kept, escaped]
      | _ =>
          rw [marked] at structural
          cases structural

theorem unescape_backslash (text : String) (m : Mark) :
    (⟨"\\" ++ text, .escaped m⟩ : Token).unescape = ⟨text, .mark m⟩ := by
  have behind : ("\\" ++ text).toList.drop 1 = text.toList := by
    rw [String.toList_append]
    rfl
  calc (⟨"\\" ++ text, .escaped m⟩ : Token).unescape
      = ⟨.ofList (("\\" ++ text).toList.drop 1), .mark m⟩ := rfl
    _ = ⟨text, .mark m⟩ := by rw [behind, String.ofList_toList]

theorem unescape_escapeKept (t : Token) (sign : Sign) :
    (t.escapeKept sign).unescape = t.unescape := by
  rcases t.escapeKept_cases sign with ⟨_, same⟩ | ⟨m, _, marked, _, escaped⟩
  · rw [same]
  · have plain : t.unescape = t := unescape_of_not_isEscaped (by rw [marked]; rfl)
    rw [escaped, unescape_backslash, plain, ← marked]

theorem text_escapeKept (t : Token) (sign : Sign) :
    (t.escapeKept sign).text = (if t.isKept sign then "\\" else "") ++ t.text := by
  rcases t.escapeKept_cases sign with ⟨other, same⟩ | ⟨m, kept, _, _, escaped⟩
  · rw [same, other]
    simp
  · rw [escaped, kept]
    rfl

theorem fits_escapeKept {t : Token} (fits : t.kind.Fits t.text.toList) (sign : Sign) :
    (t.escapeKept sign).kind.Fits (t.escapeKept sign).text.toList := by
  rcases t.escapeKept_cases sign with ⟨_, same⟩ | ⟨m, _, marked, _, escaped⟩
  · rw [same]
    exact fits
  · rw [marked] at fits
    rw [escaped, String.toList_append, fits]
    rfl

theorem merges_escapeKept {t u : Token} (apart : t.kind.merges u.kind = false)
    (left right : Sign) :
    (t.escapeKept left).kind.merges (u.escapeKept right).kind = false := by
  rcases t.escapeKept_cases left with ⟨_, sameT⟩ | ⟨m, _, _, _, escapedT⟩
  · rcases u.escapeKept_cases right with ⟨_, sameU⟩ | ⟨n, _, _, _, escapedU⟩
    · rw [sameT, sameU]
      exact apart
    · rw [escapedU]
      cases (t.escapeKept left).kind <;> rfl
  · rw [escapedT]
    rfl

theorem kind_escapeKept_ne {m : Mark} (structural : m ≠ .whiteSpace) (t u : Token) :
    (t.escapeKept (.token u)).kind ≠ .mark m := by
  rcases t.escapeKept_cases (.token u) with ⟨other, same⟩ | ⟨n, _, _, _, escaped⟩
  · intro marked
    rw [same] at marked
    have kept : t.isKept (.token u) = true := by
      rw [isKept, marked]
      exact bne_iff_ne.2 structural
    rw [kept] at other
    cases other
  · rw [escaped]
    exact Kind.noConfusion

end Token

theorem Canonical.escapeKept {ts : List Token} (canonical : Canonical ts) :
    Canonical (escapeKept ts) := by
  have lengths := (frontier_parseTokens_shows ts).length_eq
  have firsts : (ts.zip (parseTokens ts).value.frontier).map Prod.fst = ts :=
    List.map_fst_zip lengths.ge
  rw [CucumberExpressions.escapeKept, ← List.map_uncurry_zip_eq_zipWith]
  constructor
  · intro u member
    rcases List.mem_map.1 member with ⟨⟨t, sign⟩, both, rfl⟩
    exact Token.fits_escapeKept (canonical.1 t (List.of_mem_zip both).1) sign
  · have chain := canonical.2
    rw [← firsts, List.isChain_map] at chain
    rw [List.isChain_map]
    exact chain.imp fun _ _ apart => Token.merges_escapeKept apart _ _

theorem withEscapes_eq_textOf (s : String) :
    withEscapes s = textOf (escapeKept (tokenize s)) := by
  rw [textOf, escapeKept, List.map_zipWith, withEscapes]
  simp only [Token.text_escapeKept]
  rfl

namespace Piece

def escaped : Piece → Piece
  | enclosed b opening inner closing =>
    enclosed b opening (inner.map fun t => t.escapeKept (.token t.unescape)) closing
  | single t =>
    single (if t.kind = .mark .alternation then t else t.escapeKept (.token t.unescape))

theorem length_signs (p : Piece) : p.signs.length = p.tokens.length := by
  cases p with
  | enclosed b opening inner closing => simp [signs, tokens]
  | single t =>
      rw [signs]
      split <;> rfl

theorem zipWith_signs (p : Piece) :
    p.tokens.zipWith Token.escapeKept p.signs = p.escaped.tokens := by
  cases p with
  | enclosed b opening inner closing =>
      have leaves : inner.zipWith Token.escapeKept (inner.map (.token ·.unescape)) =
          inner.map fun t => t.escapeKept (.token t.unescape) := by
        rw [List.zipWith_map_right, List.zipWith_self]
      rw [tokens, signs, List.zipWith_append (by simp), List.zipWith_cons_cons, leaves]
      rfl
  | single t =>
      rw [signs, escaped]
      split <;> rfl

theorem zipWith_flatMap_signs (ps : List Piece) :
    (ps.flatMap tokens).zipWith Token.escapeKept (ps.flatMap signs) =
      (ps.map escaped).flatMap tokens := by
  induction ps with
  | nil => rfl
  | cons p ps ih =>
      rw [List.flatMap_cons, List.flatMap_cons, List.zipWith_append p.length_signs.symm,
        zipWith_signs, ih, List.map_cons, List.flatMap_cons]

theorem holds_escaped {b : Bracket} {inner : List Token} (holds : b.Holds inner) :
    b.Holds (inner.map fun t => t.escapeKept (.token t.unescape)) := by
  cases b with
  | optional =>
      intro u member
      rcases List.mem_map.1 member with ⟨t, _, rfl⟩
      exact t.kind_escapeKept_ne (by decide) t.unescape
  | parameter =>
      rcases holds with empty | text
      · rw [List.map_eq_nil_iff.1 empty]
        exact Or.inl rfl
      · rcases List.map_eq_singleton_iff.1 text with ⟨t, rfl, kind⟩
        have same : t.escapeKept (.token t.unescape) = t := by
          rw [Token.escapeKept, Token.isKept, kind]
          rfl
        rw [List.map_singleton, same]
        exact Or.inr text

theorem kind_single_escaped_ne (t : Token) (b : Bracket) :
    (if t.kind = .mark .alternation then t else t.escapeKept (.token t.unescape)).kind ≠
      .mark b.opening := by
  have structural : b.opening ≠ .whiteSpace ∧ .alternation ≠ b.opening := by
    cases b <;> decide
  split
  · next separator =>
      rw [separator]
      intro opens
      exact structural.2 (Kind.mark.inj opens)
  · exact t.kind_escapeKept_ne structural.1 t.unescape

theorem Fits.escaped {p : Piece} {rest : List Token} (fits : p.Fits rest) (later : List Token) :
    p.escaped.Fits later := by
  cases p with
  | enclosed b opening inner closing =>
      rcases fits with ⟨opens, holds, closes⟩
      exact ⟨opens, holds_escaped holds, closes⟩
  | single t => exact fits_of_not_opening (kind_single_escaped_ne t) later

theorem Fitting.escaped {ps : List Piece} (fitting : Fitting ps) :
    Fitting (ps.map Piece.escaped) := by
  induction ps with
  | nil => trivial
  | cons p ps ih => exact ⟨fitting.1.escaped _, ih fitting.2⟩

theorem isSpace_escaped (p : Piece) : assembly.isSpace p.escaped = assembly.isSpace p := by
  cases p with
  | enclosed => rfl
  | single t =>
      refine decide_eq_decide.2 ?_
      split
      · rfl
      · rcases t.escapeKept_cases (.token t.unescape)
          with ⟨_, same⟩ | ⟨m, _, marked, other, escaped⟩
        · rw [same]
        · rw [escaped, marked]
          refine iff_of_false Kind.noConfusion ?_
          intro space
          exact other (Kind.mark.inj space)

theorem isSeparator_escaped (p : Piece) :
    assembly.isSeparator p.escaped = assembly.isSeparator p := by
  cases p with
  | enclosed => rfl
  | single t =>
      refine decide_eq_decide.2 ?_
      split
      · rfl
      · next item =>
          exact iff_of_false (t.kind_escapeKept_ne (by decide) t.unescape) item

theorem node_escaped (p : Piece) : p.escaped.node = p.node := by
  have literal : ∀ t sign, Node.literal (t.escapeKept sign) = Node.literal t := by
    intro t sign
    rw [Node.literal, Node.literal, Token.unescape_escapeKept]
  cases p with
  | enclosed b opening inner closing =>
      rw [escaped, node, node, List.map_map]
      congr 1
      exact List.map_congr_left fun t _ => literal t (.token t.unescape)
  | single t =>
      rw [escaped, node, node]
      split
      · rfl
      · exact literal t (.token t.unescape)

theorem nodes_escaped (ps : List Piece) :
    assembly.nodes (ps.map escaped) = assembly.nodes ps :=
  Assembly.nodes_map (fun p _ => isSpace_escaped p) (fun p _ => isSeparator_escaped p)
    fun p _ => congrArg some p.node_escaped

theorem unmatchedFrom_eq_nil {ts : List Token}
    (closed : ∀ t ∈ ts, t.kind ≠ .mark .beginOptional) (i : Nat) : unmatchedFrom i ts = [] := by
  induction ts generalizing i with
  | nil => rfl
  | cons t ts ih =>
      rw [unmatchedFrom, if_neg (closed t List.mem_cons_self)]
      exact ih (fun u later => closed u (List.mem_cons_of_mem t later)) (i + 1)

theorem notices_escaped (p : Piece) (i : Nat) : p.escaped.notices i = [] := by
  cases p with
  | enclosed b opening inner closing =>
      cases b with
      | optional =>
          apply unmatchedFrom_eq_nil
          intro u member
          rcases List.mem_map.1 member with ⟨t, _, rfl⟩
          exact t.kind_escapeKept_ne (by decide) t.unescape
      | parameter => rfl
  | single t => exact notices_of_not_opening (kind_single_escaped_ne t) i

theorem noticesFrom_escaped (ps : List Piece) (i : Nat) :
    noticesFrom i (ps.map escaped) = [] := by
  induction ps generalizing i with
  | nil => rfl
  | cons p ps ih =>
      rw [List.map_cons, noticesFrom, notices_escaped, ih]
      rfl

end Piece

theorem parseTokens_escapeKept (ts : List Token) :
    parseTokens (escapeKept ts) = ⟨(parseTokens ts).value, []⟩ := by
  rcases Piece.exists_fitting ts with ⟨ps, fitting, rfl⟩
  have escaped : escapeKept (ps.flatMap Piece.tokens) =
      (ps.map Piece.escaped).flatMap Piece.tokens := by
    rw [escapeKept, parseTokens_of_fitting fitting, Node.frontier_expression, Piece.frontier_nodes,
      Piece.zipWith_flatMap_signs]
  rw [escaped, parseTokens_of_fitting fitting.escaped, parseTokens_of_fitting fitting,
    Piece.nodes_escaped, Piece.noticesFrom_escaped]

/-- What a tree keeps as text could have been escaped: the tokens are the same but for the escaped
ones, the tree is the same, and nothing is noted. -/
theorem parse_withEscapes_eq_parse (s : String) :
    List.Forall₂ Sign.Shows (parse s).value.frontier (tokenize s) ∧
      tokenize (withEscapes s) = escapeKept (tokenize s) ∧
      (parse (withEscapes s)).value = (parse s).value ∧
      (parse (withEscapes s)).notices = [] := by
  have tokens : tokenize (withEscapes s) = escapeKept (tokenize s) := by
    rw [withEscapes_eq_textOf]
    exact tokenize_textOf (canonical_tokenize s).escapeKept
  have parsed : parse (withEscapes s) = ⟨(parse s).value, []⟩ := by
    rw [parse, tokens]
    exact parseTokens_escapeKept (tokenize s)
  refine ⟨frontier_parseTokens_shows (tokenize s), tokens, ?_, ?_⟩
  · rw [parsed]
  · rw [parsed]

end CucumberExpressions
