import CucumberExpressions.Proofs.Reading

/-! Well-formed trees: every branch has children of its kinds and as many as it can have, and no
leaf carries an escaped token. Parsing makes only such trees. -/

namespace CucumberExpressions

namespace Node

inductive WellFormed : Node → Prop
  | leaf {t : Token} : t.kind.isEscaped = false → WellFormed (.leaf t)
  | branch {k : BranchKind} {children : List Node} :
      (∀ c ∈ children, c.kind ∈ k.childKinds) →
      (∀ c ∈ children, WellFormed c) →
      k.minChildren ≤ children.length → (∀ m ∈ k.maxChildren?, children.length ≤ m) →
      WellFormed (.branch k children)

inductive PartOf : Node → Node → Prop
  | whole (n : Node) : PartOf n n
  | child {m c : Node} {k : BranchKind} {children : List Node} :
      c ∈ children → PartOf m c → PartOf m (.branch k children)

theorem WellFormed.part {m n : Node} (wellFormed : n.WellFormed) (part : m.PartOf n) :
    m.WellFormed := by
  induction part with
  | whole => exact wellFormed
  | child member _ ih =>
      cases wellFormed with
      | branch _ each _ _ => exact ih (each _ member)

theorem wellFormed_literal (t : Token) : (literal t).WellFormed :=
  .leaf (by rw [Token.kind_unescape]; exact t.kind.isEscaped_unescaped)

end Node

namespace Piece

theorem kind_node (p : Piece) : p.node.kind ∈ BranchKind.alternative.childKinds := by
  cases p with
  | enclosed b o inner c => cases b <;> simp [node, Node.kind, Bracket.branch, BranchKind.childKinds]
  | single t => exact List.mem_cons_self

theorem wellFormed_node {p : Piece} {rest : List Token} (fits : p.Fits rest) :
    p.node.WellFormed := by
  cases p with
  | single t => exact Node.wellFormed_literal t
  | enclosed b o inner c =>
      have leaves : ∀ n ∈ inner.map Node.literal, n.kind = .text ∧ n.WellFormed := by
        intro n member
        rcases List.mem_map.1 member with ⟨t, _, rfl⟩
        exact ⟨rfl, Node.wellFormed_literal t⟩
      refine .branch ?_ (fun n member => (leaves n member).2) ?_ ?_
      · intro n member
        rw [(leaves n member).1]
        cases b <;> decide
      · cases b <;> exact Nat.zero_le _
      · cases b with
        | optional => exact nofun
        | parameter =>
            intro m limit
            cases limit
            rw [List.length_map]
            rcases Bracket.parameter_cases fits.2.1 with rfl | ⟨t, rfl, _⟩
            · exact Nat.zero_le 1
            · exact Nat.le_refl 1

theorem Fitting.wellFormed_nodes {ps : List Piece} (fitting : Fitting ps) :
    ∀ p ∈ ps, p.node.WellFormed := by
  intro p member
  rcases List.append_of_mem member with ⟨before, after, rfl⟩
  exact wellFormed_node fitting.right.1

theorem Fitting.wellFormed {ps : List Piece} (fitting : Fitting ps) :
    (Node.branch .expression (assembly.nodes ps)).WellFormed := by
  have item : ∀ n, (∃ p ∈ ps, assembly.node? p = some n) →
      n.kind ∈ BranchKind.alternative.childKinds ∧ n.WellFormed := by
    intro n found
    rcases found with ⟨p, member, node⟩
    have same : p.node = n := Option.some.inj node
    rw [← same]
    exact ⟨p.kind_node, fitting.wellFormed_nodes p member⟩
  have each : ∀ n ∈ assembly.nodes ps,
      n.kind ∈ BranchKind.expression.childKinds ∧ n.WellFormed := by
    intro n member
    rcases assembly.mem_nodes member with found | ⟨many, two, rfl, items⟩
    · rcases item n found with ⟨kind, wellFormed⟩
      have wider : BranchKind.alternative.childKinds ⊆ BranchKind.expression.childKinds := by
        decide
      exact ⟨wider kind, wellFormed⟩
    · refine ⟨by simp [Node.kind, BranchKind.childKinds], .branch ?_ ?_ ?_ nofun⟩
      · intro c inside
        rcases List.mem_map.1 inside with ⟨parts, _, rfl⟩
        exact List.mem_singleton_self _
      · intro c inside
        rcases List.mem_map.1 inside with ⟨parts, member, rfl⟩
        have part := fun m inParts => item m (items parts member m inParts)
        exact .branch (fun m inParts => (part m inParts).1) (fun m inParts => (part m inParts).2)
          (Nat.zero_le _) nofun
      · rw [List.length_map]
        exact two
  exact .branch (fun n member => (each n member).1) (fun n member => (each n member).2)
    (Nat.zero_le _) nofun

end Piece

theorem wellFormed_parseTokens (ts : List Token) : (parseTokens ts).value.WellFormed := by
  rcases Piece.exists_fitting ts with ⟨ps, fitting, rfl⟩
  rw [parseTokens_of_fitting fitting]
  exact fitting.wellFormed

end CucumberExpressions
