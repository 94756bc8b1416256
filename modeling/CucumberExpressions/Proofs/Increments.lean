import CucumberExpressions.Proofs.Canonical

/-! Expressions read in two parts: the tokens of the first part stay as they are, but for the last
one where the second part begins with a character that it would have taken. -/

namespace CucumberExpressions

theorem Kind.endsBefore_congr {k : Kind} {s s' : List Char} (head : s.head? = s'.head?) :
    k.EndsBefore s ↔ k.EndsBefore s' := by
  cases k <;> simp only [EndsBefore, head]

theorem Kind.not_endsBefore_iff (k : Kind) (s : List Char) : ¬ k.EndsBefore s ↔
    (k = .text ∧ ∃ c ∈ s.head?, isPlain c) ∨
      (k = .escape ∧ ∃ c ∈ s.head?, ∃ m : Mark, c = m.char) := by
  cases k <;> simp [EndsBefore]

theorem flatMap_text_ne_nil {t : Token} {ts : List Token} (member : t ∈ ts)
    (fits : t.kind.Fits t.text.toList) : ts.flatMap (·.text.toList) ≠ [] := by
  rcases fits.exists_head with ⟨c, later, chars, _⟩
  intro empty
  rw [List.flatMap_eq_nil_iff] at empty
  rw [empty t member] at chars
  cases chars

theorem tokensOf_append_of_canonical {front : List Token} {t : Token}
    (canonical : Canonical (front ++ [t])) (rest : List Char) :
    tokensOf ((front ++ [t]).flatMap (·.text.toList) ++ rest) =
      front ++ tokensOf (t.text.toList ++ rest) := by
  induction front with
  | nil => simp
  | cons u front ih =>
      rw [List.cons_append] at canonical
      have fits := canonical.1 u (by simp)
      have last : t ∈ front ++ [t] := by simp
      have later := flatMap_text_ne_nil last (canonical.1 t (by simp))
      have ends : u.kind.EndsBefore ((front ++ [t]).flatMap (·.text.toList) ++ rest) :=
        (Kind.endsBefore_congr (List.head?_append_of_ne_nil _ later)).2 canonical.endsBefore
      rw [List.cons_append, List.flatMap_cons, List.append_assoc, tokensOf_append fits ends,
        ih canonical.tail, List.cons_append]

theorem textOf_append (ts us : List Token) : textOf (ts ++ us) = textOf ts ++ textOf us := by
  rw [textOf, List.map_append, String.join_append]
  rfl

theorem canonical_append_iff (ts us : List Token) : Canonical (ts ++ us) ↔
    Canonical ts ∧ Canonical us ∧
      ∀ t ∈ ts.getLast?, ∀ u ∈ us.head?, t.kind.merges u.kind = false := by
  simp only [Canonical, List.isChain_append, List.forall_mem_append]
  tauto

theorem Canonical.apart_iff {us : List Token} (canonical : Canonical us) (k : Kind) :
    (∀ u ∈ us.head?, k.merges u.kind = false) ↔ k.EndsBefore (textOf us).toList := by
  rw [toList_textOf]
  cases us with
  | nil => exact iff_of_true (by simp) k.endsBefore_nil
  | cons u us =>
      have fits := canonical.1 u List.mem_cons_self
      rw [List.flatMap_cons, fits.endsBefore_iff]
      simp

theorem tokenize_append_eq_iff (a b : String) : tokenize (a ++ b) = tokenize a ++ tokenize b ↔
    ∀ t ∈ (tokenize a).getLast?, t.kind.EndsBefore b.toList := by
  have written : textOf (tokenize a ++ tokenize b) = a ++ b := by
    rw [textOf_append, textOf_tokenize, textOf_tokenize]
  have apart := canonical_append_iff (tokenize a) (tokenize b)
  simp only [canonical_tokenize, (canonical_tokenize b).apart_iff, textOf_tokenize, true_and]
    at apart
  rw [← apart]
  constructor
  · intro same
    rw [← same]
    exact canonical_tokenize (a ++ b)
  · intro canonical
    rw [← written, tokenize_textOf canonical]

theorem dropLast_tokenize_isPrefix (a b : String) :
    (tokenize a).dropLast <+: tokenize (a ++ b) := by
  rcases List.eq_nil_or_concat (tokenize a) with none | ⟨front, t, some⟩
  · rw [none]
    exact List.nil_prefix
  · have canonical := canonical_tokenize a
    have written := textOf_tokenize a
    rw [List.concat_eq_append] at some
    rw [some] at canonical written
    rw [some, List.dropLast_concat, tokenize, String.toList_append, ← written, toList_textOf,
      tokensOf_append_of_canonical canonical]
    exact List.prefix_append front _

/-- Reading is incremental. What follows an expression can change no token of it but the last, and
it changes the last one exactly where a text goes on with a plain character, or where a lone
backslash comes to stand before a mark. -/
theorem tokenize_append_incremental (a b : String) :
    (tokenize a).dropLast <+: tokenize (a ++ b) ∧
      (tokenize (a ++ b) = tokenize a ++ tokenize b ↔
        ¬ ((∃ t ∈ (tokenize a).getLast?, t.kind = .text) ∧
          ∃ c ∈ b.toList.head?, c ≠ '\\' ∧ ∀ m : Mark, c ≠ m.char) ∧
        ¬ ((∃ t ∈ (tokenize a).getLast?, t.kind = .escape) ∧
          ∃ c ∈ b.toList.head?, ∃ m : Mark, c = m.char)) := by
  refine ⟨dropLast_tokenize_isPrefix a b, ?_⟩
  rw [tokenize_append_eq_iff]
  cases (tokenize a).getLast? with
  | none => simp
  | some t =>
      have last := t.kind.not_endsBefore_iff b.toList
      simp only [isPlain_iff] at last
      simp only [Option.mem_some_iff, forall_eq', exists_eq_left']
      rw [← not_or, ← last, not_not]

end CucumberExpressions
