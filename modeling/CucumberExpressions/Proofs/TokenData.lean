import CucumberExpressions.Proofs.Checked

/-! Data of tokens: which data is a text, a kind or a token, and that all other data is refused with
a problem. -/

namespace CucumberExpressions

/-- A text, or its bytes where data has bytes. -/
def Value.IsText (v : Value) (s : String) : Prop :=
  v = .text s ∨ ∃ bs, v = .scalar (.bytes bs) ∧ String.fromUTF8? ⟨bs.toArray⟩ = some s

def Entries.HasText (name s : String) (es : Entries) : Prop :=
  ∃ v, es.field? name = some v ∧ v.IsText s

def Value.IsToken (v : Value) (t : Token) : Prop :=
  ∃ es, v = .map es ∧ Entries.HasText "text" t.text es ∧ Entries.HasText "type" t.kind.name es

theorem Entries.require_eq_ok_iff {α : Type} {name : String} {check : Value → Checked α}
    {es : Entries} {a : α} :
    es.require name check = .ok a ↔ ∃ v, es.field? name = some v ∧ check v = .ok a := by
  unfold Entries.require
  split
  · next none => simp [none]
  · next v found => simp [found, Checked.under_eq_ok_iff]

theorem Entries.explained_require {α : Type} {name : String} {check : Value → Checked α}
    {es : Entries} (explained : ∀ v, (check v).Explained) : (es.require name check).Explained := by
  unfold Entries.require
  split
  · exact Checked.explained_problem _
  · next v _ => exact (explained v).under _

theorem Value.checkText_eq_ok_iff {v : Value} {s : String} :
    v.checkText = .ok s ↔ v.IsText s := by
  unfold Value.checkText
  split
  · next u => simp [IsText, Value.text]
  · next bs =>
      split
      · next u found => simp [IsText, Value.text, found]
      · next unreadable => simp [IsText, Value.text, unreadable, Checked.fail]
  · next other notText notBytes =>
      refine iff_of_false (by simp [Checked.fail]) ?_
      intro text
      rcases text with rfl | ⟨bs, rfl, _⟩
      · exact notText s rfl
      · exact notBytes bs rfl

theorem Value.explained_checkText (v : Value) : v.checkText.Explained := by
  unfold Value.checkText
  split
  · exact Checked.explained_ok _
  · split
    · exact Checked.explained_ok _
    · exact Checked.explained_fail _
  · exact Checked.explained_fail _

theorem Kind.check_eq_ok_iff {v : Value} {k : Kind} : Kind.check v = .ok k ↔ v.IsText k.name := by
  have named : v.checkText.toOption.bind ofName? = some k ↔ v.IsText k.name := by
    rw [← Value.checkText_eq_ok_iff]
    cases v.checkText <;> simp [Except.toOption, Kind.ofName?_eq_some_iff]
  unfold Kind.check
  rw [← named]
  split
  · next found => simp [found]
  · next none => simp [none, Checked.fail]

theorem Kind.explained_check (v : Value) : (Kind.check v).Explained := by
  unfold Kind.check
  split
  · exact Checked.explained_ok _
  · exact Checked.explained_fail _

theorem Token.check_eq_ok_iff {v : Value} {t : Token} : Token.check v = .ok t ↔ v.IsToken t := by
  cases v with
  | map es =>
      rw [Token.check, Checked.both_eq_ok_iff]
      simp only [Entries.require_eq_ok_iff, Value.checkText_eq_ok_iff, Kind.check_eq_ok_iff]
      constructor
      · rintro ⟨text, kind, isText, isKind, rfl⟩
        exact ⟨es, rfl, isText, isKind⟩
      · rintro ⟨es', same, isText, isKind⟩
        cases same
        exact ⟨t.text, t.kind, isText, isKind, rfl⟩
  | _ =>
      refine iff_of_false (by simp [Token.check, Checked.fail]) ?_
      rintro ⟨es, same, _⟩
      cases same

theorem Token.checkLeaf_eq_ok_iff {v : Value} {t : Token} :
    Token.checkLeaf v = .ok t ↔ v.IsToken t ∧ t.kind.isEscaped = false := by
  rw [← Token.check_eq_ok_iff]
  unfold Token.checkLeaf
  split
  · next u found =>
      split
      · next escaped =>
          refine iff_of_false (by simp [Checked.fail]) ?_
          rintro ⟨same, plain⟩
          rw [found] at same
          cases same
          rw [escaped] at plain
          cases plain
      · next plain =>
          rw [found]
          constructor
          · rintro same
            cases same
            exact ⟨rfl, by simpa using plain⟩
          · exact fun both => both.1
  · next ps found => simp [found]

theorem Token.explained_check (v : Value) : (Token.check v).Explained := by
  cases v with
  | map es =>
      have text : (Entries.require "text" Value.checkText es).Explained :=
        Entries.explained_require Value.explained_checkText
      have kind : (Entries.require "type" Kind.check es).Explained :=
        Entries.explained_require Kind.explained_check
      exact text.both kind
  | _ => exact Checked.explained_fail _

theorem Token.explained_checkLeaf (v : Value) : (Token.checkLeaf v).Explained := by
  unfold Token.checkLeaf
  split
  · split
    · exact Checked.explained_fail _
    · exact Checked.explained_ok _
  · next ps refused =>
      rw [← refused]
      exact Token.explained_check v

end CucumberExpressions
