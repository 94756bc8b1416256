import CucumberExpressions.Validation.Tree
import Mathlib.Data.Set.List

/-! Results of checks: when a check comes to a value, and that one that does not names a problem. -/

namespace CucumberExpressions

namespace Checked

variable {α β γ : Type} {a : α} {b : β} {c : γ} {r : Checked α} {step : Step}

def Explained (r : Checked α) : Prop := r ≠ .error []

theorem explained_ok (a : α) : Explained (.ok a) := by
  intro same
  cases same

theorem explained_error_iff {ps : List Problem} :
    Explained (.error ps : Checked α) ↔ ps ≠ [] := by
  rw [Explained, Ne, Except.error.injEq]

theorem explained_problem (p : Problem) : Explained (.error [p] : Checked α) :=
  explained_error_iff.2 (List.cons_ne_nil p [])

theorem explained_fail (v : Violation) : Explained (fail v : Checked α) := explained_problem _

theorem Explained.under (explained : r.Explained) (step : Step) : (r.under step).Explained := by
  cases r with
  | ok a => exact explained_ok a
  | error ps =>
      rw [explained_error_iff] at explained
      rw [Checked.under, explained_error_iff, Ne, List.map_eq_nil_iff]
      exact explained

theorem problems_eq_nil_iff (explained : r.Explained) : r.problems = [] ↔ ∃ a, r = .ok a := by
  cases r with
  | ok a => exact iff_of_true rfl ⟨a, rfl⟩
  | error ps => exact iff_of_false (explained_error_iff.1 explained) (by simp)

theorem under_eq_ok_iff : r.under step = .ok a ↔ r = .ok a := by
  cases r <;> simp [Checked.under]

theorem both_eq_ok_iff {f : α → β → γ} {s : Checked β} :
    both f r s = .ok c ↔ ∃ a b, r = .ok a ∧ s = .ok b ∧ f a b = c := by
  cases r <;> cases s <;> simp [both]

theorem Explained.both {f : α → β → γ} {s : Checked β} (left : r.Explained)
    (right : s.Explained) : (Checked.both f r s).Explained := by
  match r, s with
  | .ok a, .ok b => exact explained_ok (f a b)
  | .ok a, .error qs => exact explained_error_iff.2 (explained_error_iff.1 right)
  | .error ps, s =>
      apply explained_error_iff.2
      exact List.append_ne_nil_of_left_ne_nil (explained_error_iff.1 left) _

theorem filterMap_toOption_ok (as : List α) :
    (as.map .ok : List (Checked α)).filterMap Except.toOption = as := by
  rw [List.filterMap_map]
  exact List.filterMap_some

theorem problems_mapIdx_eq_nil_iff {found : List (Checked α)}
    (explained : ∀ r ∈ found, Explained r) :
    (found.mapIdx fun i r => (r.under (.index i)).problems).flatten = [] ↔
      ∃ as : List α, found = as.map .ok := by
  rw [List.flatten_eq_nil_iff]
  constructor
  · intro none
    have values : ∀ r ∈ found, r ∈ Set.range (.ok : α → Checked α) := by
      intro r member
      rcases List.mem_iff_getElem.1 member with ⟨i, bound, rfl⟩
      have here := none _ (List.mem_mapIdx.2 ⟨i, bound, rfl⟩)
      rw [problems_eq_nil_iff ((explained _ member).under _)] at here
      rcases here with ⟨a, same⟩
      exact ⟨a, (under_eq_ok_iff.1 same).symm⟩
    have row : found ∈ Set.range (List.map (.ok : α → Checked α)) := by
      rw [Set.range_list_map]
      exact values
    rcases row with ⟨as, same⟩
    exact ⟨as, same.symm⟩
  · intro values ps member
    rcases values with ⟨as, rfl⟩
    rcases List.mem_mapIdx.1 member with ⟨i, bound, rfl⟩
    rw [List.getElem_map]
    rfl

theorem withProblems_eq_ok_iff {more : List Problem} :
    r.withProblems more = .ok a ↔ r = .ok a ∧ more = [] := by
  cases r <;> by_cases none : more = [] <;> simp [withProblems, none]

end Checked

theorem Entries.allow_of_absent {α : Type} {name : String} {check : Value → Checked α} {es : Entries}
    (absent : es.field? name = none) : es.allow name check = .ok none := by
  rw [Entries.allow, absent]

theorem Entries.allow_of_field {α : Type} {name : String} {check : Value → Checked α}
    {es : Entries} {v : Value} {a : α} (found : es.field? name = some v)
    (given : v ≠ .null) (read : check v = .ok a) : es.allow name check = .ok (some a) := by
  unfold Entries.allow
  rw [found]
  split
  · next none => cases none
  · next null => exact absurd (Option.some.inj null) given
  · next u _ same =>
      cases same
      rw [read]
      rfl

end CucumberExpressions
