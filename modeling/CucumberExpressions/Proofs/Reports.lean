import CucumberExpressions.Fixture.Check
import CucumberExpressions.Proofs.OutlineLines
import Mathlib.Data.List.Forall2

/-! The reports on a fixture: one for each expectation that is not met, which shows what was
expected and what came of the expression, and never the same text for both. -/

namespace CucumberExpressions

/-- The lines between the line `expected:` and the line `actual:` after it. -/
def expectedBlock (report : String) : String :=
  "\n".intercalate
    ((((linesOf report).dropWhile (· ≠ "expected:")).drop 1).takeWhile (· ≠ "actual:"))

def actualBlock (report : String) : String :=
  "\n".intercalate (((linesOf report).dropWhile (· ≠ "actual:")).drop 1)

theorem linesOf_describe {what : String} (single : '\n' ∉ what.toList) (expected actual : String) :
    linesOf (Mismatch.describe what expected actual) =
      what :: "expected:" :: (linesOf expected ++ "actual:" :: linesOf actual) := by
  have opening : "\nexpected:\n" = "\n" ++ "expected:" ++ "\n" := by decide +kernel
  have closing : "\nactual:\n" = "\n" ++ "actual:" ++ "\n" := by decide +kernel
  have cut : Mismatch.describe what expected actual = what ++ "\n" ++
      ("expected:" ++ "\n" ++ (expected ++ "\n" ++ ("actual:" ++ "\n" ++ actual))) := by
    simp only [Mismatch.describe, opening, closing, String.append_assoc]
  have first : linesOf "expected:" = ["expected:"] := linesOf_of_newline_notMem (by decide +kernel)
  have second : linesOf "actual:" = ["actual:"] := linesOf_of_newline_notMem (by decide +kernel)
  rw [cut, linesOf_append_newline, linesOf_append_newline, linesOf_append_newline,
    linesOf_append_newline, linesOf_of_newline_notMem single, first, second]
  rfl

section Blocks

variable {what expected : String} (single : '\n' ∉ what.toList) (space : ' ' ∈ what.toList)
  (plain : "actual:" ∉ linesOf expected)

include single space plain

theorem expectedBlock_describe (actual : String) :
    expectedBlock (Mismatch.describe what expected actual) = expected := by
  have other : what ≠ "expected:" := by
    rintro rfl
    exact absurd space (by decide +kernel)
  have block : (linesOf expected ++ "actual:" :: linesOf actual).takeWhile (· ≠ "actual:") =
      linesOf expected := by
    have inside : ∀ line ∈ linesOf expected, decide (line ≠ "actual:") = true := by
      intro line member
      exact decide_eq_true (ne_of_mem_of_not_mem member plain)
    rw [List.takeWhile_append_of_pos inside]
    simp
  have after : ((what :: "expected:" :: (linesOf expected ++ "actual:" :: linesOf actual)).dropWhile
      (· ≠ "expected:")).drop 1 = linesOf expected ++ "actual:" :: linesOf actual := by
    simp [other]
  rw [expectedBlock, linesOf_describe single, after, block, intercalate_linesOf]

theorem actualBlock_describe (actual : String) :
    actualBlock (Mismatch.describe what expected actual) = actual := by
  have other : what ≠ "actual:" := by
    rintro rfl
    exact absurd space (by decide +kernel)
  have front : ∀ line ∈ what :: "expected:" :: linesOf expected, line ≠ "actual:" := by
    intro line member
    rcases List.mem_cons.1 member with rfl | later
    · exact other
    · rcases List.mem_cons.1 later with rfl | inner
      · decide
      · rintro rfl
        exact plain inner
  have cut : what :: "expected:" :: (linesOf expected ++ "actual:" :: linesOf actual) =
      (what :: "expected:" :: linesOf expected) ++ "actual:" :: linesOf actual := rfl
  rw [actualBlock, linesOf_describe single, cut,
    List.dropWhile_append_of_pos fun line member => decide_eq_true (front line member)]
  simp [intercalate_linesOf]

end Blocks

theorem actual_notMem_linesOf_listing (ts : List Token) : "actual:" ∉ linesOf (listing ts) := by
  by_cases none : ts = []
  · rw [none]
    decide +kernel
  · rw [listing, linesOf_listingWith isPrintable none]
    intro member
    rcases List.mem_map.1 member with ⟨t, _, same⟩
    have space := t.space_mem_lineWith isPrintable
    rw [same] at space
    exact absurd space (by decide +kernel)

theorem isIndent_two : IsIndent "  " := by
  have chars : "  ".toList = [' ', ' '] := rfl
  constructor <;> simp [chars]

theorem actual_notMem_linesOf_outline (n : Node) : "actual:" ∉ linesOf (n.outline "  ") := by
  rw [Node.outline, Node.linesOf_outlineWith isIndent_two]
  intro member
  rcases (n.mem_outlineLinesWith isIndent_two _ member).2 with space | ⟨k, same⟩
  · exact absurd space (by decide +kernel)
  · have noName : ∀ k ∈ NodeKind.all, "actual:" ≠ k.name := by decide
    exact noName k k.mem_all same

inductive Expectation
  | tokens | tree
  deriving DecidableEq, Repr

def Expectation.all : List Expectation := [.tokens, .tree]

namespace Fixture

/-- The expectation is absent, or it is what the lexer and the parser make of the expression. -/
def Met (f : Fixture) : Expectation → Prop
  | .tokens => ∀ expected ∈ f.expectedTokens, expected = tokenize f.expression
  | .tree => ∀ expected ∈ f.expectedTree, expected = (parse f.expression).value

instance (f : Fixture) : DecidablePred f.Met
  | .tokens => inferInstanceAs (Decidable (∀ expected ∈ f.expectedTokens, _))
  | .tree => inferInstanceAs (Decidable (∀ expected ∈ f.expectedTree, _))

def headline (f : Fixture) : Expectation → String
  | .tokens => s!"tokens of {quoted f.expression} differ"
  | .tree => s!"tree of {quoted f.expression} differs"

def expectedText (f : Fixture) : Expectation → Option String
  | .tokens => f.expectedTokens.map listing
  | .tree => f.expectedTree.map (·.outline "  ")

def actualText (f : Fixture) : Expectation → String
  | .tokens => listing (tokenize f.expression)
  | .tree => (parse f.expression).value.outline "  "

def reports (f : Fixture) : List String := f.mismatches.value.map Mismatch.message

/-- The report is on the expectation and shows what was expected and what came of the expression. -/
structure Tells (f : Fixture) (e : Expectation) (report : String) : Prop where
  headline : (linesOf report).head? = some (f.headline e)
  expected : some (expectedBlock report) = f.expectedText e
  actual : actualBlock report = f.actualText e

variable {f : Fixture}

theorem newline_notMem_headline (f : Fixture) (e : Expectation) :
    '\n' ∉ (f.headline e).toList := by
  have quotes : '\n' ∉ (quoted f.expression).toList := newline_notMem_quoteWith f.expression
  cases e <;> simp only [headline, String.toList_append, List.mem_append, not_or] <;>
    exact ⟨⟨by decide +kernel, quotes⟩, by decide +kernel⟩

theorem space_mem_headline (f : Fixture) (e : Expectation) : ' ' ∈ (f.headline e).toList := by
  cases e <;> simp only [headline, String.toList_append, List.mem_append] <;>
    exact Or.inl (Or.inl (by decide +kernel))

def report? (f : Fixture) (e : Expectation) : Option String :=
  if f.Met e then none
  else (f.expectedText e).map fun expected =>
    Mismatch.describe (f.headline e) expected (f.actualText e)

theorem message_tokenMismatch? (f : Fixture) :
    f.tokenMismatch?.map Mismatch.message = f.report? .tokens := by
  rcases f with ⟨expression, _ | expected, tree, path⟩
  · simp [tokenMismatch?, report?, Met]
  · by_cases met : tokenize expression = expected
    · simp [tokenMismatch?, report?, Met, met]
    · have unmet : ¬ expected = tokenize expression := fun same => met same.symm
      simp [tokenMismatch?, report?, Met, met, unmet, expectedText, actualText, headline,
        Mismatch.message]

theorem message_treeMismatch? (f : Fixture) :
    f.treeMismatch?.value.map Mismatch.message = f.report? .tree := by
  rcases f with ⟨expression, tokens, _ | expected, path⟩
  · simp [treeMismatch?, report?, Met]
  · by_cases met : (parse expression).value = expected
    · simp [treeMismatch?, report?, Met, met]
    · have unmet : ¬ expected = (parse expression).value := fun same => met same.symm
      simp [treeMismatch?, report?, Met, met, unmet, expectedText, actualText, headline,
        Mismatch.message]

theorem reports_eq_filterMap (f : Fixture) : f.reports = Expectation.all.filterMap f.report? := by
  have tokens := f.message_tokenMismatch?
  have tree := f.message_treeMismatch?
  rw [reports, mismatches, Noted.value_map, List.map_append, ← Option.toList_map,
    ← Option.toList_map, tokens, tree]
  cases first : f.report? .tokens <;> cases second : f.report? .tree <;>
    simp [Expectation.all, first, second]

theorem report?_of_met {f : Fixture} {e : Expectation} (met : f.Met e) : f.report? e = none :=
  if_pos met

theorem exists_expectedText {f : Fixture} {e : Expectation} (unmet : ¬ f.Met e) :
    ∃ expected, f.expectedText e = some expected ∧ expected ≠ f.actualText e ∧
      "actual:" ∉ linesOf expected := by
  cases e with
  | tokens =>
      simp only [Met, not_forall] at unmet
      rcases unmet with ⟨expected, present, different⟩
      refine ⟨listing expected, ?_, fun same => different (listingWith_inj same),
        actual_notMem_linesOf_listing expected⟩
      rw [expectedText, Option.mem_def.1 present, Option.map_some]
  | tree =>
      simp only [Met, not_forall] at unmet
      rcases unmet with ⟨expected, present, different⟩
      refine ⟨expected.outline "  ", ?_,
        fun same => different (Node.outlineWith_inj isIndent_two same),
        actual_notMem_linesOf_outline expected⟩
      rw [expectedText, Option.mem_def.1 present, Option.map_some]

theorem exists_report {f : Fixture} {e : Expectation} (unmet : ¬ f.Met e) :
    ∃ report, f.report? e = some report ∧ f.Tells e report ∧
      expectedBlock report ≠ actualBlock report := by
  rcases exists_expectedText unmet with ⟨expected, present, different, plain⟩
  have single := f.newline_notMem_headline e
  have space := f.space_mem_headline e
  have shown := expectedBlock_describe single space plain (f.actualText e)
  have came := actualBlock_describe single space plain (f.actualText e)
  refine ⟨Mismatch.describe (f.headline e) expected (f.actualText e), ?_, ⟨?_, ?_, came⟩, ?_⟩
  · rw [report?, if_neg unmet, present, Option.map_some]
  · rw [linesOf_describe single, List.head?_cons]
  · rw [shown, present]
  · rwa [shown, came]

theorem forall₂_report? (f : Fixture) (es : List Expectation) :
    List.Forall₂ (fun e report => f.Tells e report ∧ expectedBlock report ≠ actualBlock report)
      (es.filter (¬ f.Met ·)) (es.filterMap f.report?) := by
  induction es with
  | nil => exact List.Forall₂.nil
  | cons e es ih =>
      by_cases met : f.Met e
      · rw [List.filter_cons_of_neg (by simpa using met),
          List.filterMap_cons_none (report?_of_met met)]
        exact ih
      · rcases exists_report met with ⟨report, made, tells, apart⟩
        rw [List.filter_cons_of_pos (by simpa using met), List.filterMap_cons_some made]
        exact List.Forall₂.cons ⟨tells, apart⟩ ih

/-- A fixture has no report exactly when what it expects is met. Otherwise there is one report for
each expectation that is not met, in their order; it shows what was expected and what came of the
expression, and the two texts differ. -/
theorem reports_tell_unmet (f : Fixture) :
    (f.reports = [] ↔ f.Met .tokens ∧ f.Met .tree) ∧
      List.Forall₂ (fun e report => f.Tells e report ∧ expectedBlock report ≠ actualBlock report)
        (Expectation.all.filter (¬ f.Met ·)) f.reports := by
  have each := f.forall₂_report? Expectation.all
  rw [← reports_eq_filterMap] at each
  refine ⟨?_, each⟩
  calc f.reports = [] ↔ Expectation.all.filter (¬ f.Met ·) = [] := by
        rw [← List.length_eq_zero_iff, ← each.length_eq, List.length_eq_zero_iff]
    _ ↔ f.Met .tokens ∧ f.Met .tree := by simp [Expectation.all]

end Fixture

end CucumberExpressions
