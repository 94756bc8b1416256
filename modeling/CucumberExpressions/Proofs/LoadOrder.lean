import CucumberExpressions.Proofs.Loading
import Mathlib.Data.List.Forall2
import Mathlib.Data.List.Lex
import Mathlib.Data.String.Basic

/-! The order of loading: a directory is loaded in the order of the paths, whichever order they were
found in, and either all of it or nothing. -/

namespace CucumberExpressions

section InTurn

variable {α β ε : Type} {f : α → Except ε β}

theorem forall₂_of_mapM {xs : List α} {ys : List β} (made : xs.mapM f = .ok ys) :
    List.Forall₂ (fun x y => f x = .ok y) xs ys := by
  induction xs generalizing ys with
  | nil =>
      cases made
      exact .nil
  | cons x xs ih =>
      rw [List.mapM_cons] at made
      cases first : f x with
      | error e =>
          rw [first] at made
          cases made
      | ok y =>
          rw [first] at made
          cases later : xs.mapM f with
          | error e =>
              rw [later] at made
              cases made
          | ok zs =>
              rw [later] at made
              cases made
              exact .cons first (ih later)

theorem eq_or_of_find?_eq_some {R : α → α → Prop} {test : α → Bool} {xs : List α} {a b : α}
    (ordered : xs.Pairwise R) (first : xs.find? test = some a) (member : b ∈ xs)
    (passes : test b = true) : b = a ∨ R a b := by
  obtain ⟨_, front, back, rfl, noneBefore⟩ := List.find?_eq_some_iff_append.1 first
  rw [List.pairwise_append, List.pairwise_cons] at ordered
  rw [List.mem_append, List.mem_cons] at member
  rcases member with before | same | after
  · have fails := noneBefore b before
    simp [passes] at fails
  · exact Or.inl same
  · exact Or.inr (ordered.2.1.1 b after)

end InTurn

namespace Path

/-- Whether a path comes before another one: at the first part where they differ it has the smaller
part, character by character, or no part at all. -/
def Before (p q : Path) : Prop := p.sortKey < q.sortKey

instance : DecidableRel Before := fun p q => inferInstanceAs (Decidable (p.sortKey < q.sortKey))

theorem partBefore_iff (s t : String) : partBefore s t = true ↔ s < t := by
  rw [partBefore, List.lex_eq_true_iff_lt, String.lt_iff_toList_lt]

theorem le_iff (p q : Path) : p.le q = true ↔ p.sortKey ≤ q.sortKey := by
  have before : q.sortKey.lex p.sortKey partBefore = true ↔ q.sortKey < p.sortKey := by
    rw [List.lex_eq_true_iff_lex]
    simp only [partBefore_iff]
    rfl
  rw [le, Bool.not_eq_true', ← Bool.not_eq_true, before, not_lt]

theorem not_isPart_root {root : PathRoot} (absolute : root ≠ .relative) : ¬ IsPart root.name := by
  intro isPart
  cases root with
  | relative => exact absolute rfl
  | slash => exact isPart.slash (by decide)
  | doubleSlash => exact isPart.slash (by decide)

theorem sortKey_inj {p q : Path} (plain : p.Plain) (plain' : q.Plain)
    (same : p.sortKey = q.sortKey) : p = q := by
  obtain ⟨root, parts⟩ := p
  obtain ⟨root', parts'⟩ := q
  simp only [sortKey] at same
  split at same <;> split at same
  · next here there =>
      rw [here, there, same]
  · next absolute =>
      have isPart : IsPart root'.name := plain root'.name (by simp [same])
      exact absurd isPart (not_isPart_root absolute)
  · next absolute _ =>
      have isPart : IsPart root.name := plain' root.name (by simp [← same])
      exact absurd isPart (not_isPart_root absolute)
  · obtain ⟨name, rfl⟩ := List.cons.inj same
    have root : root = root' := by
      cases root <;> cases root' <;> first | rfl | exact absurd name (by decide)
    rw [root]

variable {found found' : List Path}

theorem pairwise_le_mergeSort (found : List Path) :
    (found.mergeSort le).Pairwise fun p q => p.sortKey ≤ q.sortKey := by
  have sorted : (found.mergeSort le).Pairwise (le · ·) := by
    apply List.pairwise_mergeSort
    · intro p q r first second
      rw [le_iff] at first second ⊢
      exact first.trans second
    · intro p q
      rw [Bool.or_eq_true, le_iff, le_iff]
      exact le_total p.sortKey q.sortKey
  exact sorted.imp fun before => (le_iff _ _).1 before

theorem mergeSort_eq_of_perm (plain : ∀ p ∈ found, p.Plain) (same : found.Perm found') :
    found.mergeSort le = found'.mergeSort le := by
  have perm : (found.mergeSort le).Perm (found'.mergeSort le) :=
    (List.mergeSort_perm found le).trans (same.trans (List.mergeSort_perm found' le).symm)
  apply perm.eq_of_pairwise _ (pairwise_le_mergeSort found) (pairwise_le_mergeSort found')
  intro p q left right first second
  have here : p ∈ found := List.mem_mergeSort.1 left
  have there : q ∈ found := same.mem_iff.2 (List.mem_mergeSort.1 right)
  exact sortKey_inj (plain p here) (plain q there) (le_antisymm first second)

theorem pairwise_before_mergeSort (plain : ∀ p ∈ found, p.Plain) (once : found.Nodup) :
    (found.mergeSort le).Pairwise Before := by
  have distinct : (found.mergeSort le).Nodup := (List.mergeSort_perm found le).nodup_iff.2 once
  have both := (pairwise_le_mergeSort found).and distinct
  refine both.imp_of_mem ?_
  intro p q left right ⟨before, different⟩
  refine lt_of_le_of_ne before fun same => different ?_
  exact sortKey_inj (plain p (List.mem_mergeSort.1 left)) (plain q (List.mem_mergeSort.1 right)) same

end Path

namespace Fixture

variable {ε : Type} {reader : YamlReader ε} {files : FileTree} {found found' : List Path}

theorem loadFound_of_loads (directory : Path) (pattern : String)
    (loads : ∀ p ∈ found, ∃ f, load reader files p = .ok f) :
    ∃ fixtures,
      List.Forall₂ (fun p f => load reader files p = .ok f) (found.mergeSort Path.le) fixtures ∧
      loadFound reader files directory pattern found = .ok ⟨fixtures,
        [if found = [] then .noMatches pattern directory else .loaded found.length directory]⟩ := by
  cases loaded : loadEach reader files found with
  | error e =>
      obtain ⟨p, first, failed⟩ := (mapM_eq_error_iff _).1 loaded
      obtain ⟨f, made⟩ := loads p (List.mem_mergeSort.1 (List.mem_of_find?_eq_some first))
      rw [made] at failed
      cases failed
  | ok fixtures =>
      have each := forall₂_of_mapM loaded
      have length : fixtures.length = found.length := by
        rw [← each.length_eq, List.length_mergeSort]
      refine ⟨fixtures, each, ?_⟩
      rw [loadFound, loaded]
      by_cases none : found = []
      · have empty : fixtures = [] := by
          rw [← List.length_eq_zero_iff, length, none, List.length_nil]
        simp [none, empty, Except.map, Noted.note]
      · have some : fixtures ≠ [] := by
          rw [Ne, ← List.length_eq_zero_iff, length, List.length_eq_zero_iff]
          exact none
        simp [none, some, length, Except.map, Noted.note]

theorem loadFound_of_fails (directory : Path) (pattern : String) (plain : ∀ p ∈ found, p.Plain)
    (once : found.Nodup) (fails : ∃ p ∈ found, ∃ e, load reader files p = .error e) :
    ∃ p ∈ found, ∃ e, load reader files p = .error e ∧
      (∀ q ∈ found, (∃ d, load reader files q = .error d) → q = p ∨ p.Before q) ∧
      loadFound reader files directory pattern found = .error e := by
  have failed : ∃ p, (found.mergeSort Path.le).find? (fun p => !(load reader files p).isOk) =
      some p := by
    obtain ⟨p, member, e, failed⟩ := fails
    rw [← Option.isSome_iff_exists, List.find?_isSome]
    exact ⟨p, List.mem_mergeSort.2 member, by simp [failed, Except.isOk, Except.toBool]⟩
  obtain ⟨p, first⟩ := failed
  cases result : load reader files p with
  | ok f =>
      have notOk := List.find?_some first
      simp [result, Except.isOk, Except.toBool] at notOk
  | error e =>
      refine ⟨p, List.mem_mergeSort.1 (List.mem_of_find?_eq_some first), e, result, ?_, ?_⟩
      · rintro q member ⟨d, other⟩
        apply eq_or_of_find?_eq_some (Path.pairwise_before_mergeSort plain once) first
        · exact List.mem_mergeSort.2 member
        · simp [other, Except.isOk, Except.toBool]
      · have whole : loadEach reader files found = .error e :=
          (mapM_eq_error_iff _).2 ⟨p, first, result⟩
        rw [loadFound, whole]
        rfl

theorem loadFound_eq_of_perm (directory : Path) (pattern : String) (plain : ∀ p ∈ found, p.Plain)
    (same : found.Perm found') :
    loadFound reader files directory pattern found =
      loadFound reader files directory pattern found' := by
  rw [loadFound, loadFound, loadEach, loadEach, Path.mergeSort_eq_of_perm plain same]

/-- Loading what a search found does not hang on the order in which it was found. If every path
loads, there is one fixture for each path, in the ascending order of the paths, and one notice; if
not, what is wrong with the smallest path that does not load is what is wrong with the whole, and
there is no notice. -/
theorem loadFound_any_order (reader : YamlReader ε) (files : FileTree) (directory : Path)
    (pattern : String) (plain : ∀ p ∈ found, p.Plain) (once : found.Nodup)
    (same : found.Perm found') :
    loadFound reader files directory pattern found =
      loadFound reader files directory pattern found' ∧
    ((∀ p ∈ found, ∃ f, load reader files p = .ok f) →
      ∃ paths fixtures, paths.Perm found ∧ paths.Pairwise Path.Before ∧
        List.Forall₂ (fun p f => load reader files p = .ok f) paths fixtures ∧
        loadFound reader files directory pattern found = .ok ⟨fixtures,
          [if found = [] then .noMatches pattern directory else .loaded found.length directory]⟩) ∧
    ((∃ p ∈ found, ∃ e, load reader files p = .error e) →
      ∃ p ∈ found, ∃ e, load reader files p = .error e ∧
        (∀ q ∈ found, (∃ d, load reader files q = .error d) → q = p ∨ p.Before q) ∧
        loadFound reader files directory pattern found = .error e) ∧
    ∀ glob searched, Glob.ofString pattern = .ok glob →
      glob.paths files directory = .ok searched → searched.Perm found →
      loadDirectory reader files directory pattern =
        (loadFound reader files directory pattern found).mapError .file := by
  refine ⟨loadFound_eq_of_perm directory pattern plain same, ?_,
    loadFound_of_fails directory pattern plain once, ?_⟩
  · intro loads
    obtain ⟨fixtures, each, made⟩ := loadFound_of_loads directory pattern loads
    exact ⟨found.mergeSort Path.le, fixtures, List.mergeSort_perm found Path.le,
      Path.pairwise_before_mergeSort plain once, each, made⟩
  · intro glob searched known search enumerated
    have plain' : ∀ p ∈ searched, p.Plain := fun p member => plain p (enumerated.mem_iff.1 member)
    have outcome : loadFound reader files directory pattern searched =
        loadFound reader files directory pattern found :=
      loadFound_eq_of_perm directory pattern plain' enumerated
    simp only [loadDirectory, known, search, outcome]
    cases loadFound reader files directory pattern found <;> rfl

/-- A fixture, and two directories with names of fixtures. Part by part the one inside `b` comes
first, although `/` comes after `-`. -/
def mixedTree : FileTree :=
  .directory [("a.yaml", .file plainText.toUTF8), ("b-c.yaml", .directory []),
    ("b", .directory [("x.yaml", .directory [])])]

theorem loadFound_any_order_mixedTree :
    loadFound plainReader mixedTree (.ofString ".") "**/*.yaml"
        [.ofString "b-c.yaml", .ofString "b/x.yaml", .ofString "a.yaml"] =
      .error (.fixture (.ofString "b/x.yaml") (.unreadable .isDirectory)) ∧
    ∃ fixtures, loadFound plainReader mixedTree (.ofString ".") "a*" [.ofString "a.yaml"] =
      .ok ⟨fixtures, [.loaded 1 (.ofString ".")]⟩ := by
  have plain : ∀ p ∈ ["b-c.yaml", "b/x.yaml", "a.yaml"].map Path.ofString, p.Plain := by
    intro p member
    obtain ⟨text, _, rfl⟩ := List.mem_map.1 member
    exact Path.plain_ofString text
  have inside : load plainReader mixedTree (.ofString "b/x.yaml") =
      .error (.fixture (.ofString "b/x.yaml") (.unreadable .isDirectory)) := rfl
  have fixture : (load plainReader mixedTree (.ofString "a.yaml")).isOk = true := by decide +kernel
  obtain ⟨f, loads⟩ : ∃ f, load plainReader mixedTree (.ofString "a.yaml") = .ok f := by
    cases result : load plainReader mixedTree (.ofString "a.yaml") with
    | ok f => exact ⟨f, rfl⟩
    | error e =>
        rw [result] at fixture
        cases fixture
  constructor
  · obtain ⟨p, member, e, failed, least, whole⟩ := (loadFound_any_order plainReader mixedTree
      (.ofString ".") "**/*.yaml" plain (by decide) (List.Perm.refl _)).2.2.1
      ⟨_, by simp, _, inside⟩
    refine whole.trans ?_
    simp only [List.map_cons, List.map_nil, List.mem_cons, List.not_mem_nil, or_false] at member
    rcases member with rfl | rfl | rfl
    · exact absurd (least (.ofString "b/x.yaml") (by simp) ⟨_, inside⟩) (by decide)
    · rw [inside] at failed
      cases failed
      rfl
    · rw [loads] at failed
      cases failed
  · obtain ⟨paths, fixtures, _, _, _, whole⟩ := (loadFound_any_order plainReader mixedTree
      (.ofString ".") "a*" (fun p member => plain p (by simp at member; simp [member])) (by simp)
      (List.Perm.refl [Path.ofString "a.yaml"])).2.1 (by simpa using ⟨f, loads⟩)
    exact ⟨fixtures, whole⟩

end Fixture

end CucumberExpressions
