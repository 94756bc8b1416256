import CucumberExpressions.Proofs.LoadOrder
import Mathlib.Data.List.Pairwise

/-! The names of a directory's fixtures: they come in the order of the whole file names, which is
not their own order where one name goes on after another with what comes before the suffix. -/

namespace CucumberExpressions

section InFront

variable {s t u : String}

theorem exists_append_or_append_lt (before : s < t) :
    (∃ e, e ≠ "" ∧ t = s ++ e) ∨ ∀ u v : String, s ++ u < t ++ v := by
  have lex : List.Lex (· < ·) s.toList t.toList := String.lt_iff_toList_lt.1 before
  have cases : (∃ cs, cs ≠ [] ∧ t.toList = s.toList ++ cs) ∨
      ∀ us vs : List Char, s.toList ++ us < t.toList ++ vs := by
    generalize s.toList = xs at lex
    generalize t.toList = ys at lex
    induction lex with
    | nil => exact Or.inl ⟨_, List.cons_ne_nil _ _, rfl⟩
    | rel smaller => exact Or.inr fun us vs => List.Lex.rel smaller
    | cons _ ih =>
        rcases ih with ⟨cs, nonempty, rfl⟩ | apart
        · exact Or.inl ⟨cs, nonempty, rfl⟩
        · exact Or.inr fun us vs => List.Lex.cons (apart us vs)
  rcases cases with ⟨cs, nonempty, whole⟩ | apart
  · refine Or.inl ⟨.ofList cs, by simpa using nonempty, ?_⟩
    rw [← String.toList_inj, String.toList_append, String.toList_ofList, whole]
  · right
    intro u v
    rw [String.lt_iff_toList_lt, String.toList_append, String.toList_append]
    exact apart u.toList v.toList

theorem lt_append_of_lt (before : s < t) (u : String) : s < t ++ u := by
  rw [String.lt_iff_toList_lt] at before ⊢
  rw [String.toList_append]
  exact List.Lex.append_right _ u.toList before

theorem append_lt_append_left (before : s < t) (u : String) : u ++ s < u ++ t := by
  rw [String.lt_iff_toList_lt] at before ⊢
  rw [String.toList_append, String.toList_append]
  exact List.append_left_lt before

theorem append_lt_append_left_iff : u ++ s < u ++ t ↔ s < t := by
  refine ⟨fun before => ?_, fun before => append_lt_append_left before u⟩
  rcases lt_trichotomy s t with less | rfl | more
  · exact less
  · exact absurd before (lt_irrefl _)
  · exact absurd before (lt_asymm (append_lt_append_left more u))

theorem lt_append_self (nonempty : t ≠ "") : s < s ++ t := by
  have least : "" < t := by
    rw [String.lt_iff_toList_lt]
    obtain ⟨c, cs, chars⟩ := List.exists_cons_of_ne_nil (mt String.toList_eq_nil_iff.1 nonempty)
    rw [chars]
    exact List.Lex.nil
  simpa using append_lt_append_left least s

end InFront

theorem rel_or_rel_of_mem {α : Type} {R : α → α → Prop} {xs : List α} {a b : α}
    (ordered : xs.Pairwise R) (left : a ∈ xs) (right : b ∈ xs) (different : a ≠ b) :
    R a b ∨ R b a := by
  have symmetric : Std.Symm fun a b => R a b ∨ R b a := ⟨fun _ _ => Or.symm⟩
  have either : xs.Pairwise fun a b => R a b ∨ R b a := ordered.imp Or.inl
  exact either.forall left right different

theorem anyRest_iff (test : List Char → Bool) (cs : List Char) :
    anyRest test cs = true ↔ ∃ tail, tail <:+ cs ∧ test tail = true := by
  induction cs with
  | nil => simp [anyRest]
  | cons c cs ih => simp [anyRest, ih, List.suffix_cons_iff, or_and_right, exists_or]

theorem matchesAll_exactly_iff (text cs : List Char) :
    matchesAll (text.map .exactly) cs = true ↔ cs = text := by
  induction text generalizing cs with
  | nil => simp [matchesAll]
  | cons d text ih => cases cs <;> simp [matchesAll, ih]

theorem matchesAll_anyRun_iff (text cs : List Char) :
    matchesAll (.anyRun :: text.map .exactly) cs = true ↔ text <:+ cs := by
  simp only [matchesAll, anyRest_iff, matchesAll_exactly_iff]
  constructor
  · rintro ⟨tail, suffix, rfl⟩
    exact suffix
  · exact fun suffix => ⟨text, suffix, rfl⟩

namespace Path

variable {p : Path} {s t : String}

@[simp] theorem name_join (p : Path) (part : String) : (p.join part).name = part := by
  simp [name, join]

theorem sortKey_join (p : Path) (part : String) : (p.join part).sortKey = p.sortKey ++ [part] := by
  by_cases relative : p.root = .relative <;> simp [sortKey, join, relative]

theorem le_of_sortKey_join_le {part part' : String}
    (before : (p.join part).sortKey ≤ (p.join part').sortKey) : part ≤ part' := by
  rw [sortKey_join, sortKey_join] at before
  by_contra after
  have less : [part'] < [part] := List.Lex.rel (not_le.1 after)
  exact absurd before (not_le.2 (List.append_left_lt less))

theorem exists_mergeSort_join (p : Path) (parts : List String) :
    ∃ ordered : List String, ordered.Perm parts ∧ ordered.Pairwise (· ≤ ·) ∧
      (parts.map p.join).mergeSort le = ordered.map p.join := by
  obtain ⟨ordered, joined⟩ : (parts.map p.join).mergeSort le ∈ Set.range (List.map p.join) := by
    rw [Set.range_list_map]
    intro q member
    obtain ⟨part, _, same⟩ := List.mem_map.1 (List.mem_mergeSort.1 member)
    exact ⟨part, same⟩
  have perm := List.mergeSort_perm (parts.map p.join) le
  have sorted := pairwise_le_mergeSort (parts.map p.join)
  rw [← joined] at perm sorted
  refine ⟨ordered, ?_, (List.pairwise_map.1 sorted).imp le_of_sortKey_join_le, joined.symm⟩
  simpa [List.map_map, Function.comp_def] using perm.map name

def endsInYaml (name : String) : Bool := ".yaml".toList.isSuffixOf name.toList

theorem endsInYaml_iff {name : String} : endsInYaml name = true ↔ ∃ s, name = s ++ ".yaml" := by
  rw [endsInYaml, List.isSuffixOf_iff_suffix]
  constructor
  · rintro ⟨front, whole⟩
    refine ⟨.ofList front, ?_⟩
    rw [← String.toList_inj, String.toList_append, String.toList_ofList, whole]
  · rintro ⟨s, rfl⟩
    exact ⟨s.toList, String.toList_append.symm⟩

/-- What is shown for a file name that is a text in front of the suffix. Nothing in front of a dot
makes no suffix. -/
def shown (s : String) : String := if s = "" then ".yaml" else s

theorem stem_of_name (named : p.name = s ++ ".yaml") : p.stem = shown s := by
  have letters : p.name.toList = s.toList ++ ['.', 'y', 'a', 'm', 'l'] := by
    rw [named, String.toList_append]
    rfl
  have suffix : (s.toList ++ ['.', 'y', 'a', 'm', 'l']).reverse.takeWhile (· != '.') =
      ['l', 'm', 'a', 'y'] := by
    simp
  have front : (s.toList ++ ['.', 'y', 'a', 'm', 'l']).take
      ((s.toList ++ ['.', 'y', 'a', 'm', 'l']).length - 4 - 1) = s.toList := by
    simp
  simp only [stem, letters, suffix, List.length_cons, List.length_nil, front, shown]
  by_cases empty : s = ""
  · rw [if_pos empty, if_pos (Or.inl (by rw [empty]; rfl)), named, empty]
    rfl
  · have nonempty : s.toList ≠ [] := by simpa using empty
    rw [if_neg empty, if_neg (by simp [nonempty]), String.ofList_toList]

theorem yaml_lt_of_front (nonempty : s ≠ "") (nonempty' : t ≠ "") (whole : ".yaml" = s ++ t) :
    ".yaml" < t := by
  have chars : ['.', 'y', 'a', 'm', 'l'] = s.toList ++ t.toList := by
    rw [← String.toList_append, ← whole]
    rfl
  obtain ⟨c, front, cut⟩ := List.exists_cons_of_ne_nil (mt String.toList_eq_nil_iff.1 nonempty)
  obtain ⟨d, back, cut'⟩ := List.exists_cons_of_ne_nil (mt String.toList_eq_nil_iff.1 nonempty')
  rw [cut, cut', List.cons_append, List.cons.injEq] at chars
  have letters : ∀ d ∈ ['y', 'a', 'm', 'l'], '.' < d := by simp
  have later : '.' < d := letters d (by simp [chars.2])
  rw [String.lt_iff_toList_lt, cut']
  exact List.Lex.rel later

theorem shown_lt_iff (before : s ++ ".yaml" ≤ t ++ ".yaml") :
    shown t < shown s ↔ t ≠ "" ∧ ∃ e, e ≠ "" ∧ s = t ++ e := by
  constructor
  · intro after
    -- A name that is nothing but the suffix is shown whole, so the empty texts stand apart.
    by_cases empty : t = ""
    · subst empty
      by_cases empty' : s = ""
      · subst empty'
        exact absurd after (lt_irrefl _)
      · rw [shown, shown, if_pos rfl, if_neg empty'] at after
        have later : "" ++ ".yaml" < s ++ ".yaml" := lt_append_of_lt after ".yaml"
        exact absurd before (not_le.2 later)
    · refine ⟨empty, ?_⟩
      by_cases empty' : s = ""
      · subst empty'
        rw [shown, shown, if_pos rfl, if_neg empty] at after
        have later : t ++ ".yaml" < "" ++ ".yaml" := by
          rcases exists_append_or_append_lt after with ⟨e, nonempty, whole⟩ | apart
          · calc
              t ++ ".yaml" < t ++ e :=
                append_lt_append_left (yaml_lt_of_front empty nonempty whole) t
              _ = "" ++ ".yaml" := by rw [← whole, String.empty_append]
          · simpa using apart ".yaml" ""
        exact absurd before (not_le.2 later)
      · rw [shown, shown, if_neg empty, if_neg empty'] at after
        exact (exists_append_or_append_lt after).resolve_right fun apart =>
          absurd before (not_le.2 (apart ".yaml" ".yaml"))
  · rintro ⟨nonempty, e, nonempty', rfl⟩
    have both : t ++ e ≠ "" := by simp [nonempty]
    rw [shown, shown, if_neg nonempty, if_neg both]
    exact lt_append_self nonempty'

/-- File names in order have the texts that are shown for them in order too, unless one of these
goes on after another one with what comes, with the suffix behind it, before the suffix. -/
theorem pairwise_shown_iff {stems : List String}
    (ascending : stems.Pairwise fun s t => s ++ ".yaml" ≤ t ++ ".yaml") :
    stems.Pairwise (fun s t => shown s ≤ shown t) ↔
      ¬ ∃ s e, s ≠ "" ∧ e ≠ "" ∧ s ∈ stems ∧ s ++ e ∈ stems ∧ e ++ ".yaml" < ".yaml" := by
  constructor
  · rintro shownAscending ⟨s, e, nonempty, nonempty', member, member', less⟩
    have before : s ++ e ++ ".yaml" < s ++ ".yaml" := by
      rw [String.append_assoc]
      exact append_lt_append_left less s
    have after : shown s < shown (s ++ e) :=
      (shown_lt_iff before.le).2 ⟨nonempty, e, nonempty', rfl⟩
    have different : s ≠ s ++ e := (lt_append_self nonempty').ne
    rcases rel_or_rel_of_mem (ascending.and shownAscending) member member' different with
      ⟨inOrder, _⟩ | ⟨_, inOrder⟩
    · exact absurd before (not_lt.2 inOrder)
    · exact absurd after (not_lt.2 inOrder)
  · intro none
    apply ascending.imp_of_mem
    intro s t member member' before
    by_contra after
    obtain ⟨nonempty, e, nonempty', rfl⟩ := (shown_lt_iff before).1 (not_le.1 after)
    rw [String.append_assoc] at before
    have atMost : e ++ ".yaml" ≤ ".yaml" := by
      rw [← not_lt, ← append_lt_append_left_iff (u := t), not_lt]
      exact before
    have less : e ++ ".yaml" < ".yaml" := lt_of_le_of_ne atMost (by simpa using nonempty')
    exact none ⟨t, e, nonempty, nonempty', member', member, less⟩

theorem isPart_of_yaml (noSlash : '/' ∉ (s ++ ".yaml").toList) : IsPart (s ++ ".yaml") := by
  refine ⟨noSlash, by simp, ?_⟩
  intro dot
  have length := congrArg String.length dot
  rw [String.length_append] at length
  have short : ".".length < ".yaml".length := by decide
  omega

theorem plain_join {part : String} (plain : p.Plain) (isPart : IsPart part) :
    (p.join part).Plain := by
  intro other member
  rcases List.mem_append.1 member with inside | last
  · exact plain other inside
  · rwa [List.mem_singleton.1 last]

end Path

theorem filterM_eq_self {α ε : Type} {test : α → Except ε Bool} {xs : List α}
    (all : ∀ x ∈ xs, test x = .ok true) : xs.filterM test = .ok xs := by
  have each : ∀ kept, xs.filterAuxM test kept = .ok (xs.reverse ++ kept) := by
    induction xs with
    | nil => exact fun kept => rfl
    | cons x xs ih =>
        intro kept
        have later := ih (fun y member => all y (List.mem_cons_of_mem x member)) (x :: kept)
        simp only [List.filterAuxM, all x List.mem_cons_self]
        refine later.trans ?_
        simp
  rw [List.filterM, each]
  simp [bind, Except.bind, pure, Except.pure]

namespace Fixture

variable {ε : Type} {reader : YamlReader ε} {files : FileTree} {path directory : Path}
  {names : List String} {f : Fixture}

/-- A directory with entries of these names, of which every one that ends in the suffix is a file
with a fixture. -/
structure HoldsFixtures (reader : YamlReader ε) (files : FileTree) (directory : Path)
    (names : List String) : Prop where
  found : ∃ entries, files.find directory = .ok (.directory entries) ∧ entries.map Prod.fst = names
  noSlash : ∀ name ∈ names, '/' ∉ name.toList
  loads : ∀ name ∈ names, Path.endsInYaml name = true →
    ∃ f, load reader files (directory.join name) = .ok f

theorem find_of_load (loaded : load reader files path = .ok f) :
    ∃ content, files.find path = .ok (.file content) := by
  obtain ⟨content, _, read, _, _⟩ := exists_data_of_load loaded
  rw [FileTree.read] at read
  split at read
  · next inner found => exact ⟨inner, found⟩
  · cases read
  · cases read

theorem name_of_load (plain : path.Plain) (loaded : load reader files path = .ok f) :
    f.name = path.stem := by
  rw [name, path_of_load loaded, Path.ofString_toString plain]

theorem HoldsFixtures.paths (holds : HoldsFixtures reader files directory names) :
    (⟨[.matching yamlName], false⟩ : Glob).paths files directory =
      .ok ((names.filter Path.endsInYaml).map directory.join) := by
  obtain ⟨entries, found, rfl⟩ := holds.found
  have here : files.holds (·.isDirectory) directory = .ok true := by
    rw [FileTree.holds, found]
    rfl
  have inside : files.names directory = entries.map Prod.fst := by
    rw [FileTree.names, found]
  have named : ((entries.map Prod.fst).filter fun n => matchesAll yamlName n.toList) =
      (entries.map Prod.fst).filter Path.endsInYaml := by
    apply List.filter_congr
    intro name _
    rw [Bool.eq_iff_iff, Path.endsInYaml, List.isSuffixOf_iff_suffix]
    exact matchesAll_anyRun_iff ".yaml".toList name.toList
  have fit : ∀ p ∈ ((entries.map Prod.fst).filter Path.endsInYaml).map directory.join,
      files.holds (fun here => here.isDirectory || (!false && [].isEmpty (α := Segment))) p =
        .ok true := by
    intro p member
    obtain ⟨name, kept, rfl⟩ := List.mem_map.1 member
    obtain ⟨inEntries, ends⟩ := List.mem_filter.1 kept
    obtain ⟨f, loaded⟩ := holds.loads name inEntries ends
    obtain ⟨content, file⟩ := find_of_load loaded
    rw [FileTree.holds, file]
    rfl
  have single : ∀ ps : List Path,
      ps.mapM (fun p => (.ok [p] : Except AccessError (List Path))) = .ok (ps.map fun p => [p]) :=
    fun ps => List.mapM_pure
  simp only [Glob.paths, here, Glob.pathsFrom, inside, named, filterM_eq_self fit, single, bind,
    Except.bind, pure, Except.pure, if_true, ← List.flatMap_def, List.flatMap_singleton']

theorem HoldsFixtures.loads_in_order {text : String}
    (holds : HoldsFixtures reader files (.ofString text) names) :
    ∃ (fileNames : List String) (fixtures : List Fixture) (notices : List LoadNotice),
      fileNames.Perm (names.filter Path.endsInYaml) ∧ fileNames.Pairwise (· ≤ ·) ∧
      loadDirectory reader files (.ofString text) defaultPattern = .ok ⟨fixtures, notices⟩ ∧
      List.Forall₂ (fun n f => load reader files ((Path.ofString text).join n) = .ok f)
        fileNames fixtures := by
  have loads : ∀ p ∈ (names.filter Path.endsInYaml).map (Path.ofString text).join,
      ∃ f, load reader files p = .ok f := by
    intro p member
    obtain ⟨name, kept, rfl⟩ := List.mem_map.1 member
    obtain ⟨inNames, ends⟩ := List.mem_filter.1 kept
    exact holds.loads name inNames ends
  obtain ⟨fixtures, each, made⟩ := loadFound_of_loads (.ofString text) defaultPattern loads
  obtain ⟨fileNames, perm, ascending, sorted⟩ := (Path.ofString text).exists_mergeSort_join
    (names.filter Path.endsInYaml)
  obtain ⟨notices, whole⟩ : ∃ notices,
      loadDirectory reader files (.ofString text) defaultPattern = .ok ⟨fixtures, notices⟩ := by
    rw [loadDirectory, ofString_defaultPattern]
    simp only [holds.paths, made]
    exact ⟨_, rfl⟩
  rw [sorted] at each
  exact ⟨fileNames, fixtures, notices, perm, ascending, whole, List.forall₂_map_left_iff.1 each⟩

theorem HoldsFixtures.exists_stems {text : String} {fileNames : List String}
    {fixtures : List Fixture} (holds : HoldsFixtures reader files (.ofString text) names)
    (kept : ∀ n ∈ fileNames, n ∈ names.filter Path.endsInYaml)
    (each : List.Forall₂ (fun n f => load reader files ((Path.ofString text).join n) = .ok f)
      fileNames fixtures) :
    ∃ stems : List String, fileNames = stems.map (· ++ ".yaml") ∧
      fixtures.map name = stems.map Path.shown := by
  induction each with
  | nil => exact ⟨[], rfl, rfl⟩
  | @cons n f fileNames fixtures loaded _ ih =>
      obtain ⟨stems, rfl, same⟩ := ih fun m member => kept m (List.mem_cons_of_mem n member)
      obtain ⟨inNames, ends⟩ := List.mem_filter.1 (kept n List.mem_cons_self)
      obtain ⟨s, rfl⟩ := Path.endsInYaml_iff.1 ends
      have isPart := Path.isPart_of_yaml (holds.noSlash _ inNames)
      have named : f.name = Path.shown s := calc
        f.name = ((Path.ofString text).join (s ++ ".yaml")).stem :=
          name_of_load (Path.plain_join (Path.plain_ofString text) isPart) loaded
        _ = Path.shown s := Path.stem_of_name (Path.name_join _ _)
      exact ⟨s :: stems, rfl, by rw [List.map_cons, List.map_cons, named, same]⟩

/-- The fixtures of a directory come in the ascending order of their file names. Their own names are
in ascending order exactly if no two files are named `s.yaml` and `se.yaml` with an `e` such that
`e.yaml` comes before `.yaml`: one that starts with a character before the dot, or with a dot and
what is less than the letters of the suffix. -/
theorem loadDirectory_names_ascending_iff {text : String}
    (holds : HoldsFixtures reader files (.ofString text) names) :
    ∃ (fileNames : List String) (fixtures : List Fixture) (notices : List LoadNotice),
      loadDirectory reader files (.ofString text) defaultPattern = .ok ⟨fixtures, notices⟩ ∧
      List.Forall₂ (fun n f => load reader files ((Path.ofString text).join n) = .ok f)
        fileNames fixtures ∧
      fileNames.Perm (names.filter Path.endsInYaml) ∧ fileNames.Pairwise (· ≤ ·) ∧
      ((fixtures.map name).Pairwise (· ≤ ·) ↔
        ¬ ∃ s e, s ≠ "" ∧ e ≠ "" ∧ s ++ ".yaml" ∈ names ∧ s ++ e ++ ".yaml" ∈ names ∧
          e ++ ".yaml" < ".yaml") := by
  obtain ⟨fileNames, fixtures, notices, perm, ascending, whole, each⟩ := holds.loads_in_order
  refine ⟨fileNames, fixtures, notices, whole, each, perm, ascending, ?_⟩
  obtain ⟨stems, rfl, shown⟩ := holds.exists_stems (fun n => perm.mem_iff.1) each
  have member : ∀ s, s ∈ stems ↔ s ++ ".yaml" ∈ names := by
    intro s
    have ends : Path.endsInYaml (s ++ ".yaml") = true := Path.endsInYaml_iff.2 ⟨s, rfl⟩
    have kept := perm.mem_iff (a := s ++ ".yaml")
    simpa [List.mem_filter, ends] using kept
  rw [shown, List.pairwise_map, Path.pairwise_shown_iff (List.pairwise_map.1 ascending)]
  simp only [member]

theorem holdsFixtures_of_isOk {entries : List (String × FileTree)}
    (noSlash : ∀ name ∈ entries.map Prod.fst, '/' ∉ name.toList)
    (loads : ∀ name ∈ entries.map Prod.fst,
      (load reader (.directory entries) ((Path.ofString ".").join name)).isOk = true) :
    HoldsFixtures reader (.directory entries) (.ofString ".") (entries.map Prod.fst) := by
  refine ⟨⟨entries, rfl, rfl⟩, noSlash, ?_⟩
  intro name member _
  have isOk := loads name member
  cases result : load reader (.directory entries) ((Path.ofString ".").join name) with
  | ok f => exact ⟨f, rfl⟩
  | error e =>
      rw [result] at isOk
      cases isOk

def plainFile : FileTree := .file plainText.toUTF8

def dottedTree : FileTree := .directory [("a.yaml", plainFile), ("a.b.yaml", plainFile)]

theorem loadDirectory_names_ascending_iff_dottedTree :
    HoldsFixtures plainReader dottedTree (.ofString ".") ["a.yaml", "a.b.yaml"] ∧
      ∃ fixtures notices,
        loadDirectory plainReader dottedTree (.ofString ".") defaultPattern =
          .ok ⟨fixtures, notices⟩ ∧
        ¬ (fixtures.map name).Pairwise (· ≤ ·) := by
  have holds : HoldsFixtures plainReader dottedTree (.ofString ".") ["a.yaml", "a.b.yaml"] :=
    holdsFixtures_of_isOk (by decide) (by decide +kernel)
  obtain ⟨_, fixtures, notices, whole, _, _, _, ascending⟩ :=
    loadDirectory_names_ascending_iff holds
  refine ⟨holds, fixtures, notices, whole, ?_⟩
  rw [ascending, not_not]
  exact ⟨"a", ".b", by decide, by decide, by decide, by decide, by decide⟩

def hyphenTree : FileTree := .directory [("a.yaml", plainFile), ("a-b.yaml", plainFile)]

theorem loadDirectory_hyphenTree :
    HoldsFixtures plainReader hyphenTree (.ofString ".") ["a.yaml", "a-b.yaml"] ∧
      ∃ fixtures notices,
        loadDirectory plainReader hyphenTree (.ofString ".") defaultPattern =
          .ok ⟨fixtures, notices⟩ ∧
        fixtures.map name = ["a-b", "a"] ∧ ¬ (fixtures.map name).Pairwise (· ≤ ·) := by
  have holds : HoldsFixtures plainReader hyphenTree (.ofString ".") ["a.yaml", "a-b.yaml"] :=
    holdsFixtures_of_isOk (by decide) (by decide +kernel)
  obtain ⟨fileNames, fixtures, notices, perm, ascending, whole, each⟩ := holds.loads_in_order
  have order : fileNames = ["a-b", "a"].map (· ++ ".yaml") := by
    have perm' : fileNames.Perm (["a-b", "a"].map (· ++ ".yaml")) :=
      perm.trans (List.Perm.swap _ _ _)
    exact perm'.eq_of_pairwise (fun _ _ _ _ => le_antisymm) ascending (by decide)
  obtain ⟨stems, cut, shown⟩ := holds.exists_stems (fun n => perm.mem_iff.1) each
  have injective : Function.Injective fun s : String => s ++ ".yaml" := by
    intro s t same
    simpa using same
  have known : fixtures.map name = ["a-b", "a"] := by
    rw [shown, List.map_injective_iff.2 injective (cut.symm.trans order)]
    rfl
  refine ⟨holds, fixtures, notices, whole, known, ?_⟩
  rw [known]
  decide

end Fixture

end CucumberExpressions
