import CucumberExpressions.Proofs.Loading

/-! The path of a fixture that was loaded: it is the path of the file, and what the data in the file
says of a path changes nothing. -/

namespace CucumberExpressions

namespace Entries

variable {α : Type} {name other : String}

def without (name : String) (es : Entries α) : Entries α :=
  es.filter fun entry => entry.1 ≠ .text name

theorem without_cons_of_eq (v : α) (es : Entries α) :
    without name ((.text name, v) :: es) = without name es :=
  List.filter_cons_of_neg (by simp)

theorem without_cons_of_ne {key : Scalar} (different : key ≠ .text name) (v : α) (es : Entries α) :
    without name ((key, v) :: es) = (key, v) :: without name es :=
  List.filter_cons_of_pos (by simpa using different)

theorem without_put (name : String) (v : α) (es : Entries α) :
    (es.put (.text name) v).without name = es.without name := by
  induction es with
  | nil => exact without_cons_of_eq v []
  | cons entry es ih =>
      obtain ⟨key, w⟩ := entry
      by_cases same : key = .text name
      · rw [put, if_pos ((sameKey_text key name).2 same), same, without_cons_of_eq,
          without_cons_of_eq]
      · rw [put, if_neg (mt (sameKey_text key name).1 same), without_cons_of_ne same,
          without_cons_of_ne same, ih]

theorem field?_without (different : other ≠ name) (es : Entries α) :
    (es.without name).field? other = es.field? other := by
  induction es with
  | nil => rfl
  | cons entry es ih =>
      obtain ⟨key, w⟩ := entry
      by_cases same : key = .text name
      · have skipped : key ≠ .text other := by
          rw [same]
          simpa using different.symm
        rw [field?, if_neg skipped, same, without_cons_of_eq, ih]
      · rw [without_cons_of_ne same, field?, field?, ih]

end Entries

namespace Fixture

variable {ε : Type} {reader : YamlReader ε} {files files' : FileTree} {path : Path}
  {es es' : Entries}

theorem filterMap_keyProblem?_without (es : Entries) :
    (es.without "path").filterMap (fun (key, _) => keyProblem? key) =
      es.filterMap fun (key, _) => keyProblem? key := by
  induction es with
  | nil => rfl
  | cons entry es ih =>
      obtain ⟨key, v⟩ := entry
      by_cases same : key = .text "path"
      · have declared : keyProblem? (.text "path") = none := by decide
        rw [same, Entries.without_cons_of_eq, ih]
        simp only [List.filterMap_cons, declared]
      · rw [Entries.without_cons_of_ne same, List.filterMap_cons, List.filterMap_cons, ih]

theorem check_congr (path : es.field? "path" = es'.field? "path")
    (same : es.without "path" = es'.without "path") : check (.map es) = check (.map es') := by
  have field : ∀ name, name ≠ "path" → es.field? name = es'.field? name := by
    intro name different
    calc
      es.field? name = (es.without "path").field? name :=
        (Entries.field?_without different es).symm
      _ = (es'.without "path").field? name := by rw [same]
      _ = es'.field? name := Entries.field?_without different es'
  have keys : (es.filterMap fun (key, _) => keyProblem? key) =
      es'.filterMap fun (key, _) => keyProblem? key := by
    rw [← filterMap_keyProblem?_without es, same, filterMap_keyProblem?_without es']
  have expression := field "expression" (by decide)
  have tokens := field "expected_tokens" (by decide)
  have tree := field "expected_ast" (by decide)
  simp only [check, Entries.require, Entries.allow, expression, tokens, tree, path, keys]

theorem ofData_congr (path : Path) (same : es.without "path" = es'.without "path") :
    ofData (ε := ε) path (.map es) = ofData path (.map es') := by
  have written : ∀ es : Entries, (es.put (.text "path") (.text path.toString)).field? "path" =
      some (Value.text path.toString) := Entries.field?_put "path" (Value.text path.toString)
  have checked : check (.map (es.put (.text "path") (.text path.toString))) =
      check (.map (es'.put (.text "path") (.text path.toString))) := by
    apply check_congr
    · rw [written es, written es']
    · rw [Entries.without_put, Entries.without_put, same]
  simp only [ofData, checked]

/-- The data in the file at the path, if it can be read and the reader of YAML has data for it. -/
def dataAt? (reader : YamlReader ε) (files : FileTree) (path : Path) : Option Value :=
  (files.read path).toOption.bind fun content => (reader.read? content).bind Except.toOption

theorem load_of_dataAt? {v : Value} (holds : dataAt? reader files path = some v) :
    load reader files path = ofData path v := by
  have noNul : path.hasNul = false := by
    rw [← Bool.not_eq_true]
    intro nul
    simp [dataAt?, FileTree.read, FileTree.find, nul, Except.toOption] at holds
  cases reads : files.read path with
  | error e => simp [dataAt?, reads, Except.toOption] at holds
  | ok content =>
      have made : reader.read? content = some (.ok v) := by
        simp only [dataAt?, reads, Except.toOption, Option.bind_some] at holds
        obtain ⟨outcome, found, data⟩ := Option.bind_eq_some_iff.1 holds
        cases outcome with
        | ok w => rw [found, Option.some.inj data]
        | error e => cases data
      rw [load_of_read noNul reads, ofContent, made]

theorem ofData_map_cases (plain : path.Plain) (es : Entries) :
    (∃ f, ofData (ε := ε) path (.map es) = .ok f ∧ f.path = some path) ∨
      ∃ problems, ofData (ε := ε) path (.map es) = .error (.fixture path (.invalid problems)) := by
  have written := Entries.field?_put "path" (.text path.toString) es
  cases checked : check (.map (es.put (.text "path") (.text path.toString))) with
  | ok f =>
      have known := path_of_check checked written
      rw [Path.ofString_toString plain] at known
      exact Or.inl ⟨f, by simp only [ofData, checked], known⟩
  | error problems => exact Or.inr ⟨problems, by simp only [ofData, checked]⟩

/-- Two files at the same path with mappings that differ in nothing but what they have under `path`,
be it absent, anything, or elsewhere among the keys, load to the same: the same fixture, with the
path of the file, or the same problems in the same order. -/
theorem load_ignores_path_in_data {text : String}
    (holds : dataAt? reader files (.ofString text) = some (.map es))
    (holds' : dataAt? reader files' (.ofString text) = some (.map es'))
    (same : es.without "path" = es'.without "path") :
    (∃ f, load reader files (.ofString text) = .ok f ∧ load reader files' (.ofString text) = .ok f ∧
      f.path = some (.ofString text)) ∨
    ∃ problems,
      load reader files (.ofString text) = .error (.fixture (.ofString text) (.invalid problems)) ∧
      load reader files' (.ofString text) = .error (.fixture (.ofString text) (.invalid problems)) := by
  rw [load_of_dataAt? holds, load_of_dataAt? holds', ← ofData_congr (.ofString text) same]
  obtain ⟨f, made, known⟩ | ⟨problems, failed⟩ :=
    ofData_map_cases (Path.plain_ofString text) es
  · exact Or.inl ⟨f, made, made, known⟩
  · exact Or.inr ⟨problems, failed, failed⟩

def pathInFront : Entries :=
  [(.text "path", .scalar (.int 7)), (.text "expression", .text "a"), (.int 1, .text "b")]

def pathBehind : Entries :=
  [(.text "expression", .text "a"), (.int 1, .text "b"), (.text "path", .seq [.text "c"])]

def textInFront : String := "path: 7\nexpression: a\n1: b"

def textBehind : String := "expression: a\n1: b\npath: [c]"

def pathReader : YamlReader Empty :=
  .ofTexts [(textInFront, .map pathInFront), (textBehind, .map pathBehind)]

def oneFile (text : String) : FileTree := .directory [("a.yaml", .file text.toUTF8)]

theorem load_ignores_path_in_data_pathInFront :
    dataAt? pathReader (oneFile textInFront) (.ofString "a.yaml") = some (.map pathInFront) ∧
    dataAt? pathReader (oneFile textBehind) (.ofString "a.yaml") = some (.map pathBehind) ∧
    ∃ problems,
      load pathReader (oneFile textInFront) (.ofString "a.yaml") =
        .error (.fixture (.ofString "a.yaml") (.invalid problems)) ∧
      load pathReader (oneFile textBehind) (.ofString "a.yaml") =
        .error (.fixture (.ofString "a.yaml") (.invalid problems)) := by
  have front : dataAt? pathReader (oneFile textInFront) (.ofString "a.yaml") =
      some (.map pathInFront) := by decide +kernel
  have behind : dataAt? pathReader (oneFile textBehind) (.ofString "a.yaml") =
      some (.map pathBehind) := by decide +kernel
  have fails : (load pathReader (oneFile textInFront) (.ofString "a.yaml")).isOk = false := by
    decide +kernel
  refine ⟨front, behind, ?_⟩
  obtain ⟨f, loads, _⟩ | ⟨problems, failed⟩ := load_ignores_path_in_data front behind (by decide)
  · rw [loads] at fails
    cases fails
  · exact ⟨problems, failed⟩

end Fixture

end CucumberExpressions
