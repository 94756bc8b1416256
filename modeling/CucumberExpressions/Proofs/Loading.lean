import CucumberExpressions.Fixture.Load
import CucumberExpressions.Proofs.Checked
import CucumberExpressions.Proofs.WrittenPath

/-! Loading: which paths load to a fixture or to a fault of one, and which to something else. The
reader of YAML may be any that fails by no other way than a rule of YAML. -/

namespace CucumberExpressions

section InTurn

variable {α β ε : Type} {f : α → Except ε β} {e : ε}

theorem mapM_eq_error_iff (xs : List α) :
    xs.mapM f = .error e ↔ ∃ x, xs.find? (fun x => !(f x).isOk) = some x ∧ f x = .error e := by
  induction xs with
  | nil => simp [pure, Except.pure]
  | cons x xs ih =>
      rw [List.mapM_cons]
      cases first : f x with
      | error d =>
          have here : (x :: xs).find? (fun x => !(f x).isOk) = some x := by
            simp [first, Except.isOk, Except.toBool]
          simp [here, first, bind, Except.bind]
      | ok y =>
          have later : (x :: xs).find? (fun x => !(f x).isOk) = xs.find? fun x => !(f x).isOk := by
            simp [first, Except.isOk, Except.toBool]
          rw [later, ← ih]
          cases xs.mapM f <;> simp [bind, Except.bind, pure, Except.pure]

end InTurn

namespace Entries

variable {α : Type}

theorem sameKey_text (key : Scalar) (name : String) :
    key.sameKey (.text name) = true ↔ key = .text name := by
  cases key <;> simp [Scalar.sameKey]

theorem field?_put (name : String) (v : α) (es : Entries α) :
    (es.put (.text name) v).field? name = some v := by
  induction es with
  | nil => simp [put, field?]
  | cons entry es ih =>
      rcases entry with ⟨key, w⟩
      by_cases same : key = .text name
      · simp [put, field?, same, sameKey_text]
      · have other : key.sameKey (.text name) = false := by
          rw [← Bool.not_eq_true, sameKey_text]
          exact same
        simp [put, field?, same, other, ih]

end Entries

namespace TextReader

variable {α : Type} {r : TextReader α} {content : ByteArray}

end TextReader

namespace Fixture

variable {ε : Type}

variable {reader : YamlReader ε} {files : FileTree} {path : Path} {f : Fixture} {e : LoadError ε}

theorem path_of_check {es : Entries} {s : String} (made : check (.map es) = .ok f)
    (path : es.field? "path" = some (.text s)) : f.path = some (.ofString s) := by
  have allowed : es.allow "path" checkPath = .ok (some (.ofString s)) :=
    Entries.allow_of_field path nofun rfl
  rw [check] at made
  rcases Checked.withProblems_eq_ok_iff.1 made with ⟨fields, _⟩
  rcases Checked.both_eq_ok_iff.1 fields with ⟨front, back, _, second, rfl⟩
  rcases Checked.both_eq_ok_iff.1 second with ⟨tree?, path?, _, found, rfl⟩
  rw [allowed] at found
  exact (Except.ok.inj found).symm

theorem ofData_cases (path : Path) (v : Value) :
    (∃ f, ofData (ε := ε) path v = .ok f ∧ f.path = some (.ofString path.toString)) ∨
      ∃ fault, ofData (ε := ε) path v = .error (.fixture path fault) := by
  unfold ofData
  split
  · next es =>
      have field := Entries.field?_put "path" (.text path.toString) es
      split
      · next f made => exact Or.inl ⟨f, rfl, path_of_check made field⟩
      · next ps _ => exact Or.inr ⟨.invalid ps, rfl⟩
  · exact Or.inr ⟨.notMapping, rfl⟩

theorem load_of_read {content : ByteArray} (noNul : path.hasNul = false)
    (reading : files.read path = .ok content) :
    load reader files path = ofContent reader path content := by
  rw [load, noNul, reading]
  rfl

theorem exists_data_of_load (loaded : load reader files path = .ok f) : ∃ content v,
    files.read path = .ok content ∧ reader.read? content = some (.ok v) ∧
      ofData (ε := ε) path v = .ok f := by
  unfold load at loaded
  split at loaded
  · cases loaded
  · split at loaded
    · cases loaded
    · next content reading =>
        unfold ofContent at loaded
        split at loaded
        · cases loaded
        · next v made => exact ⟨content, v, reading, made, loaded⟩
        · cases loaded
        · cases loaded

theorem path_of_load (loaded : load reader files path = .ok f) :
    f.path = some (.ofString path.toString) := by
  obtain ⟨_, v, _, _, made⟩ := exists_data_of_load loaded
  rcases ofData_cases (ε := ε) path v with ⟨g, read, known⟩ | ⟨fault, failed⟩
  · rwa [Except.ok.inj (made.symm.trans read)]
  · rw [made] at failed
    cases failed

end Fixture

def YamlReader.ofTexts (known : List (String × Value)) : YamlReader Empty where
  partSize := 4096
  early? _ := none
  whole text :=
    match known.lookup (.ofList text) with
    | some v => .ok v
    | none => .error .malformed

namespace Fixture

def plainText : String := "expression: a"

def plainReader : YamlReader Empty :=
  .ofTexts [(plainText, .record [("expression", .text "a")])]

def yamlName : List Glyph :=
  [.anyRun, .exactly '.', .exactly 'y', .exactly 'a', .exactly 'm', .exactly 'l']

theorem ofString_defaultPattern :
    Glob.ofString defaultPattern = .ok ⟨[.matching yamlName], false⟩ := by
  have chars : defaultPattern.toList = ['*', '.', 'y', 'a', 'm', 'l'] := rfl
  have name : glyphs defaultPattern.toList = yamlName := by
    rw [chars]
    simp [glyphs, yamlName]
  rw [← name]
  rfl

end Fixture

end CucumberExpressions
