import CucumberExpressions.Fixture.Load
import CucumberExpressions.Fixture.Unfold

/-! The reader of YAML that fixtures are loaded with. -/

namespace CucumberExpressions.Yaml

def answer : Except Fault Data → Except (YamlError Misfit) Value
  | .ok d => .ok (Fixture.dataOf d)
  | .error (.misfit m) => .error (.other m)
  | .error _ => .error .malformed

/-- Reads a document. A front of the text is enough where a fault is met before its end. -/
def reader : YamlReader Misfit where
  partSize := readCharacters
  early? front :=
    match load ⟨wholeParts front, some .unread⟩ with
    | .error .unread => none
    | outcome => some (answer outcome)
  whole text := answer (load ⟨text, none⟩)

end CucumberExpressions.Yaml
