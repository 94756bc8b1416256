import CucumberExpressions.Yaml.Place

/-! Tokens of YAML: brackets and indicators, the starts and ends that indentation stands for, and
the tokens with a text. -/

namespace CucumberExpressions.Yaml

/-- A tag as it is written: a handle, unless the tag is verbatim, and the rest. -/
structure WrittenTag where
  handle? : Option String
  suffix : String
  deriving DecidableEq, Repr

inductive Directive
  | version (major minor : Nat)
  | tag (handle lead : String)
  | other
  deriving DecidableEq, Repr

inductive Token
  | directive (d : Directive)
  | documentStart
  | documentEnd
  | blockSequenceStart
  | blockMappingStart
  | blockEnd
  | flowSequenceStart
  | flowSequenceEnd
  | flowMappingStart
  | flowMappingEnd
  | blockEntry
  | flowEntry
  | key
  | value
  | alias (name : String)
  | anchor (name : String)
  | tag (t : WrittenTag)
  | scalar (text : String) (plain : Bool)
  deriving DecidableEq, Repr

/-- Tokens as far as they can be told, and the fault that is met after them, if there is one. -/
structure Tokens where
  ready : List Token
  fault? : Option Fault

end CucumberExpressions.Yaml
