/-! Tokens: the six marks that structure an expression, the fourteen kinds of token, and the raw
text each token was read from. -/

namespace CucumberExpressions

inductive Mark
  | beginOptional | endOptional | beginParameter | endParameter | alternation | whiteSpace
  deriving DecidableEq, Repr

namespace Mark

def all : List Mark :=
  [.whiteSpace, .beginOptional, .endOptional, .beginParameter, .endParameter, .alternation]

def char : Mark → Char
  | beginOptional => '('
  | endOptional => ')'
  | beginParameter => '{'
  | endParameter => '}'
  | alternation => '/'
  | whiteSpace => ' '

def name : Mark → String
  | beginOptional => "BEGIN_OPTIONAL"
  | endOptional => "END_OPTIONAL"
  | beginParameter => "BEGIN_PARAMETER"
  | endParameter => "END_PARAMETER"
  | alternation => "ALTERNATION"
  | whiteSpace => "WHITE_SPACE"

def ofChar? (c : Char) : Option Mark := all.find? (·.char = c)

theorem mem_all (m : Mark) : m ∈ all := by cases m <;> decide

theorem char_injective {m n : Mark} (h : m.char = n.char) : m = n := by
  cases m <;> cases n <;> first | rfl | exact absurd h (by decide)

@[simp] theorem ofChar?_char (m : Mark) : ofChar? m.char = some m := by cases m <;> rfl

theorem ofChar?_eq_some_iff {c : Char} {m : Mark} : ofChar? c = some m ↔ c = m.char := by
  constructor
  · intro h
    have found := List.find?_some h
    exact (of_decide_eq_true found).symm
  · rintro rfl
    exact ofChar?_char m

end Mark

/-- `mark` and `escaped` come in pairs: a mark of the structure, and the same mark behind a
backslash, which is text. -/
inductive Kind
  | mark (m : Mark)
  | escaped (m : Mark)
  /-- A backslash with nothing to escape. -/
  | escape
  | text
  deriving DecidableEq, Repr

namespace Kind

def all : List Kind := Mark.all.map mark ++ text :: Mark.all.map escaped ++ [escape]

def name : Kind → String
  | mark m => m.name
  | escaped m => "ESCAPED_" ++ m.name
  | escape => "ESCAPE"
  | text => "TEXT"

def ofName? (name : String) : Option Kind := all.find? (·.name = name)

def isEscaped : Kind → Bool
  | escaped _ => true
  | _ => false

def unescaped : Kind → Kind
  | escaped m => mark m
  | k => k

theorem mem_all (k : Kind) : k ∈ all := by
  rcases k with m | m | _ | _ <;> simp [all, Mark.mem_all]

@[simp] theorem ofName?_name (k : Kind) : ofName? k.name = some k := by
  rcases k with m | m | _ | _ <;> first | rfl | (cases m <;> rfl)

theorem ofName?_eq_some_iff {name : String} {k : Kind} :
    ofName? name = some k ↔ name = k.name := by
  constructor
  · intro h
    have found := List.find?_some h
    exact (of_decide_eq_true found).symm
  · rintro rfl
    exact ofName?_name k

theorem name_injective {j k : Kind} (h : j.name = k.name) : j = k := by
  have found := congrArg ofName? h
  simpa using found

@[simp] theorem isEscaped_unescaped (k : Kind) : k.unescaped.isEscaped = false := by
  cases k <;> rfl

theorem unescaped_of_not_isEscaped {k : Kind} (h : k.isEscaped = false) : k.unescaped = k := by
  cases k <;> first | rfl | exact absurd h (by simp [isEscaped])

end Kind

/-- One lexical unit; the text of an escaped kind starts with its backslash. -/
structure Token where
  text : String
  kind : Kind
  deriving DecidableEq, Repr

namespace Token

def unescape (t : Token) : Token :=
  if t.kind.isEscaped then ⟨String.ofList (t.text.toList.drop 1), t.kind.unescaped⟩ else t

@[simp] theorem kind_unescape (t : Token) : t.unescape.kind = t.kind.unescaped := by
  unfold unescape
  split
  · rfl
  · next plain => exact (Kind.unescaped_of_not_isEscaped (by simpa using plain)).symm

theorem unescape_of_not_isEscaped {t : Token} (h : t.kind.isEscaped = false) : t.unescape = t := by
  simp [unescape, h]

@[simp] theorem unescape_unescape (t : Token) : t.unescape.unescape = t.unescape :=
  unescape_of_not_isEscaped (by simp)

end Token

end CucumberExpressions
