import CucumberExpressions.Token.Basic

/-! The lexer: a table of patterns of which the first that matches is taken, a stream that gives one
token at a time, and the list of all tokens of an expression. -/

namespace CucumberExpressions

def isPlain (c : Char) : Bool := c != '\\' && (Mark.ofChar? c).isNone

inductive Pattern
  | exactly (text : List Char)
  | plainRun
  deriving DecidableEq, Repr

namespace Pattern

def read? : Pattern → List Char → Option (List Char × List Char)
  | exactly text, s => if text.isPrefixOf s then some (text, s.drop text.length) else none
  | plainRun, s =>
    match s.takeWhile isPlain with
    | [] => none
    | run => some (run, s.dropWhile isPlain)

theorem append_of_read? {p : Pattern} {s taken rest : List Char}
    (h : p.read? s = some (taken, rest)) : taken ++ rest = s := by
  cases p with
  | exactly text =>
    simp only [read?] at h
    split at h
    · next front =>
      obtain ⟨tail, rfl⟩ := List.isPrefixOf_iff_prefix.1 front
      cases h
      simp
    · cases h
  | plainRun =>
    simp only [read?] at h
    split at h
    · cases h
    · cases h
      exact List.takeWhile_append_dropWhile

end Pattern

structure Rule where
  pattern : Pattern
  kind : Kind
  deriving DecidableEq, Repr

/-- Escaped marks come before the lone backslash, so a backslash is on its own only where it escapes
nothing. -/
def lexicon : List Rule :=
  Mark.all.map (fun m => ⟨.exactly ['\\', m.char], .escaped m⟩)
    ++ ⟨.exactly ['\\'], .escape⟩
    :: Mark.all.map (fun m => ⟨.exactly [m.char], .mark m⟩)
    ++ [⟨.plainRun, .text⟩]

def Rule.read? (r : Rule) (s : List Char) : Option (Token × List Char) :=
  (r.pattern.read? s).map fun (taken, rest) => (⟨String.ofList taken, r.kind⟩, rest)

def nextToken? (s : List Char) : Option (Token × List Char) := lexicon.findSome? (·.read? s)

theorem Rule.append_of_read? {r : Rule} {s rest : List Char} {t : Token}
    (h : r.read? s = some (t, rest)) : t.text.toList ++ rest = s := by
  simp only [read?, Option.map_eq_some_iff] at h
  obtain ⟨⟨taken, left⟩, found, same⟩ := h
  cases same
  simpa using Pattern.append_of_read? found

theorem Rule.kind_of_read? {r : Rule} {s rest : List Char} {t : Token}
    (h : r.read? s = some (t, rest)) : t.kind = r.kind := by
  simp only [read?, Option.map_eq_some_iff] at h
  obtain ⟨_, _, same⟩ := h
  cases same
  rfl

theorem Rule.pattern_ne_empty : ∀ r ∈ lexicon, r.pattern ≠ .exactly [] := by decide

theorem Rule.text_ne_nil {r : Rule} (nonempty : r.pattern ≠ .exactly []) {s rest : List Char}
    {t : Token} (h : r.read? s = some (t, rest)) : t.text.toList ≠ [] := by
  simp only [read?, Option.map_eq_some_iff] at h
  obtain ⟨⟨taken, left⟩, found, same⟩ := h
  cases same
  rw [String.toList_ofList]
  rcases pattern : r.pattern with text | _ <;> rw [pattern] at found nonempty
  · simp only [Pattern.read?] at found
    split at found
    · cases found
      exact fun empty => nonempty (congrArg Pattern.exactly empty)
    · cases found
  · simp only [Pattern.read?] at found
    split at found
    · cases found
    · next run => cases found; exact run

theorem Rule.length_lt_of_read? {r : Rule} (nonempty : r.pattern ≠ .exactly [])
    {s rest : List Char} {t : Token} (h : r.read? s = some (t, rest)) :
    rest.length < s.length := by
  have taken := List.length_pos_iff.2 (Rule.text_ne_nil nonempty h)
  have whole := congrArg List.length (Rule.append_of_read? h)
  rw [List.length_append] at whole
  omega

theorem append_of_nextToken? {s rest : List Char} {t : Token}
    (h : nextToken? s = some (t, rest)) : t.text.toList ++ rest = s := by
  obtain ⟨_, _, found⟩ := List.exists_of_findSome?_eq_some h
  exact Rule.append_of_read? found

theorem length_lt_of_nextToken? {s rest : List Char} {t : Token}
    (h : nextToken? s = some (t, rest)) : rest.length < s.length := by
  obtain ⟨r, member, found⟩ := List.exists_of_findSome?_eq_some h
  exact Rule.length_lt_of_read? (Rule.pattern_ne_empty r member) found

def tokensOf (s : List Char) : List Token :=
  match _ : nextToken? s with
  | none => []
  | some (t, rest) => t :: tokensOf rest
termination_by s.length
decreasing_by exact length_lt_of_nextToken? (by assumption)

theorem tokensOf_of_none {s : List Char} (h : nextToken? s = none) : tokensOf s = [] := by
  rw [tokensOf]
  split
  · rfl
  · next found =>
    rw [h] at found
    cases found

theorem tokensOf_of_some {s rest : List Char} {t : Token} (h : nextToken? s = some (t, rest)) :
    tokensOf s = t :: tokensOf rest := by
  rw [tokensOf]
  split
  · next none =>
    rw [h] at none
    cases none
  · next found =>
    rw [h] at found
    cases found
    rfl

def tokenize (expression : String) : List Token := tokensOf expression.toList

/-- A stream of tokens that can be read in parts. It stands at the start of the token that it gave
last, and moves behind it when the next one is asked for. -/
structure TokenStream where
  ahead : List Char
  /-- How many characters the token has that was given and is still ahead. -/
  given : Nat

namespace TokenStream

def ofExpression (expression : String) : TokenStream := ⟨expression.toList, 0⟩

def rest (stream : TokenStream) : List Char := stream.ahead.drop stream.given

def next? (stream : TokenStream) : Option (Token × TokenStream) :=
  (nextToken? stream.rest).map fun (t, _) => (t, ⟨stream.rest, t.text.length⟩)

def read (n : Nat) (stream : TokenStream) : List Token × TokenStream :=
  match n with
  | 0 => ([], stream)
  | n + 1 =>
    match stream.next? with
    | none => ([], stream)
    | some (t, later) =>
      let (ts, last) := read n later
      (t :: ts, last)

@[simp] theorem rest_ofExpression (expression : String) :
    (ofExpression expression).rest = expression.toList := rfl

theorem next?_eq_none {stream : TokenStream} (h : nextToken? stream.rest = none) :
    stream.next? = none := by
  rw [next?, h, Option.map_none]

theorem exists_next? {stream : TokenStream} {t : Token} {later : List Char}
    (h : nextToken? stream.rest = some (t, later)) :
    ∃ next, stream.next? = some (t, next) ∧ next.rest = later := by
  refine ⟨⟨stream.rest, t.text.length⟩, by rw [next?, h, Option.map_some], ?_⟩
  rw [rest, ← append_of_nextToken? h, ← String.length_toList, List.drop_left]

end TokenStream

end CucumberExpressions
