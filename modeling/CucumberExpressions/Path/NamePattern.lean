/-! Patterns for one part of a path: `*` for any run of characters, `?` for any one, and sets of
characters in brackets. -/

namespace CucumberExpressions

/-- Characters given by ranges, or all the others; a range whose ends are the wrong way round is
empty. -/
structure CharSet where
  negated : Bool
  ranges : List (Char × Char)
  deriving DecidableEq, Repr

def CharSet.contains (s : CharSet) (c : Char) : Bool :=
  s.ranges.any (fun (low, high) => low ≤ c && c ≤ high) != s.negated

inductive Glyph
  | exactly (c : Char)
  | anyChar
  | anyRun
  | oneOf (s : CharSet)
  deriving DecidableEq, Repr

namespace CharSet

def single (c : Char) : Char × Char := (c, c)

/-- The pieces of a bracket's content between the hyphens that make ranges. Such a hyphen has a
character before it that no range has used, and one after it or the end; a hyphen at the end is a
character of the last piece. -/
def pieces (fuel : Nat) (content : List Char) (skip : Nat) : List (List Char) :=
  match fuel with
  | 0 => [content]
  | fuel + 1 =>
    let front := content.take skip ++ (content.drop skip).takeWhile (· != '-')
    match content.drop front.length with
    | [] => [front]
    | [_] => [front ++ ['-']]
    | _ :: later => front :: pieces fuel later 2

def dropEmptyRanges : List (List Char) → List (List Char)
  | [] => []
  | piece :: later =>
    match dropEmptyRanges later with
    | [] => [piece]
    | next :: rest =>
      match piece.getLast?, next.head? with
      | some low, some high =>
        if high < low then (piece.dropLast ++ next.drop 1) :: rest else piece :: next :: rest
      | _, _ => piece :: next :: rest

def rangesOf : List (List Char) → List (Char × Char)
  | [] => []
  | [piece] => piece.map single
  | piece :: next :: rest =>
    match piece.getLast?, next.head? with
    | some low, some high => (piece.map single) ++ (low, high) :: rangesOf (next :: rest)
    | _, _ => single '-' :: piece.map single ++ rangesOf (next :: rest)

def ofContent (content : List Char) : CharSet :=
  let skip := if content.head? = some '!' then 2 else 1
  match dropEmptyRanges (pieces content.length content skip) with
  | ('!' :: first) :: rest => ⟨true, rangesOf (first :: rest)⟩
  | all => ⟨false, rangesOf all⟩

end CharSet

/-- The content of a bracket and what follows its end; a `]` right at the start, or after a leading
`!`, is content. -/
def splitBracket? (cs : List Char) : Option (List Char × List Char) :=
  let front := match cs with
    | '!' :: ']' :: _ => 2
    | '!' :: _ => 1
    | ']' :: _ => 1
    | _ => 0
  let content := cs.take front ++ (cs.drop front).takeWhile (· != ']')
  match cs.drop content.length with
  | [] => none
  | _ :: rest => some (content, rest)

theorem length_lt_of_splitBracket? {cs content rest : List Char}
    (h : splitBracket? cs = some (content, rest)) : rest.length < cs.length := by
  simp only [splitBracket?] at h
  split at h
  · cases h
  · next found =>
    cases h
    have whole := congrArg List.length found
    rw [List.length_drop, List.length_cons] at whole
    omega

/-- A bracket that is never closed stands for itself. -/
def glyphs (pattern : List Char) : List Glyph :=
  match pattern with
  | [] => []
  | '*' :: rest => .anyRun :: glyphs rest
  | '?' :: rest => .anyChar :: glyphs rest
  | '[' :: rest =>
    match _ : splitBracket? rest with
    | some (content, after) => .oneOf (.ofContent content) :: glyphs after
    | none => .exactly '[' :: glyphs rest
  | c :: rest => .exactly c :: glyphs rest
termination_by pattern.length
decreasing_by
  all_goals simp only [List.length_cons]
  · omega
  · omega
  · have := length_lt_of_splitBracket? (by assumption)
    omega
  · omega
  · omega

def anyRest (test : List Char → Bool) : List Char → Bool
  | [] => test []
  | c :: cs => test (c :: cs) || anyRest test cs

def matchesAll : List Glyph → List Char → Bool
  | [], cs => cs.isEmpty
  | .anyRun :: gs, cs => anyRest (matchesAll gs) cs
  | .exactly d :: gs, c :: cs => c == d && matchesAll gs cs
  | .anyChar :: gs, _ :: cs => matchesAll gs cs
  | .oneOf s :: gs, c :: cs => s.contains c && matchesAll gs cs
  | _ :: _, [] => false

end CucumberExpressions
