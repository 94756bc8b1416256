import CucumberExpressions.Yaml.Tag

/-! Reading the texts of scalars: quoted, block and plain ones, with their lines folded. -/

namespace CucumberExpressions.Yaml

def shortEscape? (c : Char) : Option Char :=
  match c with
  | '0' => some '\x00'
  | 'a' => some '\x07'
  | 'b' => some '\x08'
  | 't' | '\t' => some '\t'
  | 'n' => some '\n'
  | 'v' => some '\x0b'
  | 'f' => some '\x0c'
  | 'r' => some '\r'
  | 'e' => some '\x1b'
  | ' ' => some ' '
  | '"' => some '"'
  | '\\' => some '\\'
  | '/' => some '/'
  | 'N' => some '\u0085'
  | '_' => some '\u00a0'
  | 'L' => some '\u2028'
  | 'P' => some '\u2029'
  | _ => none

def escapeWidth? (c : Char) : Option Nat :=
  match c with
  | 'x' => some 2
  | 'u' => some 4
  | 'U' => some 8
  | _ => none

def readNumericEscape (p : Place) (width : Nat) : Except Fault (Nat × Place) := do
  let n ← p.hexAhead width .badEscape
  if 0x110000 ≤ n then throw (.misfit (.codePoint n))
  return (n, ← p.skip width)

def ofCodePoints (ns : List Nat) : Except Fault (List Char) :=
  ns.mapM fun n =>
    if h : n.isValidChar then .ok (Char.ofNatAux n h) else .error (.misfit (.halfPair n))

def quotedBreaks (p : Place) : Except Fault (List Char × Place) :=
  repeatStep (fun (s : List Char × Place) => s.2.left) (fun (breaks, p) => do
    if ← p.atDocumentMarker then throw .markerInText
    let p ← p.dropWhile isSpaceOrTab
    if isBreak (← p.peek) then
      let (b, p) ← p.lineBreak
      return .inl (breaks ++ b, p)
    else return .inr (breaks, p)) ([], p)

/-- A single line end folds to a space, further ones stay. -/
def foldBreaks (first breaks : List Char) : List Char :=
  if first ≠ ['\n'] then first ++ breaks
  else if breaks = [] then [' '] else breaks

def quotedSpaces (p : Place) : Except Fault (List Char × Place) := do
  let (spaces, p) ← p.takeWhile isSpaceOrTab
  let c ← p.peek
  if isEnd c then throw .textUnclosed
  else if isBreak c then
    let (first, p) ← p.lineBreak
    let (breaks, p) ← quotedBreaks p
    return (foldBreaks first breaks, p)
  else return (spaces, p)

/-- The code points of one backslash escape of a double-quoted text; an escaped line end leaves
nothing. -/
def readEscape (p : Place) : Except Fault (List Nat × Place) := do
  let p ← p.next
  let c ← p.peek
  if isBreak c then
    let (breaks, p) ← quotedBreaks (← p.lineBreak).2
    return (breaks.map Char.toNat, p)
  else
    match shortEscape? c, escapeWidth? c with
    | some d, _ => return ([d.toNat], ← p.next)
    | none, some width =>
      let (n, p) ← readNumericEscape (← p.next) width
      return ([n], p)
    | none, none => throw .badEscape

def atTwoQuotes (p : Place) (mark : Char) : Except Fault Bool := do
  if mark == '\'' then return (← p.peekAt 1) == mark else return false

/-- A text between quote marks; its parts are gathered with the last one first. -/
def readQuoted (p : Place) (mark : Char) : Except Fault (String × Place) := do
  let (parts, p) ← repeatStep (fun (s : List (List Nat) × Place) => s.2.left) (fun (parts, p) => do
    let c ← p.peek
    if c == mark then
      if ← atTwoQuotes p mark then return .inl ([mark.toNat] :: parts, ← p.skip 2)
      else return .inr (parts, ← p.next)
    else if c == '\\' && mark == '"' then
      let (codes, p) ← readEscape p
      return .inl (codes :: parts, p)
    else if isBlankOrEnd c then
      let (spaces, p) ← quotedSpaces p
      return .inl (spaces.map Char.toNat :: parts, p)
    else return .inl ([c.toNat] :: parts, ← p.next)) ([], ← p.next)
  return (String.ofList (← ofCodePoints parts.reverse.flatten), p)

/-- What becomes of the line ends at the end of a block text. -/
inductive Chomping
  | strip | clip | keep
  deriving DecidableEq, Repr

def chomping? (c : Char) : Option Chomping :=
  if c == '+' then some .keep else if c == '-' then some .strip else none

def statedIndent? (c : Char) : Except Fault (Option Nat) :=
  if c == '0' then .error .badBlockHeader
  else if c.isDigit then .ok (some (c.toNat - '0'.toNat))
  else .ok none

def readBlockHeader (p : Place) : Except Fault (Chomping × Option Nat × Place) := do
  let c ← p.peek
  let (chomping, indent?, p) ←
    match chomping? c with
    | some chomping => do
      let p ← p.next
      match ← statedIndent? (← p.peek) with
      | some n => pure (chomping, some n, ← p.next)
      | none => pure (chomping, none, p)
    | none =>
      match ← statedIndent? c with
      | some n => do
        let p ← p.next
        match chomping? (← p.peek) with
        | some chomping => pure (chomping, some n, ← p.next)
        | none => pure (Chomping.clip, some n, p)
      | none => pure (Chomping.clip, none, p)
  if !isSpaceOrEnd (← p.peek) then throw .badBlockHeader
  return (chomping, indent?, ← p.endLine .badBlockHeader)

/-- The line ends before the first line of a block text, and the greatest column among them. -/
def leadingBreaks (p : Place) : Except Fault (List Char × Nat × Place) :=
  repeatStep (fun (s : List Char × Nat × Place) => s.2.2.left) (fun (breaks, widest, p) => do
    let c ← p.peek
    if c == ' ' then
      let p ← p.next
      return .inl (breaks, max widest p.column, p)
    else if isBreak c then
      let (b, p) ← p.lineBreak
      return .inl (breaks ++ b, widest, p)
    else return .inr (breaks, widest, p)) ([], 0, p)

def skipIndent (p : Place) (indent : Nat) : Except Fault Place :=
  p.skip ((p.rest.take (indent - p.column)).takeWhile (· == ' ')).length

def blockBreaks (p : Place) (indent : Nat) : Except Fault (List Char × Place) := do
  repeatStep (fun (s : List Char × Place) => s.2.left) (fun (breaks, p) => do
    if isBreak (← p.peek) then
      let (b, p) ← p.lineBreak
      return .inl (breaks ++ b, ← skipIndent p indent)
    else return .inr (breaks, p)) ([], ← skipIndent p indent)

structure BlockText where
  parts : List (List Char)
  lineEnd : List Char
  breaks : List Char
  place : Place

/-- One line of a block text; in a folded one, a line end between two lines that start with no blank
is a space, or nothing if empty lines follow it. -/
def blockLine (folded : Bool) (indent : Nat) (s : BlockText) :
    Except Fault (Sum BlockText BlockText) := do
  if s.place.column != indent then return .inr s
  let first ← s.place.peek
  if isEnd first then return .inr s
  let (line, p) ← s.place.takeWhile (!isBreak ·)
  let (lineEnd, p) ← p.lineBreak
  let (breaks, p) ← blockBreaks p indent
  let parts := line :: s.breaks :: s.parts
  let next ← p.peek
  if p.column != indent || isEnd next then return .inr ⟨parts, lineEnd, breaks, p⟩
  else if folded && lineEnd == ['\n'] && !isSpaceOrTab first && !isSpaceOrTab next then
    return .inl ⟨if breaks = [] then [' '] :: parts else parts, lineEnd, breaks, p⟩
  else return .inl ⟨lineEnd :: parts, lineEnd, breaks, p⟩

def readBlock (p : Place) (folded : Bool) (parent : Int) : Except Fault (String × Place) := do
  let (chomping, stated?, p) ← readBlockHeader (← p.next)
  let least := max (parent + 1) 1 |>.toNat
  let (indent, breaks, p) ←
    match stated? with
    | some n => do
      let indent := least + n - 1
      let (breaks, p) ← blockBreaks p indent
      pure (indent, breaks, p)
    | none => do
      let (breaks, widest, p) ← leadingBreaks p
      pure (max least widest, breaks, p)
  let s ← repeatStep (·.place.left) (blockLine folded indent) ⟨[], [], breaks, p⟩
  let tail : List Char := match chomping with
    | .strip => []
    | .clip => s.lineEnd
    | .keep => s.lineEnd ++ s.breaks
  return (String.ofList (s.parts.reverse.flatten ++ tail), s.place)

/-- What is known while a plain text is read: its parts, the last one first, the spaces that are
kept if it goes on, and whether a line end was passed. -/
structure PlainText where
  parts : List (List Char)
  spaces : List Char
  newLine : Bool
  place : Place

def isFlowIndicator (c : Char) : Bool := ",?[]\x7b\x7d".toList.contains c

def plainFront (inFlow : Bool) : List Char → Nat
  | [] => 0
  | c :: cs =>
    let next := cs.headD endMark
    if isBlankOrEnd c then 0
    else if c == ':' && (isBlankOrEnd next || (inFlow && ",[]\x7b\x7d".toList.contains next)) then 0
    else if inFlow && isFlowIndicator c then 0
    else plainFront inFlow cs + 1

/-- How long the part of a plain text is that stands here; a colon after it is told from one that
goes on by the character behind. -/
def plainLength (p : Place) (inFlow : Bool) : Except Fault Nat := do
  if (← p.peek) == '#' then return 0
  let length := plainFront inFlow p.rest
  if (← p.peekAt length) == ':' then p.need (length + 2)
  return length

/-- The breaks of empty lines inside a plain text; `none` where a document starts or ends. -/
def plainBreaks (p : Place) : Except Fault (Option (List Char) × Place) :=
  repeatStep (fun (s : List Char × Place) => s.2.left) (fun (breaks, p) => do
    let c ← p.peek
    if c == ' ' then return .inl (breaks, ← p.next)
    else if isBreak c then
      let (b, p) ← p.lineBreak
      if ← p.atDocumentMarker then return .inr (none, p) else return .inl (breaks ++ b, p)
    else return .inr (some breaks, p)) ([], p)

def plainSpaces (p : Place) : Except Fault (List Char × Bool × Place) := do
  let (spaces, p) ← p.takeWhile (· == ' ')
  if isBreak (← p.peek) then
    let (first, p) ← p.lineBreak
    if ← p.atDocumentMarker then return ([], true, p)
    match ← plainBreaks p with
    | (none, p) => return ([], true, p)
    | (some breaks, p) => return (foldBreaks first breaks, true, p)
  else return (spaces, false, p)

/-- A plain text; a block's one goes on as long as its lines stand right of the column `parent`. The
truth value tells whether the last part ended with a line. -/
def readPlain (p : Place) (inFlow : Bool) (parent : Int) : Except Fault (String × Bool × Place) := do
  let s ← repeatStep (·.place.left) (fun s => do
    let length ← plainLength s.place inFlow
    if length = 0 then return .inr s
    let parts := s.place.rest.take length :: s.spaces :: s.parts
    let (spaces, newLine, p) ← plainSpaces (← s.place.skip length)
    let s : PlainText := ⟨parts, spaces, newLine, p⟩
    if spaces = [] then return .inr s
    if (← p.peek) == '#' || (!inFlow && (p.column : Int) < parent + 1) then return .inr s
    return .inl s) ⟨[], [], false, p⟩
  return (String.ofList s.parts.reverse.flatten, s.newLine, s.place)

end CucumberExpressions.Yaml
