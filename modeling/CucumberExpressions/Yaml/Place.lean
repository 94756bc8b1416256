import CucumberExpressions.Yaml.Text

/-! Places in a YAML text: what is left to read, with the line and the column; and the classes of
characters that reading goes by. A text may be known in part only, with a fault behind that part,
which a look beyond it meets. -/

namespace CucumberExpressions.Yaml

/-- `left` counts the characters in `rest`; `fault?` stands behind them. -/
structure Place where
  rest : List Char
  left : Nat
  fault? : Option Fault
  index : Nat
  line : Nat
  column : Nat

/-- Stands for the end of the text, in which it cannot occur. -/
def endMark : Char := '\x00'

def isEnd (c : Char) : Bool := c == endMark

def isBreak (c : Char) : Bool :=
  c == '\n' || c == '\u0085' || c == '\u2028' || c == '\u2029'

def isBreakOrEnd (c : Char) : Bool := isBreak c || isEnd c

def isSpaceOrEnd (c : Char) : Bool := c == ' ' || isBreakOrEnd c

def isBlankOrEnd (c : Char) : Bool := c == '\t' || isSpaceOrEnd c

def isSpaceOrTab (c : Char) : Bool := c == ' ' || c == '\t'

def byteOrderMark : Char := '\ufeff'

namespace Place

def start (s : Source) : Place := ⟨s.text, s.text.length, s.fault?, 0, 0, 0⟩

/-- Fails where `count` characters can be asked for only beyond a fault. -/
def need (p : Place) (count : Nat) : Except Fault Unit :=
  match p.fault? with
  | some f => if p.left < count then .error f else .ok ()
  | none => .ok ()

def peekAt (p : Place) (n : Nat) : Except Fault Char := do
  p.need (n + 1)
  return (p.rest.drop n).headD endMark

def peek (p : Place) : Except Fault Char := p.peekAt 0

/-- The place `n` characters on. A line starts after a break; a byte order mark takes no column. -/
def past (p : Place) : Nat → Place
  | 0 => p
  | n + 1 =>
    match p.rest with
    | [] => p
    | c :: cs =>
      let next : Place :=
        if isBreak c then ⟨cs, p.left - 1, p.fault?, p.index + 1, p.line + 1, 0⟩
        else
          let column := if c = byteOrderMark then p.column else p.column + 1
          ⟨cs, p.left - 1, p.fault?, p.index + 1, p.line, column⟩
      next.past n

/-- Past `n` characters, with a look at the one after them. -/
def skip (p : Place) (n : Nat) : Except Fault Place := do
  p.need (n + 1)
  return p.past n

def next (p : Place) : Except Fault Place := p.skip 1

def takeWhile (p : Place) (fits : Char → Bool) : Except Fault (List Char × Place) := do
  let taken := p.rest.takeWhile fits
  return (taken, ← p.skip taken.length)

def dropWhile (p : Place) (fits : Char → Bool) : Except Fault Place :=
  Prod.snd <$> p.takeWhile fits

def skipSpaces (p : Place) : Except Fault Place := p.dropWhile (· == ' ')

def skipComment (p : Place) : Except Fault Place := do
  let p ← p.skipSpaces
  if (← p.peek) == '#' then p.dropWhile (!isBreak ·) else return p

/-- The break at the place, if there is one; a next-line character counts as a newline. -/
def lineBreak (p : Place) : Except Fault (List Char × Place) := do
  let c ← p.peek
  if c == '\n' || c == '\u0085' then return (['\n'], ← p.next)
  else if isBreak c then return ([c], ← p.next)
  else return ([], p)

def isMarker (p : Place) (c : Char) : Except Fault Bool := do
  p.need 3
  if p.rest.take 3 == [c, c, c] then return isBlankOrEnd (← p.peekAt 3) else return false

def atDocumentMarker (p : Place) : Except Fault Bool := do
  if ← p.isMarker '-' then return true else p.isMarker '.'

def endLine (p : Place) (fault : Fault) : Except Fault Place := do
  let p ← p.skipComment
  if isBreakOrEnd (← p.peek) then return (← p.lineBreak).2 else throw fault

/-- The number of `width` hexadecimal digits, which are left in place. -/
def hexAhead (p : Place) (width : Nat) (fault : Fault) : Except Fault Nat := do
  let digits ← (List.range width).mapM fun n => do
    let c ← p.peekAt n
    if isHexDigit c then return c else throw fault
  return hexNumber digits

end Place

/-- Repeats a step until it is done; every step but the last has to make `size` smaller. -/
def repeatStep {σ α : Type} (size : σ → Nat) (step : σ → Except Fault (Sum σ α)) (s : σ) :
    Except Fault α :=
  match step s with
  | .error e => .error e
  | .ok (.inr a) => .ok a
  | .ok (.inl s') => if size s' < size s then repeatStep size step s' else .error .stuck
termination_by size s

end CucumberExpressions.Yaml
