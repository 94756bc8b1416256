import CucumberExpressions.Yaml.Scalar

/-! The tokens of a YAML text: indentation becomes starts and ends of blocks, and a key is
recognised when the colon after it is met. -/

namespace CucumberExpressions.Yaml

/-- A token that may turn out to be a key; it is required to where nothing else can start. -/
structure PossibleKey where
  depth : Nat
  required : Bool
  tokenCount : Nat
  place : Place

structure Lexer where
  place : Place
  tokens : Array Token
  depth : Nat
  /-- The columns of the open blocks, the innermost first. -/
  indents : List Nat
  keyAllowed : Bool
  /-- At most one for each depth, the deepest first. -/
  possibleKeys : List PossibleKey

namespace Lexer

def start (s : Source) : Lexer := ⟨.start s, #[], 0, [], true, []⟩

def inFlow (s : Lexer) : Bool := s.depth != 0

def indent (s : Lexer) : Int :=
  match s.indents with
  | [] => -1
  | column :: _ => column

def push (s : Lexer) (t : Token) : Lexer := { s with tokens := s.tokens.push t }

def advance (s : Lexer) (t : Token) (length : Nat) : Except Fault Lexer := do
  return { s.push t with place := ← s.place.skip length }

def skipMark (s : Lexer) : Except Fault Lexer := do
  if s.place.index = 0 then
    if (← s.place.peek) = byteOrderMark then return { s with place := ← s.place.next }
  return s

def skipToToken (s : Lexer) : Except Fault Lexer := do
  repeatStep (·.place.left) (fun s => do
    let p ← s.place.skipComment
    if isBreak (← p.peek) then
      let (_, p) ← p.lineBreak
      return .inl { s with place := p, keyAllowed := s.keyAllowed || !s.inFlow }
    else return .inr { s with place := p }) (← s.skipMark)

/-- A key stands on one line, within 1024 characters before its colon. -/
def isStale (s : Lexer) (k : PossibleKey) : Bool :=
  k.place.line != s.place.line || s.place.index - k.place.index > 1024

def dropStaleKeys (s : Lexer) : Except Fault Lexer :=
  if s.possibleKeys.any fun k => s.isStale k && k.required then .error .keyUnfinished
  else .ok { s with possibleKeys := s.possibleKeys.filter (!s.isStale ·) }

def dropKey (s : Lexer) : Except Fault Lexer :=
  if s.possibleKeys.any fun k => k.depth == s.depth && k.required then .error .keyUnfinished
  else .ok { s with possibleKeys := s.possibleKeys.filter (·.depth != s.depth) }

def noteKey (s : Lexer) : Except Fault Lexer :=
  if s.keyAllowed then do
    let s ← s.dropKey
    let required := !s.inFlow && s.indent == s.place.column
    return { s with possibleKeys := ⟨s.depth, required, s.tokens.size, s.place⟩ :: s.possibleKeys }
  else .ok s

def closeBlocks (s : Lexer) (column : Int) : Lexer :=
  if s.inFlow then s
  else
    let ended := s.indents.takeWhile fun (i : Nat) => column < i
    { s with
      tokens := s.tokens ++ List.replicate ended.length Token.blockEnd
      indents := s.indents.drop ended.length }

/-- Starts a block with the token `t` in front of the token at `position`, unless the innermost
block starts there already. -/
def openBlock (s : Lexer) (column : Nat) (position : Nat) (t : Token) : Lexer :=
  if s.indent < column then
    { s with indents := column :: s.indents, tokens := s.tokens.insertIdxIfInBounds position t }
  else s

def endOfText (s : Lexer) : Except Fault Lexer := (s.closeBlocks (-1)).dropKey

def directive (s : Lexer) : Except Fault Lexer := do
  let s ← (s.closeBlocks (-1)).dropKey
  let (d, p) ← readDirective s.place
  return { s.push (.directive d) with place := p, keyAllowed := false }

def documentMarker (s : Lexer) (t : Token) : Except Fault Lexer := do
  let s ← (s.closeBlocks (-1)).dropKey
  return { (← s.advance t 3) with keyAllowed := false }

def openBracket (s : Lexer) (t : Token) : Except Fault Lexer := do
  let s ← s.noteKey
  let depth := s.depth + 1
  return { (← s.advance t 1) with depth, keyAllowed := true }

def closeBracket (s : Lexer) (t : Token) : Except Fault Lexer := do
  let s ← (← s.dropKey).advance t 1
  if s.depth = 0 then throw .strayBracket
  let depth := s.depth - 1
  return { s with depth, keyAllowed := false }

def flowEntry (s : Lexer) : Except Fault Lexer := do
  let s ← s.dropKey
  return { (← s.advance .flowEntry 1) with keyAllowed := true }

def blockEntry (s : Lexer) : Except Fault Lexer := do
  if !s.inFlow && !s.keyAllowed then throw .entryMisplaced
  let s := if s.inFlow then s
    else s.openBlock s.place.column s.tokens.size .blockSequenceStart
  let s ← s.dropKey
  return { (← s.advance .blockEntry 1) with keyAllowed := true }

def explicitKey (s : Lexer) : Except Fault Lexer := do
  if !s.inFlow && !s.keyAllowed then throw .keyMisplaced
  let s := if s.inFlow then s
    else s.openBlock s.place.column s.tokens.size .blockMappingStart
  let s ← s.dropKey
  let keyAllowed := !s.inFlow
  return { (← s.advance .key 1) with keyAllowed }

/-- A colon makes a key of what may be one; else it stands alone, as the value of a key that was
marked. -/
def valueMark (s : Lexer) : Except Fault Lexer := do
  match s.possibleKeys.find? (·.depth == s.depth) with
  | some k =>
    let s := { s with
      possibleKeys := s.possibleKeys.filter (·.depth != s.depth)
      tokens := s.tokens.insertIdxIfInBounds k.tokenCount .key }
    let s := if s.inFlow then s
      else s.openBlock k.place.column k.tokenCount .blockMappingStart
    return { (← s.advance .value 1) with keyAllowed := false }
  | none =>
    if !s.inFlow && !s.keyAllowed then throw .valueMisplaced
    let s := if s.inFlow then s
      else s.openBlock s.place.column s.tokens.size .blockMappingStart
    let s ← s.dropKey
    let keyAllowed := !s.inFlow
    return { (← s.advance .value 1) with keyAllowed }

def named (s : Lexer) (make : String → Token) : Except Fault Lexer := do
  let s ← s.noteKey
  let (name, p) ← readName s.place
  return { s.push (make name) with place := p, keyAllowed := false }

def tag (s : Lexer) : Except Fault Lexer := do
  let s ← s.noteKey
  let (t, p) ← readTag s.place
  return { s.push (.tag t) with place := p, keyAllowed := false }

def blockScalar (s : Lexer) (folded : Bool) : Except Fault Lexer := do
  let s ← s.dropKey
  let (text, p) ← readBlock s.place folded s.indent
  return { s.push (.scalar text false) with place := p, keyAllowed := true }

def quotedScalar (s : Lexer) (mark : Char) : Except Fault Lexer := do
  let s ← s.noteKey
  let (text, p) ← readQuoted s.place mark
  return { s.push (.scalar text false) with place := p, keyAllowed := false }

def plainScalar (s : Lexer) : Except Fault Lexer := do
  let s ← s.noteKey
  let (text, newLine, p) ← readPlain s.place s.inFlow s.indent
  return { s.push (.scalar text true) with place := p, keyAllowed := newLine }

def blankNext (s : Lexer) : Except Fault Bool := isBlankOrEnd <$> s.place.peekAt 1

/-- Whether an indicator stands here that means something in brackets, or in front of a blank. -/
def atIndicator (s : Lexer) : Except Fault Bool := if s.inFlow then return true else s.blankNext

def atPlain (s : Lexer) (c : Char) : Except Fault Bool := do
  if !isBlankOrEnd c && !"-?:,[]\x7b\x7d#&*!|>'\"%@\x60".toList.contains c then return true
  else if ← s.blankNext then return false
  else return c == '-' || (!s.inFlow && (c == '?' || c == ':'))

/-- Whether a document starts or ends here, which takes three characters like `c`. -/
def atMarker (s : Lexer) (c : Char) : Except Fault Bool :=
  if s.place.column = 0 then s.place.isMarker c else return false

/-- A token that starts with an indicator which may also be part of a plain text. -/
def indicated? (s : Lexer) (c : Char) : Except Fault (Option Lexer) := do
  match c with
  | '-' =>
    if ← s.atMarker c then s.documentMarker .documentStart
    else if ← s.blankNext then s.blockEntry
    else return none
  | '.' => if ← s.atMarker c then s.documentMarker .documentEnd else return none
  | '?' => if ← s.atIndicator then s.explicitKey else return none
  | ':' => if ← s.atIndicator then s.valueMark else return none
  | _ => return none

def token (s : Lexer) : Except Fault Lexer := do
  let c ← s.place.peek
  if c == '%' && s.place.column == 0 then return ← s.directive
  if let some next ← s.indicated? c then return next
  match c with
  | '[' => s.openBracket .flowSequenceStart
  | '\x7b' => s.openBracket .flowMappingStart
  | ']' => s.closeBracket .flowSequenceEnd
  | '\x7d' => s.closeBracket .flowMappingEnd
  | ',' => s.flowEntry
  | '*' => s.named .alias
  | '&' => s.named .anchor
  | '!' => s.tag
  | '\'' | '"' => s.quotedScalar c
  | _ =>
    if (c == '|' || c == '>') && !s.inFlow then s.blockScalar (c == '>')
    else if ← s.atPlain c then s.plainScalar
    else throw (.strayCharacter c)

def step (s : Lexer) : Except Fault (Sum Lexer Lexer) := do
  let s ← (← s.dropStaleKeys).skipToToken
  let s ← s.dropStaleKeys
  let s := s.closeBlocks s.place.column
  if isEnd (← s.place.peek) then return .inr (← s.endOfText)
  return .inl (← s.token)

/-- The tokens in front of the first one that may still turn out to be a key. -/
def settled (s : Lexer) : List Token :=
  let pending := (s.possibleKeys.filter (!s.isStale ·)).map (·.tokenCount)
  s.tokens.toList.take (pending.foldl min s.tokens.size)

/-- All tokens from a place on; a fault leaves those that were settled before it. -/
def allTokens (s : Lexer) : Tokens :=
  match s.step with
  | .error f => ⟨s.settled, some f⟩
  | .ok (.inr s) => ⟨s.tokens.toList, none⟩
  | .ok (.inl next) =>
    if next.place.left < s.place.left then next.allTokens else ⟨s.settled, some .stuck⟩
termination_by s.place.left

end Lexer

def tokensOf (source : Source) : Tokens := (Lexer.start source).allTokens

end CucumberExpressions.Yaml
