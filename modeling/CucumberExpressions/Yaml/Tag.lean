import CucumberExpressions.Yaml.Token

/-! Reading directives, anchors and tags. -/

namespace CucumberExpressions.Yaml

def isWordChar (c : Char) : Bool :=
  ('0' ≤ c && c ≤ '9') || ('A' ≤ c && c ≤ 'Z') || ('a' ≤ c && c ≤ 'z') || c == '-' || c == '_'

def percentBytes (p : Place) : Except Fault (List UInt8 × Place) :=
  repeatStep (fun (s : List UInt8 × Place) => s.2.left) (fun (bytes, p) => do
    if (← p.peek) != '%' then return .inr (bytes, p)
    let p ← p.next
    let byte ← p.hexAhead 2 .badTag
    return .inl (bytes ++ [byte.toUInt8], ← p.skip 2)) ([], p)

def isUriChar (c : Char) : Bool :=
  isWordChar c || ";/?:@&=+$,.!~*'()[]".toList.contains c

def readUri (p : Place) : Except Fault (String × Place) := do
  let (chars, p) ← repeatStep (fun (s : List Char × Place) => s.2.left) (fun (chars, p) => do
    if (← p.peek) == '%' then
      let (bytes, p) ← percentBytes p
      match String.fromUTF8? ⟨bytes.toArray⟩ with
      | some s => return .inl (chars ++ s.toList, p)
      | none => throw .badTag
    else
      let (taken, after) ← p.takeWhile isUriChar
      if taken = [] then return .inr (chars, p) else return .inl (chars ++ taken, after)) ([], p)
  if chars = [] then throw .badTag
  return (String.ofList chars, p)

/-- A handle: `!`, `!!` or a word between two `!`. -/
def readHandle (p : Place) (fault : Fault) : Except Fault (String × Place) := do
  if (← p.peek) != '!' then throw fault
  let (word, after) ← (← p.next).takeWhile isWordChar
  let c ← after.peek
  if c == '!' then return (String.ofList ('!' :: word ++ ['!']), ← after.next)
  else if word.isEmpty && c == ' ' then return ("!", after)
  else throw fault

def hasHandle (p : Place) : Except Fault Bool := do
  let after ← (← p.next).dropWhile fun c => c != '!' && !isSpaceOrEnd c
  return (← after.peek) == '!'

def readTag (p : Place) : Except Fault (WrittenTag × Place) := do
  let c ← p.peekAt 1
  let (tag, after) ←
    if c == '<' then do
      let (uri, after) ← readUri (← p.skip 2)
      if (← after.peek) != '>' then throw .badTag
      pure ((⟨none, uri⟩ : WrittenTag), ← after.next)
    else if isBlankOrEnd c then pure ((⟨none, "!"⟩ : WrittenTag), ← p.next)
    else do
      let (handle, after) ←
        if ← hasHandle p then readHandle p .badTag else pure ("!", ← p.next)
      let (suffix, after) ← readUri after
      pure ((⟨some handle, suffix⟩ : WrittenTag), after)
  if isSpaceOrEnd (← after.peek) then return (tag, after) else throw .badTag

def readName (p : Place) : Except Fault (String × Place) := do
  let (word, after) ← (← p.next).takeWhile isWordChar
  if word = [] then throw .badAnchor
  let c ← after.peek
  if isBlankOrEnd c || "?:,]\x7d%@\x60".toList.contains c then
    return (String.ofList word, after)
  else throw .badAnchor

def readNumber (p : Place) : Except Fault (Nat × Place) := do
  let (digits, after) ← p.takeWhile Char.isDigit
  if digits = [] then throw .badDirective
  match readWhole 10 digits with
  | .ok n => return (n.toNat, after)
  | .error e => throw (.misfit (.number e))

def readVersion (p : Place) : Except Fault (Directive × Place) := do
  let (major, p) ← readNumber (← p.skipSpaces)
  if (← p.peek) != '.' then throw .badDirective
  let (minor, p) ← readNumber (← p.next)
  if isSpaceOrEnd (← p.peek) then return (.version major minor, p) else throw .badDirective

def readTagDirective (p : Place) : Except Fault (Directive × Place) := do
  let (handle, p) ← readHandle (← p.skipSpaces) .badDirective
  if (← p.peek) != ' ' then throw .badDirective
  let (lead, p) ← readUri (← p.skipSpaces)
  if isSpaceOrEnd (← p.peek) then return (.tag handle lead, p) else throw .badDirective

def readDirective (p : Place) : Except Fault (Directive × Place) := do
  let (word, p) ← (← p.next).takeWhile isWordChar
  if word = [] then throw .badDirective
  if !isSpaceOrEnd (← p.peek) then throw .badDirective
  let (directive, p) ←
    match String.ofList word with
    | "YAML" => readVersion p
    | "TAG" => readTagDirective p
    | _ => pure (Directive.other, ← p.dropWhile (!isBreak ·))
  return (directive, ← p.endLine .badDirective)

end CucumberExpressions.Yaml
