import CucumberExpressions.Yaml.Lexer
import CucumberExpressions.Yaml.Resolve

/-! YAML documents as nodes, every tag resolved. A node is known by its number, so that an alias is
one more mention of what it stands for, which may be around it. -/

namespace CucumberExpressions.Yaml

abbrev NodeId := Nat

inductive Content
  | text (s : String)
  | items (nodes : List NodeId)
  | entries (es : List (NodeId × NodeId))
  deriving DecidableEq, Repr

structure Node where
  tag : Tag
  content : Content
  deriving DecidableEq, Repr

def Node.absent : Node := ⟨.null, .text ""⟩

abbrev Nodes := Array Node

def Nodes.node (ns : Nodes) (n : NodeId) : Node := ns[n]?.getD .absent

structure Document where
  nodes : Nodes
  root : NodeId

structure Properties where
  anchor? : Option String
  tag? : Option WrittenTag

abbrev Handles := List (String × String)

def defaultHandles : Handles := [("!", "!"), ("!!", Tag.lead)]

def WrittenTag.resolve (handles : Handles) (t : WrittenTag) : Except Fault String :=
  match t.handle? with
  | none => .ok t.suffix
  | some handle =>
    match handles.lookup handle with
    | some lead => .ok (lead ++ t.suffix)
    | none => .error (.unknownHandle handle)

/-- A lone `!` asks for the tag that the text of a scalar resolves to. -/
def scalarTag (tag? : Option String) (text : String) (plain : Bool) : Tag :=
  match tag? with
  | some "!" => resolvePlain text
  | some uri => .ofUri uri
  | none => if plain then resolvePlain text else .text

def collectionTag (tag? : Option String) (default : Tag) : Tag :=
  match tag? with
  | none | some "!" => default
  | some uri => .ofUri uri

structure Remaining where
  tokens : Tokens
  nodes : Nodes
  anchors : List (String × NodeId)

abbrev Reading := StateT Remaining (Except Fault)

namespace Reading

def peek? : Reading (Option Token) := do
  let r ← get
  match r.tokens.ready, r.tokens.fault? with
  | [], some f => throw f
  | ts, _ => return ts.head?

def continueWith (rest : List Token → List Token) : Reading Unit :=
  modify fun r => { r with tokens := { r.tokens with ready := rest r.tokens.ready } }

def drop : Reading Unit := continueWith List.tail

def take (t : Token) : Reading Bool := do
  if (← peek?) == some t then
    drop
    return true
  else return false

def add (n : Node) : Reading NodeId :=
  modifyGet fun r => (r.nodes.size, { r with nodes := r.nodes.push n })

def absent : Reading NodeId := add .absent

def complete (id : NodeId) (n : Node) : Reading Unit :=
  modify fun r => { r with nodes := r.nodes.setIfInBounds id n }

def properties : Reading Properties := do
  match ← peek? with
  | some (.anchor a) =>
    drop
    match ← peek? with
    | some (.tag t) =>
      drop
      return ⟨some a, some t⟩
    | _ => return ⟨some a, none⟩
  | some (.tag t) =>
    drop
    match ← peek? with
    | some (.anchor a) =>
      drop
      return ⟨some a, some t⟩
    | _ => return ⟨none, some t⟩
  | _ => return ⟨none, none⟩

def named (name : String) : Reading NodeId := do
  match (← get).anchors.lookup name with
  | some id => return id
  | none => throw (.undefinedAlias name)

def give (id : NodeId) (name : String) : Reading Unit := do
  if ((← get).anchors.lookup name).isSome then throw (.repeatedAnchor name)
  modify fun r => { r with anchors := (name, id) :: r.anchors }

inductive Context
  | flow
  | block
  /-- A block sequence needs no indentation of its own. -/
  | blockValue
  deriving DecidableEq

/-- What is in brackets as an item; a key with a value is a mapping of one entry. -/
def itemOf : Sum NodeId (NodeId × NodeId) → Reading NodeId
  | .inl n => return n
  | .inr e => add ⟨.map, .entries [e]⟩

/-- What is in braces as an entry; a key alone has an absent value. -/
def entryOf : Sum NodeId (NodeId × NodeId) → Reading (NodeId × NodeId)
  | .inl n => return (n, ← absent)
  | .inr e => return e

mutual

/-- A node; `fuel` bounds the depth of what is read. -/
def node (handles : Handles) (context : Context) : Nat → Reading NodeId
  | 0 => throw .stuck
  | fuel + 1 => do
    if let some (.alias a) ← peek? then
      drop
      return ← named a
    let given ← properties
    let tag? ← given.tag?.mapM fun t => (t.resolve handles : Reading String)
    let _ ← peek?
    let id ← absent
    given.anchor?.forM (give id)
    complete id (← content handles context tag? given.anchor?.isSome fuel)
    return id

def content (handles : Handles) (context : Context) (tag? : Option String) (isNamed : Bool) :
    Nat → Reading Node
  | 0 => throw .stuck
  | fuel + 1 => do
    let sequence := fun items => (⟨collectionTag tag? .seq, .items items⟩ : Node)
    let mapping := fun es => (⟨collectionTag tag? .map, .entries es⟩ : Node)
    match ← peek? with
    | some (.scalar text plain) =>
      drop
      return ⟨scalarTag tag? text plain, .text text⟩
    | some .flowSequenceStart =>
      drop
      return sequence (← (← flowEntries handles .flowSequenceEnd true fuel).mapM itemOf)
    | some .flowMappingStart =>
      drop
      return mapping (← (← flowEntries handles .flowMappingEnd true fuel).mapM entryOf)
    | t =>
      if context == .blockValue && t == some .blockEntry then
        return sequence (← looseItems handles fuel)
      else if context != .flow && t == some .blockSequenceStart then
        drop
        return sequence (← blockItems handles fuel)
      else if context != .flow && t == some .blockMappingStart then
        drop
        return mapping (← blockEntries handles fuel)
      else if isNamed || tag?.isSome then return ⟨scalarTag tag? "" true, .text ""⟩
      else throw .expectedNode

def nodeUnless (handles : Handles) (stops : List Token) (context : Context) :
    Nat → Reading NodeId
  | 0 => throw .stuck
  | fuel + 1 => do
    if (← peek?).any stops.contains then absent else node handles context fuel

def valueUnless (handles : Handles) (stops : List Token) (context : Context) :
    Nat → Reading NodeId
  | 0 => throw .stuck
  | fuel + 1 => do
    if ← take .value then nodeUnless handles stops context fuel else absent

def blockItems (handles : Handles) : Nat → Reading (List NodeId)
  | 0 => throw .stuck
  | fuel + 1 => do
    if ← take .blockEntry then
      let n ← nodeUnless handles [.blockEntry, .blockEnd] .block fuel
      return n :: (← blockItems handles fuel)
    else if ← take .blockEnd then return []
    else throw .expectedEntry

/-- The items of a sequence that has the indentation of the mapping around it. -/
def looseItems (handles : Handles) : Nat → Reading (List NodeId)
  | 0 => throw .stuck
  | fuel + 1 => do
    if ← take .blockEntry then
      let n ← nodeUnless handles [.blockEntry, .key, .value, .blockEnd] .block fuel
      return n :: (← looseItems handles fuel)
    else return []

def blockEntries (handles : Handles) : Nat → Reading (List (NodeId × NodeId))
  | 0 => throw .stuck
  | fuel + 1 => do
    let stops := [Token.key, .value, .blockEnd]
    if ← take .key then
      let k ← nodeUnless handles stops .blockValue fuel
      let v ← valueUnless handles stops .blockValue fuel
      return (k, v) :: (← blockEntries handles fuel)
    else if ← take .blockEnd then return []
    else throw .expectedKey

def flowEntry (handles : Handles) (close : Token) :
    Nat → Reading (Sum NodeId (NodeId × NodeId))
  | 0 => throw .stuck
  | fuel + 1 => do
    if ← take .key then
      let k ← nodeUnless handles [.value, .flowEntry, close] .flow fuel
      let v ← valueUnless handles [.flowEntry, close] .flow fuel
      return .inr (k, v)
    else return .inl (← node handles .flow fuel)

def flowEntries (handles : Handles) (close : Token) (first : Bool) :
    Nat → Reading (List (Sum NodeId (NodeId × NodeId)))
  | 0 => throw .stuck
  | fuel + 1 => do
    if ← take close then return []
    if !first then
      if !(← take .flowEntry) then throw .expectedSeparator
      if ← take close then return []
    let e ← flowEntry handles close fuel
    return e :: (← flowEntries handles close false fuel)

end

/-- The directives in front of a document: at most one version, of which the first number is 1, and
no handle twice. -/
def directives (versioned : Bool) (handles : Handles) :
    List Token → Except Fault (Handles × List Token)
  | .directive (.version major _) :: ts =>
    if versioned || major != 1 then .error .badDirective else directives true handles ts
  | .directive (.tag handle lead) :: ts =>
    if (handles.lookup handle).isSome then .error .badDirective
    else directives versioned ((handle, lead) :: handles) ts
  | .directive .other :: ts => directives versioned handles ts
  | ts => .ok (handles ++ defaultHandles, ts)

def marked (handles : Handles) (fuel : Nat) : Reading NodeId := do
  match ← peek? with
  | none | some (.directive _) | some .documentStart | some .documentEnd => absent
  | _ => node handles .block fuel

/-- Nothing but marks of its end follows a document; further directives are looked at to tell. -/
def alone : Reading Unit := do
  continueWith (·.dropWhile (· == .documentEnd))
  if (← peek?).isSome then
    let (_, rest) ← directives false [] (← get).tokens.ready
    continueWith fun _ => rest
    let _ ← peek?
    throw .severalDocuments

def document? (fuel : Nat) : Reading (Option NodeId) := do
  match ← peek? with
  | none => return none
  | some (.directive _) | some .documentStart =>
    let (handles, rest) ← directives false [] (← get).tokens.ready
    continueWith fun _ => rest
    if !(← take .documentStart) then throw .expectedDocument
    let n ← marked handles fuel
    alone
    return some n
  | _ =>
    let n ← node defaultHandles .block fuel
    alone
    return some n

end Reading

def document? (tokens : Tokens) : Except Fault (Option Document) := do
  let (n?, r) ← (Reading.document? (4 * tokens.ready.length + 4)).run ⟨tokens, #[], []⟩
  return n?.map fun n => ⟨r.nodes, n⟩

end CucumberExpressions.Yaml
