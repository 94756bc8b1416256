import CucumberExpressions.Text.Base64
import CucumberExpressions.Text.Lower
import CucumberExpressions.Value.Basic
import CucumberExpressions.Yaml.Merge
import CucumberExpressions.Yaml.Moment
import CucumberExpressions.Yaml.Number
import CucumberExpressions.Yaml.Text

/-! The data of a YAML document: every node by its tag, merge keys expanded, and the last of several
equal keys. A collection is filled after the one it is met in, in the order of the rounds in which
they are met; that order tells which of several faults is found. -/

namespace CucumberExpressions.Yaml

/-- A piece of data; collections refer to their parts by number, so data may contain itself. -/
inductive Cell
  | scalar (s : Scalar)
  | seq (items : List Nat)
  | map (entries : Entries Nat)

structure Data where
  cells : Array Cell
  root : Nat

def Data.cell (d : Data) (n : Nat) : Cell := d.cells[n]?.getD (.scalar .null)

def Tag.written : Tag → String
  | null => "null"
  | bool => "bool"
  | int => "int"
  | float => "float"
  | timestamp => "timestamp"
  | text => "str"
  | binary => "binary"
  | seq => "seq"
  | map => "map"
  | set => "set"
  | omap => "omap"
  | pairs => "pairs"
  | merge => "merge"
  | value => "value"
  | other uri => uri

def misfit {α : Type} (m : Misfit) : Except Fault α := .error (.misfit m)

/-- The text of a scalar, or of the node under the `=` of a mapping. More steps than there are nodes
lead back to where they have been. -/
def Nodes.textOf (ns : Nodes) : Nat → NodeId → Except Fault String
  | 0, _ => misfit .ownText
  | steps + 1, n =>
    let node := ns.node n
    match node.content with
    | .text s => .ok s
    | .items _ => .error (.wrongContent node.tag.written)
    | .entries es =>
      match es.find? fun (k, _) => ns.tagOf k = .value with
      | some (_, v) => ns.textOf steps v
      | none => .error (.wrongContent node.tag.written)

def trueWords : List String := ["yes", "true", "on"]

def falseWords : List String := ["no", "false", "off"]

def boolOf (word : String) : Except Fault Bool :=
  let inLower := String.ofList (lower word.toList)
  if trueWords.contains inLower then .ok true
  else if falseWords.contains inLower then .ok false
  else misfit (.notBool word)

/-- The scalar that a text of a tag stands for. All `.nan` are the same NaN, and every other NaN is
one of its own, told by `mark`. -/
def scalarOf (tag : Tag) (text : String) (mark : Nat) : Except Fault Scalar :=
  match tag with
  | .null => .ok .null
  | .bool => .bool <$> boolOf text
  | .int =>
    match readInteger text with
    | .ok n => .ok (.int n)
    | .error e => misfit (.number e)
  | .float =>
    match readFloat text with
    | .ok x => .ok (.double (if x.isNaN && !isNaNWord text then .nan mark else x))
    | .error e => misfit (.number e)
  | .timestamp =>
    match readMoment? text with
    | some m =>
      match m.error? with
      | some e => misfit (.moment e)
      | none => .ok (.moment m)
    | none => misfit (.notMoment text)
  | .text => .ok (.text text)
  | .binary =>
    match if text.toList.all (·.toNat < 128) then base64Decode? text else none with
    | some bytes => .ok (.bytes bytes)
    | none => .error (.wrongContent tag.written)
  | _ => .error (.unknownTag tag.written)

/-- Nodes and the data made of them so far: of the node `n` the cell `n`, if it was met. -/
structure Building where
  nodes : Nodes
  cells : Array (Option Cell)
  /-- The collections that were met and are not filled yet, the last one first. -/
  waiting : List NodeId

abbrev Build := StateT Building (Except Fault)

namespace Build

def setCell (n : Nat) (c : Cell) : Build Unit :=
  modify fun b => { b with cells := b.cells.setIfInBounds n (some c) }

def addCell (c : Cell) : Build Nat :=
  modifyGet fun b => (b.cells.size, { b with cells := b.cells.push (some c) })

def meet (n : NodeId) : Build Unit := do
  let b ← get
  if (b.cells[n]?.bind id).isSome then return
  let node := b.nodes.node n
  let later := fun (c : Cell) => do
    setCell n c
    modify fun b => { b with waiting := n :: b.waiting }
  match node.tag with
  | .seq | .omap | .pairs | .set => later (.seq [])
  | .map => later (.map [])
  | .merge | .value | .other _ => throw (.unknownTag node.tag.written)
  | tag =>
    let text ← b.nodes.textOf b.nodes.size n
    if tag = .timestamp ∧ (b.nodes.entries? n).isSome then throw (.misfit .mappedMoment)
    setCell n (.scalar (← scalarOf tag text (n + 1)))

def meetKey (n : NodeId) : Build Scalar := do
  meet n
  match (← get).cells[n]?.bind id with
  | some (.scalar s) => return s
  | _ => throw .unhashableKey

def meetEntries (fuel : Nat) (n : NodeId) : Build (Entries Nat) := do
  let b ← get
  if (b.nodes.entries? n).isNone then throw (.wrongContent (b.nodes.tagOf n).written)
  let (es, nodes) ← (Merging.expand fuel n).run b.nodes
  set { b with nodes }
  let made ← es.mapM fun (k, v) => do
    let key ← meetKey k
    meet v
    return (key, v)
  return Entries.ofList made

def meetItems (n : NodeId) : Build (List NodeId) := do
  match ((← get).nodes.node n).content with
  | .items ns => return ns
  | _ => throw (.wrongContent ((← get).nodes.tagOf n).written)

def meetPair (n : NodeId) : Build Nat := do
  match (← get).nodes.entries? n with
  | some [(k, v)] =>
    meet k
    meet v
    addCell (.seq [k, v])
  | _ => throw (.wrongContent Tag.pairs.written)

/-- Fills a collection; a set is the sequence of its keys. -/
def fill (fuel : Nat) (n : NodeId) : Build Unit := do
  match (← get).nodes.tagOf n with
  | .seq =>
    let items ← meetItems n
    items.forM meet
    setCell n (.seq items)
  | .omap | .pairs => setCell n (.seq (← (← meetItems n).mapM meetPair))
  | .set =>
    let es ← meetEntries fuel n
    setCell n (.seq (← es.mapM fun (k, _) => addCell (.scalar k)))
  | _ => setCell n (.map (← meetEntries fuel n))

/-- Fills what is waiting, then what was met on the way, round by round. -/
def fillAll (mergeFuel : Nat) : Nat → Build Unit
  | 0 => throw .stuck
  | fuel + 1 => do
    match (← get).waiting with
    | [] => return
    | round =>
      modify fun b => { b with waiting := [] }
      round.reverse.forM (fill mergeFuel)
      fillAll mergeFuel fuel

end Build

def Document.data (d : Document) : Except Fault Data := do
  let build : Build Unit := do
    Build.meet d.root
    Build.fillAll (mergeFuel d.nodes) (d.nodes.size + 1)
  let (_, b) ← build.run ⟨d.nodes, Array.replicate d.nodes.size none, []⟩
  return ⟨b.cells.map (·.getD (.scalar .null)), d.root⟩

def load (source : Source) : Except Fault Data := do
  match ← document? (tokensOf source.allowed) with
  | none => return ⟨#[.scalar .null], 0⟩
  | some d => d.data

end CucumberExpressions.Yaml
