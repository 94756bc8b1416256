import CucumberExpressions.Yaml.Node

/-! Merge keys: the entries of the mappings under them come in front of the entries beside them. A
mapping that has several mentions is merged once, in its place, so it may be merged into itself. -/

namespace CucumberExpressions.Yaml

abbrev NodeEntries := List (NodeId × NodeId)

namespace Nodes

def tagOf (ns : Nodes) (n : NodeId) : Tag := (ns.node n).tag

def entries? (ns : Nodes) (n : NodeId) : Option NodeEntries :=
  match (ns.node n).content with
  | .entries es => some es
  | _ => none

def setEntries (ns : Nodes) (n : NodeId) (es : NodeEntries) : Nodes :=
  ns.setIfInBounds n { ns.node n with content := .entries es }

/-- A lone `=` as a key is a text from now on. -/
def keyAsText (ns : Nodes) (n : NodeId) : Nodes :=
  if ns.tagOf n = .value then ns.setIfInBounds n { ns.node n with tag := .text } else ns

def entryCount (ns : Nodes) : Nat :=
  ns.foldl (fun count n => match n.content with
    | .entries es => count + es.length
    | _ => count) 0

end Nodes

def takeMerge? (ns : Nodes) : NodeEntries → Option (NodeId × NodeEntries)
  | [] => none
  | (k, v) :: es =>
    if ns.tagOf k = .merge then some (v, es)
    else (takeMerge? ns es).map fun (value, rest) => (value, (k, v) :: rest)

abbrev Merging := StateT Nodes (Except Fault)

namespace Merging

mutual

/-- Expands the merge keys of a mapping and tells its entries. `fuel` bounds the number of merge
keys that are taken out. -/
def expand : Nat → NodeId → Merging NodeEntries
  | 0, _ => throw .stuck
  | fuel + 1, n => do
    if ((← get).entries? n).isNone then throw .badMerge
    let front ← mergedInto fuel n
    let ns ← get
    let es := front ++ (ns.entries? n).getD []
    set ((es.foldl (fun ns (k, _) => ns.keyAsText k) ns).setEntries n es)
    return es

def mergedInto : Nat → NodeId → Merging NodeEntries
  | 0, _ => throw .stuck
  | fuel + 1, n => do
    let ns ← get
    match takeMerge? ns ((ns.entries? n).getD []) with
    | none => return []
    | some (value, es) =>
      set (ns.setEntries n es)
      let front ← mergedFrom fuel value
      return front ++ (← mergedInto fuel n)

/-- The entries of a node under a merge key; of several mappings the last one comes first. -/
def mergedFrom : Nat → NodeId → Merging NodeEntries
  | 0, _ => throw .stuck
  | fuel + 1, value => do
    match ((← get).node value).content with
    | .items ns => return (← ns.mapM (expand fuel)).reverse.flatten
    | _ => expand fuel value

end

end Merging

def mergeFuel (ns : Nodes) : Nat := 3 * ns.entryCount + 3

end CucumberExpressions.Yaml
