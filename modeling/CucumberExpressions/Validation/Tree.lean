import CucumberExpressions.Validation.Problem

/-! Reading tokens and trees from data, with every problem found on the way; and writing trees as
data. -/

namespace CucumberExpressions

def Kind.check (v : Value) : Checked Kind :=
  match v.checkText.toOption.bind Kind.ofName? with
  | some k => .ok k
  | none => .fail .notKind

def Token.check : Value → Checked Token
  | .map es =>
    .both Token.mk (Entries.require "text" Value.checkText es) (Entries.require "type" Kind.check es)
  | _ => .fail .notRecord

def Token.checkLeaf (v : Value) : Checked Token :=
  match Token.check v with
  | .ok t => if t.kind.isEscaped then .fail (.escapedLeaf t.kind) else .ok t
  | .error ps => .error ps

/-- What a position takes: one of several kinds, which the tag has to tell, or a single kind, whose
tag may be absent. -/
inductive Expected
  | tagged (kinds : List NodeKind)
  | plain (kind : NodeKind)
  deriving DecidableEq, Repr

namespace Expected

def anyNode : Expected := tagged NodeKind.all

def childOf : BranchKind → Expected
  | .parameter => plain .text
  | .alternation => plain (.branch .alternative)
  | k => tagged k.childKinds

def choose (kinds : List NodeKind) (es : Entries) : Except Violation NodeKind :=
  match es.field? "type" with
  | none => .error .tagAbsent
  | some (.scalar (.text name)) =>
    match kinds.find? (·.name = name) with
    | some k => .ok k
    | none => .error .tagNotAllowed
  | some _ => .error .tagNotAllowed

/-- The tag of a node may be absent; if it is there, it is the one of its kind. -/
def checkTag (k : NodeKind) (es : Entries) : Checked Unit :=
  match es.field? "type" with
  | none => .ok ()
  | some (.scalar (.text name)) =>
    if name = k.name then .ok () else .error [⟨[.key "type"], .otherTag⟩]
  | some _ => .error [⟨[.key "type"], .otherTag⟩]

/-- The children of a branch from what was found at each place. The valid ones are counted: too many
of them hide what is wrong with the others, too few are told last. -/
def gather (k : BranchKind) (found : List (Checked Node)) : Checked (List Node) :=
  let valid := found.filterMap Except.toOption
  if k.maxChildren?.any (· < valid.length) then .fail .tooMany
  else
    let wrong := (found.mapIdx fun i r => (r.under (.index i)).problems).flatten
    let short := if valid.length < k.minChildren then [⟨[], .tooFew⟩] else []
    if wrong ++ short = [] then .ok valid else .error (wrong ++ short)

def build (k : NodeKind) (es : Entries) (children : BranchKind → Checked (List Node)) :
    Checked Node :=
  match k with
  | .text =>
    .both (fun _ => .leaf) (checkTag .text es) (Entries.require "token" Token.checkLeaf es)
  | .branch b => .both (fun _ => .branch b) (checkTag (.branch b) es) (children b)

mutual

/-- Reads a node. Only optional groups can be inside one another, so data that contains itself is
one. -/
def check : Value → Expected → Checked Node
  | .map es, plain k => build k es (checkChildren es)
  | .map es, tagged kinds =>
    match choose kinds es with
    | .error v => .fail v
    | .ok k => (build k es (checkChildren es)).under (.tag k)
  | .loop, tagged _ => (Checked.fail .recursion).under (.tag (.branch .optional))
  | _, plain _ => .fail .notRecord
  | _, tagged _ => .fail .notTagged

def checkChildren : Entries → BranchKind → Checked (List Node)
  | [], k => if k.minChildren = 0 then .ok [] else .error [⟨[.key "nodes"], .missing⟩]
  | (key, v) :: es, k =>
    if key = .text "nodes" then
      match v with
      | .seq items => (gather k (checkAll items (childOf k))).under (.key "nodes")
      | _ => .error [⟨[.key "nodes"], .notSequence⟩]
    else checkChildren es k

def checkAll : List Value → Expected → List (Checked Node)
  | [], _ => []
  | v :: vs, e => check v e :: checkAll vs e

end

end Expected

def Node.check (v : Value) : Checked Node := Expected.anyNode.check v

def Node.checkAs (k : NodeKind) (v : Value) : Checked Node := (Expected.plain k).check v

def Token.checkAll : Value → Checked (List Token)
  | .seq items =>
    let found := items.map Token.check
    match (found.mapIdx fun i r => (r.under (.index i)).problems).flatten with
    | [] => .ok (found.filterMap Except.toOption)
    | wrong => .error wrong
  | _ => .fail .notSequence

def Token.toValue (t : Token) : Value :=
  .record [("text", .text t.text), ("type", .text t.kind.name)]

def Node.toValue (n : Node) : Value :=
  n.fold (fun t => .record [("type", .text NodeKind.text.name), ("token", t.toValue)])
    fun k children => .record [("type", .text (NodeKind.branch k).name), ("nodes", .seq children)]

end CucumberExpressions
