import CucumberExpressions.Fixture.Basic
import CucumberExpressions.Yaml.Data

/-! Data that may contain itself, unfolded as far as a fixture looks into it. -/

namespace CucumberExpressions

namespace Fixture

inductive Look
  | fixture
  | tokens
  | token
  | nodes (e : Expected)
  | node (e : Expected)
  | nothing

namespace Look

def item : Look → Look
  | tokens => token
  | nodes e => node e
  | _ => nothing

def kind? (tag? : Option String) : Look → Option NodeKind
  | node (.plain k) => some k
  | node (.tagged kinds) => tag?.bind fun name => kinds.find? (·.name = name)
  | _ => none

def field (key : Scalar) (k? : Option NodeKind) (look : Look) : Look :=
  match look, k?, key with
  | fixture, _, .text "expected_tokens" => tokens
  | fixture, _, .text "expected_ast" => node .anyNode
  | node _, some .text, .text "token" => token
  | node _, some (.branch b), .text "nodes" => nodes (.childOf b)
  | _, _, _ => nothing

end Look

def tagOf? (d : Yaml.Data) (es : Entries Nat) : Option String :=
  match (es.field? "type").map d.cell with
  | some (.scalar (.text name)) => some name
  | _ => none

/-- The data at `n`, in which only what is looked for keeps its parts. `groups` are the optional
groups around it: one of them inside itself is a loop. `fuel` bounds the depth. -/
def unfold (d : Yaml.Data) : Nat → List Nat → Look → Nat → Value
  | 0, _, _, _ => .null
  | fuel + 1, groups, look, n =>
    match d.cell n, look with
    | .scalar s, _ => .scalar s
    | .seq items, look => .seq (
      match look with
      | .tokens | .nodes _ => items.map (unfold d fuel groups look.item)
      | _ => [])
    | .map _, .nothing => .map []
    | .map es, look =>
      let k? := look.kind? (tagOf? d es)
      let isGroup := k? == some (.branch .optional)
      if isGroup && groups.contains n then .loop
      else
        let groups := if isGroup then n :: groups else groups
        .map (es.map fun (key, v) => (key, unfold d fuel groups (look.field key k?) v))

/-- The data of a fixture. On each way an optional group is gone into once, and nodes of other kinds
are nested only a few deep, so twice the number of cells and a few more are deeper than any look. -/
def dataOf (d : Yaml.Data) : Value := unfold d (2 * d.cells.size + 16) [] .fixture d.root

end Fixture

end CucumberExpressions
