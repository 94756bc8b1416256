import CucumberExpressions.Node.Basic
import CucumberExpressions.Text.Quoted

/-! The outline of a tree: one line per node, parents before children, indented by depth. -/

namespace CucumberExpressions.Node

def leafLineWith (printable : Char → Bool) (t : Token) : String :=
  NodeKind.text.name ++ " " ++ quoteWith printable t.text ++ " " ++ t.kind.name

def outlineLinesWith (printable : Char → Bool) (indent : String) (n : Node) : List String :=
  n.fold (fun t => [leafLineWith printable t]) fun k children =>
    (NodeKind.branch k).name :: children.flatMap (·.map (indent ++ ·))

def outlineWith (printable : Char → Bool) (indent : String) (n : Node) : String :=
  "\n".intercalate (n.outlineLinesWith printable indent)

def outline (indent : String) (n : Node) : String := n.outlineWith isPrintable indent

end CucumberExpressions.Node
