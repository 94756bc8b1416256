/-! Shapes of texts: a small algebra of regular expressions, each one given by what it can leave
over. -/

namespace CucumberExpressions

/-- All that can be left after a text of the shape is taken away from the front. -/
abbrev Shape := List Char → List (List Char)

namespace Shape

def matchesWhole (s : Shape) (cs : List Char) : Bool := (s cs).any List.isEmpty

def nothing : Shape := fun cs => [cs]

def one (fits : Char → Bool) : Shape
  | c :: cs => if fits c then [cs] else []
  | [] => []

def char (c : Char) : Shape := one (· == c)

def andThen (s t : Shape) : Shape := fun cs => (s cs).flatMap t

def orElse (s t : Shape) : Shape := fun cs => s cs ++ t cs

def maybe (s : Shape) : Shape := orElse s nothing

def run (fits : Char → Bool) : Shape
  | [] => [[]]
  | c :: cs => (if fits c then run fits cs else []) ++ [c :: cs]

def some1 (fits : Char → Bool) : Shape := andThen (one fits) (run fits)

def all : List Shape → Shape
  | [] => nothing
  | s :: rest => andThen s (all rest)

def anyOf : List Shape → Shape
  | [] => fun _ => []
  | s :: rest => orElse s (anyOf rest)

def word (w : String) : Shape := all (w.toList.map char)

/-- One or more groups, as many as `fuel` at most. -/
def repeated (s : Shape) : Nat → Shape
  | 0 => fun _ => []
  | fuel + 1 => andThen s (maybe (repeated s fuel))

end Shape

end CucumberExpressions
