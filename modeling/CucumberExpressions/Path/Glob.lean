import CucumberExpressions.FileTree
import CucumberExpressions.Path.NamePattern
import CucumberExpressions.Text.Quoted

/-! Globs: relative patterns for paths, part by part, and the paths of a file tree that they match.
-/

namespace CucumberExpressions

inductive GlobError
  | empty
  | absolute
  | partless
  | onlySlash
  | mixedStars
  deriving DecidableEq, Repr

def GlobError.message : GlobError → String
  | empty => "Unacceptable pattern: " ++ quoted ""
  | absolute => "Non-relative patterns are unsupported"
  | partless => "tuple index out of range"
  | onlySlash => "a pattern needs a part in front of its slash"
  | mixedStars => "Invalid pattern: '**' can only be an entire path component"

inductive Segment
  | anyDepth
  | matching (name : List Glyph)
  | exactly (name : String)
  deriving DecidableEq, Repr

/-- A slash at the end of a pattern asks for directories. -/
structure Glob where
  segments : List Segment
  directoriesOnly : Bool
  deriving DecidableEq, Repr

def hasDoubleStar : List Char → Bool
  | '*' :: '*' :: _ => true
  | _ :: cs => hasDoubleStar cs
  | [] => false

def Segment.ofPart (part : String) : Except GlobError Segment :=
  if part = "**" then .ok .anyDepth
  else if hasDoubleStar part.toList then .error .mixedStars
  else if part.toList.any ['*', '?', '['].contains then .ok (.matching (glyphs part.toList))
  else .ok (.exactly part)

namespace Glob

def ofString (pattern : String) : Except GlobError Glob := do
  if pattern = "" then throw .empty
  if Path.rootOf pattern ≠ .relative then throw .absolute
  let parts := Path.partsOf pattern
  let directoriesOnly := pattern.toList.getLast? = some '/'
  if parts = [] then throw (if directoriesOnly then .onlySlash else .partless)
  return ⟨← parts.mapM Segment.ofPart, directoriesOnly⟩

/-- The paths at or under `start` that the segments lead to; every one but the last has to be a
directory. -/
def pathsFrom (t : FileTree) (directoriesOnly : Bool) :
    List Segment → Path → Except AccessError (List Path)
  | [], start => .ok [start]
  | segment :: later, start => do
    let fits := fun here => here.isDirectory || (!directoriesOnly && later.isEmpty)
    match segment with
    | .exactly name =>
      if ← t.holds fits (start.join name) then pathsFrom t directoriesOnly later (start.join name)
      else return []
    | .matching name =>
      let named := (t.names start).filter fun n => matchesAll name n.toList
      let found ← (named.map start.join).filterM (t.holds fits)
      return (← found.mapM (pathsFrom t directoriesOnly later)).flatten
    | .anyDepth =>
      return (← (t.directories start).mapM (pathsFrom t directoriesOnly later)).flatten.eraseDups

def paths (g : Glob) (t : FileTree) (directory : Path) : Except AccessError (List Path) := do
  if ← t.holds (·.isDirectory) directory then pathsFrom t g.directoriesOnly g.segments directory
  else return []

end Glob

end CucumberExpressions
