import CucumberExpressions.Path.Basic

/-! Trees of files: what stands at a path, as seen from the top directory. -/

namespace CucumberExpressions

inductive FileTree
  | file (content : ByteArray)
  | directory (entries : List (String × FileTree))

inductive AccessError
  | notFound
  | isDirectory
  | notDirectory
  | nameTooLong
  deriving DecidableEq, Repr

namespace AccessError

def code : AccessError → Nat
  | notFound => 2
  | isDirectory => 21
  | notDirectory => 20
  | nameTooLong => 36

def reason : AccessError → String
  | notFound => "No such file or directory"
  | isDirectory => "Is a directory"
  | notDirectory => "Not a directory"
  | nameTooLong => "File name too long"

end AccessError

namespace FileTree

def empty : FileTree := directory []

def isDirectory : FileTree → Bool
  | directory _ => true
  | file _ => false

def lookup? (name : String) : List (String × FileTree) → Option FileTree
  | [] => none
  | (n, t) :: rest => if n = name then some t else lookup? name rest

def longestName : Nat := 255

def longestPath : Nat := 4095

/-- Walks the parts from `here`, whose parents are `above`; nothing is known of what lies above the
top. -/
def walk (above : List FileTree) (here : FileTree) : List String → Except AccessError FileTree
  | [] => .ok here
  | part :: parts =>
    match here with
    | file _ => .error .notDirectory
    | directory entries =>
      if part = ".." then
        match above with
        | [] => walk [] empty parts
        | parent :: further => walk further parent parts
      else if longestName < part.utf8ByteSize then .error .nameTooLong
      else
        match lookup? part entries with
        | none => .error .notFound
        | some t => walk (here :: above) t parts

def find (t : FileTree) (p : Path) : Except AccessError FileTree :=
  if p.hasNul then .error .notFound
  else if longestPath < p.toString.utf8ByteSize then .error .nameTooLong
  else if p.root = .relative then walk [] t p.parts else walk [] empty p.parts

def holds (t : FileTree) (fits : FileTree → Bool) (p : Path) : Except AccessError Bool :=
  match t.find p with
  | .ok here => .ok (fits here)
  | .error .nameTooLong => .error .nameTooLong
  | .error _ => .ok false

def read (t : FileTree) (p : Path) : Except AccessError ByteArray :=
  match t.find p with
  | .ok (file content) => .ok content
  | .ok (directory _) => .error .isDirectory
  | .error e => .error e

def names (t : FileTree) (p : Path) : List String :=
  match t.find p with
  | .ok (directory entries) => entries.map Prod.fst
  | _ => []

mutual

def directoriesAt (p : Path) : FileTree → List Path
  | file _ => []
  | directory entries => p :: directoriesIn p entries

def directoriesIn (p : Path) : List (String × FileTree) → List Path
  | [] => []
  | (name, t) :: rest => directoriesAt (p.join name) t ++ directoriesIn p rest

end

def directories (t : FileTree) (p : Path) : List Path :=
  match t.find p with
  | .ok here => directoriesAt p here
  | .error _ => []

mutual

/-- Puts `new` at the end of `parts`, with the directories on the way; a directory that is there
already keeps what it holds. -/
def put (t : FileTree) (parts : List String) (new : FileTree) : FileTree :=
  match parts with
  | [] =>
    match new, t with
    | directory [], directory _ => t
    | _, _ => new
  | part :: parts =>
    match t with
    | file _ => directory [(part, put empty parts new)]
    | directory entries => directory (putIn entries part parts new)
termination_by (parts.length, 1, 0)

def putIn (entries : List (String × FileTree)) (part : String) (parts : List String)
    (new : FileTree) : List (String × FileTree) :=
  match entries with
  | [] => [(part, put empty parts new)]
  | (name, t) :: rest =>
    if name = part then (name, put t parts new) :: rest
    else (name, t) :: putIn rest part parts new
termination_by (parts.length + 1, 0, entries.length)

end

end FileTree

end CucumberExpressions
