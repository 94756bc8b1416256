import CucumberExpressions.FileTree
import CucumberExpressions.Fixture.Basic
import CucumberExpressions.Notice
import CucumberExpressions.Noted
import CucumberExpressions.Path.Glob
import CucumberExpressions.Text.Reader

/-! Loading fixtures from a file tree: one file, or all files of a directory that match a pattern,
in the order of their paths. What a file says is left to a reader of YAML, whichever that is. -/

namespace CucumberExpressions

/-- Why a reader of YAML has no data for a text: a rule of YAML is broken, or something else went
wrong. -/
inductive YamlError (ε : Type)
  | malformed
  | other (e : ε)

abbrev YamlReader (ε : Type) := TextReader (Except (YamlError ε) Value)

inductive FixtureFault
  | unreadable (e : AccessError)
  | malformed
  | notMapping
  | invalid (problems : List Problem)

/-- Why a file could not be loaded. All but the first are no faults of a fixture: there are bytes in
the file that are no text, the reader of YAML failed otherwise than by a rule of YAML, or the path
has a character that no path can have. -/
inductive LoadError (ε : Type)
  | fixture (path : Path) (fault : FixtureFault)
  | notText
  | reader (e : ε)
  | badPath

namespace FixtureFault

def message (path : Path) (fault : FixtureFault) : String :=
  path.toString ++ ": " ++
    match fault with
    | unreadable e =>
      s!"cannot read fixture: [Errno {e.code}] {e.reason}: " ++ quoted path.toString
    | malformed => "invalid YAML"
    | notMapping => "fixture must be a mapping"
    | invalid _ => "invalid fixture"

end FixtureFault

namespace Fixture

section Load

variable {ε : Type}

/-- The fixture that a file's data holds; a path in the data gives way to that of the file. -/
def ofData (path : Path) : Value → Except (LoadError ε) Fixture
  | .map es =>
    match check (.map (Entries.put (.text "path") (.text path.toString) es)) with
    | .ok f => .ok f
    | .error ps => .error (.fixture path (.invalid ps))
  | _ => .error (.fixture path .notMapping)

def ofContent (reader : YamlReader ε) (path : Path) (content : ByteArray) :
    Except (LoadError ε) Fixture :=
  match reader.read? content with
  | none => .error .notText
  | some (.ok v) => ofData path v
  | some (.error .malformed) => .error (.fixture path .malformed)
  | some (.error (.other e)) => .error (.reader e)

def load (reader : YamlReader ε) (files : FileTree) (path : Path) : Except (LoadError ε) Fixture :=
  if path.hasNul then .error .badPath
  else match files.read path with
    | .error e => .error (.fixture path (.unreadable e))
    | .ok content => ofContent reader path content

def loadEach (reader : YamlReader ε) (files : FileTree) (paths : List Path) :
    Except (LoadError ε) (List Fixture) :=
  (paths.mergeSort Path.le).mapM (load reader files)

end Load

end Fixture

/-- Notices of loading a directory, written once all of it is loaded. -/
inductive LoadNotice
  | loaded (count : Nat) (directory : Path)
  | noMatches (pattern : String) (directory : Path)
  deriving DecidableEq, Repr

namespace LoadNotice

def level : LoadNotice → Level
  | loaded .. => .debug
  | noMatches .. => .warning

def message : LoadNotice → String
  | loaded count directory => s!"loaded {count} fixtures from {directory}"
  | noMatches pattern directory => s!"no fixtures matching {quoted pattern} in {directory}"

def line (n : LoadNotice) : String := n.level.name ++ ": " ++ n.message

end LoadNotice

namespace Fixture

def defaultPattern : String := "*.yaml"

inductive DirectoryError (ε : Type)
  | pattern (e : GlobError)
  | search (e : AccessError)
  | file (e : LoadError ε)

variable {ε : Type}

def loadFound (reader : YamlReader ε) (files : FileTree) (directory : Path) (pattern : String)
    (found : List Path) : Except (LoadError ε) (Noted LoadNotice (List Fixture)) :=
  (loadEach reader files found).map fun fixtures =>
    if fixtures = [] then .note (.noMatches pattern directory) []
    else .note (.loaded fixtures.length directory) fixtures

def loadDirectory (reader : YamlReader ε) (files : FileTree) (directory : Path) (pattern : String) :
    Except (DirectoryError ε) (Noted LoadNotice (List Fixture)) :=
  match Glob.ofString pattern with
  | .error e => .error (.pattern e)
  | .ok glob =>
    match glob.paths files directory with
    | .error e => .error (.search e)
    | .ok found =>
      match loadFound reader files directory pattern found with
      | .ok loaded => .ok loaded
      | .error e => .error (.file e)

end Fixture

end CucumberExpressions
