import CucumberExpressions.Text.Shape

/-! What a plain scalar stands for, told from its text. -/

namespace CucumberExpressions.Yaml

inductive Tag
  | null | bool | int | float | timestamp | text | binary
  | seq | map | set | omap | pairs
  | merge | value
  | other (uri : String)
  deriving DecidableEq, Repr

def Tag.lead : String := "tag:yaml.org,2002:"

def Tag.ofUri (uri : String) : Tag :=
  if uri = lead ++ "null" then null
  else if uri = lead ++ "bool" then bool
  else if uri = lead ++ "int" then int
  else if uri = lead ++ "float" then float
  else if uri = lead ++ "timestamp" then timestamp
  else if uri = lead ++ "str" then text
  else if uri = lead ++ "binary" then binary
  else if uri = lead ++ "seq" then seq
  else if uri = lead ++ "map" then map
  else if uri = lead ++ "set" then set
  else if uri = lead ++ "omap" then omap
  else if uri = lead ++ "pairs" then pairs
  else if uri = lead ++ "merge" then merge
  else if uri = lead ++ "value" then value
  else other uri

open Shape

def digit : Char → Bool := fun c => '0' ≤ c && c ≤ '9'

def digitOrLine (c : Char) : Bool := digit c || c == '_'

def sign : Shape := maybe (one fun c => c == '-' || c == '+')

def sixtieth : Shape := all [char ':', maybe (one fun c => '0' ≤ c && c ≤ '5'), one digit]

def boolWords : List String :=
  ["yes", "Yes", "YES", "no", "No", "NO", "true", "True", "TRUE", "false", "False", "FALSE",
    "on", "On", "ON", "off", "Off", "OFF"]

def nullWords : List String := ["~", "null", "Null", "NULL", ""]

def isInt (cs : List Char) : Bool :=
  let decimal := andThen (one fun c => '1' ≤ c && c ≤ '9') (run digitOrLine)
  matchesWhole (andThen sign (anyOf [
    all [word "0b", some1 fun c => c == '0' || c == '1' || c == '_'],
    all [char '0', some1 fun c => ('0' ≤ c && c ≤ '7') || c == '_'],
    char '0',
    decimal,
    all [word "0x", some1 fun c =>
      digitOrLine c || ('a' ≤ c && c ≤ 'f') || ('A' ≤ c && c ≤ 'F')],
    andThen decimal (repeated sixtieth cs.length)])) cs

def isFloat (cs : List Char) : Bool :=
  let whole := andThen (one digit) (run digitOrLine)
  let exponent := maybe (all [one fun c => c == 'e' || c == 'E', one fun c => c == '-' || c == '+',
    some1 digit])
  matchesWhole (anyOf [
    all [sign, whole, char '.', run digitOrLine, exponent],
    all [char '.', whole, exponent],
    all [sign, whole, repeated sixtieth cs.length, char '.', run digitOrLine],
    all [sign, anyOf [word ".inf", word ".Inf", word ".INF"]],
    anyOf [word ".nan", word ".NaN", word ".NAN"]]) cs

def daySpelled (number : Shape) : Shape :=
  let two := all [one digit, one digit]
  all [two, two, char '-', number, char '-', number]

def timeSpelled : Shape :=
  let two := all [one digit, one digit]
  let oneOrTwo := andThen (one digit) (maybe (one digit))
  let isBlank := fun c => c == ' ' || c == '\t'
  let zone := andThen (run isBlank) (orElse (char 'Z')
    (all [one fun c => c == '-' || c == '+', oneOrTwo, maybe (andThen (char ':') two)]))
  let separator := orElse (one fun c => c == 'T' || c == 't') (some1 isBlank)
  all [daySpelled oneOrTwo, separator, oneOrTwo, char ':', two, char ':', two,
    maybe (andThen (char '.') (run digit)), maybe zone]

/-- A day without a time is only recognised with all its digits. -/
def isTimestamp (cs : List Char) : Bool :=
  matchesWhole (orElse (daySpelled (all [one digit, one digit])) timeSpelled) cs

def isMoment (cs : List Char) : Bool :=
  matchesWhole (orElse (daySpelled (andThen (one digit) (maybe (one digit)))) timeSpelled) cs

def resolveLine (s : String) : Tag :=
  let cs := s.toList
  if boolWords.contains s then .bool
  else if isFloat cs then .float
  else if isInt cs then .int
  else if s = "<<" then .merge
  else if nullWords.contains s then .null
  else if isTimestamp cs then .timestamp
  else if s = "=" then .value
  else if ["!", "&", "*"].contains s then .other (Tag.lead ++ "yaml")
  else .text

def dropNewline (s : String) : String :=
  match s.toList.reverse with
  | '\n' :: front => String.ofList front.reverse
  | _ => s

/-- The tag of a scalar that is resolved by its text; a newline at the end is overlooked, unless it
is all there is. -/
def resolvePlain (s : String) : Tag := if s = "\n" then .text else resolveLine (dropNewline s)

end CucumberExpressions.Yaml
