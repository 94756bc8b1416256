import CucumberExpressions.Number.Numeral
import CucumberExpressions.Value.Moment

/-! What can be wrong with a YAML text. -/

namespace CucumberExpressions.Yaml

/-- What keeps a text from being read as data though no rule of YAML is broken. -/
inductive Misfit
  | codePoint (n : Nat)
  /-- An escape for half of a surrogate pair, which is no character. -/
  | halfPair (n : Nat)
  | number (e : NumberError)
  | moment (e : MomentError)
  | notBool (word : String)
  | notMoment (text : String)
  | mappedMoment
  | ownText
  deriving DecidableEq, Repr

/-- Why a text has no data: it is no YAML document, or something in it is a misfit. -/
inductive Fault
  | unprintable (c : Char)
  | keyUnfinished
  | entryMisplaced
  | keyMisplaced
  | valueMisplaced
  | strayBracket
  | strayCharacter (c : Char)
  | badDirective
  | badAnchor
  | badTag
  | badEscape
  | badBlockHeader
  | textUnclosed
  | markerInText
  | expectedNode
  | expectedKey
  | expectedEntry
  | expectedSeparator
  | expectedDocument
  | severalDocuments
  | undefinedAlias (name : String)
  | repeatedAnchor (name : String)
  | unknownHandle (handle : String)
  | unknownTag (tag : String)
  | wrongContent (tag : String)
  | unhashableKey
  | badMerge
  /-- A step that read nothing; no text leads here. -/
  | stuck
  /-- The text goes on, and what follows has not been read. -/
  | unread
  | misfit (m : Misfit)
  deriving DecidableEq, Repr

end CucumberExpressions.Yaml
