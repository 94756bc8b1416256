import CucumberExpressions.Number.Nearest

/-! Reading text files. The bytes of a file are decoded in pieces while a reader asks for one part
of the text after another, so bytes that are no text are met only by a reader that asks for the part
they are in. -/

namespace CucumberExpressions

def unifyLineEnds : List Char → List Char
  | '\r' :: '\n' :: cs => '\n' :: unifyLineEnds cs
  | '\r' :: cs => '\n' :: unifyLineEnds cs
  | c :: cs => c :: unifyLineEnds cs
  | [] => []

/-- How many bytes of a file are decoded at once, at least. -/
def decodedBytes : Nat := 8192

/-- Whether bytes are the front of a character, more bytes of which would make it whole. -/
def isCharacterFront (front : ByteArray) : Bool :=
  (List.range 3).any fun more => [0x80, 0xbf].any fun byte =>
    (String.fromUTF8? (front ++ ⟨Array.replicate (more + 1) byte⟩)).any (·.length = 1)

/-- The characters of the front of a file up to `size`; one that is cut off there is left out. -/
def decodeFront? (content : ByteArray) (size : Nat) : Option String :=
  (List.range 4).findSome? fun cut =>
    if cut = 0 || isCharacterFront (content.extract (size - cut) size) then
      String.fromUTF8? (content.extract 0 (size - cut))
    else none

/-- The text of the front of a file. A carriage return at its end is left out, which may have a
newline after it. -/
def frontText? (content : ByteArray) (size : Nat) : Option (List Char) :=
  (decodeFront? content size).map fun s =>
    let chars := s.toList
    unifyLineEnds (if chars.getLast? = some '\r' then chars.dropLast else chars)

/-- A file as far as it is decoded: the bytes that are taken up, the text they make, and how many
bytes a character had in the last piece. -/
structure Decoding where
  bytes : Nat
  text : List Char
  rate : Double

namespace Decoding

def start : Decoding := ⟨0, [], .zero⟩

def pieceSize (d : Decoding) (wanted : Nat) : Nat :=
  let expected := (Double.nearest (d.rate.magnitude.times wanted)).magnitude.floor
  max decodedBytes (max wanted expected)

def next? (content : ByteArray) (wanted : Nat) (d : Decoding) : Option Decoding :=
  let bytes := min (d.bytes + d.pieceSize wanted) content.size
  if d.bytes < bytes then
    (frontText? content bytes).map fun text =>
      let made := text.length - d.text.length
      ⟨bytes, text, if made = 0 then .zero else .nearest ⟨bytes - d.bytes, made⟩⟩
  else none

theorem bytes_next? {content : ByteArray} {wanted : Nat} {d e : Decoding}
    (found : d.next? content wanted = some e) : d.bytes < e.bytes ∧ e.bytes ≤ content.size := by
  simp only [next?] at found
  generalize d.pieceSize wanted = size at found
  split at found
  case isTrue more =>
    rw [Option.map_eq_some_iff] at found
    obtain ⟨text, _, made⟩ := found
    subst made
    exact ⟨more, Nat.min_le_right _ _⟩
  case isFalse => cases found

def upTo? (content : ByteArray) (count : Nat) (d : Decoding) : Option Decoding :=
  if count ≤ d.text.length then some d
  else (d.next? content (count - d.text.length)).attach.bind fun next =>
    upTo? content count next.val
termination_by content.size - d.bytes
decreasing_by
  have := bytes_next? next.property
  omega

def fronts (content : ByteArray) (size : Nat) : Nat → Nat → Decoding → List (List Char)
  | 0, _, _ => []
  | reads + 1, count, d =>
    match d.upTo? content (count + size) with
    | none => []
    | some next =>
      next.text.take (count + size) :: next.fronts content size reads (count + size)

end Decoding

def frontsOf (content : ByteArray) (size : Nat) : List (List Char) :=
  Decoding.start.fronts content size (content.size / size + 1) 0

/-- A reader of text files. It asks for `partSize` characters at a time, may come to its answer from
a front of the text, and comes to it at the end of the file. -/
structure TextReader (α : Type) where
  partSize : Nat
  early? : List Char → Option α
  whole : List Char → α

/-- What a reader makes of a file. There is no answer if the reader meets bytes that are no text. -/
def TextReader.read? {α : Type} (r : TextReader α) (content : ByteArray) : Option α :=
  match String.fromUTF8? content with
  | some s => some (r.whole (unifyLineEnds s.toList))
  | none => (frontsOf content r.partSize).findSome? r.early?

end CucumberExpressions
