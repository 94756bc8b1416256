import CucumberExpressions.Proofs.QuotedText
import CucumberExpressions.Token.Listing
import Mathlib.Tactic.Common

/-! Lines of texts, and the listing of tokens: it has one line for each token, and it tells the
tokens, whichever characters print. -/

namespace CucumberExpressions

/-- The lines of a text; the empty text is one empty line. -/
def linesOf (text : String) : List String := (text.toList.splitOn '\n').map String.ofList

theorem linesOf_intercalate {lines : List String} (nonempty : lines ≠ [])
    (whole : ∀ line ∈ lines, '\n' ∉ line.toList) : linesOf ("\n".intercalate lines) = lines := by
  have each : ∀ chars ∈ lines.map String.toList, '\n' ∉ chars := by
    intro chars member
    rcases List.mem_map.1 member with ⟨line, inLines, rfl⟩
    exact whole line inLines
  have cut := List.splitOn_intercalate '\n' each (by simpa using nonempty)
  have newline : "\n".toList = ['\n'] := rfl
  rw [linesOf, String.toList_intercalate, newline, cut, List.map_map]
  exact (List.map_congr_left fun line _ => String.ofList_toList).trans (List.map_id lines)

theorem intercalate_linesOf (text : String) : "\n".intercalate (linesOf text) = text := by
  have newline : "\n".toList = ['\n'] := rfl
  have chars : (linesOf text).map String.toList = text.toList.splitOn '\n' := by
    rw [linesOf, List.map_map]
    exact (List.map_congr_left fun _ _ => String.toList_ofList).trans (List.map_id _)
  rw [← String.toList_inj, String.toList_intercalate, chars, newline, List.intercalate_splitOn]

theorem linesOf_append_newline (front back : String) :
    linesOf (front ++ "\n" ++ back) = linesOf front ++ linesOf back := by
  have newline : "\n".toList = ['\n'] := rfl
  have chars : (front ++ "\n" ++ back).toList = front.toList ++ '\n' :: back.toList := by
    simp [newline]
  rw [linesOf, chars, List.splitOn_append_cons_self, List.map_append]
  rfl

theorem linesOf_of_newline_notMem {line : String} (whole : '\n' ∉ line.toList) :
    linesOf line = [line] := by
  rw [linesOf, List.splitOn_eq_singleton whole, List.map_singleton, String.ofList_toList]

theorem append_separator_inj {α : Type} {front front' back back' : List α} {separator : α}
    (apart : separator ∉ front) (apart' : separator ∉ front')
    (same : front ++ separator :: back = front' ++ separator :: back') :
    front = front' ∧ back = back' := by
  rcases List.append_eq_append_iff.1 same with ⟨middle, rfl, rest⟩ | ⟨middle, rfl, rest⟩
  · cases middle with
    | nil => simpa using rest
    | cons x middle =>
        rcases List.cons.inj rest with ⟨rfl, _⟩
        simp at apart'
  · cases middle with
    | nil => simpa using rest.symm
    | cons x middle =>
        rcases List.cons.inj rest with ⟨rfl, _⟩
        simp at apart

def isNameLetter (c : Char) : Bool := c.isUpper || c == '_'

theorem Kind.notMem_name (k : Kind) {c : Char} (other : isNameLetter c = false) :
    c ∉ k.name.toList := by
  have letters : ∀ k ∈ all, k.name.toList.all isNameLetter = true := by decide +kernel
  intro member
  have letter := List.all_eq_true.1 (letters k k.mem_all) c member
  rw [other] at letter
  cases letter

section Listing

variable {printable : Char → Bool}

theorem quoteWith_append_inj {s t : String} {rest rest' : List Char}
    (same : (quoteWith printable s).toList ++ rest = (quoteWith printable t).toList ++ rest') :
    s = t ∧ rest = rest' := by
  rw [quoteWith, quoteWith, String.toList_ofList, String.toList_ofList] at same
  rcases quoteChars_append_inj same with ⟨chars, after⟩
  exact ⟨String.toList_inj.1 chars, after⟩

theorem quoteWith_inj {s t : String} (same : quoteWith printable s = quoteWith printable t) :
    s = t := by
  have chars : (quoteWith printable s).toList ++ [] = (quoteWith printable t).toList ++ [] := by
    rw [same]
  exact (quoteWith_append_inj chars).1

theorem newline_notMem_quoteWith (s : String) : '\n' ∉ (quoteWith printable s).toList := by
  rw [quoteWith, String.toList_ofList]
  exact newline_notMem_quoteChars s.toList

namespace Token

theorem toList_lineWith (t : Token) : (t.lineWith printable).toList =
    t.kind.name.toList ++ ' ' :: (quoteWith printable t.text).toList := by
  have blank : " ".toList = [' '] := rfl
  simp [lineWith, blank]

theorem lineWith_inj {t u : Token} (same : t.lineWith printable = u.lineWith printable) :
    t = u := by
  have chars := congrArg String.toList same
  rw [toList_lineWith, toList_lineWith] at chars
  rcases append_separator_inj (t.kind.notMem_name rfl) (u.kind.notMem_name rfl) chars
    with ⟨names, quotes⟩
  have kind : t.kind = u.kind := Kind.name_injective (String.toList_inj.1 names)
  have text : t.text = u.text := quoteWith_inj (String.toList_inj.1 quotes)
  rcases t with ⟨_, _⟩
  rcases u with ⟨_, _⟩
  rw [Token.mk.injEq]
  exact ⟨text, kind⟩

theorem newline_notMem_lineWith (t : Token) : '\n' ∉ (t.lineWith printable).toList := by
  rw [toList_lineWith, List.mem_append, List.mem_cons]
  rintro (name | blank | quotes)
  · exact t.kind.notMem_name rfl name
  · exact absurd blank (by decide)
  · exact newline_notMem_quoteWith _ quotes

theorem space_mem_lineWith (printable : Char → Bool) (t : Token) :
    ' ' ∈ (t.lineWith printable).toList := by
  rw [toList_lineWith]
  simp

end Token

theorem linesOf_listingWith (printable : Char → Bool) {ts : List Token} (nonempty : ts ≠ []) :
    linesOf (listingWith printable ts) = ts.map (·.lineWith printable) := by
  refine linesOf_intercalate (by simpa using nonempty) ?_
  intro line member
  rcases List.mem_map.1 member with ⟨t, _, rfl⟩
  exact t.newline_notMem_lineWith

theorem listingWith_ne_empty {ts : List Token} (nonempty : ts ≠ []) :
    listingWith printable ts ≠ "" := by
  intro empty
  rcases List.exists_cons_of_ne_nil nonempty with ⟨t, later, rfl⟩
  have lines := linesOf_listingWith printable nonempty
  have none : linesOf "" = [""] := rfl
  rw [empty, none, List.map_cons] at lines
  have space := t.space_mem_lineWith printable
  rw [← (List.cons.inj lines).1] at space
  simp at space

theorem listingWith_inj {ts us : List Token}
    (same : listingWith printable ts = listingWith printable us) : ts = us := by
  by_cases none : ts = []
  · by_contra different
    have nonempty : us ≠ [] := fun empty => different (none.trans empty.symm)
    rw [none] at same
    exact listingWith_ne_empty nonempty same.symm
  · by_cases none' : us = []
    · rw [none'] at same
      exact absurd same (listingWith_ne_empty none)
    · have lines := congrArg linesOf same
      rw [linesOf_listingWith printable none, linesOf_listingWith printable none'] at lines
      exact (List.map_inj_right fun _ _ => Token.lineWith_inj).1 lines

end Listing

/-- The listing is faithful, whichever characters print: it is the same for two token sequences only
if they are the same, and its lines are those of the tokens, one each. -/
theorem listingWith_faithful (printable : Char → Bool) :
    (∀ ts us, listingWith printable ts = listingWith printable us ↔ ts = us) ∧
      ∀ t later, linesOf (listingWith printable (t :: later)) =
        (t :: later).map (·.lineWith printable) := by
  constructor
  · intro ts us
    exact ⟨listingWith_inj, congrArg _⟩
  · intro t later
    exact linesOf_listingWith printable (List.cons_ne_nil t later)

example : linesOf (listing [⟨"a\n'", .text⟩, ⟨"", .escape⟩]) = ["TEXT \"a\\n'\"", "ESCAPE ''"] := by
  decide +kernel

end CucumberExpressions
