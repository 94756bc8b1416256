import CucumberExpressions.Token.Lexer
import Mathlib.Data.List.Chain

/-! Canonical token sequences: those that are read back from their own texts. They are the only
sequences that the lexer makes, one for each expression. -/

namespace CucumberExpressions

/-- Whether the characters can be the text of a token of the kind. -/
def Kind.Fits : Kind → List Char → Prop
  | mark m, chars => chars = [m.char]
  | escaped m, chars => chars = ['\\', m.char]
  | escape, chars => chars = ['\\']
  | text, chars => chars ≠ [] ∧ ∀ c ∈ chars, c ≠ '\\' ∧ ∀ m ∈ Mark.all, c ≠ m.char

/-- Whether neighbours of the two kinds would be read as other tokens. -/
def Kind.merges : Kind → Kind → Bool
  | text, text => true
  | escape, mark _ => true
  | _, _ => false

def Canonical (ts : List Token) : Prop :=
  (∀ t ∈ ts, t.kind.Fits t.text.toList) ∧ ts.IsChain fun t u => t.kind.merges u.kind = false

def textOf (ts : List Token) : String := String.join (ts.map Token.text)

def Kind.EndsBefore : Kind → List Char → Prop
  | escape, rest => ∀ c ∈ rest.head?, ∀ m : Mark, c ≠ m.char
  | text, rest => ∀ c ∈ rest.head?, isPlain c = false
  | _, _ => True

theorem isPlain_iff {c : Char} : isPlain c ↔ c ≠ '\\' ∧ ∀ m : Mark, c ≠ m.char := by
  have unmarked : Mark.ofChar? c = none ↔ ∀ m : Mark, c ≠ m.char := by
    rw [Option.eq_none_iff_forall_ne_some]
    constructor
    · intro none m same
      exact none m (Mark.ofChar?_eq_some_iff.2 same)
    · intro different m found
      exact different m (Mark.ofChar?_eq_some_iff.1 found)
  rw [isPlain, Bool.and_eq_true, bne_iff_ne, Option.isNone_iff_eq_none, unmarked]

theorem fits_text_iff {chars : List Char} :
    Kind.text.Fits chars ↔ chars ≠ [] ∧ ∀ c ∈ chars, isPlain c := by
  simp only [Kind.Fits, isPlain_iff, Mark.mem_all, true_implies]

theorem nextToken?_mark (m : Mark) (rest : List Char) :
    nextToken? (m.char :: rest) = some (⟨.ofList [m.char], .mark m⟩, rest) := by
  cases m <;> rfl

theorem nextToken?_escaped (m : Mark) (rest : List Char) :
    nextToken? ('\\' :: m.char :: rest) = some (⟨.ofList ['\\', m.char], .escaped m⟩, rest) := by
  cases m <;> rfl

theorem read?_exactly_of_ne {c d : Char} (different : d ≠ c) (ds s : List Char) (k : Kind) :
    (Rule.mk (.exactly (d :: ds)) k).read? (c :: s) = none := by
  simp [Rule.read?, Pattern.read?, different]

theorem nextToken?_escape {rest : List Char} (ends : Kind.escape.EndsBefore rest) :
    nextToken? ('\\' :: rest) = some (⟨.ofList ['\\'], .escape⟩, rest) := by
  cases rest with
  | nil => rfl
  | cons c rest =>
      -- The rules for escaped marks are tried first, and none of them reads these characters.
      have different : ∀ m : Mark, m.char ≠ c := fun m same => ends c rfl m same.symm
      have unread : (Mark.all.map fun m => Rule.mk (.exactly ['\\', m.char]) (.escaped m)).findSome?
          (·.read? ('\\' :: c :: rest)) = none := by
        rw [List.findSome?_eq_none_iff]
        intro r member
        rcases List.mem_map.1 member with ⟨m, _, rfl⟩
        simp [Rule.read?, Pattern.read?, different m]
      rw [nextToken?, lexicon, List.append_assoc, List.findSome?_append, unread]
      rfl

theorem unread_of_isPlain {c : Char} (plain : isPlain c) (s : List Char) :
    (Mark.all.map (fun m => Rule.mk (.exactly ['\\', m.char]) (.escaped m))
      ++ Rule.mk (.exactly ['\\']) .escape
      :: Mark.all.map (fun m => Rule.mk (.exactly [m.char]) (.mark m))).findSome?
        (·.read? (c :: s)) = none := by
  rcases isPlain_iff.1 plain with ⟨notEscape, notMark⟩
  rw [List.findSome?_eq_none_iff]
  intro r member
  rcases List.mem_append.1 member with escaped | others
  · rcases List.mem_map.1 escaped with ⟨m, _, rfl⟩
    exact read?_exactly_of_ne notEscape.symm _ _ _
  · rcases List.mem_cons.1 others with rfl | marks
    · exact read?_exactly_of_ne notEscape.symm _ _ _
    · rcases List.mem_map.1 marks with ⟨m, _, rfl⟩
      exact read?_exactly_of_ne (notMark m).symm _ _ _

theorem nextToken?_text {run rest : List Char} (fits : Kind.text.Fits run)
    (ends : Kind.text.EndsBefore rest) :
    nextToken? (run ++ rest) = some (⟨.ofList run, .text⟩, rest) := by
  rcases fits_text_iff.1 fits with ⟨nonempty, plain⟩
  rcases List.exists_cons_of_ne_nil nonempty with ⟨c, later, same⟩
  have stop : rest.takeWhile isPlain = [] ∧ rest.dropWhile isPlain = rest := by
    cases rest with
    | nil => exact ⟨rfl, rfl⟩
    | cons c rest => simp [ends c rfl]
  have taken : (run ++ rest).takeWhile isPlain = run := by
    rw [List.takeWhile_append_of_pos plain, stop.1, List.append_nil]
  have dropped : (run ++ rest).dropWhile isPlain = rest := by
    rw [List.dropWhile_append_of_pos plain, stop.2]
  have read : (Rule.mk .plainRun .text).read? (run ++ rest) =
      some (⟨.ofList run, .text⟩, rest) := by
    simp only [Rule.read?, Pattern.read?, taken, dropped]
    rw [same]
    rfl
  have first : isPlain c := plain c (by rw [same]; exact List.mem_cons_self)
  have unread := unread_of_isPlain first (later ++ rest)
  rw [← List.cons_append, ← same] at unread
  rw [nextToken?, lexicon, List.findSome?_append, List.findSome?_singleton, read, unread]
  rfl

theorem nextToken?_append {t : Token} {rest : List Char} (fits : t.kind.Fits t.text.toList)
    (ends : t.kind.EndsBefore rest) : nextToken? (t.text.toList ++ rest) = some (t, rest) := by
  rcases t with ⟨text, kind⟩
  have same : text = .ofList text.toList := String.ofList_toList.symm
  cases kind with
  | mark m =>
      rw [same, fits, String.toList_ofList]
      exact nextToken?_mark m rest
  | escaped m =>
      rw [same, fits, String.toList_ofList]
      exact nextToken?_escaped m rest
  | escape =>
      rw [same, fits, String.toList_ofList]
      exact nextToken?_escape ends
  | text =>
      rw [nextToken?_text fits ends, ← same]

theorem Kind.Fits.escaped_or_escape (rest : List Char) :
    ∃ k chars later, '\\' :: rest = chars ++ later ∧ Fits k chars ∧ k.EndsBefore later := by
  by_cases marked : ∃ (m : Mark) (later : List Char), rest = m.char :: later
  · rcases marked with ⟨m, later, rfl⟩
    exact ⟨.escaped m, ['\\', m.char], later, rfl, rfl, trivial⟩
  · refine ⟨.escape, ['\\'], rest, rfl, rfl, ?_⟩
    intro c head m same
    cases rest with
    | nil => cases head
    | cons d later =>
        have first : d = c := Option.some.inj head
        exact marked ⟨m, later, by rw [first, same]⟩

theorem Kind.Fits.text_run {c : Char} (plain : isPlain c) (rest : List Char) :
    ∃ chars later, c :: rest = chars ++ later ∧ Fits text chars ∧ text.EndsBefore later := by
  refine ⟨(c :: rest).takeWhile isPlain, (c :: rest).dropWhile isPlain,
    List.takeWhile_append_dropWhile.symm, ?_, ?_⟩
  · rw [fits_text_iff]
    constructor
    · simp [plain]
    · intro d member
      exact List.all_eq_true.1 List.all_takeWhile d member
  · intro d head
    have stop := List.head?_dropWhile_not isPlain (c :: rest)
    rw [Option.mem_def.1 head] at stop
    exact stop

theorem exists_first_token {s : List Char} (nonempty : s ≠ []) :
    ∃ (t : Token) (rest : List Char), s = t.text.toList ++ rest ∧
      t.kind.Fits t.text.toList ∧ t.kind.EndsBefore rest := by
  have found : ∃ k chars rest, s = chars ++ rest ∧ Kind.Fits k chars ∧ k.EndsBefore rest := by
    cases s with
    | nil => exact absurd rfl nonempty
    | cons c rest =>
        by_cases escape : c = '\\'
        · rw [escape]
          exact Kind.Fits.escaped_or_escape rest
        · by_cases marked : ∃ m : Mark, c = m.char
          · rcases marked with ⟨m, rfl⟩
            exact ⟨.mark m, [m.char], rest, rfl, rfl, trivial⟩
          · have plain : isPlain c := isPlain_iff.2 ⟨escape, not_exists.1 marked⟩
            exact ⟨.text, Kind.Fits.text_run plain rest⟩
  rcases found with ⟨k, chars, rest, same, fits, ends⟩
  refine ⟨⟨.ofList chars, k⟩, rest, ?_, ?_, ends⟩
  · rw [same, String.toList_ofList]
  · rwa [String.toList_ofList]

theorem tokensOf_nil : tokensOf [] = [] := tokensOf_of_none rfl

theorem tokensOf_append {t : Token} {rest : List Char} (fits : t.kind.Fits t.text.toList)
    (ends : t.kind.EndsBefore rest) :
    tokensOf (t.text.toList ++ rest) = t :: tokensOf rest :=
  tokensOf_of_some (nextToken?_append fits ends)

theorem escape_ne_char (m : Mark) : '\\' ≠ m.char := by
  cases m <;> decide

theorem Kind.Fits.exists_head {k : Kind} {chars : List Char} (fits : Fits k chars) :
    ∃ c later, chars = c :: later ∧ (isPlain c ↔ k = text) ∧
      ∀ m : Mark, c = m.char ↔ k = mark m := by
  cases k with
  | mark m =>
      refine ⟨m.char, [], fits, ?_, ?_⟩
      · refine iff_of_false ?_ (by simp)
        rw [isPlain_iff]
        exact fun plain => plain.2 m rfl
      · intro n
        rw [mark.injEq]
        exact ⟨Mark.char_injective, congrArg Mark.char⟩
  | escaped m =>
      refine ⟨'\\', [m.char], fits, iff_of_false (by decide) (by simp), ?_⟩
      exact fun n => iff_of_false (escape_ne_char n) (by simp)
  | escape =>
      refine ⟨'\\', [], fits, iff_of_false (by decide) (by simp), ?_⟩
      exact fun n => iff_of_false (escape_ne_char n) (by simp)
  | text =>
      rcases fits_text_iff.1 fits with ⟨nonempty, plain⟩
      rcases List.exists_cons_of_ne_nil nonempty with ⟨c, later, rfl⟩
      have first := plain c List.mem_cons_self
      refine ⟨c, later, rfl, iff_of_true first rfl, ?_⟩
      exact fun n => iff_of_false ((isPlain_iff.1 first).2 n) (by simp)

theorem Kind.Fits.endsBefore_iff {k j : Kind} {chars : List Char} (fits : Fits j chars)
    (rest : List Char) : k.EndsBefore (chars ++ rest) ↔ k.merges j = false := by
  rcases fits.exists_head with ⟨c, later, rfl, plain, marked⟩
  cases k with
  | mark m => exact iff_of_true trivial rfl
  | escaped m => exact iff_of_true trivial rfl
  | escape =>
      have ends : escape.EndsBefore (c :: later ++ rest) ↔ ∀ m : Mark, c ≠ m.char := by
        simp [EndsBefore]
      simp only [ends, Ne, marked]
      cases j <;> simp [merges]
  | text =>
      have ends : text.EndsBefore (c :: later ++ rest) ↔ ¬ isPlain c := by
        simp [EndsBefore]
      rw [ends, plain]
      cases j <;> simp [merges]

theorem Kind.endsBefore_nil (k : Kind) : k.EndsBefore [] := by
  cases k <;> simp [EndsBefore]

theorem toList_textOf (ts : List Token) :
    (textOf ts).toList = ts.flatMap (·.text.toList) := by
  rw [textOf, String.toList_join, List.flatMap_map]

theorem Canonical.tail {t : Token} {ts : List Token} (canonical : Canonical (t :: ts)) :
    Canonical ts :=
  ⟨fun u member => canonical.1 u (List.mem_cons_of_mem t member), canonical.2.tail⟩

theorem Canonical.endsBefore {t : Token} {ts : List Token} (canonical : Canonical (t :: ts)) :
    t.kind.EndsBefore (ts.flatMap (·.text.toList)) := by
  cases ts with
  | nil => exact t.kind.endsBefore_nil
  | cons u ts =>
      have fits := canonical.1 u (by simp)
      have apart := canonical.2.rel
      rw [List.flatMap_cons]
      exact (fits.endsBefore_iff _).2 apart

theorem tokensOf_of_canonical {ts : List Token} (canonical : Canonical ts) :
    tokensOf (ts.flatMap (·.text.toList)) = ts := by
  induction ts with
  | nil => exact tokensOf_nil
  | cons t ts ih =>
      have fits := canonical.1 t List.mem_cons_self
      rw [List.flatMap_cons, tokensOf_append fits canonical.endsBefore, ih canonical.tail]

theorem canonical_tokensOf (s : List Char) :
    Canonical (tokensOf s) ∧ (tokensOf s).flatMap (·.text.toList) = s := by
  induction length : s.length using Nat.strong_induction_on generalizing s with
  | _ n ih =>
      subst length
      by_cases empty : s = []
      · rw [empty, tokensOf_nil]
        exact ⟨⟨by simp, List.isChain_nil⟩, rfl⟩
      · rcases exists_first_token empty with ⟨t, rest, rfl, fits, ends⟩
        rcases fits.exists_head with ⟨c, later, same, _⟩
        have shorter : rest.length < (t.text.toList ++ rest).length := by
          rw [same, List.length_append, List.length_cons]
          omega
        rcases ih rest.length shorter rest rfl with ⟨⟨fitsLater, chain⟩, whole⟩
        rw [tokensOf_append fits ends]
        refine ⟨⟨?_, ?_⟩, by rw [List.flatMap_cons, whole]⟩
        · intro u member
          rcases List.mem_cons.1 member with rfl | inLater
          · exact fits
          · exact fitsLater u inLater
        · -- That the token ended where it did is what keeps it apart from the next one.
          refine chain.cons ?_
          intro u head
          rcases List.head?_eq_some_iff.1 head with ⟨us, found⟩
          rw [← whole, found, List.flatMap_cons] at ends
          exact ((fitsLater u (by rw [found]; simp)).endsBefore_iff _).1 ends

theorem tokenize_textOf {ts : List Token} (canonical : Canonical ts) :
    tokenize (textOf ts) = ts := by
  rw [tokenize, toList_textOf, tokensOf_of_canonical canonical]

theorem textOf_tokenize (s : String) : textOf (tokenize s) = s := by
  rw [← String.toList_inj, toList_textOf]
  exact (canonical_tokensOf s.toList).2

theorem canonical_tokenize (s : String) : Canonical (tokenize s) :=
  (canonical_tokensOf s.toList).1

/-- Reading and writing are inverse: the tokens of an expression are the one canonical sequence that
is written as the expression. -/
theorem tokenize_eq_iff_canonical (s : String) (ts : List Token) :
    tokenize s = ts ↔ Canonical ts ∧ textOf ts = s := by
  constructor
  · intro same
    rw [← same]
    exact ⟨canonical_tokenize s, textOf_tokenize s⟩
  · intro written
    rw [← written.2]
    exact tokenize_textOf written.1

end CucumberExpressions
