import CucumberExpressions.Number.Numeral
import CucumberExpressions.Text.Quoted
import Mathlib.Algebra.Group.Nat.Defs
import Mathlib.Tactic.Common

/-! Quoted texts are read back: a quoted text tells its characters and where it ends, whichever
characters print, and it is a single line. -/

namespace CucumberExpressions

theorem hexDigitValue_digitChar : ∀ d < 16, hexDigitValue (Nat.digitChar d) = d := by decide

theorem length_hexDigits (width n : Nat) : (hexDigits width n).length = width := by
  induction width generalizing n with
  | zero => rfl
  | succ width ih => rw [hexDigits, List.length_append, ih, List.length_singleton]

theorem hexNumber_hexDigits (width n : Nat) : hexNumber (hexDigits width n) = n % 16 ^ width := by
  induction width generalizing n with
  | zero => simp [hexDigits, hexNumber, numberIn, Nat.mod_one]
  | succ width ih =>
      have front : hexNumber (hexDigits (width + 1) n) =
          hexNumber (hexDigits width (n / 16)) * 16 + hexDigitValue (Nat.digitChar (n % 16)) := by
        simp [hexDigits, hexNumber, numberIn, List.foldl_append]
      rw [front, ih, hexDigitValue_digitChar _ (Nat.mod_lt n (by decide)), Nat.pow_succ,
        Nat.mul_comm (16 ^ width) 16, Nat.mod_mul]
      omega

theorem newline_notMem_hexDigits (width n : Nat) : '\n' ∉ hexDigits width n := by
  induction width generalizing n with
  | zero => simp [hexDigits]
  | succ width ih =>
      rw [hexDigits, List.mem_append, List.mem_singleton]
      rintro (front | last)
      · exact ih _ front
      · exact Nat.digitChar_ne '\n' (by decide) last.symm

def unquoteChar? : List Char → Option (Char × List Char)
  | '\\' :: 'x' :: cs => some (Char.ofNat (hexNumber (cs.take 2)), cs.drop 2)
  | '\\' :: 'u' :: cs => some (Char.ofNat (hexNumber (cs.take 4)), cs.drop 4)
  | '\\' :: 'U' :: cs => some (Char.ofNat (hexNumber (cs.take 8)), cs.drop 8)
  | '\\' :: 't' :: cs => some ('\t', cs)
  | '\\' :: 'n' :: cs => some ('\n', cs)
  | '\\' :: 'r' :: cs => some ('\r', cs)
  | '\\' :: c :: cs => some (c, cs)
  | c :: cs => some (c, cs)
  | [] => none

theorem unquoteChar?_plain {c : Char} (plain : c ≠ '\\') (rest : List Char) :
    unquoteChar? (c :: rest) = some (c, rest) := by
  unfold unquoteChar?
  split <;> simp_all

def EscapeOf (c : Char) (written : List Char) : Prop :=
  '\n' ∉ written ∧ ∀ rest, unquoteChar? ('\\' :: (written ++ rest)) = some (c, rest)

theorem escapeOf_hexDigits {c letter : Char} {width : Nat}
    (known : (letter, width) ∈ [('x', 2), ('u', 4), ('U', 8)]) (bound : c.toNat < 16 ^ width) :
    EscapeOf c (letter :: hexDigits width c.toNat) := by
  have length := length_hexDigits width c.toNat
  have number := hexNumber_hexDigits width c.toNat
  rw [Nat.mod_eq_of_lt bound] at number
  have noBreak := newline_notMem_hexDigits width c.toNat
  simp only [List.mem_cons, List.not_mem_nil, Prod.mk.injEq, or_false] at known
  constructor
  · rcases known with ⟨rfl, rfl⟩ | ⟨rfl, rfl⟩ | ⟨rfl, rfl⟩ <;> simp [noBreak]
  · intro rest
    rcases known with ⟨rfl, rfl⟩ | ⟨rfl, rfl⟩ | ⟨rfl, rfl⟩ <;>
      simp only [List.cons_append, unquoteChar?, List.take_left' length, List.drop_left' length,
        number, Char.ofNat_toNat]

theorem numericEscape_eq (c : Char) :
    ∃ written, numericEscape c = '\\' :: written ∧ EscapeOf c written := by
  have last : c.toNat < 0x110000 := by
    have valid := c.valid
    simp only [UInt32.isValidChar, Nat.isValidChar] at valid
    simp only [Char.toNat]
    omega
  by_cases short : c.toNat < 0x100
  · exact ⟨_, by rw [numericEscape, if_pos short], escapeOf_hexDigits (by simp) short⟩
  · by_cases middle : c.toNat < 0x10000
    · exact ⟨_, by rw [numericEscape, if_neg short, if_pos middle],
        escapeOf_hexDigits (by simp) middle⟩
    · exact ⟨_, by rw [numericEscape, if_neg short, if_neg middle],
        escapeOf_hexDigits (by simp) (by omega)⟩

section Quoting

variable {printable : Char → Bool} {mark c : Char} {text text' rest rest' : List Char}

def IsQuoteMark (mark : Char) : Prop := mark = '\'' ∨ mark = '"'

theorem isQuoteMark_quoteMark (text : List Char) : IsQuoteMark (quoteMark text) := by
  unfold quoteMark
  split
  · exact Or.inr rfl
  · exact Or.inl rfl

theorem escapeOf_special (isMark : IsQuoteMark mark) (special : c = mark ∨ c = '\\') :
    EscapeOf c [c] := by
  have known : c = '\'' ∨ c = '"' ∨ c = '\\' := by
    rcases special with rfl | backslash
    · exact isMark.imp_right Or.inl
    · exact Or.inr (Or.inr backslash)
  rcases known with rfl | rfl | rfl <;> exact ⟨by decide, fun _ => rfl⟩

theorem quotedChar_cases (printable : Char → Bool) (isMark : IsQuoteMark mark) (c : Char) :
    (quotedChar printable mark c = [c] ∧ c ≠ mark ∧ c ≠ '\\' ∧ c ≠ '\n') ∨
      ∃ written, quotedChar printable mark c = '\\' :: written ∧ EscapeOf c written := by
  unfold quotedChar
  split
  · next special => exact Or.inr ⟨[c], rfl, escapeOf_special isMark special⟩
  · next ordinary =>
      rw [not_or] at ordinary
      split
      · next tab => exact Or.inr ⟨['t'], rfl, by decide, fun _ => by rw [tab]; rfl⟩
      · split
        · next newline => exact Or.inr ⟨['n'], rfl, by decide, fun _ => by rw [newline]; rfl⟩
        · next noBreak =>
            split
            · next back => exact Or.inr ⟨['r'], rfl, by decide, fun _ => by rw [back]; rfl⟩
            · split
              · exact Or.inl ⟨rfl, ordinary.1, ordinary.2, noBreak⟩
              · exact Or.inr (numericEscape_eq c)

theorem unquoteChar?_quotedChar (isMark : IsQuoteMark mark) (c : Char) (rest : List Char) :
    unquoteChar? (quotedChar printable mark c ++ rest) = some (c, rest) := by
  rcases quotedChar_cases printable isMark c with
    ⟨plain, _, other, _⟩ | ⟨written, escaped, _, read⟩
  · rw [plain]
    exact unquoteChar?_plain other rest
  · rw [escaped]
    exact read rest

/-- A mark in front of what is left ends the text, since no character is written with it in front.
-/
theorem head?_quotedChar_ne (isMark : IsQuoteMark mark) (c : Char) (rest : List Char) :
    (quotedChar printable mark c ++ rest).head? ≠ some mark := by
  rcases quotedChar_cases printable isMark c with
    ⟨plain, other, _⟩ | ⟨written, escaped, _⟩
  · simpa [plain] using other
  · rw [escaped]
    rcases isMark with rfl | rfl <;> simp

theorem newline_notMem_quotedChar (isMark : IsQuoteMark mark) (c : Char) :
    '\n' ∉ quotedChar printable mark c := by
  rcases quotedChar_cases printable isMark c with
    ⟨plain, _, _, other⟩ | ⟨written, escaped, noBreak, _⟩
  · simpa [plain] using other.symm
  · simpa [escaped] using noBreak

theorem quotedChars_append_inj (isMark : IsQuoteMark mark)
    (same : text.flatMap (quotedChar printable mark) ++ mark :: rest =
      text'.flatMap (quotedChar printable mark) ++ mark :: rest') : text = text' ∧ rest = rest' := by
  induction text generalizing text' with
  | nil =>
      cases text' with
      | nil => exact ⟨rfl, (List.cons.inj same).2⟩
      | cons d text' =>
          rw [List.flatMap_cons, List.append_assoc] at same
          exact absurd (congrArg List.head? same).symm (head?_quotedChar_ne isMark d _)
  | cons c text ih =>
      cases text' with
      | nil =>
          rw [List.flatMap_cons, List.append_assoc] at same
          exact absurd (congrArg List.head? same) (head?_quotedChar_ne isMark c _)
      | cons d text' =>
          rw [List.flatMap_cons, List.append_assoc, List.flatMap_cons, List.append_assoc] at same
          have first := congrArg unquoteChar? same
          rw [unquoteChar?_quotedChar isMark, unquoteChar?_quotedChar isMark] at first
          rcases Prod.mk.inj (Option.some.inj first) with ⟨rfl, later⟩
          rcases ih later with ⟨rfl, sameRest⟩
          exact ⟨rfl, sameRest⟩

/-- A quoted text tells the text, and it tells where it ends. -/
theorem quoteChars_append_inj
    (same : quoteChars printable text ++ rest = quoteChars printable text' ++ rest') :
    text = text' ∧ rest = rest' := by
  have shape : ∀ text rest : List Char, quoteChars printable text ++ rest = quoteMark text ::
      (text.flatMap (quotedChar printable (quoteMark text)) ++ quoteMark text :: rest) := by
    intro text rest
    simp [quoteChars]
  rw [shape, shape] at same
  rcases List.cons.inj same with ⟨mark, later⟩
  rw [← mark] at later
  exact quotedChars_append_inj (isQuoteMark_quoteMark text) later

theorem newline_notMem_quoteChars (text : List Char) : '\n' ∉ quoteChars printable text := by
  have isMark := isQuoteMark_quoteMark text
  have other : '\n' ≠ quoteMark text := by
    rcases isMark with same | same <;> rw [same] <;> decide
  simp [quoteChars, other, newline_notMem_quotedChar isMark]

end Quoting

end CucumberExpressions
