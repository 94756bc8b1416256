import CucumberExpressions.Proofs.Streaming
import Mathlib.Data.List.MinMax

/-! Longest matches: wherever characters are left, one rule of the lexicon reads more of them than
any other rule, and it is the first that reads any. So taking the longest match in whatever order
the rules are tried gives the same tokens as taking the first. -/

namespace CucumberExpressions

/-- Rules in the order in which they are tried, none of which reads the empty text. -/
structure Table where
  rules : List Rule
  nonempty : ∀ r ∈ rules, r.pattern ≠ .exactly []

namespace Table

variable {table : Table} {s rest : List Char} {t : Token}

def longest? (table : Table) (s : List Char) : Option (Token × List Char) :=
  (table.rules.filterMap (·.read? s)).argmax fun (t, _) => t.text.length

theorem length_lt_of_longest? (h : table.longest? s = some (t, rest)) :
    rest.length < s.length := by
  obtain ⟨r, member, found⟩ := List.mem_filterMap.1 (List.argmax_mem h)
  exact Rule.length_lt_of_read? (table.nonempty r member) found

theorem longest?_nil (table : Table) : table.longest? [] = none := by
  rw [Option.eq_none_iff_forall_ne_some]
  intro found h
  exact Nat.not_lt_zero _ (length_lt_of_longest? h)

def longestTokens (table : Table) (s : List Char) : List Token :=
  match _ : table.longest? s with
  | none => []
  | some (t, rest) => t :: table.longestTokens rest
termination_by s.length
decreasing_by exact length_lt_of_longest? (by assumption)

theorem longestTokens_of_none (h : table.longest? s = none) : table.longestTokens s = [] := by
  rw [longestTokens]
  split
  · rfl
  · next found =>
      rw [h] at found
      cases found

theorem longestTokens_of_some (h : table.longest? s = some (t, rest)) :
    table.longestTokens s = t :: table.longestTokens rest := by
  rw [longestTokens]
  split
  · next none =>
      rw [h] at none
      cases none
  · next found =>
      rw [h] at found
      cases found
      rfl

end Table

/-- What the rule reads, where every other of the rules reads less or nothing. -/
structure Rule.ReadsMost (rules : List Rule) (s : List Char) (r : Rule) (t : Token)
    (rest : List Char) : Prop where
  member : r ∈ rules
  reads : r.read? s = some (t, rest)
  longer : ∀ q ∈ rules, q ≠ r → ∀ u later, q.read? s = some (u, later) →
    u.text.length < t.text.length

theorem Rule.ReadsMost.of_perm {rules others : List Rule} {s rest : List Char} {r : Rule}
    {t : Token} (most : r.ReadsMost rules s t rest) (same : others.Perm rules) :
    r.ReadsMost others s t rest where
  member := same.mem_iff.2 most.member
  reads := most.reads
  longer q member := most.longer q (same.mem_iff.1 member)

theorem Table.longest?_of_readsMost {table : Table} {s rest : List Char} {r : Rule} {t : Token}
    (most : r.ReadsMost table.rules s t rest) : table.longest? s = some (t, rest) := by
  have others : ∀ found ∈ table.rules.filterMap (·.read? s), found ≠ (t, rest) →
      found.1.text.length < t.text.length := by
    intro found member different
    obtain ⟨q, listed, reads⟩ := List.mem_filterMap.1 member
    refine most.longer q listed ?_ found.1 found.2 reads
    rintro rfl
    exact different (Option.some.inj (reads.symm.trans most.reads))
  rw [longest?, List.argmax_eq_some_iff]
  refine ⟨List.mem_filterMap.2 ⟨r, most.member, most.reads⟩, ?_, ?_⟩
  · intro found member
    by_cases same : found = (t, rest)
    · rw [same]
    · exact Nat.le_of_lt (others found member same)
  · intro found member long
    by_cases same : found = (t, rest)
    · rw [same]
    · exact absurd (others found member same) (Nat.not_lt.2 long)

def Kind.pattern : Kind → Pattern
  | mark m => .exactly [m.char]
  | escaped m => .exactly ['\\', m.char]
  | escape => .exactly ['\\']
  | text => .plainRun

theorem Rule.pattern_eq : ∀ r ∈ lexicon, r.pattern = r.kind.pattern := by decide

theorem Rule.eq_of_kind_eq {q r : Rule} (memberQ : q ∈ lexicon) (memberR : r ∈ lexicon)
    (same : q.kind = r.kind) : q = r := by
  have patternQ := Rule.pattern_eq q memberQ
  have patternR := Rule.pattern_eq r memberR
  cases q
  cases r
  simp_all

theorem Pattern.eq_of_read?_exactly {text s taken rest : List Char}
    (h : (exactly text).read? s = some (taken, rest)) : taken = text := by
  rw [read?] at h
  split at h
  · exact (congrArg Prod.fst (Option.some.inj h)).symm
  · cases h

theorem Pattern.fits_of_read?_plainRun {s taken rest : List Char}
    (h : plainRun.read? s = some (taken, rest)) : Kind.text.Fits taken := by
  rw [read?] at h
  split at h
  · cases h
  · next run nonempty =>
      obtain rfl : s.takeWhile isPlain = taken := congrArg Prod.fst (Option.some.inj h)
      exact fits_text_iff.2 ⟨nonempty, List.all_eq_true.1 List.all_takeWhile⟩

theorem Rule.fits_of_read? {r : Rule} (member : r ∈ lexicon) {s rest : List Char} {t : Token}
    (h : r.read? s = some (t, rest)) : r.kind.Fits t.text.toList := by
  have pattern := Rule.pattern_eq r member
  obtain ⟨⟨taken, left⟩, found, same⟩ := Option.map_eq_some_iff.1 h
  cases same
  rw [String.toList_ofList]
  rw [pattern] at found
  cases kind : r.kind with
  | mark m => exact Pattern.eq_of_read?_exactly (kind ▸ found)
  | escaped m => exact Pattern.eq_of_read?_exactly (kind ▸ found)
  | escape => exact Pattern.eq_of_read?_exactly (kind ▸ found)
  | text => exact Pattern.fits_of_read?_plainRun (kind ▸ found)

theorem Kind.Fits.agree {j k : Kind} {front later chars rest : List Char} (fitsJ : Fits j front)
    (fitsK : Fits k chars) (same : front ++ later = chars ++ rest) :
    (j = text ↔ k = text) ∧ ∀ m : Mark, j = mark m ↔ k = mark m := by
  obtain ⟨c, _, first, plain, marked⟩ := fitsJ.exists_head
  obtain ⟨d, _, firstK, plainK, markedK⟩ := fitsK.exists_head
  have head : c = d := by
    rw [first, firstK] at same
    exact (List.cons.inj same).1
  subst head
  exact ⟨plain.symm.trans plainK, fun m => (marked m).symm.trans (markedK m)⟩

theorem Kind.Fits.length_lt {j k : Kind} {short later long rest : List Char}
    (fitsShort : Fits j short) (fitsLong : Fits k long) (ends : k.EndsBefore rest)
    (different : j ≠ k) (same : short ++ later = long ++ rest) : short.length < long.length := by
  -- Plain text and the marks begin with characters of their own, so both texts begin with a
  -- backslash, and one of them may have a mark behind it.
  obtain ⟨text, mark⟩ := fitsShort.agree fitsLong same
  cases k with
  | mark m => exact absurd ((mark m).2 rfl) different
  | text => exact absurd (text.2 rfl) different
  | escaped m =>
      cases j with
      | mark n => cases (mark n).1 rfl
      | text => cases text.1 rfl
      | escape =>
          rw [fitsShort, fitsLong]
          exact Nat.lt_succ_self 1
      | escaped n =>
          rw [fitsShort, fitsLong] at same
          have chars : n.char = m.char := (List.cons.inj (List.cons.inj same).2).1
          exact absurd (congrArg escaped (Mark.char_injective chars)) different
  | escape =>
      cases j with
      | mark n => cases (mark n).1 rfl
      | text => cases text.1 rfl
      | escape => exact absurd rfl different
      | escaped n =>
          rw [fitsShort, fitsLong] at same
          have next : n.char :: later = rest := (List.cons.inj same).2
          exact absurd rfl (ends n.char (by rw [← next]; rfl) n)

theorem exists_readsMost {s : List Char} (nonempty : s ≠ []) : ∃ r t rest,
    lexicon.find? (fun q => (q.read? s).isSome) = some r ∧ r.ReadsMost lexicon s t rest ∧
      nextToken? s = some (t, rest) := by
  obtain ⟨t, rest, rfl, fits, ends⟩ := exists_first_token nonempty
  have next := nextToken?_append fits ends
  obtain ⟨front, r, back, listed, reads, unread⟩ := List.findSome?_eq_some_iff.1 next
  have member : r ∈ lexicon := by
    rw [listed]
    exact List.mem_append_right front List.mem_cons_self
  refine ⟨r, t, rest, ?_, ⟨member, reads, ?_⟩, next⟩
  · rw [List.find?_eq_some_iff_append]
    refine ⟨by rw [reads]; rfl, front, back, listed, ?_⟩
    intro q early
    rw [unread q early]
    rfl
  · intro q memberQ different u later readsQ
    -- Every other rule is of another kind, and the text that ends before the rest is the longer one.
    have kinds : q.kind ≠ t.kind := by
      rw [Rule.kind_of_read? reads]
      exact fun same => different (Rule.eq_of_kind_eq memberQ member same)
    have shorter := (Rule.fits_of_read? memberQ readsQ).length_lt fits ends kinds
      (Rule.append_of_read? readsQ)
    rwa [String.length_toList, String.length_toList] at shorter

theorem exists_readsMost_at {s : List Char} {p : Nat} (inside : p < s.length) : ∃ r t,
    lexicon.find? (fun q => (q.read? (s.drop p)).isSome) = some r ∧
    r.ReadsMost lexicon (s.drop p) t (s.drop (p + t.text.length)) ∧
    0 < t.text.length ∧ p + t.text.length ≤ s.length ∧
    nextToken? (s.drop p) = some (t, s.drop (p + t.text.length)) := by
  have nonempty : s.drop p ≠ [] := by
    rw [Ne, List.drop_eq_nil_iff]
    omega
  obtain ⟨r, t, rest, first, most, next⟩ := exists_readsMost nonempty
  have whole := append_of_nextToken? next
  have behind : rest = s.drop (p + t.text.length) := by
    rw [← List.drop_drop, ← whole, ← String.length_toList, List.drop_left]
  have length := congrArg List.length whole
  have shorter := length_lt_of_nextToken? next
  rw [List.length_append, List.length_drop, String.length_toList] at length
  rw [List.length_drop] at shorter
  rw [behind] at most next
  exact ⟨r, t, first, most, by omega, by omega, next⟩

theorem Table.longestTokens_eq (table : Table) (same : table.rules.Perm lexicon) (s : List Char) :
    table.longestTokens s = tokensOf s := by
  induction length : s.length using Nat.strong_induction_on generalizing s with
  | _ n ih =>
      subst length
      by_cases nonempty : s = []
      · rw [nonempty, longestTokens_of_none table.longest?_nil, tokensOf_nil]
      · obtain ⟨r, t, rest, _, most, next⟩ := exists_readsMost nonempty
        have longest := longest?_of_readsMost (most.of_perm same)
        rw [longestTokens_of_some longest, tokensOf_of_some next,
          ih rest.length (length_lt_of_nextToken? next) rest rfl]

theorem length_tokensOf_le (s : List Char) : (tokensOf s).length ≤ s.length := by
  induction length : s.length using Nat.strong_induction_on generalizing s with
  | _ n ih =>
      subst length
      cases next : nextToken? s with
      | none =>
          rw [tokensOf_of_none next]
          exact Nat.zero_le _
      | some found =>
          obtain ⟨t, rest⟩ := found
          have shorter := length_lt_of_nextToken? next
          have later := ih rest.length shorter rest rfl
          rw [tokensOf_of_some next, List.length_cons]
          omega

theorem TokenStream.read_all (s : String) {n : Nat} (enough : s.length ≤ n) :
    ((ofExpression s).read n).1 = tokenize s ∧ ((ofExpression s).read n).2.next? = none := by
  have count : (tokenize s).length ≤ n :=
    Nat.le_trans (length_tokensOf_le s.toList) (by rwa [String.length_toList])
  obtain ⟨taken, left⟩ := (ofExpression s).read_cuts n
  rw [rest_ofExpression, ← tokenize] at taken left
  rw [List.take_of_length_le count] at taken
  rw [List.drop_of_length_le count] at left
  refine ⟨taken, next?_eq_none ?_⟩
  cases next : nextToken? ((ofExpression s).read n).2.rest with
  | none => rfl
  | some found =>
      rw [tokensOf_of_some next] at left
      cases left

/-- Reading goes on at every place, and the order of the rules does not matter to it. At each
position of an expression one rule of the lexicon reads more than any other, not the empty text and
not beyond the end, and it is the first that reads any. So the reading ends, with at most one token
for each character, and with the tokens that the longest matches of the rules give in whatever
order they are tried. -/
theorem first_match_is_longest (s : String) :
    (lexicon.Nodup ∧ lexicon.length = 14) ∧
    (∀ p < s.length, ∃ r t,
      lexicon.find? (fun q => (q.read? (s.toList.drop p)).isSome) = some r ∧
      r.ReadsMost lexicon (s.toList.drop p) t (s.toList.drop (p + t.text.length)) ∧
      0 < t.text.length ∧ p + t.text.length ≤ s.length ∧
      nextToken? (s.toList.drop p) = some (t, s.toList.drop (p + t.text.length))) ∧
    (tokenize s).length ≤ s.length ∧
    (∀ n, s.length ≤ n → ((TokenStream.ofExpression s).read n).1 = tokenize s ∧
      ((TokenStream.ofExpression s).read n).2.next? = none) ∧
    ∀ table : Table, table.rules.Perm lexicon → table.longestTokens s.toList = tokenize s := by
  have length : s.toList.length = s.length := String.length_toList
  refine ⟨by decide, ?_, ?_, ?_, ?_⟩
  · rw [← length]
    intro p inside
    exact exists_readsMost_at inside
  · rw [← length]
    exact length_tokensOf_le s.toList
  · intro n enough
    exact TokenStream.read_all s enough
  · intro table same
    exact table.longestTokens_eq same s.toList

def backwardLexicon : Table where
  rules := lexicon.reverse
  nonempty r member := Rule.pattern_ne_empty r (List.mem_reverse.1 member)

theorem first_match_is_longest_escapedBracket :
    (0 < "\\(a".length ∧
      (Rule.mk (.exactly ['\\', '(']) (.escaped .beginOptional)).ReadsMost lexicon
        ['\\', '(', 'a'] ⟨"\\(", .escaped .beginOptional⟩ ['a']) ∧
    ("\\(a".length ≤ 3 ∧ ((TokenStream.ofExpression "\\(a").read 3).2.next? = none) ∧
    backwardLexicon.rules.Perm lexicon ∧
      backwardLexicon.longestTokens ['\\', '(', 'a'] =
        [⟨"\\(", .escaped .beginOptional⟩, ⟨"a", .text⟩] := by
  obtain ⟨_, places, _, ends, anyOrder⟩ := first_match_is_longest "\\(a"
  obtain ⟨r, t, first, most, _, _, next⟩ := places 0 (by decide)
  have rule : lexicon.find? (fun q => (q.read? ['\\', '(', 'a']).isSome) =
      some ⟨.exactly ['\\', '('], .escaped .beginOptional⟩ := by decide
  have token : nextToken? ['\\', '(', 'a'] =
      some (⟨"\\(", .escaped .beginOptional⟩, ['a']) := by decide
  have same : backwardLexicon.rules.Perm lexicon := List.reverse_perm lexicon
  have tokens : tokenize "\\(a" = [⟨"\\(", .escaped .beginOptional⟩, ⟨"a", .text⟩] := by
    decide +kernel
  obtain rfl : r = _ := Option.some.inj (first.symm.trans rule)
  obtain rfl : t = _ := congrArg Prod.fst (Option.some.inj (next.symm.trans token))
  refine ⟨⟨by decide, most⟩, ⟨by decide, (ends 3 (by decide)).2⟩, same, ?_⟩
  exact (anyOrder backwardLexicon same).trans tokens

end CucumberExpressions
