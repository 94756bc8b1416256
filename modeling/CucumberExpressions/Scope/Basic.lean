import CucumberExpressions.Token.Basic

/-! Scopes: the tokens that a construct may look at, with the place of the nearest closing bracket
at or after each position. -/

namespace CucumberExpressions

def Token.isClose (t : Token) : Bool := t.kind == .mark .endOptional

/-- The nearest close at or after each position and at the end, found from the back; the first token
stands at `start`. -/
def closeTable (start : Nat) : List Token → List (Option Nat)
  | [] => [none]
  | t :: ts =>
    let later := closeTable (start + 1) ts
    (if t.isClose then some start else later.headD none) :: later

def nearestClose? (tokens : List Token) (i : Nat) : Option Nat :=
  ((tokens.drop i).findIdx? Token.isClose).map (i + ·)

@[simp] theorem length_closeTable (start : Nat) (ts : List Token) :
    (closeTable start ts).length = ts.length + 1 := by
  induction ts generalizing start with
  | nil => rfl
  | cons t ts ih => simp [closeTable, ih]

theorem getElem?_closeTable (start : Nat) (ts : List Token) (i : Nat) (h : i ≤ ts.length) :
    (closeTable start ts)[i]? = some ((nearestClose? ts i).map (start + ·)) := by
  induction ts generalizing start i with
  | nil =>
    obtain rfl : i = 0 := by simpa using h
    rfl
  | cons t ts ih =>
    cases i with
    | succ i =>
      have later := ih (start + 1) i (by simpa using h)
      simp only [closeTable, List.getElem?_cons_succ, later, nearestClose?, List.drop_succ_cons,
        Option.map_map, Option.some.injEq]
      congr 1
      funext n
      simp only [Function.comp_apply]
      omega
    | zero =>
      have later := ih (start + 1) 0 (by simp)
      simp only [closeTable, List.getElem?_cons_zero, nearestClose?, List.drop_zero,
        List.findIdx?_cons]
      split
      · rfl
      · rw [List.headD_eq_head?_getD, List.head?_eq_getElem?, later]
        simp only [Option.getD_some, nearestClose?, List.drop_zero, Option.map_map,
          Option.some.injEq]
        congr 1
        funext n
        simp only [Function.comp_apply]
        omega

/-- The table is fixed by the tokens; it is kept so that no bracket has to look for its close. -/
structure Scope where
  tokens : Array Token
  closes : Array (Option Nat)
  closes_eq : closes = (closeTable 0 tokens.toList).toArray

namespace Scope

def ofTokens (tokens : List Token) : Scope := ⟨tokens.toArray, (closeTable 0 tokens).toArray, rfl⟩

def size (s : Scope) : Nat := s.tokens.size

theorem size_closes (s : Scope) : s.closes.size = s.size + 1 := by
  simp [s.closes_eq, size]

def close? (s : Scope) (i : Nat) (h : i ≤ s.size) : Option Nat :=
  have : i < s.closes.size := by
    rw [size_closes]
    omega
  s.closes[i]

/-- The tokens from `start` up to `stop`, as a scope of their own that counts from zero. -/
def slice (s : Scope) (start stop : Nat) : Scope := ofTokens (s.tokens.extract start stop).toList

@[simp] theorem toList_tokens_ofTokens (ts : List Token) : (ofTokens ts).tokens.toList = ts := rfl

@[simp] theorem size_ofTokens (ts : List Token) : (ofTokens ts).size = ts.length := by
  simp [ofTokens, size]

theorem close?_eq (s : Scope) (i : Nat) (h : i ≤ s.size) :
    s.close? i h = nearestClose? s.tokens.toList i := by
  have inTable := getElem?_closeTable 0 s.tokens.toList i (by simpa [size] using h)
  have bound : i < s.closes.size := by
    rw [size_closes]
    omega
  apply Option.some.inj
  calc
    some (s.close? i h) = s.closes[i]? := (Array.getElem?_eq_getElem bound).symm
    _ = (closeTable 0 s.tokens.toList)[i]? := by simp [s.closes_eq]
    _ = some (nearestClose? s.tokens.toList i) := by
      rw [inTable]
      simp

theorem le_of_close? {s : Scope} {i e : Nat} {h : i ≤ s.size} (found : s.close? i h = some e) :
    i ≤ e := by
  rw [close?_eq, nearestClose?, Option.map_eq_some_iff] at found
  obtain ⟨n, _, rfl⟩ := found
  omega

theorem lt_size_of_close? {s : Scope} {i e : Nat} {h : i ≤ s.size}
    (found : s.close? i h = some e) : e < s.size := by
  rw [close?_eq, nearestClose?, Option.map_eq_some_iff] at found
  obtain ⟨n, at_n, rfl⟩ := found
  have bound := (List.findIdx?_eq_some_iff_getElem.1 at_n).1
  rw [List.length_drop, Array.length_toList] at bound
  simp only [size]
  omega

@[simp] theorem size_slice (s : Scope) (start stop : Nat) :
    (s.slice start stop).size = min stop s.size - start := by
  rw [slice, size_ofTokens, Array.length_toList, Array.size_extract, size]

end Scope

end CucumberExpressions
