import CucumberExpressions.Proofs.Canonical
import Mathlib.Algebra.Ring.Nat

/-! Reading in parts: a stream that several readers share gives each of them the tokens that come
next, however many are asked for at a time; reading the expression anew starts at its first token.
-/

namespace CucumberExpressions

namespace TokenStream

theorem read_cuts (n : Nat) (stream : TokenStream) :
    (stream.read n).1 = (tokensOf stream.rest).take n ∧
      tokensOf (stream.read n).2.rest = (tokensOf stream.rest).drop n := by
  induction n generalizing stream with
  | zero => exact ⟨rfl, rfl⟩
  | succ n ih =>
      cases first : nextToken? stream.rest with
      | none =>
          rw [read, next?_eq_none first, tokensOf_of_none first]
          exact ⟨rfl, rfl⟩
      | some found =>
          obtain ⟨t, later⟩ := found
          obtain ⟨next, given, rfl⟩ := exists_next? first
          obtain ⟨taken, left⟩ := ih next
          rw [read, given, tokensOf_of_some first]
          exact ⟨congrArg (t :: ·) taken, left⟩

end TokenStream

/-- What a reader asks for: at most `n` tokens of the stream that all readers share, or of the
expression from its start. -/
inductive Demand
  | shared (n : Nat)
  | anew (n : Nat)
  deriving DecidableEq, Repr

namespace Demand

def share : Demand → Nat
  | shared n => n
  | anew _ => 0

def shareBefore (ds : List Demand) (k : Nat) : Nat := ((ds.take k).map share).sum

def cut (ts : List Token) (count : Nat) : Demand → List Token
  | shared n => (ts.drop count).take n
  | anew n => ts.take n

theorem shareBefore_cons_succ (d : Demand) (ds : List Demand) (k : Nat) :
    shareBefore (d :: ds) (k + 1) = d.share + shareBefore ds k := by
  rw [shareBefore, List.take_succ_cons, List.map_cons, List.sum_cons, shareBefore]

end Demand

structure Reading where
  expression : String
  stream : TokenStream

structure Answered where
  demand : Demand
  tokens : List Token

def Answered.share (a : Answered) : List Token :=
  match a.demand with
  | .shared _ => a.tokens
  | .anew _ => []

namespace Reading

def start (expression : String) : Reading := ⟨expression, .ofExpression expression⟩

def answer (r : Reading) : Demand → List Token × Reading
  | .shared n => ((r.stream.read n).1, { r with stream := (r.stream.read n).2 })
  | .anew n => (((TokenStream.ofExpression r.expression).read n).1, r)

def answers (r : Reading) : List Demand → List Answered
  | [] => []
  | d :: ds => ⟨d, (r.answer d).1⟩ :: (r.answer d).2.answers ds

/-- Whether just the first `count` tokens have been given to the readers. -/
def Given (count : Nat) (r : Reading) : Prop :=
  tokensOf r.stream.rest = (tokenize r.expression).drop count

variable {r : Reading} {count : Nat}

theorem given_start (s : String) : (start s).Given 0 := rfl

theorem expression_answer (r : Reading) (d : Demand) :
    (r.answer d).2.expression = r.expression := by
  cases d <;> rfl

theorem Given.answer (given : r.Given count) (d : Demand) :
    (r.answer d).1 = d.cut (tokenize r.expression) count ∧
      (r.answer d).2.Given (count + d.share) := by
  cases d with
  | shared n =>
      obtain ⟨taken, left⟩ := r.stream.read_cuts n
      rw [given] at taken left
      exact ⟨taken, left.trans List.drop_drop⟩
  | anew n => exact ⟨((TokenStream.ofExpression r.expression).read_cuts n).1, given⟩

theorem Given.answers (given : r.Given count) (ds : List Demand) :
    (r.answers ds).map Answered.tokens =
      ds.mapIdx fun k d => d.cut (tokenize r.expression) (count + Demand.shareBefore ds k) := by
  induction ds generalizing r count with
  | nil => rfl
  | cons d ds ih =>
      obtain ⟨tokens, later⟩ := given.answer d
      rw [Reading.answers, List.map_cons, ih later, tokens, expression_answer, List.mapIdx_cons]
      simp only [Demand.shareBefore_cons_succ, Nat.add_assoc]
      rfl

theorem Given.shares (given : r.Given count) (ds : List Demand) :
    (r.answers ds).flatMap Answered.share =
      ((tokenize r.expression).drop count).take (ds.map Demand.share).sum := by
  induction ds generalizing r count with
  | nil => rfl
  | cons d ds ih =>
      obtain ⟨tokens, later⟩ := given.answer d
      rw [Reading.answers, List.flatMap_cons, ih later, expression_answer, List.map_cons,
        List.sum_cons]
      cases d with
      | shared n =>
          have first : Answered.share ⟨.shared n, (r.answer (.shared n)).1⟩ =
              ((tokenize r.expression).drop count).take n := tokens
          rw [first, Demand.share, List.take_add, List.drop_drop]
      | anew n =>
          have none : Answered.share ⟨.anew n, (r.answer (.anew n)).1⟩ = [] := rfl
          rw [none, Demand.share, List.nil_append, Nat.zero_add, Nat.add_zero]

end Reading

/-- Reading in parts and at once come to the same. Whatever is asked for, in parts of any sizes and
with readings from the start between them, each part has the tokens that come after those of the
parts before it, the parts put together are the front of all tokens, and there is none in a part
that is asked for when all tokens have been given; a reading from the start begins with the first
token. -/
theorem answers_cut_tokens (s : String) (ds : List Demand) :
    ((Reading.start s).answers ds).map Answered.tokens =
        ds.mapIdx (fun k d => d.cut (tokenize s) (Demand.shareBefore ds k)) ∧
      ((Reading.start s).answers ds).flatMap Answered.share =
        (tokenize s).take (ds.map Demand.share).sum ∧
      ∀ k n, ds[k]? = some (.shared n) → (tokenize s).length ≤ Demand.shareBefore ds k →
        (((Reading.start s).answers ds).map Answered.tokens)[k]? = some [] := by
  have cuts : ((Reading.start s).answers ds).map Answered.tokens =
      ds.mapIdx fun k d => d.cut (tokenize s) (Demand.shareBefore ds k) := by
    have given := (Reading.given_start s).answers ds
    simp only [Nat.zero_add] at given
    exact given
  refine ⟨cuts, (Reading.given_start s).shares ds, ?_⟩
  intro k n asked ended
  rw [cuts, List.getElem?_mapIdx, asked, Option.map_some, Demand.cut, List.drop_of_length_le ended,
    List.take_nil]

def mixedDemands : List Demand := [.shared 2, .anew 1, .shared 0, .shared 3, .shared 1]

theorem answers_cut_tokens_mixedDemands :
    (tokenize "(a)").length ≤ Demand.shareBefore mixedDemands 4 ∧
      (((Reading.start "(a)").answers mixedDemands).map Answered.tokens)[4]? = some [] := by
  have ended : (tokenize "(a)").length ≤ Demand.shareBefore mixedDemands 4 := by decide +kernel
  exact ⟨ended, (answers_cut_tokens "(a)" mixedDemands).2.2 4 1 rfl ended⟩

end CucumberExpressions
