import CucumberExpressions.Number.Double
import CucumberExpressions.Value.Moment

/-! Data: scalars, sequences, and mappings whose entries keep the order they were written in. -/

namespace CucumberExpressions

inductive Scalar
  | null
  | bool (b : Bool)
  | int (n : Int)
  | double (x : Double)
  | moment (m : Moment)
  | text (s : String)
  | bytes (bs : List UInt8)
  deriving DecidableEq, Repr

/-- Whether two keys name the same entry: numbers and truth values go by their number, moments by
the instant; a NaN is the same key only as the very same NaN. -/
def Scalar.sameKey : Scalar → Scalar → Bool
  | double x, double y => x == y || (x.isZero && y.isZero)
  | double x, int n | int n, double x => x.isInt n
  | double x, bool b | bool b, double x => x.isInt b.toNat
  | int n, bool b | bool b, int n => n == b.toNat
  | moment m, moment n => m.sameInstant n
  | j, k => j == k

inductive Value
  | scalar (s : Scalar)
  | seq (items : List Value)
  | map (entries : List (Scalar × Value))
  /-- Stands where data would contain itself. -/
  | loop

namespace Value

mutual

def decEq : (v w : Value) → Decidable (v = w)
  | scalar s, scalar t =>
    if h : s = t then isTrue (by rw [h]) else isFalse (by simpa using h)
  | seq vs, seq ws =>
    match decEqAll vs ws with
    | isTrue same => isTrue (by rw [same])
    | isFalse differ => isFalse (by simpa using differ)
  | map es, map fs =>
    match decEqEntries es fs with
    | isTrue same => isTrue (by rw [same])
    | isFalse differ => isFalse (by simpa using differ)
  | loop, loop => isTrue rfl
  | scalar _, seq _ | scalar _, map _ | scalar _, loop => isFalse (by simp)
  | seq _, scalar _ | seq _, map _ | seq _, loop => isFalse (by simp)
  | map _, scalar _ | map _, seq _ | map _, loop => isFalse (by simp)
  | loop, scalar _ | loop, seq _ | loop, map _ => isFalse (by simp)

def decEqAll : (vs ws : List Value) → Decidable (vs = ws)
  | [], [] => isTrue rfl
  | [], _ :: _ => isFalse (by simp)
  | _ :: _, [] => isFalse (by simp)
  | v :: vs, w :: ws =>
    match decEq v w with
    | isTrue same =>
      match decEqAll vs ws with
      | isTrue rest => isTrue (by rw [same, rest])
      | isFalse differ => isFalse (by simp [differ])
    | isFalse differ => isFalse (by simp [differ])

def decEqEntries : (es fs : List (Scalar × Value)) → Decidable (es = fs)
  | [], [] => isTrue rfl
  | [], _ :: _ => isFalse (by simp)
  | _ :: _, [] => isFalse (by simp)
  | (j, v) :: es, (k, w) :: fs =>
    if h : j = k then
      match decEq v w with
      | isTrue same =>
        match decEqEntries es fs with
        | isTrue rest => isTrue (by rw [h, same, rest])
        | isFalse differ => isFalse (by simp [differ])
      | isFalse differ => isFalse (by simp [differ])
    else isFalse (by simp [h])

end

instance : DecidableEq Value := decEq

def null : Value := scalar .null

def text (s : String) : Value := scalar (.text s)

def record (fields : List (String × Value)) : Value :=
  map (fields.map fun (name, v) => (.text name, v))

end Value

abbrev Entries (α : Type := Value) := List (Scalar × α)

namespace Entries

/-- Writes an entry: over the one of the same key, which keeps its place and key, or at the end. -/
def put {α : Type} (key : Scalar) (value : α) : Entries α → Entries α
  | [] => [(key, value)]
  | (k, v) :: rest => if k.sameKey key then (k, value) :: rest else (k, v) :: put key value rest

def ofList {α : Type} (entries : List (Scalar × α)) : Entries α :=
  entries.foldl (fun made (k, v) => put k v made) []

def field? {α : Type} (name : String) : Entries α → Option α
  | [] => none
  | (k, v) :: rest => if k = .text name then some v else field? name rest

end Entries

end CucumberExpressions
