import CucumberExpressions.Path.Basic
import Mathlib.Tactic.Common

/-! Written paths: a path that was read is written as a text that is read as the same path. -/

namespace CucumberExpressions.Path

theorem splitSlashes_eq_splitOn (cs : List Char) : splitSlashes cs = cs.splitOn '/' := by
  induction cs with
  | nil => rfl
  | cons c cs ih =>
      rw [splitSlashes, ih, List.splitOn_cons_eq_if_modifyHead]
      by_cases slash : c = '/'
      · simp [slash]
      · rcases List.exists_cons_of_ne_nil (List.splitOn_ne_nil '/' cs) with ⟨part, parts, cut⟩
        simp [slash, cut]

theorem slash_notMem_of_mem_splitSlashes {cs : List Char} :
    ∀ part ∈ splitSlashes cs, '/' ∉ part := by
  induction cs with
  | nil => simp [splitSlashes]
  | cons c cs ih =>
      intro part member
      rw [splitSlashes] at member
      split at member
      · rcases List.mem_cons.1 member with rfl | later
        · exact List.not_mem_nil
        · exact ih part later
      · next noSlash =>
          split at member
          · rw [List.mem_singleton.1 member, List.mem_singleton]
            exact fun slash => noSlash slash.symm
          · next first parts cut =>
              rw [cut] at ih
              rcases List.mem_cons.1 member with rfl | later
              · rw [List.mem_cons, not_or]
                exact ⟨fun slash => noSlash slash.symm, ih first List.mem_cons_self⟩
              · exact ih part (List.mem_cons_of_mem first later)

/-- A part that names something and is one part in writing. -/
structure IsPart (part : String) : Prop where
  slash : '/' ∉ part.toList
  nonempty : part ≠ ""
  dot : part ≠ "."

theorem isPart_of_mem_partsOf {text part : String} (member : part ∈ partsOf text) :
    IsPart part := by
  simp only [partsOf, List.mem_filter, List.mem_map, Bool.and_eq_true, bne_iff_ne] at member
  rcases member with ⟨⟨chars, piece, rfl⟩, nonempty, dot⟩
  refine ⟨?_, nonempty, dot⟩
  rw [String.toList_ofList]
  exact slash_notMem_of_mem_splitSlashes chars piece

theorem partsOf_intercalate {parts : List String} (each : ∀ part ∈ parts, IsPart part) :
    partsOf ("/".intercalate parts) = parts := by
  by_cases none : parts = []
  · rw [none]
    rfl
  · have slash : "/".toList = ['/'] := rfl
    have whole : ∀ chars ∈ parts.map String.toList, '/' ∉ chars := by
      intro chars member
      rcases List.mem_map.1 member with ⟨part, inParts, rfl⟩
      exact (each part inParts).slash
    have cut : splitSlashes ("/".intercalate parts).toList = parts.map String.toList := by
      rw [splitSlashes_eq_splitOn, String.toList_intercalate, slash]
      exact List.splitOn_intercalate '/' whole (by simpa using none)
    have written : (parts.map String.toList).map String.ofList = parts := by
      rw [List.map_map]
      exact (List.map_congr_left fun _ _ => String.ofList_toList).trans (List.map_id parts)
    rw [partsOf, cut, written, List.filter_eq_self]
    intro part member
    simp [(each part member).nonempty, (each part member).dot]

theorem head?_intercalate_ne_slash {parts : List String} (each : ∀ part ∈ parts, IsPart part) :
    ("/".intercalate parts).toList.head? ≠ some '/' := by
  cases parts with
  | nil => decide +kernel
  | cons part parts =>
      have isPart := each part List.mem_cons_self
      have chars : part.toList ≠ [] := by simpa using isPart.nonempty
      rcases List.exists_cons_of_ne_nil chars with ⟨c, cs, spelled⟩
      have other : c ≠ '/' := by
        rintro rfl
        exact isPart.slash (by simp [spelled])
      cases parts <;> simp [String.toList_intercalate, spelled, other]

theorem ofString_root_append (root : PathRoot) {text : String}
    (inner : text.toList.head? ≠ some '/') :
    ofString (root.name ++ text) = ⟨root, partsOf text⟩ := by
  have start : text.toList.takeWhile (· == '/') = [] := by
    cases chars : text.toList with
    | nil => rfl
    | cons c cs =>
        have other : c ≠ '/' := by simpa [chars] using inner
        simp [other]
  have one : "/".toList = ['/'] := rfl
  have two : "//".toList = ['/', '/'] := rfl
  cases root <;>
    simp [ofString, rootOf, partsOf, PathRoot.name, start, splitSlashes, one, two]

def Plain (p : Path) : Prop := ∀ part ∈ p.parts, IsPart part

theorem plain_ofString (text : String) : (ofString text).Plain :=
  fun _ member => isPart_of_mem_partsOf member

theorem ofString_toString {p : Path} (plain : p.Plain) : ofString p.toString = p := by
  rcases p with ⟨root, parts⟩
  rw [toString]
  split
  · next here =>
      rcases here with ⟨rfl, rfl⟩
      decide +kernel
  · rw [ofString_root_append root (head?_intercalate_ne_slash plain), partsOf_intercalate plain]

end CucumberExpressions.Path
