import CucumberExpressions.Proofs.Conforming
import Mathlib.Data.List.Nodup

/-! Fields of nodes: what is read at each place of a tree's data, and that a mapping is read by the
fields that are declared for it and by nothing else. -/

namespace CucumberExpressions

namespace Entries

variable {α : Type} {name : String} {key : Scalar} {v w : α} {es es' front back : Entries α}

theorem field?_append (name : String) (front back : Entries α) :
    (front ++ back).field? name = (front.field? name).or (back.field? name) := by
  induction front with
  | nil => rfl
  | cons entry front ih =>
      obtain ⟨key, v⟩ := entry
      by_cases here : key = .text name
      · simp [field?, here]
      · simp [field?, here, ih]

theorem field?_insert_of_ne (other : key ≠ .text name) :
    Entries.field? name (front ++ (key, v) :: back) = Entries.field? name (front ++ back) := by
  simp [field?_append, field?, other]

theorem field?_insert (absent : Entries.field? name (front ++ back) = none) :
    Entries.field? name (front ++ (.text name, v) :: back) = some v := by
  rw [field?_append, Option.or_eq_none_iff] at absent
  simp [field?_append, field?, absent.1]

theorem rel_field?_refl {R : α → α → Prop} (refl : ∀ a, R a a) (name : String) (es : Entries α) :
    Option.Rel R (es.field? name) (es.field? name) := by
  cases es.field? name with
  | none => exact .none
  | some a => exact .some (refl a)

theorem rel_field?_replace {R : α → α → Prop} (refl : ∀ a, R a a)
    (here : key = .text name → R v w) :
    Option.Rel R (Entries.field? name (front ++ (key, v) :: back))
      (Entries.field? name (front ++ (key, w) :: back)) := by
  rw [field?_append, field?_append]
  cases Entries.field? name front with
  | some a => exact .some (refl a)
  | none =>
      by_cases same : key = .text name
      · simpa [field?, same] using here same
      · simpa [field?, same] using rel_field?_refl refl name back

theorem field?_eq_some_iff_mem (distinct : (es.map Prod.fst).Nodup) :
    es.field? name = some v ↔ (.text name, v) ∈ es := by
  induction es with
  | nil => simp [field?]
  | cons entry es ih =>
      obtain ⟨key, u⟩ := entry
      rw [List.map_cons, List.nodup_cons] at distinct
      rw [List.mem_cons, Prod.mk.injEq, field?]
      split
      · next here =>
          have notLater : (Scalar.text name, v) ∉ es := by
            intro later
            apply distinct.1
            rw [here]
            exact List.mem_map.2 ⟨_, later, rfl⟩
          simp [here, notLater, eq_comm]
      · next other =>
          rw [ih distinct.2]
          simp [Ne.symm other]

theorem field?_of_perm (name : String) (distinct : (es.map Prod.fst).Nodup) (perm : es.Perm es') :
    es.field? name = es'.field? name := by
  have distinct' : (es'.map Prod.fst).Nodup := (perm.map Prod.fst).nodup_iff.1 distinct
  apply Option.ext
  intro v
  rw [field?_eq_some_iff_mem distinct, field?_eq_some_iff_mem distinct', perm.mem_iff]

end Entries

namespace Expected

def readChildren (k : BranchKind) : Value → Checked (List Node)
  | .seq items => gather k (items.map (check · (childOf k)))
  | _ => .fail .notSequence

theorem checkChildren_eq_readChildren (es : Entries) (k : BranchKind) :
    checkChildren es k =
      match es.field? "nodes" with
      | none => if k.minChildren = 0 then .ok [] else .error [⟨[.key "nodes"], .missing⟩]
      | some v => (readChildren k v).under (.key "nodes") := by
  rw [checkChildren_eq]
  cases es.field? "nodes" with
  | none => rfl
  | some v => cases v <;> rfl

end Expected

def Value.text? : Value → Option String
  | .scalar (.text s) => some s
  | _ => none

theorem Value.text?_eq_some_iff {v : Value} {s : String} : v.text? = some s ↔ v = .text s := by
  unfold Value.text?
  split
  · next u => simp [Value.text]
  · next other =>
      refine iff_of_false (by simp) ?_
      exact other s

section Congruence

variable {es es' : Entries}

theorem Entries.require_congr {α : Type} {name : String} {check : Value → Checked α}
    {R : Value → Value → Prop} (read : ∀ v w, R v w → check v = check w)
    (same : Option.Rel R (es.field? name) (es'.field? name)) :
    es.require name check = es'.require name check := by
  unfold Entries.require
  generalize es.field? name = v?, es'.field? name = w? at same
  cases same with
  | none => rfl
  | some related => simp only [read _ _ related]

theorem Token.checkLeaf_congr (v w : Value) (same : Token.check v = Token.check w) :
    Token.checkLeaf v = Token.checkLeaf w := by
  rw [Token.checkLeaf, Token.checkLeaf, same]

namespace Expected

theorem choose_eq (kinds : List NodeKind) (es : Entries) :
    choose kinds es =
      match es.field? "type" with
      | none => .error .tagAbsent
      | some v =>
        match v.text?.bind fun name => kinds.find? (·.name = name) with
        | some k => .ok k
        | none => .error .tagNotAllowed := by
  unfold choose
  cases es.field? "type" with
  | none => rfl
  | some v =>
      cases v with
      | scalar s => cases s <;> rfl
      | _ => rfl

theorem checkTag_eq (k : NodeKind) (es : Entries) :
    checkTag k es =
      match es.field? "type" with
      | none => .ok ()
      | some v => if v.text? = some k.name then .ok () else .error [⟨[.key "type"], .otherTag⟩] := by
  unfold checkTag
  cases es.field? "type" with
  | none => rfl
  | some v =>
      cases v with
      | scalar s => cases s <;> simp [Value.text?]
      | _ => rfl

theorem choose_congr (kinds : List NodeKind)
    (same : Option.Rel (fun v w => v.text? = w.text?) (es.field? "type") (es'.field? "type")) :
    choose kinds es = choose kinds es' := by
  rw [choose_eq, choose_eq]
  generalize es.field? "type" = v?, es'.field? "type" = w? at same
  cases same with
  | none => rfl
  | some text => simp only [text]

theorem checkTag_congr (k : NodeKind)
    (same : Option.Rel (fun v w => v.text? = w.text?) (es.field? "type") (es'.field? "type")) :
    checkTag k es = checkTag k es' := by
  rw [checkTag_eq, checkTag_eq]
  generalize es.field? "type" = v?, es'.field? "type" = w? at same
  cases same with
  | none => rfl
  | some text => simp only [text]

theorem checkChildren_congr {k : BranchKind}
    (same : Option.Rel (fun v w => readChildren k v = readChildren k w) (es.field? "nodes")
      (es'.field? "nodes")) :
    checkChildren es k = checkChildren es' k := by
  rw [checkChildren_eq_readChildren, checkChildren_eq_readChildren]
  generalize es.field? "nodes" = v?, es'.field? "nodes" = w? at same
  cases same with
  | none => rfl
  | some read => simp only [read]

theorem check_of_choose {kinds : List NodeKind} {k : NodeKind} (chosen : choose kinds es = .ok k) :
    check (.map es) (.tagged kinds) = (check (.map es) (.plain k)).under (.tag k) := by
  simp only [check, chosen]

end Expected

end Congruence

/-- What a place in the data of a tree holds: a node whose tag has to tell which of several kinds it
is, a node of one kind, or a part of a node or of its token. -/
inductive Slot
  | choice (kinds : List NodeKind)
  | node (kind : NodeKind)
  | tag (kind : NodeKind)
  | children (kind : BranchKind)
  | token
  | tokenText
  | tokenKind
  deriving DecidableEq, Repr

namespace Slot

def ofExpected : Expected → Slot
  | .tagged kinds => choice kinds
  | .plain kind => node kind

def fields : Slot → List (String × Slot)
  | node .text => [("type", tag .text), ("token", token)]
  | node (.branch b) => [("type", tag (.branch b)), ("nodes", children b)]
  | token => [("text", tokenText), ("type", tokenKind)]
  | _ => []

def required : Slot → List String
  | node .text => ["token"]
  | node (.branch .alternation) => ["nodes"]
  | token => ["text", "type"]
  | _ => []

/-- What a mapping at the slot is read as; at a choice, its tag chooses. -/
inductive ReadAs : Slot → Entries → Slot → Prop
  | chosen {kinds : List NodeKind} {es : Entries} {k : NodeKind} :
      Expected.choose kinds es = .ok k → ReadAs (choice kinds) es (node k)
  | node {k : NodeKind} {es : Entries} : ReadAs (node k) es (node k)
  | token {es : Entries} : ReadAs token es token

def Alike : Slot → Value → Value → Prop
  | choice kinds, v, w => Expected.check v (.tagged kinds) = Expected.check w (.tagged kinds)
  | node k, v, w => Expected.check v (.plain k) = Expected.check w (.plain k)
  | tag _, v, w => v.text? = w.text?
  | children b, v, w => Expected.readChildren b v = Expected.readChildren b w
  | token, v, w => Token.check v = Token.check w
  | tokenText, v, w => v.checkText = w.checkText
  | tokenKind, v, w => Kind.check v = Kind.check w

variable {slot record : Slot} {es es' : Entries}

theorem Alike.refl (slot : Slot) (v : Value) : slot.Alike v v := by
  cases slot <;> simp [Alike]

theorem alike_ofExpected_iff {e : Expected} {v w : Value} :
    (ofExpected e).Alike v w ↔ Expected.check v e = Expected.check w e := by
  cases e <;> simp [ofExpected, Alike]

theorem alike_node_of_fields {k : NodeKind}
    (fields : ∀ f ∈ (node k).fields, Option.Rel f.2.Alike (es.field? f.1) (es'.field? f.1)) :
    (node k).Alike (.map es) (.map es') := by
  cases k with
  | text =>
      have tag : Expected.checkTag .text es = Expected.checkTag .text es' :=
        Expected.checkTag_congr .text (fields ("type", tag .text) (by simp [Slot.fields]))
      have leaf : es.require "token" Token.checkLeaf = es'.require "token" Token.checkLeaf :=
        Entries.require_congr Token.checkLeaf_congr (fields ("token", token) (by simp [Slot.fields]))
      simp only [Alike, Expected.check, Expected.build, tag, leaf]
  | branch b =>
      have tag : Expected.checkTag (.branch b) es = Expected.checkTag (.branch b) es' :=
        Expected.checkTag_congr (.branch b) (fields ("type", tag (.branch b)) (by simp [Slot.fields]))
      have children : Expected.checkChildren es b = Expected.checkChildren es' b :=
        Expected.checkChildren_congr (fields ("nodes", children b) (by simp [Slot.fields]))
      simp only [Alike, Expected.check, Expected.build, tag, children]

theorem alike_of_fields (known : slot.ReadAs es record)
    (fields : ∀ f ∈ record.fields, Option.Rel f.2.Alike (es.field? f.1) (es'.field? f.1)) :
    slot.Alike (.map es) (.map es') := by
  cases known with
  | token =>
      have text : es.require "text" Value.checkText = es'.require "text" Value.checkText :=
        Entries.require_congr (fun _ _ => id) (fields ("text", tokenText) (by simp [Slot.fields]))
      have kind : es.require "type" Kind.check = es'.require "type" Kind.check :=
        Entries.require_congr (fun _ _ => id) (fields ("type", tokenKind) (by simp [Slot.fields]))
      simp only [Alike, Token.check, text, kind]
  | node => exact alike_node_of_fields fields
  | @chosen kinds _ k chosen =>
      have tag : Option.Rel (fun v w => v.text? = w.text?) (es.field? "type") (es'.field? "type") :=
        fields ("type", tag k) (by cases k <;> simp [Slot.fields])
      have chosen' : Expected.choose kinds es' = .ok k := by
        rw [← Expected.choose_congr kinds tag, chosen]
      have same : Expected.check (.map es) (.plain k) = Expected.check (.map es') (.plain k) :=
        alike_node_of_fields fields
      change Expected.check (.map es) (.tagged kinds) = Expected.check (.map es') (.tagged kinds)
      rw [Expected.check_of_choose chosen, Expected.check_of_choose chosen', same]

end Slot

namespace Node

theorem check_eq_checkAs_under {k : NodeKind} {es : Entries}
    (tag : es.field? "type" = some (.text k.name)) :
    check (.map es) = (checkAs k (.map es)).under (.tag k) :=
  Expected.check_of_choose (Expected.choose_eq_ok_iff.2 ⟨k.mem_all, tag⟩)

theorem checkAs_insert_tag {k : NodeKind} {front back : Entries}
    (absent : Entries.field? "type" (front ++ back) = none) :
    checkAs k (.map (front ++ (.text "type", .text k.name) :: back)) =
      checkAs k (.map (front ++ back)) := by
  have tag : Expected.checkTag k (front ++ (.text "type", .text k.name) :: back) =
      Expected.checkTag k (front ++ back) := by
    rw [Expected.checkTag_eq, Expected.checkTag_eq, Entries.field?_insert absent, absent]
    exact if_pos rfl
  have other : ∀ name, name ≠ "type" →
      Entries.field? name (front ++ (.text "type", .text k.name) :: back) =
        Entries.field? name (front ++ back) := by
    intro name different
    apply Entries.field?_insert_of_ne
    simpa using different.symm
  cases k with
  | text =>
      have leaf : Entries.require "token" Token.checkLeaf
          (front ++ (.text "type", .text NodeKind.text.name) :: back) =
            Entries.require "token" Token.checkLeaf (front ++ back) := by
        rw [Entries.require, Entries.require, other "token" (by decide)]
      simp only [checkAs, Expected.check, Expected.build, tag, leaf]
  | branch b =>
      have children : Expected.checkChildren
          (front ++ (.text "type", .text (NodeKind.branch b).name) :: back) b =
            Expected.checkChildren (front ++ back) b := by
        rw [Expected.checkChildren_eq_readChildren, Expected.checkChildren_eq_readChildren,
          other "nodes" (by decide)]
      simp only [checkAs, Expected.check, Expected.build, tag, children]

/-- Reading a node of a known kind agrees with reading any node. With the tag of the kind both give
the same tree, or the same problems in the same order, told behind the tag by the second. Without a
tag the first gives what it gives with the tag added, at any place. -/
theorem check_agrees_with_checkAs (k : NodeKind) :
    (∀ es : Entries, es.field? "type" = some (.text k.name) →
      (∃ n, checkAs k (.map es) = .ok n ∧ check (.map es) = .ok n) ∨
      ∃ ps, checkAs k (.map es) = .error ps ∧
        check (.map es) = .error (ps.map (·.under (.tag k)))) ∧
    ∀ front back : Entries, Entries.field? "type" (front ++ back) = none →
      checkAs k (.map (front ++ (.text "type", .text k.name) :: back)) =
        checkAs k (.map (front ++ back)) := by
  constructor
  · intro es tag
    rw [check_eq_checkAs_under tag]
    cases checkAs k (.map es) with
    | ok n => exact Or.inl ⟨n, rfl, rfl⟩
    | error ps => exact Or.inr ⟨ps, rfl, rfl⟩
  · intro front back absent
    exact checkAs_insert_tag absent

theorem check_agrees_with_checkAs_group :
    checkAs (.branch .optional)
        (.record [("type", .text "OPTIONAL_NODE"), ("nodes", .seq [.record [], .null])]) =
      .error [⟨[.key "nodes", .index 0], .tagAbsent⟩, ⟨[.key "nodes", .index 1], .notTagged⟩] ∧
    check (.record [("type", .text "OPTIONAL_NODE"), ("nodes", .seq [.record [], .null])]) =
      .error [⟨[.tag (.branch .optional), .key "nodes", .index 0], .tagAbsent⟩,
        ⟨[.tag (.branch .optional), .key "nodes", .index 1], .notTagged⟩] ∧
    checkAs (.branch .optional) (.record [("nodes", .seq [.record [], .null])]) =
      .error [⟨[.key "nodes", .index 0], .tagAbsent⟩, ⟨[.key "nodes", .index 1], .notTagged⟩] := by
  have agrees := check_agrees_with_checkAs (.branch .optional)
  have alone : checkAs (.branch .optional)
      (.record [("type", .text "OPTIONAL_NODE"), ("nodes", .seq [.record [], .null])]) =
        .error [⟨[.key "nodes", .index 0], .tagAbsent⟩, ⟨[.key "nodes", .index 1], .notTagged⟩] := rfl
  have untagged := agrees.2 [] [(.text "nodes", .seq [.record [], .null])] rfl
  refine ⟨alone, ?_, untagged.symm.trans alone⟩
  cases agrees.1 [(.text "type", .text "OPTIONAL_NODE"), (.text "nodes", .seq [.record [], .null])]
      rfl with
  | inl read =>
      obtain ⟨n, read, _⟩ := read
      cases alone.symm.trans read
  | inr failed =>
      obtain ⟨ps, failed, whole⟩ := failed
      cases alone.symm.trans failed
      exact whole

end Node

end CucumberExpressions
