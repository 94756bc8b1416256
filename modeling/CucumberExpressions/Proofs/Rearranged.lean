import CucumberExpressions.Proofs.NodeFields
import Mathlib.Logic.Relation

/-! Rearranged data: neither the order of the keys in a mapping nor a key that is not declared for
it changes what the data is read as, at any depth. -/

namespace CucumberExpressions

inductive Value.Distinct : Value → Prop
  | scalar (s : Scalar) : Distinct (.scalar s)
  | seq {items : List Value} : (∀ v ∈ items, v.Distinct) → Distinct (.seq items)
  | map {es : Entries} : (es.map Prod.fst).Nodup → (∀ entry ∈ es, entry.2.Distinct) →
      Distinct (.map es)
  | loop : Distinct .loop

namespace Value

theorem distinct_seq_iff {items : List Value} :
    (seq items).Distinct ↔ ∀ v ∈ items, v.Distinct :=
  ⟨fun | .seq each => each, .seq⟩

theorem distinct_map_iff {es : Entries} :
    (map es).Distinct ↔ (es.map Prod.fst).Nodup ∧ ∀ entry ∈ es, entry.2.Distinct :=
  ⟨fun | .map once each => ⟨once, each⟩, fun both => .map both.1 both.2⟩

end Value

/-- The second value is the first one with the keys of one mapping, anywhere in it, in another
order. -/
inductive Value.Reorders : Value → Value → Prop
  | keys {es es' : Entries} : es.Perm es' → Reorders (.map es) (.map es')
  | entry {front back : Entries} {key : Scalar} {v w : Value} :
      Reorders v w → Reorders (.map (front ++ (key, v) :: back)) (.map (front ++ (key, w) :: back))
  | item {front back : List Value} {v w : Value} :
      Reorders v w → Reorders (.seq (front ++ v :: back)) (.seq (front ++ w :: back))

/-- The second value is the first one with one more key, in a mapping that is read as a node or a
token and for which this key is not declared. -/
inductive Slot.Adds : Slot → Value → Value → Prop
  | key {slot record : Slot} {front back : Entries} {key : Scalar} {v : Value} :
      slot.ReadAs (front ++ back) record → (∀ f ∈ record.fields, key ≠ .text f.1) →
      Adds slot (.map (front ++ back)) (.map (front ++ (key, v) :: back))
  | field {slot record inner : Slot} {front back : Entries} {name : String} {v w : Value} :
      slot.ReadAs (front ++ (.text name, v) :: back) record → (name, inner) ∈ record.fields →
      Adds inner v w →
      Adds slot (.map (front ++ (.text name, v) :: back)) (.map (front ++ (.text name, w) :: back))
  | item {b : BranchKind} {front back : List Value} {v w : Value} :
      Adds (.ofExpected (.childOf b)) v w →
      Adds (.children b) (.seq (front ++ v :: back)) (.seq (front ++ w :: back))

namespace Slot

variable {slot : Slot} {v w : Value}

theorem eq_of_mem_fields {name : String} {inner inner' : Slot} (declared : (name, inner) ∈ slot.fields)
    (declared' : (name, inner') ∈ slot.fields) : inner = inner' := by
  have once : (slot.fields.map Prod.fst).Nodup := by
    cases slot with
    | node k => cases k <;> simp [fields]
    | _ => simp [fields]
  exact congrArg Prod.snd (List.inj_on_of_nodup_map once declared declared' rfl)

theorem alike_item {b : BranchKind} {front back : List Value}
    (same : (ofExpected (.childOf b)).Alike v w) :
    (children b).Alike (.seq (front ++ v :: back)) (.seq (front ++ w :: back)) := by
  rw [alike_ofExpected_iff] at same
  simp only [Alike, Expected.readChildren, List.map_append, List.map_cons, same]

theorem alike_of_adds (adds : slot.Adds v w) : slot.Alike v w := by
  induction adds with
  | key known undeclared =>
      apply alike_of_fields known
      intro f member
      rw [Entries.field?_insert_of_ne (undeclared f member)]
      exact Entries.rel_field?_refl (Alike.refl f.2) f.1 _
  | field known declared _ ih =>
      apply alike_of_fields known
      rintro ⟨name', inner'⟩ member
      apply Entries.rel_field?_replace (Alike.refl inner')
      intro here
      cases here
      rw [← eq_of_mem_fields declared member]
      exact ih
  | item _ ih => exact alike_item ih

theorem alike_map {es es' : Entries}
    (same : ∀ slot name, Option.Rel (Alike slot) (es.field? name) (es'.field? name)) (slot : Slot) :
    slot.Alike (.map es) (.map es') := by
  cases slot with
  | choice kinds =>
      have choice : Expected.choose kinds es = Expected.choose kinds es' :=
        Expected.choose_congr kinds (same (tag .text) "type")
      cases chosen : Expected.choose kinds es with
      | ok k => exact alike_of_fields (.chosen chosen) fun f _ => same f.2 f.1
      | error violation =>
          rw [chosen] at choice
          simp only [Alike, Expected.check, chosen, ← choice]
  | node k => exact alike_of_fields .node fun f _ => same f.2 f.1
  | token => exact alike_of_fields .token fun f _ => same f.2 f.1
  | _ => rfl

theorem alike_of_reorders (reorders : v.Reorders w) (distinct : v.Distinct) (slot : Slot) :
    slot.Alike v w := by
  induction reorders generalizing slot with
  | @keys es es' perm =>
      cases distinct with
      | map once _ =>
          apply alike_map
          intro slot name
          rw [← Entries.field?_of_perm name once perm]
          exact Entries.rel_field?_refl (Alike.refl slot) name es
  | @entry front back key v w _ ih =>
      cases distinct with
      | map _ each =>
          have inner : v.Distinct := each (key, v) (by simp)
          apply alike_map
          intro slot name
          apply Entries.rel_field?_replace (Alike.refl slot)
          exact fun _ => ih inner slot
  | @item front back v w _ ih =>
      cases distinct with
      | seq each =>
          have inner : v.Distinct := each v (by simp)
          cases slot with
          | children b => exact alike_item (ih inner _)
          | _ => rfl

end Slot

/-- No mapping in either value has a key twice, and the second value has the keys of one mapping in
another order, or one more key where it is not declared. -/
structure Value.Rearranges (v w : Value) : Prop where
  left : v.Distinct
  right : w.Distinct
  change : v.Reorders w ∨ (Slot.ofExpected .anyNode).Adds v w

/-- Data is read as the same tree, or with the same problems in the same order, after any number of
rearrangements: new orders of keys, and keys that come or go where they are not declared. -/
theorem check_of_rearranged {v w : Value} (rearranged : Relation.EqvGen Value.Rearranges v w) :
    Node.check v = Node.check w := by
  induction rearranged with
  | rel v w step =>
      have alike : (Slot.ofExpected .anyNode).Alike v w := by
        cases step.change with
        | inl reorders => exact Slot.alike_of_reorders reorders step.left _
        | inr adds => exact Slot.alike_of_adds adds
      exact Slot.alike_ofExpected_iff.1 alike
  | refl v => rfl
  | symm v w _ same => exact same.symm
  | trans u v w _ _ first second => exact first.trans second

def textAround (token : Entries) : Value :=
  .map ([(.text "type", .text "TEXT_NODE")] ++ (.text "token", .map token) :: [])

def groupAround (token : Entries) : Value :=
  .map ([(.text "type", .text "OPTIONAL_NODE")] ++
    (.text "nodes", .seq ([] ++ textAround token :: [])) :: [])

theorem distinct_groupAround {token : Entries} (once : (token.map Prod.fst).Nodup)
    (each : ∀ entry ∈ token, entry.2.Distinct) : (groupAround token).Distinct := by
  simpa [groupAround, textAround, Value.distinct_map_iff, Value.distinct_seq_iff, Value.text,
    Value.Distinct.scalar, once] using each

theorem adds_groupAround {front back : Entries} {key : Scalar} {v : Value}
    (undeclared : ∀ f ∈ Slot.token.fields, key ≠ .text f.1) :
    (Slot.ofExpected .anyNode).Adds (groupAround (front ++ back))
      (groupAround (front ++ (key, v) :: back)) := by
  have token : ("token", Slot.token) ∈ (Slot.node .text).fields := by simp [Slot.fields]
  have nodes : ("nodes", Slot.children .optional) ∈ (Slot.node (.branch .optional)).fields := by
    simp [Slot.fields]
  have leaf : (Slot.ofExpected (.childOf .optional)).Adds (textAround (front ++ back))
      (textAround (front ++ (key, v) :: back)) := .field (.chosen rfl) token (.key .token undeclared)
  exact .field (.chosen rfl) nodes (.item leaf)

theorem reorders_groupAround {token token' : Entries} (perm : token.Perm token') :
    (groupAround token).Reorders (groupAround token') :=
  .entry (.item (.entry (.keys perm)))

def writtenToken : Entries := [(.text "text", .text "a"), (.text "type", .text "TEXT")]

def shuffledToken : Entries :=
  [(.text "type", .text "TEXT"), (.text "text", .text "a"), (.text "nodes", .null)]

theorem check_of_rearranged_token :
    Relation.EqvGen Value.Rearranges (groupAround writtenToken) (groupAround shuffledToken) ∧
    Node.check (groupAround writtenToken) = Node.check (groupAround shuffledToken) := by
  have scalar : ∀ s, (Value.scalar s).Distinct := Value.Distinct.scalar
  have first : (groupAround writtenToken).Distinct :=
    distinct_groupAround (by decide) (by simp [writtenToken, Value.text, scalar])
  have second : (groupAround (writtenToken ++ [(.text "nodes", .null)])).Distinct :=
    distinct_groupAround (by decide) (by simp [writtenToken, Value.text, Value.null, scalar])
  have third : (groupAround shuffledToken).Distinct :=
    distinct_groupAround (by decide) (by simp [shuffledToken, Value.text, Value.null, scalar])
  have added : (Slot.ofExpected .anyNode).Adds (groupAround (writtenToken ++ []))
      (groupAround (writtenToken ++ (.text "nodes", .null) :: [])) :=
    adds_groupAround (by simp [Slot.fields])
  have reordered : (groupAround (writtenToken ++ [(.text "nodes", .null)])).Reorders
      (groupAround shuffledToken) := reorders_groupAround (List.Perm.swap _ _ _)
  have rearranged : Relation.EqvGen Value.Rearranges (groupAround writtenToken)
      (groupAround shuffledToken) :=
    .trans _ _ _ (.rel _ _ ⟨first, second, .inr added⟩) (.rel _ _ ⟨second, third, .inl reordered⟩)
  exact ⟨rearranged, check_of_rearranged rearranged⟩

end CucumberExpressions
