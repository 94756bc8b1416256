import CucumberExpressions.Proofs.NodeFields
import CucumberExpressions.Proofs.ProblemPlaces

/-! Broken rules: each problem of data that is no tree stands where the data breaks the rule that
the problem names. -/

namespace CucumberExpressions

def Step.isTag : Step → Bool
  | tag _ => true
  | _ => false

def withoutTags (path : List Step) : List Step := path.filter (!·.isTag)

namespace Value

def child? : Value → Step → Option Value
  | map es, .key name => Entries.field? name es
  | seq items, .index (.ofNat i) => items[i]?
  | _, _ => none

def at? (v : Value) (path : List Step) : Option Value := path.foldlM child? v

/-- The value under `type` names the kind; a group inside itself is cut off before its fields. -/
inductive Tagged : Value → NodeKind → Prop
  | map {es : Entries} {k : NodeKind} : es.field? "type" = some (.text k.name) → Tagged (map es) k
  | loop : Tagged loop (.branch .optional)

end Value

/-- At the end of the path in a value of the first slot stands a value of the second. -/
inductive Stands : Slot → Value → List Step → Slot → Value → Prop
  | here {slot : Slot} {d : Value} : Stands slot d [] slot d
  | tag {kinds : List NodeKind} {k : NodeKind} {v d : Value} {path : List Step} {slot : Slot} :
      v.Tagged k → Stands (.node k) v path slot d →
      Stands (.choice kinds) v (.tag k :: path) slot d
  | field {outer inner slot : Slot} {name : String} {es : Entries} {v d : Value}
      {path : List Step} :
      (name, inner) ∈ outer.fields → es.field? name = some v → Stands inner v path slot d →
      Stands outer (.map es) (.key name :: path) slot d
  | item {b : BranchKind} {items : List Value} {i : Nat} {v d : Value} {path : List Step}
      {slot : Slot} :
      items[i]? = some v → Stands (.ofExpected (.childOf b)) v path slot d →
      Stands (.children b) (.seq items) (.index i :: path) slot d

/-- A value at the slot breaks a rule; the problem is told of the path, seen from the value. -/
inductive Breaks : Slot → Value → List Step → Violation → Prop
  | missing {slot : Slot} {es : Entries} {name : String} :
      name ∈ slot.required → es.field? name = none →
      Breaks slot (.map es) [.key name] .missing
  | notText {d : Value} :
      (∀ s, d ≠ .text s) → (∀ bs, d ≠ .scalar (.bytes bs)) → Breaks .tokenText d [] .notText
  | notUnicode {bs : List UInt8} :
      String.fromUTF8? ⟨bs.toArray⟩ = none →
      Breaks .tokenText (.scalar (.bytes bs)) [] .notUnicode
  | notKind {d : Value} : (∀ k : Kind, ¬ d.IsText k.name) → Breaks .tokenKind d [] .notKind
  | otherTag {k : NodeKind} {d : Value} : d ≠ .text k.name → Breaks (.tag k) d [] .otherTag
  | notTagged {kinds : List NodeKind} {d : Value} :
      (∀ es, d ≠ .map es) → Breaks (.choice kinds) d [] .notTagged
  | tagAbsent {kinds : List NodeKind} {es : Entries} :
      es.field? "type" = none → Breaks (.choice kinds) (.map es) [] .tagAbsent
  | tagNotAllowed {kinds : List NodeKind} {es : Entries} {tag : Value} :
      es.field? "type" = some tag → (∀ k ∈ kinds, tag ≠ .text k.name) →
      Breaks (.choice kinds) (.map es) [] .tagNotAllowed
  | notNode {k : NodeKind} {d : Value} : (∀ es, d ≠ .map es) → Breaks (.node k) d [] .notRecord
  | notToken {d : Value} : (∀ es, d ≠ .map es) → Breaks .token d [] .notRecord
  | notSequence {b : BranchKind} {d : Value} :
      (∀ items, d ≠ .seq items) → Breaks (.children b) d [] .notSequence
  | tooFew {items : List Value} :
      BranchKind.alternation.validAmong items < 2 →
      Breaks (.children .alternation) (.seq items) [] .tooFew
  | tooMany {items : List Value} :
      2 ≤ BranchKind.parameter.validAmong items →
      Breaks (.children .parameter) (.seq items) [] .tooMany
  | escapedLeaf {d : Value} {t : Token} :
      d.IsToken t → t.kind.isEscaped = true → Breaks .token d [] (.escapedLeaf t.kind)
  | recursion : Breaks (.node (.branch .optional)) .loop [] .recursion

section Paths

variable {slot inner : Slot} {v d : Value} {place : List Step}

theorem Stands.at?_eq (stands : Stands slot v place inner d) :
    v.at? (withoutTags place) = some d := by
  induction stands with
  | here => rfl
  | tag _ _ ih => exact ih
  | @field _ _ _ name es v d path _ found _ ih =>
      calc (Value.map es).at? (withoutTags (.key name :: path))
          = (es.field? name).bind (·.at? (withoutTags path)) := rfl
        _ = some d := by rw [found, Option.bind_some, ih]
  | @item b items i v d path _ found _ ih =>
      calc (Value.seq items).at? (withoutTags (.index i :: path))
          = items[i]?.bind (·.at? (withoutTags path)) := rfl
        _ = some d := by rw [found, Option.bind_some, ih]

theorem Stands.split {front back : List Step} (stands : Stands slot v (front ++ back) inner d) :
    ∃ middle c, Stands slot v front middle c ∧ Stands middle c back inner d := by
  induction front generalizing slot v with
  | nil => exact ⟨slot, v, .here, stands⟩
  | cons step front ih =>
      cases stands with
      | tag tagged rest =>
          obtain ⟨middle, c, first, second⟩ := ih rest
          exact ⟨middle, c, .tag tagged first, second⟩
      | field declared found rest =>
          obtain ⟨middle, c, first, second⟩ := ih rest
          exact ⟨middle, c, .field declared found first, second⟩
      | item found rest =>
          obtain ⟨middle, c, first, second⟩ := ih rest
          exact ⟨middle, c, .item found first, second⟩

theorem Stands.tagged {front back : List Step} {k : NodeKind}
    (stands : Stands slot v (front ++ .tag k :: back) inner d) :
    ∃ c, v.at? (withoutTags front) = some c ∧ c.Tagged k := by
  obtain ⟨middle, c, first, second⟩ := stands.split
  cases second with
  | tag tagged _ => exact ⟨c, first.at?_eq, tagged⟩

theorem Breaks.tag_notMem {rest : List Step} {violation : Violation}
    (breaks : Breaks inner d rest violation) (k : NodeKind) : .tag k ∉ rest := by
  cases breaks <;> simp

end Paths

namespace Problem

/-- A rule is broken where the problem stands in a value of the slot. -/
def Founded (slot : Slot) (v : Value) (p : Problem) : Prop :=
  ∃ place rest inner d, p.path = place ++ rest ∧ Stands slot v place inner d ∧
    Breaks inner d rest p.violation

variable {slot inner : Slot} {v : Value} {p : Problem}

theorem founded_of_breaks {rest : List Step} {violation : Violation}
    (breaks : Breaks slot v rest violation) : Founded slot v ⟨rest, violation⟩ :=
  ⟨[], rest, slot, v, rfl, .here, breaks⟩

theorem Founded.behind_tag {kinds : List NodeKind} {k : NodeKind} (founded : p.Founded (.node k) v)
    (tagged : v.Tagged k) : (p.behind [.tag k]).Founded (.choice kinds) v := by
  obtain ⟨place, rest, inner, d, path, stands, breaks⟩ := founded
  exact ⟨.tag k :: place, rest, inner, d, congrArg (List.cons _) path, .tag tagged stands, breaks⟩

theorem Founded.behind_field {name : String} {es : Entries} (founded : p.Founded inner v)
    (declared : (name, inner) ∈ slot.fields) (found : es.field? name = some v) :
    (p.behind [.key name]).Founded slot (.map es) := by
  obtain ⟨place, rest, slot, d, path, stands, breaks⟩ := founded
  exact ⟨.key name :: place, rest, slot, d, congrArg (List.cons _) path,
    .field declared found stands, breaks⟩

theorem Founded.behind_item {b : BranchKind} {items : List Value} {i : Nat}
    (founded : p.Founded (.ofExpected (.childOf b)) v) (found : items[i]? = some v) :
    (p.behind [.index i]).Founded (.children b) (.seq items) := by
  obtain ⟨place, rest, slot, d, path, stands, breaks⟩ := founded
  exact ⟨.index i :: place, rest, slot, d, congrArg (List.cons _) path, .item found stands, breaks⟩

end Problem

namespace Checked

variable {α β γ : Type} {slot inner : Slot} {v : Value} {r : Checked α}

def Founded (slot : Slot) (v : Value) (r : Checked α) : Prop := ∀ p ∈ r.problems, p.Founded slot v

theorem founded_ok (a : α) : Founded slot v (.ok a) := nofun

theorem founded_problem {rest : List Step} {violation : Violation}
    (breaks : Breaks slot v rest violation) :
    Founded slot v (.error [⟨rest, violation⟩] : Checked α) := by
  intro p member
  rw [List.mem_singleton.1 member]
  exact Problem.founded_of_breaks breaks

theorem founded_fail {violation : Violation} (breaks : Breaks slot v [] violation) :
    Founded slot v (fail violation : Checked α) := founded_problem breaks

theorem Founded.both {f : α → β → γ} {s : Checked β} (left : r.Founded slot v)
    (right : s.Founded slot v) : (Checked.both f r s).Founded slot v := by
  intro p member
  rw [problems_both, List.mem_append] at member
  exact member.elim (left p) (right p)

theorem Founded.under_tag {kinds : List NodeKind} {k : NodeKind} (founded : r.Founded (.node k) v)
    (tagged : v.Tagged k) : (r.under (.tag k)).Founded (.choice kinds) v := by
  intro p member
  rw [problems_under] at member
  obtain ⟨q, told, rfl⟩ := List.mem_map.1 member
  exact (founded q told).behind_tag tagged

theorem Founded.under_field {name : String} {es : Entries} (founded : r.Founded inner v)
    (declared : (name, inner) ∈ slot.fields) (found : es.field? name = some v) :
    (r.under (.key name)).Founded slot (.map es) := by
  intro p member
  rw [problems_under] at member
  obtain ⟨q, told, rfl⟩ := List.mem_map.1 member
  exact (founded q told).behind_field declared found

end Checked

theorem Entries.founded_require {α : Type} {slot inner : Slot} {name : String} {es : Entries}
    {check : Value → Checked α} (declared : (name, inner) ∈ slot.fields)
    (required : name ∈ slot.required) (each : ∀ v, (check v).Founded inner v) :
    (es.require name check).Founded slot (.map es) := by
  unfold Entries.require
  split
  · next absent => exact Checked.founded_problem (.missing required absent)
  · next v found => exact (each v).under_field declared found

theorem Value.founded_checkText (v : Value) : v.checkText.Founded .tokenText v := by
  unfold Value.checkText
  split
  · exact Checked.founded_ok _
  · split
    · exact Checked.founded_ok _
    · next unreadable => exact Checked.founded_fail (.notUnicode unreadable)
  · next notText notBytes => exact Checked.founded_fail (.notText notText notBytes)

theorem Kind.founded_check (v : Value) : (Kind.check v).Founded .tokenKind v := by
  cases read : Kind.check v with
  | ok k => exact Checked.founded_ok k
  | error ps =>
      have none : ∀ k : Kind, ¬ v.IsText k.name := by
        intro k named
        rw [Kind.check_eq_ok_iff.2 named] at read
        cases read
      rw [← read, Kind.check]
      split
      · exact Checked.founded_ok _
      · exact Checked.founded_fail (.notKind none)

theorem Token.founded_check (v : Value) : (Token.check v).Founded .token v := by
  unfold Token.check
  split
  · apply Checked.Founded.both
    · exact Entries.founded_require (by simp [Slot.fields]) (by simp [Slot.required])
        Value.founded_checkText
    · exact Entries.founded_require (by simp [Slot.fields]) (by simp [Slot.required])
        Kind.founded_check
  · next other => exact Checked.founded_fail (.notToken other)

theorem Token.founded_checkLeaf (v : Value) : (Token.checkLeaf v).Founded .token v := by
  unfold Token.checkLeaf
  split
  · next t read =>
      split
      · next escaped =>
          exact Checked.founded_fail (.escapedLeaf (Token.check_eq_ok_iff.1 read) escaped)
      · exact Checked.founded_ok t
  · next ps refused =>
      rw [← refused]
      exact Token.founded_check v

theorem mem_rowProblems {α : Type} {found : List (Checked α)} {p : Problem}
    (member : p ∈ rowProblems found) :
    ∃ (i : Nat) (r : Checked α) (q : Problem), found[i]? = some r ∧ q ∈ r.problems ∧
      p = q.behind [.index i] := by
  obtain ⟨row, inRows, inRow⟩ := List.mem_flatten.1 member
  obtain ⟨i, bound, rfl⟩ := List.mem_mapIdx.1 inRows
  obtain ⟨q, told, rfl⟩ := List.mem_map.1 inRow
  exact ⟨i, found[i], q, List.getElem?_eq_getElem bound, told, rfl⟩

namespace Value

theorem sizeOf_lt_of_field? {name : String} {es : Entries} {v : Value}
    (found : es.field? name = some v) : sizeOf v < sizeOf es := by
  induction es with
  | nil => cases found
  | cons entry es ih =>
      obtain ⟨key, u⟩ := entry
      rw [Entries.field?] at found
      split at found
      · cases found
        simp only [List.cons.sizeOf_spec, Prod.mk.sizeOf_spec]
        omega
      · have later := ih found
        simp only [List.cons.sizeOf_spec]
        omega

/-- Induction over data by the items under `nodes`, which is where a tree's data has its children.
-/
@[elab_as_elim]
theorem induction_items {motive : Value → Prop}
    (parts : ∀ v, (∀ es : Entries, v = .map es → ∀ items, es.field? "nodes" = some (.seq items) →
      ∀ c ∈ items, motive c) → motive v) (v : Value) : motive v := by
  apply parts
  rintro es rfl items found c member
  exact induction_items parts c
termination_by sizeOf v
decreasing_by
  have outer := sizeOf_lt_of_field? found
  have inner := List.sizeOf_lt_of_mem member
  subst_vars
  simp only [Value.map.sizeOf_spec, Value.seq.sizeOf_spec] at outer ⊢
  omega

end Value

namespace Expected

theorem founded_checkTag (k : NodeKind) (es : Entries) :
    (checkTag k es).Founded (.node k) (.map es) := by
  rw [checkTag_eq]
  cases found : es.field? "type" with
  | none => exact Checked.founded_ok ()
  | some v =>
      simp only
      split
      · exact Checked.founded_ok ()
      · next other =>
          rw [Value.text?_eq_some_iff] at other
          have here : (Checked.fail .otherTag : Checked Unit).Founded (.tag k) v :=
            Checked.founded_fail (.otherTag other)
          exact here.under_field (by cases k <;> simp [Slot.fields]) found

theorem founded_readChildren {k : BranchKind} {v : Value}
    (each : ∀ items, v = .seq items → ∀ c ∈ items,
      (check c (childOf k)).Founded (.ofExpected (childOf k)) c) :
    (readChildren k v).Founded (.children k) v := by
  cases v with
  | seq items =>
      intro p member
      rw [readChildren, problems_gather] at member
      split at member
      · next many =>
          obtain ⟨rfl, two⟩ := BranchKind.tooMany_iff.1 many
          rw [List.mem_singleton.1 member]
          exact Problem.founded_of_breaks (.tooMany two)
      · rw [List.mem_append] at member
        cases member with
        | inl inRow =>
            obtain ⟨i, r, q, found, told, rfl⟩ := mem_rowProblems inRow
            rw [List.getElem?_map, Option.map_eq_some_iff] at found
            obtain ⟨c, here, rfl⟩ := found
            have founded := each items rfl c (List.mem_of_getElem? here) q told
            exact founded.behind_item here
        | inr last =>
            split at last
            · next short =>
                rw [List.mem_singleton.1 last]
                cases k with
                | alternation => exact Problem.founded_of_breaks (.tooFew short)
                | _ => exact absurd short (Nat.not_lt_zero _)
            · cases last
  | _ => exact Checked.founded_fail (.notSequence nofun)

theorem founded_checkChildren {k : BranchKind} {es : Entries}
    (each : ∀ items, es.field? "nodes" = some (.seq items) → ∀ c ∈ items,
      (check c (childOf k)).Founded (.ofExpected (childOf k)) c) :
    (checkChildren es k).Founded (.node (.branch k)) (.map es) := by
  rw [checkChildren_eq_readChildren]
  cases found : es.field? "nodes" with
  | none =>
      simp only
      split
      · exact Checked.founded_ok []
      · next needed =>
          apply Checked.founded_problem
          cases k with
          | alternation => exact .missing (by simp [Slot.required]) found
          | _ => exact absurd rfl needed
  | some v =>
      have read : (readChildren k v).Founded (.children k) v := by
        apply founded_readChildren
        rintro items rfl
        exact each items found
      exact read.under_field (by simp [Slot.fields]) found

theorem founded_build {k : NodeKind} {es : Entries}
    (each : ∀ b items, es.field? "nodes" = some (.seq items) → ∀ c ∈ items,
      (check c (childOf b)).Founded (.ofExpected (childOf b)) c) :
    (build k es (checkChildren es)).Founded (.node k) (.map es) := by
  cases k with
  | text =>
      have token : (es.require "token" Token.checkLeaf).Founded (.node .text) (.map es) :=
        Entries.founded_require (by simp [Slot.fields]) (by simp [Slot.required])
          Token.founded_checkLeaf
      exact (founded_checkTag .text es).both token
  | branch b =>
      exact (founded_checkTag (.branch b) es).both (founded_checkChildren (each b))

theorem founded_choose {kinds : List NodeKind} {es : Entries} {violation : Violation}
    (refused : choose kinds es = .error violation) :
    (Checked.fail violation : Checked Node).Founded (.choice kinds) (.map es) := by
  rw [choose_eq] at refused
  cases found : es.field? "type" with
  | none =>
      simp only [found] at refused
      cases refused
      exact Checked.founded_fail (.tagAbsent found)
  | some tag =>
      simp only [found] at refused
      split at refused
      · cases refused
      · next notFound =>
          cases refused
          refine Checked.founded_fail (.tagNotAllowed found ?_)
          rintro k member rfl
          have chosen : (kinds.find? (·.name = k.name)).isSome := by
            rw [List.find?_isSome]
            exact ⟨k, member, decide_eq_true rfl⟩
          rw [Value.text?_eq_some_iff.2 rfl, Option.bind_some] at notFound
          simp [notFound] at chosen

theorem founded_check (v : Value) (e : Expected) : (check v e).Founded (.ofExpected e) v := by
  induction v using Value.induction_items generalizing e with
  | parts v ih =>
      cases v with
      | map es =>
          have built : ∀ k, (build k es (checkChildren es)).Founded (.node k) (.map es) :=
            fun k => founded_build fun b items found c member => ih es rfl items found c member _
          cases e with
          | plain k =>
              rw [check]
              exact built k
          | tagged kinds =>
              rw [check]
              split
              · next violation refused => exact founded_choose refused
              · next k chosen =>
                  exact (built k).under_tag (.map (choose_eq_ok_iff.1 chosen).2)
      | loop =>
          cases e with
          | plain k => exact Checked.founded_fail (.notNode (by simp))
          | tagged kinds =>
              have inside : (Checked.fail .recursion : Checked Node).Founded
                  (.node (.branch .optional)) .loop := Checked.founded_fail .recursion
              exact inside.under_tag .loop
      | _ =>
          cases e with
          | plain k => exact Checked.founded_fail (.notNode (by simp))
          | tagged kinds => exact Checked.founded_fail (.notTagged (by simp))

end Expected

theorem Problem.Founded.tagged {slot : Slot} {v : Value} {p : Problem} (founded : p.Founded slot v)
    {front back : List Step} {k : NodeKind} (path : p.path = front ++ .tag k :: back) :
    ∃ c, v.at? (withoutTags front) = some c ∧ c.Tagged k := by
  obtain ⟨place, rest, inner, d, cut, stands, breaks⟩ := founded
  rw [cut] at path
  -- The tag is on the way to the place, since there is none behind it.
  obtain ⟨further, _, same⟩ | ⟨further, same, later⟩ := List.append_eq_append_iff.1 path
  · exact absurd (by simp [same]) (breaks.tag_notMem k)
  · cases further with
    | nil =>
        cases later
        exact absurd List.mem_cons_self (breaks.tag_notMem k)
    | cons step further =>
        cases later
        rw [same] at stands
        exact stands.tagged

/-- Each problem of data that is no tree is told of a place in the data. Every tag in its path is
the one of the data where it stands; without the tags the path leads to data that breaks the rule
which the problem names, in view of what is read there. Only of an absent field the path goes one
step further, to the key that is not there. -/
theorem check_problem_founded {v : Value} {p : Problem} (told : p ∈ (Node.check v).problems) :
    (∀ front k back, p.path = front ++ .tag k :: back →
      ∃ c, v.at? (withoutTags front) = some c ∧ c.Tagged k) ∧
    ∃ place rest slot d, p.path = place ++ rest ∧ v.at? (withoutTags place) = some d ∧
      Stands (.ofExpected .anyNode) v place slot d ∧ Breaks slot d rest p.violation := by
  have founded : p.Founded (.ofExpected .anyNode) v := Expected.founded_check v .anyNode p told
  refine ⟨fun front k back path => founded.tagged path, ?_⟩
  obtain ⟨place, rest, slot, d, path, stands, breaks⟩ := founded
  exact ⟨place, rest, slot, d, path, stands.at?_eq, stands, breaks⟩

def unlistedPath : List Step :=
  [.tag (.branch .expression), .key "nodes", .index 0, .tag (.branch .alternation), .key "nodes",
    .index 0, .key "nodes", .index 0, .tag (.branch .optional), .key "nodes"]

theorem check_problem_founded_unlistedPath :
    ⟨unlistedPath, .notSequence⟩ ∈ (Node.check troubledExpression).problems ∧
    ∃ place rest slot d, unlistedPath = place ++ rest ∧
      troubledExpression.at? (withoutTags place) = some d ∧ Breaks slot d rest .notSequence := by
  have told : ⟨unlistedPath, .notSequence⟩ ∈ (Node.check troubledExpression).problems := by decide
  obtain ⟨_, place, rest, slot, d, path, there, _, breaks⟩ := check_problem_founded told
  exact ⟨told, place, rest, slot, d, path, there, breaks⟩

end CucumberExpressions
