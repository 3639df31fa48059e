import BlockRules.Proofs.Document.RoundTrip
import BlockRules.Proofs.Gathering
import BlockRules.Proofs.Value.JsonData

set_option autoImplicit false

/-!
# Documents of JSON data

A document that was read from data of JSON compares with data of JSON, and its times have offsets that can be
written. If the numbers are finite, the document is written as data of its own, from which it is read again; only
what it compares with may be too deep for that. Texts and keys are made of characters: a surrogate on its own, which
JSON can escape, is none and is not read.
-/
namespace BlockRules
open Checked Value FieldName Gathering

variable {mode : ReadMode} {P : Value → Prop}

theorem record_inherits {v : Value} {fields : List (Scalar × Value)} (hv : P v) (h : record mode v = .ok fields) :
    P (.object fields) :=
  record_eq_ok_iff.1 h ▸ hv

theorem Condition.inherits (hP : Hereditary P) {v : Value} {c : Condition} (hv : P v)
    (h : Condition.ofValue mode v = .ok c) : P c.value := by
  obtain ⟨fields, hrecord, hfields⟩ := exists_of_bind_ok h
  obtain ⟨_, _, h₁, -, rfl⟩ := exists_of_app_ok hfields
  obtain ⟨_, value, h₂, hvalue, rfl⟩ := exists_of_app_ok h₁
  obtain ⟨_, _, h₃, -, rfl⟩ := exists_of_app_ok h₂
  obtain ⟨_, _, h₄, -, rfl⟩ := exists_of_app_ok h₃
  obtain ⟨_, _, h₅, -, rfl⟩ := exists_of_app_ok h₄
  cases h₅
  obtain ⟨name, w, hw, hread⟩ | hnull := exists_of_optional_ok hvalue
  · cases hread
    exact hP.get? (record_inherits hv hrecord) hw
  · rw [hnull]
    exact hP.null

theorem Block.inherits (hP : Hereditary P) {kind : BlockKind} {v : Value} {c : Condition} (hv : P v)
    (h : kind.block mode v = .ok (.condition c)) : P c.value := by
  cases kind with
  | condition =>
    obtain ⟨c', hc', heq⟩ := exists_of_map_ok h
    cases heq
    exact Condition.inherits hP hv hc'
  | operator =>
    obtain ⟨_, _, heq⟩ := exists_of_map_ok h
    cases heq
  | action =>
    obtain ⟨_, _, heq⟩ := exists_of_map_ok h
    cases heq

theorem Node.inherits (hP : Hereditary P) {v : Value} {n : Node} {c : Condition} (hv : P v)
    (h : Node.ofValue mode v = .ok n) (hc : n.block = .condition c) : P c.value := by
  obtain ⟨fields, hrecord, htagged⟩ := exists_of_bind_ok h
  obtain ⟨kind, -, hfields⟩ := exists_of_bind_ok htagged
  obtain ⟨_, block, h₁, hblock, rfl⟩ := exists_of_app_ok (at_eq_ok_iff.1 hfields)
  obtain ⟨_, _, h₂, -, rfl⟩ := exists_of_app_ok h₁
  obtain ⟨_, _, h₃, -, rfl⟩ := exists_of_app_ok h₂
  obtain ⟨_, _, h₄, -, rfl⟩ := exists_of_app_ok h₃
  cases h₄
  obtain ⟨name, w, hw, hread⟩ | hunset := exists_of_optional_ok hblock
  · rw [show block = .condition c from hc] at hread
    exact Block.inherits hP (hP.get? (record_inherits hv hrecord) hw) hread
  · have hunset : kind.unset = .condition c := hunset.symm.trans hc
    cases kind <;> cases hunset
    exact hP.null

theorem exists_of_list_ok {α : Type} (hP : Hereditary P) {read : Value → Checked α} {v : Value} {as : List α}
    (hv : P v) (h : list read v = .ok as) {a : α} (ha : a ∈ as) : ∃ w, P w ∧ read w = .ok a := by
  cases v with
  | list vs =>
    obtain ⟨w, hw, hread⟩ := exists_of_items_ok h ha
    exact ⟨w, hP.item hv hw, hread⟩
  | set members =>
    obtain ⟨w, hw, hread⟩ := exists_of_items_ok h ha
    obtain ⟨s, hs, rfl⟩ := List.mem_map.1 hw
    exact ⟨_, hP.member hv hs, hread⟩
  | _ => cases h

theorem Graph.inherits (hP : Hereditary P) {fields : List (Scalar × Value)} {g : Graph} (hfields : P (.object fields))
    (h : Graph.ofFields mode fields = .ok g) : ∀ c ∈ g.conditions, P c.2.value := by
  obtain ⟨_, _, h₁, -, rfl⟩ := exists_of_app_ok h
  obtain ⟨_, nodes, h₂, hnodes, rfl⟩ := exists_of_app_ok h₁
  cases h₂
  intro c hc
  obtain ⟨n, hn, hblock⟩ := List.mem_filterMap.1 hc
  obtain ⟨name, w, hw, hread⟩ | hnone := exists_of_optional_ok hnodes
  · obtain ⟨v, hv, hnode⟩ := exists_of_list_ok hP (hP.get? hfields hw) hread hn
    cases hcondition : n.block with
    | condition c' =>
      rw [hcondition] at hblock
      cases hblock
      exact Node.inherits hP hv hnode hcondition
    | operator o => simp [hcondition] at hblock
    | action a => simp [hcondition] at hblock
  · rw [hnone] at hn
    cases hn

namespace Document

/-- What conditions compare with inherits the properties of what a document was read from. -/
theorem inherits (hP : Hereditary P) {v : Value} {d : Document} (hv : P v) (h : Document.ofValue mode v = .ok d) :
    ∀ c ∈ d.conditions, P c.2.value := by
  obtain ⟨fields, rfl, hread⟩ := exists_of_ofValue h
  exact Graph.inherits hP hv hread.graph

theorem inDay_of_ofFields {fields : List (Scalar × Value)} (hfields : (Value.object fields).isJson = true)
    {name : FieldName} {x : Option Moment} (h : name.optional none (nullable moment) fields = .ok x) :
    ∀ m ∈ x, m.OffsetInDay := by
  intro m hm
  cases hm
  obtain ⟨key, w, hw, hread⟩ | hnone := exists_of_optional_ok h
  · have hw := hereditary_isJson.get? hfields hw
    exact moment_inDay (by rintro m' rfl; cases hw) (exists_of_nullable_ok hread)
  · cases hnone

def comparesFinite (d : Document) : Bool := d.conditions.all fun c => c.2.value.isFinite

def comparedDepth (d : Document) : Nat := (d.conditions.map fun c => c.2.value.depth).foldr max 0

theorem isPlain_of_ofValue {v : Value} {d : Document} (hv : v.isJson = true) (h : Document.ofValue mode v = .ok d)
    (hfinite : d.comparesFinite = true) : d.IsPlain := by
  have hjson := inherits hereditary_isJson hv h
  obtain ⟨fields, rfl, hread⟩ := exists_of_ofValue h
  rw [comparesFinite, List.all_eq_true] at hfinite
  exact ⟨fun c hc => plain_of_isJson c.2.value (hjson c hc) (hfinite c hc),
    inDay_of_ofFields hv hread.createdAt, inDay_of_ofFields hv hread.updatedAt⟩

theorem obstacle?_eq_depthObstacle? {d : Document} (h : ∀ c ∈ d.conditions, c.2.value.isJson = true) :
    d.obstacle? = depthObstacle? Obstacle.depthLimit d.comparedDepth := by
  unfold Document.obstacle? comparedDepth
  generalize d.conditions = conditions at h
  induction conditions with
  | nil => rfl
  | cons c rest ih =>
    obtain ⟨hc, hrest⟩ := List.forall_mem_cons.1 h
    rw [List.map_cons, List.foldr_cons, depthObstacle?_max, ← ih hrest, List.findSome?_cons]
    rw [Value.obstacle?_of_isJson c.2.value Obstacle.depthLimit hc]
    cases depthObstacle? Obstacle.depthLimit c.2.value.depth <;> rfl

/-- A document of data of JSON with finite numbers is read from its own data as it was, in every field. Where
conditions compare with something too deep, there are no such data. -/
theorem ofValue_toData {mode mode' : ReadMode} {v : Value} {d : Document} (hv : v.isJson = true)
    (h : Document.ofValue mode v = .ok d) (hfinite : d.comparesFinite = true) :
    if d.comparedDepth ≤ Obstacle.depthLimit then ∃ w, d.toData = .ok w ∧ Document.ofValue mode' w = .ok d
    else d.toData = .error .tooDeep := by
  have hobstacle := obstacle?_eq_depthObstacle? (inherits hereditary_isJson hv h)
  rw [toData, hobstacle, depthObstacle?]
  split
  · exact ⟨d.toValue, rfl, ofValue_toValue (isPlain_of_ofValue hv h hfinite)⟩
  · rfl

/-- A rule of which some fields have their other names, and a condition compares with data in which something is
null. -/
def kettleRule : Value :=
  named [("name", .text "Kettle"),
    ("nodes", .list [
      named [("id", .text "hot"), ("kind", .text "condition"), ("payload", named [("field", .text "kettle"),
        ("operator", .text "in"), ("value", .list [.null, .float (.finite true .zero), named [("state", .null)]])])],
      named [("id", .text "ring"), ("type", .text "action"), ("data", named [("label", .text "Ring")])]]),
    ("edges", .list [named [("source", .text "hot"), ("target", .text "ring")]]),
    ("alarm_config", named [("audioDuration", .float (.finite false .zero)), ("alarm_type", .text "info")]),
    ("createdAt", .text "2024-06-02T22:15:00.5+02:00"), ("isValid", .text "yes")]

theorem kettleRule_toData : ∃ d, kettleRule.isJson = true ∧ Document.ofValue .request kettleRule = .ok d ∧
    d.comparesFinite = true ∧ d.comparedDepth = 3 ∧
    ∃ w, d.toData = .ok w ∧ Document.ofValue .document w = .ok d := by
  have hjson : kettleRule.isJson = true := by decide
  refine ⟨_, hjson, rfl, rfl, rfl, ?_⟩
  exact ofValue_toData hjson (rfl : Document.ofValue .request kettleRule = .ok _) rfl

def comparing (v : Value) : Value :=
  named [("nodes", .list [named [("id", .text "c"), ("type", .text "condition"), ("data", named [("value", v)])]])]

theorem isJson_comparing {v : Value} (h : v.isJson = true) : (comparing v).isJson = true := by
  simp [comparing, named, isJson, areJson, fieldsAreJson, Scalar.isText, Scalar.isJson, h]

def comparingRule (v : Value) : Document :=
  ofGraph ⟨[⟨"c", .origin, .condition ⟨none, none, none, v, none⟩⟩], []⟩

theorem ofValue_comparing (v : Value) : Document.ofValue mode (comparing v) = .ok (comparingRule v) := rfl

theorem comparesFinite_comparingRule (v : Value) : (comparingRule v).comparesFinite = v.isFinite :=
  Bool.and_true v.isFinite

theorem obstacle?_comparingRule (v : Value) : (comparingRule v).obstacle? = v.obstacle? Obstacle.depthLimit :=
  List.findSome?_singleton

theorem obstacle?_nestedLists : (nestedLists 255).obstacle? Obstacle.depthLimit = some .tooDeep := by
  rw [obstacle?_of_isJson _ _ (isJson_nestedLists 255), depth_nestedLists]
  rfl

/-- A rule of data of JSON with finite numbers that cannot be written as data: lists are inside each other once
too often. -/
theorem comparing_tooDeep : ∃ d, (comparing (nestedLists 255)).isJson = true ∧
    Document.ofValue .document (comparing (nestedLists 255)) = .ok d ∧ d.comparesFinite = true ∧
    d.toData = .error .tooDeep := by
  refine ⟨_, isJson_comparing (isJson_nestedLists 255), ofValue_comparing _, ?_, ?_⟩
  · rw [comparesFinite_comparingRule, isFinite_nestedLists]
  · rw [toData, obstacle?_comparingRule, obstacle?_nestedLists]

end Document

end BlockRules
