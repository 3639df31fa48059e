import BlockRules.Document.Writing
import BlockRules.Proofs.Calendar.RoundTrip
import BlockRules.Proofs.Document.Parts

set_option autoImplicit false

namespace BlockRules
open Checked Value FieldName

variable {mode : ReadMode}

theorem Condition.lookup_toValue {c : Condition} (h : c.value.plain = c.value) :
    ∃ fields, c.toValue = named fields ∧ fields.lookup "field" = c.field.map .text ∧
      fields.lookup "variable" = c.legacyField.map .text ∧ fields.lookup "operator" = c.operator.map .text ∧
      (fields.lookup "value" = some c.value ∨ fields.lookup "value" = none ∧ c.value = .null) ∧
      fields.lookup "label" = c.label.map .text := by
  refine ⟨_, rfl, ?_⟩
  split
  · rename_i hnull
    simp [List.lookup_append, lookup_whenSet, hnull]
  · simp [List.lookup_append, List.lookup_cons, lookup_whenSet, h]

theorem Condition.ofValue_toValue {c : Condition} (h : c.value.plain = c.value) :
    Condition.ofValue mode c.toValue = .ok c := by
  obtain ⟨fields, hwritten, hfield, hlegacy, hoperator, hvalue, hlabel⟩ := lookup_toValue h
  have hvalue : (FieldName.single "value").optional Value.null .ok (namedFields fields) = .ok c.value := by
    obtain hsome | ⟨hnone, hnull⟩ := hvalue
    · exact optional_named hsome rfl
    · rw [hnull]
      exact optional_absent hnone hnone
  rw [hwritten]
  change Condition.ofFields (namedFields fields) = .ok c
  rw [ofFields, hvalue]
  rw [optional_whenSet hfield (.inl rfl) fun _ _ => rfl, optional_whenSet hlegacy (.inl rfl) fun _ _ => rfl]
  rw [optional_whenSet hoperator (.inl rfl) fun _ _ => rfl, optional_whenSet hlabel (.inl rfl) fun _ _ => rfl]
  rfl

theorem Operator.ofValue_toValue (o : Operator) : Operator.ofValue mode o.toValue = .ok o := by
  obtain ⟨_ | _, _ | _, _ | _⟩ := o <;> rfl

theorem Action.ofValue_toValue (a : Action) : Action.ofValue mode a.toValue = .ok a := by
  obtain ⟨_ | _, _ | _, _ | _, _ | _⟩ := a <;> rfl

namespace Block

/-- Whether making a block plain data changes nothing of what it compares with. -/
def IsPlain : Block → Prop
  | condition c => c.value.plain = c.value
  | operator _ => True
  | action _ => True

theorem ofValue_toValue {b : Block} (h : b.IsPlain) : b.kind.block mode b.toValue = .ok b := by
  cases b with
  | condition c => exact congrArg (Except.map condition) (Condition.ofValue_toValue h)
  | operator o => exact congrArg (Except.map operator) (Operator.ofValue_toValue o)
  | action a => exact congrArg (Except.map action) (Action.ofValue_toValue a)

end Block

theorem Position.ofValue_toValue (p : Position) : Position.ofValue mode p.toValue = .ok p := rfl

theorem Edge.ofValue_toValue (e : Edge) : Edge.ofValue mode e.toValue = .ok e := rfl

theorem AlarmSettings.ofValue_toValue (a : AlarmSettings) : AlarmSettings.ofValue mode a.toValue = .ok a := by
  obtain ⟨⟩ := a
  rename_i kind
  cases kind <;> rfl

namespace Node

theorem lookup_toValue (n : Node) :
    ∃ fields, n.toValue = named fields ∧ fields.lookup "id" = some (.text n.id) ∧ fields.lookup "kind" = none ∧
      fields.lookup "type" = some (.text n.block.kind.name) ∧ fields.lookup "position" = some n.position.toValue ∧
      fields.lookup "data" = some n.block.toValue :=
  ⟨_, rfl, rfl, rfl, rfl, rfl, rfl⟩

theorem ofValue_toValue {n : Node} (h : n.block.IsPlain) : Node.ofValue mode n.toValue = .ok n := by
  obtain ⟨fields, hwritten, hid, hkind, htype, hposition, hdata⟩ := n.lookup_toValue
  have htag : tag? (namedFields fields) = .ok n.block.kind := by
    simp only [tag?, kindField, get?_namedFields, hkind, htype, Option.none_or, BlockKind.ofName?_name]
  have hconfirm : n.block.kind.confirm (.text n.block.kind.name) = .ok () := if_pos rfl
  have hfields : ofFields mode n.block.kind (namedFields fields) = .ok n := by
    rw [ofFields, required_named (f := .single "id") hid (text_text n.id)]
    rw [optional_named (f := kindField) htype hconfirm]
    rw [optional_named (f := .single "position") hposition (Position.ofValue_toValue n.position)]
    rw [optional_named (f := ⟨"data", "payload"⟩) hdata (Block.ofValue_toValue h)]
    rfl
  rw [hwritten]
  change (tag? (namedFields fields) >>= fun kind => at_ (.field kind.name) (ofFields mode kind (namedFields fields))) = _
  rw [htag]
  exact at_eq_ok_iff.2 hfields

end Node

namespace Document

/-- Whether a document's data are plain: its conditions compare with plain data, and its times can be written
down exactly. -/
structure IsPlain (d : Document) : Prop where
  conditions : ∀ c ∈ d.conditions, c.2.value.plain = c.2.value
  createdAt : ∀ m ∈ d.createdAt, m.OffsetInDay
  updatedAt : ∀ m ∈ d.updatedAt, m.OffsetInDay

theorem nullable_moment {m : Moment} (h : m.OffsetInDay) :
    nullable moment (.text m.documentText) = .ok (some m) := by
  change (momentResult (Moment.ofText m.documentText.toList)).map some = _
  rw [Moment.ofText_documentText h]
  rfl

theorem nullable_alarm (a : AlarmSettings) :
    nullable (AlarmSettings.ofValue mode) a.toValue = .ok (some a) :=
  congrArg (Except.map some) (AlarmSettings.ofValue_toValue a)

theorem IsPlain.block {d : Document} (h : d.IsPlain) {n : Node} (hn : n ∈ d.nodes) : n.block.IsPlain := by
  cases hblock : n.block with
  | condition c =>
    have hc : (n.id, c) ∈ d.conditions := List.mem_filterMap.2 ⟨n, hn, by rw [hblock]⟩
    exact h.conditions _ hc
  | operator o => trivial
  | action a => trivial

theorem list_nodes {d : Document} (h : d.IsPlain) :
    list (Node.ofValue mode) (.list (d.nodes.map Node.toValue)) = .ok d.nodes :=
  items_map_write fun _ hn => Node.ofValue_toValue (h.block hn)

theorem list_edges (d : Document) : list (Edge.ofValue mode) (.list (d.edges.map Edge.toValue)) = .ok d.edges :=
  items_map_write fun e _ => Edge.ofValue_toValue e

/-- Fields hold what a document is written as, under the names that documents use. -/
structure Written (fields : List (String × Value)) (d : Document) : Prop where
  nodes : fields.lookup "nodes" = some (.list (d.nodes.map Node.toValue))
  edges : fields.lookup "edges" = some (.list (d.edges.map Edge.toValue))
  id : fields.lookup "id" = d.id.map .text
  name : fields.lookup "name" = some (.text d.name)
  alarm : fields.lookup "alarmConfig" = d.alarm.map AlarmSettings.toValue
  naturalLanguage : fields.lookup "naturalLanguage" = d.naturalLanguage.map .text
  isValid : fields.lookup "isValid" = some (.bool d.isValid) ∨ fields.lookup "isValid" = none ∧ d.isValid = false
  createdAt : fields.lookup "createdAt" = d.createdAt.map fun m => .text m.documentText
  updatedAt : fields.lookup "updatedAt" = d.updatedAt.map fun m => .text m.documentText
  userId : fields.lookup "userId" = d.userId.map .text
  unnamed : ∀ other ∈ ["alarm_config", "natural_language", "is_valid", "created_at", "updated_at", "user_id"],
    fields.lookup other = none

theorem written_toFields (d : Document) : Written d.toFields d := by
  constructor <;> simp [toFields, List.lookup_append, List.lookup_cons, lookup_whenSet]

theorem Written.isValid_ofFields {fields : List (String × Value)} {d : Document} (hw : Written fields d) :
    (FieldName.mk "isValid" "is_valid").optional false bool (namedFields fields) = .ok d.isValid := by
  obtain hsome | ⟨hnone, hfalse⟩ := hw.isValid
  · exact optional_named hsome rfl
  · rw [hfalse]
    exact optional_absent hnone (hw.unnamed _ (by simp))

theorem Written.graph_ofFields {fields : List (String × Value)} {d : Document} (hw : Written fields d)
    (h : d.IsPlain) : Graph.ofFields mode (namedFields fields) = .ok d.toGraph := by
  rw [Graph.ofFields, optional_named (f := .single "nodes") hw.nodes (list_nodes h)]
  rw [optional_named (f := .single "edges") hw.edges (list_edges d)]
  rfl

theorem Written.readFrom {fields : List (String × Value)} {d : Document} (hw : Written fields d)
    (h : d.IsPlain) : d.ReadFrom mode (namedFields fields) where
  graph := hw.graph_ofFields h
  id := optional_whenSet hw.id (.inl rfl) fun _ _ => rfl
  name := optional_named hw.name (text_text d.name)
  alarm := optional_whenSet hw.alarm (.inr (hw.unnamed _ (by simp))) fun a _ => nullable_alarm a
  naturalLanguage := optional_whenSet hw.naturalLanguage (.inr (hw.unnamed _ (by simp))) fun _ _ => rfl
  isValid := hw.isValid_ofFields
  createdAt := optional_whenSet hw.createdAt (.inr (hw.unnamed _ (by simp)))
    fun m hm => nullable_moment (h.createdAt m hm)
  updatedAt := optional_whenSet hw.updatedAt (.inr (hw.unnamed _ (by simp)))
    fun m hm => nullable_moment (h.updatedAt m hm)
  userId := optional_whenSet hw.userId (.inr (hw.unnamed _ (by simp))) fun _ _ => rfl

/-- A document that holds plain data is read from its own data as it was. -/
theorem ofValue_toValue {d : Document} (h : d.IsPlain) : Document.ofValue mode d.toValue = .ok d :=
  ofFields_eq_ok_iff.2 (d.written_toFields.readFrom h)

end Document

end BlockRules
