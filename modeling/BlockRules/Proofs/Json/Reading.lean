import BlockRules.Json.Reading
import BlockRules.Proofs.Gathering
import BlockRules.Proofs.Number.Digits
import BlockRules.Proofs.Value.JsonData
import BlockRules.Value.Written

set_option autoImplicit false

namespace BlockRules

/-- Data of JSON without integers that are too long. -/
def Scalar.IsData (s : Scalar) : Prop := s.isJson = true ∧ s.isLongInteger = false

namespace Value

def IsData (v : Value) : Prop := v.isJson = true ∧ v.hasLongInteger = false

def FieldsAreData (fields : List (Scalar × Value)) : Prop :=
  fieldsAreJson fields = true ∧ fieldsHaveLongInteger fields = false

theorem fieldsAreData_cons {name : String} {content : Value} {rest : List (Scalar × Value)} :
    FieldsAreData ((.text name, content) :: rest) ↔
      (∀ f ∈ rest, f.1 ≠ .text name) ∧ content.IsData ∧ FieldsAreData rest := by
  simp only [FieldsAreData, IsData, fieldsAreJson_cons, fieldsHaveLongInteger, Scalar.isText,
    Scalar.isLongInteger, Bool.or_eq_false_iff, true_and]
  constructor
  · rintro ⟨⟨hne, hcontent, hrest⟩, hlong, hlongs⟩
    exact ⟨hne, ⟨hcontent, hlong⟩, hrest, hlongs⟩
  · rintro ⟨hne, ⟨hcontent, hlong⟩, hrest, hlongs⟩
    exact ⟨⟨hne, hcontent, hrest⟩, hlong, hlongs⟩

theorem isData_list {items : List Value} (h : ∀ v ∈ items, v.IsData) : (Value.list items).IsData := by
  induction items with
  | nil => exact ⟨rfl, rfl⟩
  | cons item rest ih =>
    obtain ⟨⟨hjson, hlong⟩, hrest⟩ := List.forall_mem_cons.1 h
    obtain ⟨hjsons, hlongs⟩ := ih hrest
    constructor
    · exact Bool.and_eq_true_iff.2 ⟨hjson, hjsons⟩
    · exact Bool.or_eq_false_iff.2 ⟨hlong, hlongs⟩

theorem key_of_mem_put {fields : List (Scalar × Value)} {name : String} {content : Value} {f : Scalar × Value}
    (h : f ∈ put fields (.text name) content) : f.1 = .text name ∨ ∃ g ∈ fields, g.1 = f.1 := by
  induction fields with
  | nil =>
    rw [List.mem_singleton.1 h]
    exact .inl rfl
  | cons first rest ih =>
    unfold put at h
    split at h
    · obtain rfl | h := List.mem_cons.1 h
      · exact .inr ⟨first, List.mem_cons_self, rfl⟩
      · exact .inr ⟨f, List.mem_cons_of_mem first h, rfl⟩
    · obtain rfl | h := List.mem_cons.1 h
      · exact .inr ⟨f, List.mem_cons_self, rfl⟩
      · obtain hname | ⟨g, hg, heq⟩ := ih h
        · exact .inl hname
        · exact .inr ⟨g, List.mem_cons_of_mem first hg, heq⟩

theorem fieldsAreData_put {fields : List (Scalar × Value)} (h : FieldsAreData fields) (name : String)
    {content : Value} (hcontent : content.IsData) : FieldsAreData (put fields (.text name) content) := by
  induction fields with
  | nil => exact fieldsAreData_cons.2 ⟨fun _ hf => absurd hf List.not_mem_nil, hcontent, rfl, rfl⟩
  | cons first rest ih =>
    obtain ⟨key, old⟩ := first
    obtain ⟨own, rfl⟩ := Scalar.isText_iff.1 (fieldsAreJson_cons.1 h.1).1
    obtain ⟨hdistinct, hold, hrest⟩ := fieldsAreData_cons.1 h
    unfold put
    rw [Scalar.same_text]
    split
    · exact fieldsAreData_cons.2 ⟨hdistinct, hcontent, hrest⟩
    · rename_i hne
      refine fieldsAreData_cons.2 ⟨fun f hf hkey => ?_, hold, ih hrest⟩
      obtain hname | ⟨g, hg, hgf⟩ := key_of_mem_put hf
      · exact hne (decide_eq_true (hkey.symm.trans hname))
      · exact hdistinct g hg (hgf.trans hkey)

/-- A field of data under a key that is a text. -/
def FieldIsData (f : Scalar × Value) : Prop := f.1.isText = true ∧ f.2.IsData

theorem isData_ofFields {fields : List (Scalar × Value)} (h : ∀ f ∈ fields, FieldIsData f) :
    (ofFields fields).IsData := by
  suffices hacc : ∀ acc, FieldsAreData acc → FieldsAreData (fields.foldl (fun acc f => put acc f.1 f.2) acc) from
    hacc [] ⟨rfl, rfl⟩
  induction fields with
  | nil => exact fun _ hacc => hacc
  | cons f rest ih =>
    obtain ⟨⟨htext, hcontent⟩, hrest⟩ := List.forall_mem_cons.1 h
    obtain ⟨name, hname⟩ := Scalar.isText_iff.1 htext
    intro acc hacc
    rw [List.foldl_cons, hname]
    exact ih hrest _ (fieldsAreData_put hacc name hcontent)

end Value

namespace Json
open Value

def TokenKind.IsData : TokenKind → Prop
  | scalar s => s.IsData
  | _ => True

theorem isLong_of_length {digits : List Char} (h : ¬Number.digitLimit < digits.length) (negative : Bool) :
    Number.isLong (if negative then -(Text.digitsValue digits : Int) else Text.digitsValue digits) = false := by
  have hvalue := Text.digitsValue_lt digits
  have hpower : Number.tenPow digits.length ≤ Number.tenPow Number.digitLimit :=
    Number.tenPow_le (Nat.le_of_not_lt h)
  have habs : (if negative then -(Text.digitsValue digits : Int) else Text.digitsValue digits).natAbs =
      Text.digitsValue digits := by
    cases negative
    · exact Int.natAbs_natCast _
    · exact (Int.natAbs_neg _).trans (Int.natAbs_natCast _)
  rw [Number.isLong, habs]
  exact decide_eq_false (Nat.not_le_of_lt (Nat.lt_of_lt_of_le hvalue hpower))

theorem isData_of_scanNumber {s : List Char} {kind : TokenKind} {count : Nat}
    (h : scanNumber s = some (kind, count)) : kind.IsData := by
  unfold scanNumber at h
  split at h
  extract_lets whole at h
  split at h
  · cases h
  · split at h
    extract_lets digits powerCount total at h
    split at h
    · split at h
      · obtain ⟨rfl, -⟩ := Prod.mk.inj (Option.some.inj h)
        trivial
      · rename_i hshort
        obtain ⟨rfl, -⟩ := Prod.mk.inj (Option.some.inj h)
        exact ⟨rfl, isLong_of_length hshort _⟩
    · obtain ⟨rfl, -⟩ := Prod.mk.inj (Option.some.inj h)
      exact ⟨rfl, rfl⟩

theorem isData_of_mem_words {word : String × Scalar} (h : word ∈ words) : word.2.IsData := by
  have hwords : ∀ word ∈ words, word.2.isJson = true ∧ word.2.isLongInteger = false := by decide
  exact hwords word h

theorem isData_of_scanToken (position : Nat) (s : List Char) : (scanToken position s).1.IsData := by
  unfold scanToken
  split
  any_goals exact trivial
  · split <;> trivial
  · split
    · rename_i hword
      exact isData_of_mem_words (List.mem_of_find?_eq_some hword)
    · cases hnumber : scanNumber s with
      | none => trivial
      | some found => exact isData_of_scanNumber hnumber

theorem isData_of_mem_tokens {position : Nat} {s : List Char} {t : Token} (h : t ∈ tokens position s) :
    t.kind.IsData := by
  fun_induction tokens position s with
  | case1 => cases h
  | case2 position c rest hspace ih => exact ih h
  | case3 position c rest hspace kind count hscan ih =>
    obtain rfl | h := List.mem_cons.1 h
    · have hkind := isData_of_scanToken position (c :: rest)
      rw [hscan] at hkind
      exact hkind
    · exact ih h

def Container.IsData : Container → Prop
  | list items => ∀ v ∈ items, v.IsData
  | object fields _ => ∀ f ∈ fields, FieldIsData f

def Expected.IsData : Expected → Prop
  | delimiter v => v.IsData
  | key fields => ∀ f ∈ fields, FieldIsData f
  | _ => True

structure State.IsData (s : State) : Prop where
  expected : s.expected.IsData
  containers : ∀ c ∈ s.containers, c.IsData

theorem isData_closeObject {fields : List (Scalar × Value)} (h : ∀ f ∈ fields, FieldIsData f) :
    (closeObject fields).IsData :=
  isData_ofFields fun f hf => h f (List.mem_reverse.1 hf)

theorem fieldsAreData_cons_text {fields : List (Scalar × Value)} (h : ∀ f ∈ fields, FieldIsData f) (key : String)
    {v : Value} (hv : v.IsData) : ∀ f ∈ (Scalar.text key, v) :: fields, FieldIsData f :=
  List.forall_mem_cons.2 ⟨⟨rfl, hv⟩, h⟩

theorem isData_afterValue {containers : List Container} (hcontainers : ∀ c ∈ containers, c.IsData) {v : Value}
    (hv : v.IsData) {t : Token} {s : State} (h : afterValue containers v t = .ok s) : s.IsData := by
  unfold afterValue at h
  split at h
  · obtain ⟨hitems, hrest⟩ := List.forall_mem_cons.1 hcontainers
    cases h
    exact ⟨trivial, List.forall_mem_cons.2 ⟨List.forall_mem_cons.2 ⟨hv, hitems⟩, hrest⟩⟩
  · obtain ⟨hitems, hrest⟩ := List.forall_mem_cons.1 hcontainers
    cases h
    have hall := List.forall_mem_cons.2 ⟨hv, hitems⟩
    exact ⟨isData_list fun w hw => hall w (List.mem_reverse.1 hw), hrest⟩
  · obtain ⟨hfields, hrest⟩ := List.forall_mem_cons.1 hcontainers
    cases h
    exact ⟨fieldsAreData_cons_text hfields _ hv, hrest⟩
  · obtain ⟨hfields, hrest⟩ := List.forall_mem_cons.1 hcontainers
    cases h
    exact ⟨isData_closeObject (fieldsAreData_cons_text hfields _ hv), hrest⟩
  · cases h

theorem isData_opened {containers : List Container} {s s' : State} (hs : s.IsData)
    (h : opened containers s = .ok s') : s'.IsData := by
  unfold opened at h
  split at h <;> cases h
  exact hs

theorem isData_atValue {containers : List Container} (hcontainers : ∀ c ∈ containers, c.IsData) {t : Token}
    (ht : t.kind.IsData) {s : State} (h : atValue containers t = .ok s) : s.IsData := by
  unfold atValue at h
  split at h
  · have hlist : (Container.list []).IsData := fun _ hv => absurd hv List.not_mem_nil
    have hs : State.IsData ⟨.item, .list [] :: containers⟩ :=
      ⟨trivial, List.forall_mem_cons.2 ⟨hlist, hcontainers⟩⟩
    exact isData_opened hs h
  · have hs : State.IsData ⟨.firstKey, containers⟩ := ⟨trivial, hcontainers⟩
    exact isData_opened hs h
  · cases h
    exact ⟨⟨rfl, rfl⟩, hcontainers⟩
  · cases h
    exact ⟨⟨rfl, rfl⟩, hcontainers⟩
  · rename_i scalar hkind
    rw [hkind] at ht
    cases h
    exact ⟨ht, hcontainers⟩
  · cases h
  · cases h
  · cases h

theorem isData_atKey {fields : List (Scalar × Value)} (hfields : ∀ f ∈ fields, FieldIsData f)
    {containers : List Container} (hcontainers : ∀ c ∈ containers, c.IsData) {t : Token} {s : State}
    (h : atKey fields containers t = .ok s) : s.IsData := by
  unfold atKey at h
  split at h
  · cases h
    exact ⟨trivial, List.forall_mem_cons.2 ⟨hfields, hcontainers⟩⟩
  · cases h
    exact ⟨trivial, List.forall_mem_cons.2 ⟨hfields, hcontainers⟩⟩
  · cases h
  · cases h

theorem State.IsData.step {s s' : State} (h : s.IsData) {t : Token} (ht : t.kind.IsData)
    (hstep : Json.step s t = .ok s') : s'.IsData := by
  obtain ⟨expected, containers⟩ := s
  obtain ⟨hexpected, hcontainers⟩ := h
  cases expected with
  | value => exact isData_atValue hcontainers ht hstep
  | item =>
    unfold Json.step at hstep
    dsimp only at hstep
    split at hstep
    · cases hstep
      exact ⟨⟨rfl, rfl⟩, fun c hc => hcontainers c (List.mem_of_mem_drop hc)⟩
    · exact isData_atValue hcontainers ht hstep
  | firstKey =>
    unfold Json.step at hstep
    dsimp only at hstep
    split at hstep
    · cases hstep
      exact ⟨isData_closeObject fun _ hf => absurd hf List.not_mem_nil, hcontainers⟩
    · exact isData_atKey (fun _ hf => absurd hf List.not_mem_nil) hcontainers hstep
  | key fields => exact isData_atKey hexpected hcontainers hstep
  | colon =>
    unfold Json.step at hstep
    dsimp only at hstep
    split at hstep
    · cases hstep
      exact ⟨trivial, hcontainers⟩
    · cases hstep
  | delimiter v => exact isData_afterValue hcontainers hexpected hstep

theorem State.IsData.steps {s s' : State} (h : s.IsData) {ts : List Token} (hts : ∀ t ∈ ts, t.kind.IsData)
    (hsteps : ts.foldlM Json.step s = .ok s') : s'.IsData := by
  induction ts generalizing s with
  | nil =>
    cases hsteps
    exact h
  | cons t ts ih =>
    obtain ⟨ht, hts⟩ := List.forall_mem_cons.1 hts
    rw [List.foldlM_cons] at hsteps
    obtain ⟨next, hnext, hrest⟩ := Gathering.exists_of_bind_ok hsteps
    exact ih (h.step ht hnext) hts hrest

/-- What is read from JSON text is data of JSON, and each of its integers can be written. -/
theorem isData_of_read {s : List Char} {v : Value} (h : read s = .ok v) : v.IsData := by
  have hstart : State.IsData ⟨.value, []⟩ := ⟨trivial, fun _ hc => absurd hc List.not_mem_nil⟩
  obtain ⟨final, hfinal, hresult⟩ := Gathering.exists_of_bind_ok h
  have hdata := hstart.steps (fun _ ht => isData_of_mem_tokens ht) hfinal
  have hexpected := hdata.expected
  split at hresult
  · rename_i hdelimiter _
    split at hresult <;> cases hresult
    rw [hdelimiter] at hexpected
    exact hexpected
  · cases hresult

end Json

end BlockRules
