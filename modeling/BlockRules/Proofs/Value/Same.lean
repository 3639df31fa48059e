import BlockRules.Proofs.Value.JsonData
import Mathlib.Data.List.Perm.Subperm

set_option autoImplicit false

namespace BlockRules

namespace Binary64

theorem same_comm (x y : Binary64) : x.same y = y.same x := by
  unfold same compare
  cases x.position <;> cases y.position <;> simp [eq_comm]

theorem same_self {x : Binary64} (h : x.isNan = false) : x.same x = true := by
  cases x with
  | nan => cases h
  | finite negative magnitude => exact decide_eq_true rfl
  | infinite negative => exact decide_eq_true rfl

end Binary64

namespace Moment

theorem same_comm (m n : Moment) : m.same n = n.same m := by
  unfold same
  cases m.offset <;> cases n.offset <;> simp [Bool.beq_comm]

end Moment

namespace Scalar

def isNan : Scalar → Bool
  | float x => x.isNan
  | _ => false

theorem sameNumber_comm (a b : Scalar) : a.sameNumber b = b.sameNumber a := by
  cases a <;> cases b <;> simp [sameNumber, integer?, Binary64.same_comm, Bool.beq_comm]

theorem same_comm (a b : Scalar) : a.same b = b.same a := by
  cases a <;> cases b <;> simp [same, sameNumber_comm, Moment.same_comm, Bool.beq_comm]

theorem same_self {s : Scalar} (hjson : s.isJson = true) (hnan : s.isNan = false) : s.same s = true := by
  cases s with
  | float x => exact Binary64.same_self hnan
  | bytes | date | moment => cases hjson
  | null => rfl
  | bool | int | text => simp [same, sameNumber, integer?]

end Scalar

namespace Value

mutual

def hasNan : Value → Bool
  | .scalar s => s.isNan
  | .list items => haveNan items
  | .object fields => fieldsHaveNan fields
  | .entry key content => key.hasNan || content.hasNan
  | .set members => members.any Scalar.isNan
  | .again _ => false

def haveNan : List Value → Bool
  | [] => false
  | item :: rest => item.hasNan || haveNan rest

def fieldsHaveNan : List (Scalar × Value) → Bool
  | [] => false
  | (key, content) :: rest => key.isNan || content.hasNan || fieldsHaveNan rest

end

theorem keys_nodup {fields : List (Scalar × Value)} (h : fieldsAreJson fields = true) :
    (fields.map (·.1)).Nodup := by
  induction fields with
  | nil => exact List.nodup_nil
  | cons f fields ih =>
    obtain ⟨key, content⟩ := f
    obtain ⟨-, hdistinct, -, hfields⟩ := fieldsAreJson_cons.1 h
    rw [List.map_cons, List.nodup_cons]
    refine ⟨fun hmem => ?_, ih hfields⟩
    obtain ⟨g, hg, hkey⟩ := List.mem_map.1 hmem
    exact hdistinct g hg hkey

theorem isText_of_mem {fields : List (Scalar × Value)} (h : fieldsAreJson fields = true) {f : Scalar × Value}
    (hf : f ∈ fields) : f.1.isText = true := by
  induction fields with
  | nil => cases hf
  | cons g fields ih =>
    obtain ⟨hkey, -, -, hfields⟩ := fieldsAreJson_cons.1 h
    obtain rfl | hf := List.mem_cons.1 hf
    · exact hkey
    · exact ih hfields hf

theorem field?_eq_some_iff {fields : List (Scalar × Value)} (h : fieldsAreJson fields = true) {key : Scalar}
    (hkey : key.isText = true) {content : Value} :
    field? fields key = some content ↔ (key, content) ∈ fields := by
  obtain ⟨name, rfl⟩ := Scalar.isText_iff.1 hkey
  constructor
  · intro hfield
    obtain ⟨f, hf, rfl⟩ := Option.map_eq_some_iff.1 hfield
    have hname := List.find?_some hf
    rw [Scalar.same_text, decide_eq_true_eq] at hname
    rw [← hname]
    exact List.mem_of_find?_eq_some hf
  · induction fields with
    | nil => exact fun hmem => absurd hmem List.not_mem_nil
    | cons f fields ih =>
      intro hmem
      obtain ⟨-, hdistinct, -, hfields⟩ := fieldsAreJson_cons.1 h
      rw [field?, List.find?_cons, Scalar.same_text]
      obtain rfl | hmem := List.mem_cons.1 hmem
      · rw [decide_eq_true rfl]
        rfl
      · rw [decide_eq_false (Ne.symm (hdistinct _ hmem))]
        exact ih hfields hmem

theorem sameFields_iff {fields others : List (Scalar × Value)} :
    sameFields fields others = true ↔
      ∀ f ∈ fields, ∃ other, field? others f.1 = some other ∧ f.2.same other = true := by
  induction fields with
  | nil => simp [sameFields]
  | cons f fields ih =>
    rw [sameFields, Bool.and_eq_true, ih, List.forall_mem_cons]
    refine and_congr_left fun _ => ?_
    cases field? others f.1 <;> simp

theorem mem_keys_of_sameFields {fields others : List (Scalar × Value)} (h : fieldsAreJson fields = true)
    (h' : fieldsAreJson others = true) (hlength : fields.length = others.length)
    (hsame : sameFields fields others = true) {key : Scalar} (hkey : key ∈ others.map (·.1)) :
    key ∈ fields.map (·.1) := by
  have hsubset : fields.map (·.1) ⊆ others.map (·.1) := by
    intro key hkey
    obtain ⟨f, hf, rfl⟩ := List.mem_map.1 hkey
    obtain ⟨other, hother, -⟩ := sameFields_iff.1 hsame f hf
    have hmem := (field?_eq_some_iff h' (isText_of_mem h hf)).1 hother
    exact List.mem_map.2 ⟨(f.1, other), hmem, rfl⟩
  have hperm := ((keys_nodup h).subperm hsubset).perm_of_length_le (by simp [hlength])
  exact hperm.symm.subset hkey

mutual

theorem same_symm : (v w : Value) → v.isJson = true → w.isJson = true → v.same w = true → w.same v = true
  | .scalar a, .scalar b, _, _, h => (Scalar.same_comm b a).trans h
  | .list items, .list others, hv, hw, h => sameItems_symm items others hv hw h
  | .object fields, .object others, hv, hw, h => by
    rw [same, Bool.and_eq_true, beq_iff_eq] at h ⊢
    obtain ⟨hlength, hfields⟩ := h
    refine ⟨hlength.symm, sameFields_iff.2 fun g hg => ?_⟩
    -- The key of `g` is that of a field `f`, whose field among the others is `g`.
    obtain ⟨f, hf, hkey⟩ := List.mem_map.1 (mem_keys_of_sameFields hv hw hlength hfields (List.mem_map_of_mem hg))
    obtain ⟨other, hother, hsame⟩ := sameFields_iff.1 hfields f hf
    have hg' := (field?_eq_some_iff hw (isText_of_mem hw hg)).2 hg
    rw [hkey, hg', Option.some.injEq] at hother
    rw [← hother] at hsame
    refine ⟨f.2, (field?_eq_some_iff hv (isText_of_mem hw hg)).2 (hkey ▸ hf), ?_⟩
    exact same_symm_of_field fields hv f hf g.2 (hereditary_isJson.field hw hg) hsame
  | .scalar _, .list _, _, _, h => nomatch h
  | .scalar _, .object _, _, _, h => nomatch h
  | .list _, .scalar _, _, _, h => nomatch h
  | .list _, .object _, _, _, h => nomatch h
  | .object _, .scalar _, _, _, h => nomatch h
  | .object _, .list _, _, _, h => nomatch h

theorem sameItems_symm : (items others : List Value) → areJson items = true → areJson others = true →
    sameItems items others = true → sameItems others items = true
  | [], [], _, _, _ => rfl
  | item :: rest, other :: others, hv, hw, h => by
    rw [areJson, Bool.and_eq_true] at hv hw
    rw [sameItems, Bool.and_eq_true] at h ⊢
    exact ⟨same_symm item other hv.1 hw.1 h.1, sameItems_symm rest others hv.2 hw.2 h.2⟩

theorem same_symm_of_field : (fields : List (Scalar × Value)) → fieldsAreJson fields = true → ∀ f ∈ fields,
    ∀ w : Value, w.isJson = true → f.2.same w = true → w.same f.2 = true
  | [], _, _, hf, _, _, _ => nomatch hf
  | (_, content) :: rest, hv, f, hf, w, hw, h => by
    obtain ⟨-, -, hcontent, hrest⟩ := fieldsAreJson_cons.1 hv
    obtain rfl | hf := List.mem_cons.1 hf
    · exact same_symm content w hcontent hw h
    · exact same_symm_of_field rest hrest f hf w hw h

end

theorem same_comm {v w : Value} (hv : v.isJson = true) (hw : w.isJson = true) : v.same w = w.same v :=
  Bool.eq_iff_iff.2 ⟨same_symm v w hv hw, same_symm w v hw hv⟩

mutual

theorem same_self : (v : Value) → v.isJson = true → v.hasNan = false → v.same v = true
  | .scalar _, hjson, hnan => Scalar.same_self hjson hnan
  | .list items, hjson, hnan => sameItems_self items hjson hnan
  | .object fields, hjson, hnan => by
    rw [same, beq_self_eq_true, Bool.true_and, sameFields_iff]
    exact fun f hf =>
      ⟨f.2, (field?_eq_some_iff hjson (isText_of_mem hjson hf)).2 hf, same_self_of_field fields hjson hnan f hf⟩

theorem sameItems_self : (items : List Value) → areJson items = true → haveNan items = false →
    sameItems items items = true
  | [], _, _ => rfl
  | item :: rest, hjson, hnan => by
    rw [areJson, Bool.and_eq_true] at hjson
    rw [haveNan, Bool.or_eq_false_iff] at hnan
    rw [sameItems, same_self item hjson.1 hnan.1, sameItems_self rest hjson.2 hnan.2, Bool.and_self]

theorem same_self_of_field : (fields : List (Scalar × Value)) → fieldsAreJson fields = true →
    fieldsHaveNan fields = false → ∀ f ∈ fields, f.2.same f.2 = true
  | [], _, _, _, hf => nomatch hf
  | (_, content) :: rest, hjson, hnan, f, hf => by
    obtain ⟨-, -, hcontent, hrest⟩ := fieldsAreJson_cons.1 hjson
    rw [fieldsHaveNan, Bool.or_eq_false_iff, Bool.or_eq_false_iff] at hnan
    obtain rfl | hf := List.mem_cons.1 hf
    · exact same_self content hcontent hnan.1.2
    · exact same_self_of_field rest hrest hnan.2 f hf

end

end Value

end BlockRules
