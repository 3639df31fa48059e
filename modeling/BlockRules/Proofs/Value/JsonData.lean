import BlockRules.Document.Obstacle

set_option autoImplicit false

namespace BlockRules

namespace Scalar

def isJson : Scalar → Bool
  | null => true
  | bool _ => true
  | int _ => true
  | float _ => true
  | text _ => true
  | bytes _ => false
  | date _ => false
  | moment _ => false

def isText : Scalar → Bool
  | text _ => true
  | _ => false

def isFinite : Scalar → Bool
  | float x => x.isFinite
  | _ => true

theorem isText_iff {s : Scalar} : s.isText = true ↔ ∃ t, s = .text t := by
  cases s <;> simp [isText]

theorem same_text (s : Scalar) (t : String) : s.same (.text t) = decide (s = .text t) := by
  cases s <;> simp [same, sameNumber, integer?]
  rename_i s
  exact Bool.eq_iff_iff.2 (by simp)

theorem plain_eq_self {s : Scalar} (hjson : s.isJson = true) (hfinite : s.isFinite = true) : s.plain = s := by
  cases s <;> simp_all [isJson, isFinite, plain]

theorem obstacle?_of_isJson {s : Scalar} (h : s.isJson = true) : s.obstacle? = none := by
  cases s <;> simp_all [isJson, obstacle?]

end Scalar

namespace Value

mutual

def isJson : Value → Bool
  | .scalar s => s.isJson
  | .list items => areJson items
  | .object fields => fieldsAreJson fields
  | .entry _ _ => false
  | .set _ => false
  | .again _ => false

def areJson : List Value → Bool
  | [] => true
  | item :: rest => item.isJson && areJson rest

/-- No key comes twice. -/
def fieldsAreJson : List (Scalar × Value) → Bool
  | [] => true
  | (key, content) :: rest =>
    key.isText && !(rest.any fun f => f.1 == key) && content.isJson && fieldsAreJson rest

end

mutual

def isFinite : Value → Bool
  | .scalar s => s.isFinite
  | .list items => areFinite items
  | .object fields => fieldsAreFinite fields
  | .entry key content => key.isFinite && content.isFinite
  | .set members => members.all Scalar.isFinite
  | .again _ => true

def areFinite : List Value → Bool
  | [] => true
  | item :: rest => item.isFinite && areFinite rest

def fieldsAreFinite : List (Scalar × Value) → Bool
  | [] => true
  | (key, content) :: rest => key.isFinite && content.isFinite && fieldsAreFinite rest

end

mutual

/-- How many values are inside each other at most. -/
def depth : Value → Nat
  | .scalar _ => 1
  | .list items => itemsDepth items + 1
  | .object fields => fieldsDepth fields + 1
  | .entry key content => max key.depth content.depth + 1
  | .set members => if members.isEmpty then 1 else 2
  | .again _ => 1

def itemsDepth : List Value → Nat
  | [] => 0
  | item :: rest => max item.depth (itemsDepth rest)

def fieldsDepth : List (Scalar × Value) → Nat
  | [] => 0
  | (_, content) :: rest => max content.depth (fieldsDepth rest)

end

theorem put_of_not_mem {fields : List (Scalar × Value)} {name : String} (content : Value)
    (h : ∀ f ∈ fields, f.1 ≠ .text name) : put fields (.text name) content = fields ++ [(.text name, content)] := by
  induction fields with
  | nil => rfl
  | cons f fields ih =>
    obtain ⟨hf, hfields⟩ := List.forall_mem_cons.1 h
    rw [put, Scalar.same_text, decide_eq_false hf, ih hfields]
    rfl

theorem fieldsAreJson_cons {key : Scalar} {content : Value} {rest : List (Scalar × Value)} :
    fieldsAreJson ((key, content) :: rest) = true ↔
      key.isText = true ∧ (∀ f ∈ rest, f.1 ≠ key) ∧ content.isJson = true ∧ fieldsAreJson rest = true := by
  simp only [fieldsAreJson, Bool.and_eq_true, Bool.not_eq_true', List.any_eq_false, beq_iff_eq, and_assoc, ne_eq]

theorem foldl_put_of_fieldsAreJson {before fields : List (Scalar × Value)} (h : fieldsAreJson fields = true)
    (hbefore : ∀ f ∈ fields, ∀ g ∈ before, g.1 ≠ f.1) :
    fields.foldl (fun acc f => put acc f.1 f.2) before = before ++ fields := by
  induction fields generalizing before with
  | nil => exact (List.append_nil before).symm
  | cons f fields ih =>
    obtain ⟨key, content⟩ := f
    obtain ⟨hkey, hdistinct, -, hfields⟩ := fieldsAreJson_cons.1 h
    obtain ⟨hfirst, hrest⟩ := List.forall_mem_cons.1 hbefore
    obtain ⟨name, rfl⟩ := Scalar.isText_iff.1 hkey
    rw [List.foldl_cons, put_of_not_mem content hfirst, ih hfields, List.append_assoc]
    · rfl
    · intro f hf g hg
      obtain hg | hg := List.mem_append.1 hg
      · exact hrest f hf g hg
      · rw [List.mem_singleton.1 hg]
        exact (hdistinct f hf).symm

theorem ofFields_of_fieldsAreJson {fields : List (Scalar × Value)} (h : fieldsAreJson fields = true) :
    ofFields fields = .object fields := by
  rw [ofFields, foldl_put_of_fieldsAreJson h fun _ _ _ hg => absurd hg List.not_mem_nil]
  rfl

mutual

theorem plain_of_isJson : (v : Value) → v.isJson = true → v.isFinite = true → v.plain = v
  | .scalar s, hjson, hfinite => by
    rw [plain, Scalar.plain_eq_self hjson hfinite]
  | .list items, hjson, hfinite => by
    rw [plain, plainItems_of_areJson items hjson hfinite]
  | .object fields, hjson, hfinite => by
    rw [plain, plainFields_of_fieldsAreJson fields hjson hfinite]
    exact ofFields_of_fieldsAreJson hjson
  | .entry _ _, hjson, _ => nomatch hjson
  | .set _, hjson, _ => nomatch hjson
  | .again _, hjson, _ => nomatch hjson

theorem plainItems_of_areJson :
    (items : List Value) → areJson items = true → areFinite items = true → plainItems items = items
  | [], _, _ => rfl
  | item :: rest, hjson, hfinite => by
    rw [areJson, Bool.and_eq_true] at hjson
    rw [areFinite, Bool.and_eq_true] at hfinite
    rw [plainItems, plain_of_isJson item hjson.1 hfinite.1, plainItems_of_areJson rest hjson.2 hfinite.2]

theorem plainFields_of_fieldsAreJson :
    (fields : List (Scalar × Value)) → fieldsAreJson fields = true → fieldsAreFinite fields = true →
      plainFields fields = fields
  | [], _, _ => rfl
  | (key, content) :: rest, hjson, hfinite => by
    obtain ⟨hkey, -, hcontent, hrest⟩ := fieldsAreJson_cons.1 hjson
    rw [fieldsAreFinite, Bool.and_eq_true, Bool.and_eq_true] at hfinite
    obtain ⟨name, rfl⟩ := Scalar.isText_iff.1 hkey
    rw [plainFields, plain_of_isJson content hcontent hfinite.1.2]
    rw [plainFields_of_fieldsAreJson rest hrest hfinite.2]
    rfl

end

/-- The obstacle to data of JSON that is deeper than there is room for. -/
def depthObstacle? (room depth : Nat) : Option Obstacle := if depth ≤ room then none else some .tooDeep

theorem depthObstacle?_max (room first second : Nat) :
    depthObstacle? room (max first second) =
      (depthObstacle? room first).or (depthObstacle? room second) := by
  unfold depthObstacle?
  by_cases hfirst : first ≤ room
  · rw [if_pos hfirst, Option.none_or]
    simp only [Nat.max_le, hfirst, true_and]
  · have hmax : ¬max first second ≤ room := by omega
    rw [if_neg hfirst, if_neg hmax, Option.some_or]

theorem within_depthObstacle? (room depth : Nat) :
    Obstacle.within room (depthObstacle? (room - 1) depth) = depthObstacle? room (depth + 1) := by
  cases room with
  | zero => rfl
  | succ room => simp [Obstacle.within, depthObstacle?]

mutual

/-- The only obstacle to data of JSON is its depth. -/
theorem obstacle?_of_isJson : (v : Value) → (room : Nat) → v.isJson = true →
    v.obstacle? room = depthObstacle? room v.depth
  | .scalar s, room, h => by
    rw [obstacle?, Scalar.obstacle?_of_isJson h, depth]
    exact within_depthObstacle? room 0
  | .list items, room, h => by
    rw [obstacle?, itemsObstacle?_of_areJson items (room - 1) h, depth]
    exact within_depthObstacle? room (itemsDepth items)
  | .object fields, room, h => by
    rw [obstacle?, fieldsObstacle?_of_fieldsAreJson fields (room - 1) h, depth]
    exact within_depthObstacle? room (fieldsDepth fields)
  | .entry _ _, _, h => nomatch h
  | .set _, _, h => nomatch h
  | .again _, _, h => nomatch h

theorem itemsObstacle?_of_areJson : (items : List Value) → (room : Nat) → areJson items = true →
    itemsObstacle? room items = depthObstacle? room (itemsDepth items)
  | [], _, _ => (if_pos (Nat.zero_le _)).symm
  | item :: rest, room, h => by
    rw [areJson, Bool.and_eq_true] at h
    rw [itemsObstacle?, itemsDepth, depthObstacle?_max, obstacle?_of_isJson item room h.1]
    rw [itemsObstacle?_of_areJson rest room h.2]

theorem fieldsObstacle?_of_fieldsAreJson : (fields : List (Scalar × Value)) → (room : Nat) →
    fieldsAreJson fields = true → fieldsObstacle? room fields = depthObstacle? room (fieldsDepth fields)
  | [], _, _ => (if_pos (Nat.zero_le _)).symm
  | (key, content) :: rest, room, h => by
    obtain ⟨hkey, -, hcontent, hrest⟩ := fieldsAreJson_cons.1 h
    obtain ⟨name, rfl⟩ := Scalar.isText_iff.1 hkey
    rw [fieldsObstacle?, fieldsDepth, depthObstacle?_max, obstacle?_of_isJson content room hcontent]
    rw [fieldsObstacle?_of_fieldsAreJson rest room hrest]
    rfl

end

def nestedLists : Nat → Value
  | 0 => .list []
  | n + 1 => .list [nestedLists n]

theorem isJson_nestedLists (n : Nat) : (nestedLists n).isJson = true := by
  induction n with
  | zero => rfl
  | succ n ih => rw [nestedLists, isJson, areJson, ih]; rfl

theorem isFinite_nestedLists (n : Nat) : (nestedLists n).isFinite = true := by
  induction n with
  | zero => rfl
  | succ n ih => rw [nestedLists, isFinite, areFinite, ih]; rfl

theorem depth_nestedLists (n : Nat) : (nestedLists n).depth = n + 1 := by
  induction n with
  | zero => rfl
  | succ n ih => rw [nestedLists, depth, itemsDepth, ih]; rfl

/-- A property of values that their parts inherit, and that null has. -/
structure Hereditary (P : Value → Prop) : Prop where
  null : P .null
  item : ∀ {items : List Value} {v : Value}, P (.list items) → v ∈ items → P v
  member : ∀ {members : List Scalar} {s : Scalar}, P (.set members) → s ∈ members → P (.scalar s)
  field : ∀ {fields : List (Scalar × Value)} {f : Scalar × Value}, P (.object fields) → f ∈ fields → P f.2

theorem Hereditary.get? {P : Value → Prop} (hP : Hereditary P) {fields : List (Scalar × Value)}
    (h : P (.object fields)) {name : String} {v : Value} (hv : Value.get? fields name = some v) : P v := by
  obtain ⟨f, hf, rfl⟩ := Option.map_eq_some_iff.1 hv
  exact hP.field h (List.mem_of_find?_eq_some hf)

theorem hereditary_isJson : Hereditary fun v => v.isJson = true where
  null := rfl
  member h := nomatch h
  item := by
    intro items v h hv
    change areJson items = true at h
    induction items with
    | nil => cases hv
    | cons first rest ih =>
      rw [areJson, Bool.and_eq_true] at h
      obtain rfl | hv := List.mem_cons.1 hv
      · exact h.1
      · exact ih hv h.2
  field := by
    intro fields f h hf
    change fieldsAreJson fields = true at h
    induction fields with
    | nil => cases hf
    | cons first rest ih =>
      obtain ⟨-, -, hcontent, hrest⟩ := fieldsAreJson_cons.1 h
      obtain rfl | hf := List.mem_cons.1 hf
      · exact hcontent
      · exact ih hf hrest

theorem hereditary_short : Hereditary fun v => v.hasLongInteger = false where
  null := rfl
  member h hs := Bool.eq_false_iff.2 (List.any_eq_false.1 h _ hs)
  item := by
    intro items v h hv
    change haveLongInteger items = false at h
    induction items with
    | nil => cases hv
    | cons first rest ih =>
      rw [haveLongInteger, Bool.or_eq_false_iff] at h
      obtain rfl | hv := List.mem_cons.1 hv
      · exact h.1
      · exact ih hv h.2
  field := by
    intro fields f h hf
    change fieldsHaveLongInteger fields = false at h
    induction fields with
    | nil => cases hf
    | cons first rest ih =>
      rw [fieldsHaveLongInteger, Bool.or_eq_false_iff, Bool.or_eq_false_iff] at h
      obtain rfl | hf := List.mem_cons.1 hf
      · exact h.1.2
      · exact ih hf h.2

end Value

end BlockRules
