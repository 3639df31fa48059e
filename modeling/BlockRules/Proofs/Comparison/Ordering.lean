import BlockRules.Proofs.Comparison.Failure
import BlockRules.Proofs.Comparison.Kinds

set_option autoImplicit false

/-!
# The laws of ordering

Two values are ordered by the numbers that they start with, and numbers by their positions on the line. So ordering by
`<` and by its three companions is a total order up to equal numbers, across values of all kinds, and it is false as a
whole where a side is not read as a number.
-/
namespace BlockRules

namespace Binary64

variable {x y z : Binary64}

theorem exists_position (h : x ≠ .nan) : ∃ n, x.position = some n := by
  cases x with
  | finite negative magnitude => exact ⟨_, rfl⟩
  | infinite negative => exact ⟨_, rfl⟩
  | nan => exact absurd rfl h

theorem compare_eq {test : Int → Int → Bool} {a b : Int} (hx : x.position = some a) (hy : y.position = some b) :
    x.compare test y = test a b := by
  rw [compare, hx, hy]

theorem exists_position_of_compare {test : Int → Int → Bool} (h : x.compare test y = true) :
    ∃ a b, x.position = some a ∧ y.position = some b ∧ test a b = true := by
  unfold compare at h
  split at h
  · exact ⟨_, _, ‹_›, ‹_›, h⟩
  · cases h

theorem atMost_eq_not_less (hx : x ≠ .nan) (hy : y ≠ .nan) : y.atMost x = !x.less y := by
  obtain ⟨a, ha⟩ := exists_position hx
  obtain ⟨b, hb⟩ := exists_position hy
  rw [atMost, less, compare_eq hb ha, compare_eq ha hb, ← decide_not]
  exact decide_eq_decide.2 Int.not_lt.symm

theorem less_trans (hxy : x.less y = true) (hyz : y.less z = true) : x.less z = true := by
  obtain ⟨a, b, ha, hb, hab⟩ := exists_position_of_compare hxy
  obtain ⟨b', d, hb', hd, hbd⟩ := exists_position_of_compare hyz
  cases hb.symm.trans hb'
  rw [less, compare_eq ha hd]
  exact decide_eq_true (Int.lt_trans (of_decide_eq_true hab) (of_decide_eq_true hbd))

theorem atMost_antisymm_iff : x.atMost y = true ∧ y.atMost x = true ↔ x.same y = true := by
  constructor
  · rintro ⟨hxy, hyx⟩
    obtain ⟨a, b, ha, hb, hab⟩ := exists_position_of_compare hxy
    rw [atMost, compare_eq hb ha] at hyx
    rw [same, compare_eq ha hb]
    exact decide_eq_true (Int.le_antisymm (of_decide_eq_true hab) (of_decide_eq_true hyx))
  · intro h
    obtain ⟨a, b, ha, hb, hab⟩ := exists_position_of_compare h
    rw [atMost, compare_eq ha hb, atMost, compare_eq hb ha]
    cases of_decide_eq_true hab
    exact ⟨decide_eq_true (Int.le_refl a), decide_eq_true (Int.le_refl a)⟩

end Binary64

namespace Value

theorem exists_leadingNumber {v : Value} (h : ¬v.IsHuge) : ∃ x, v.leadingNumber = .ok x := by
  cases hv : v.leadingNumber with
  | ok x => exact ⟨x, rfl⟩
  | error e => exact absurd (leadingNumber_eq_error_iff.1 hv).1 h

end Value

namespace Comparator

def orderingSymbols : List String := [">", "<", ">=", "<="]

/-- The comparisons that have a name and a symbol. -/
def synonyms : List (String × String) :=
  [("greaterThan", ">"), ("lessThan", "<"), ("greaterOrEqual", ">="), ("lessOrEqual", "<="), ("equals", "=="),
    ("notEquals", "!=")]

theorem exists_of_synonyms {names : String × String} (h : names ∈ synonyms) :
    ∃ comparator, ofName? names.1 = some comparator ∧ ofName? names.2 = some comparator := by
  have hall : ∀ names ∈ synonyms, (ofName? names.1).isSome = true ∧ ofName? names.1 = ofName? names.2 := by decide
  obtain ⟨hsome, hsame⟩ := hall names h
  obtain ⟨comparator, hcomparator⟩ := Option.isSome_iff_exists.1 hsome
  exact ⟨comparator, hcomparator, hsame ▸ hcomparator⟩

theorem order_eq {test : Binary64 → Binary64 → Bool} {left right : Value} {x y : Binary64}
    (hx : left.leadingNumber = .ok x) (hy : right.leadingNumber = .ok y) : order test left right = .ok (test x y) := by
  rw [order, hx, hy]
  rfl

/-- Which side is read first does not matter, as the only error is the same on both. -/
theorem order_swap (test : Binary64 → Binary64 → Bool) (left right : Value) :
    order test left right = order (fun x y => test y x) right left := by
  cases hleft : left.leadingNumber with
  | ok x =>
    cases hright : right.leadingNumber with
    | ok y => rw [order_eq hleft hright, order_eq hright hleft]
    | error e => rw [order, order, hleft, hright]; rfl
  | error e =>
    have he := (Value.leadingNumber_eq_error_iff.1 hleft).2
    have hhuge := (Value.leadingNumber_eq_error_iff.1 hleft).1
    rw [order_eq_error_iff.2 ⟨.inl hhuge, rfl⟩, order_eq_error_iff.2 ⟨.inr hhuge, rfl⟩]

theorem exists_of_order_eq_true {test : Binary64 → Binary64 → Bool} {left right : Value}
    (h : order test left right = .ok true) :
    ∃ x y, left.leadingNumber = .ok x ∧ right.leadingNumber = .ok y ∧ test x y = true := by
  obtain ⟨x, hx, h⟩ := Gathering.exists_of_bind_ok h
  obtain ⟨y, hy, h⟩ := Gathering.exists_of_bind_ok h
  exact ⟨x, y, hx, hy, Except.ok.inj h⟩

end Comparator

namespace Condition

/-- A condition that reads one value and compares it with another. -/
structure Between (c : Condition) (inputs : Inputs) (left right : Value) : Prop where
  actual : c.actual? inputs = some left
  value : c.value = right

theorem Between.holds {c : Condition} {inputs : Inputs} {left right : Value} (h : c.Between inputs left right)
    {name : String} {comparator : Comparator} (hname : Comparator.ofName? name = some comparator) :
    (c.comparedBy name).holds inputs = comparator.holds left right := by
  rw [holds_comparedBy c inputs name hname, h.actual, h.value, Option.elim_some]

variable {c c' c'' : Condition} {inputs inputs' inputs'' : Inputs} {a b d : Value}

theorem Between.holds_order (h : c.Between inputs a b) {x y : Binary64} (hx : a.leadingNumber = .ok x)
    (hy : b.leadingNumber = .ok y) :
    (c.comparedBy "<").holds inputs = .ok (x.less y) ∧ (c.comparedBy ">").holds inputs = .ok (y.less x) ∧
      (c.comparedBy "<=").holds inputs = .ok (x.atMost y) ∧ (c.comparedBy ">=").holds inputs = .ok (y.atMost x) := by
  have horder : ∀ test, Comparator.order test a b = .ok (test x y) := fun _ => Comparator.order_eq hx hy
  rw [h.holds rfl, h.holds rfl, h.holds rfl, h.holds rfl]
  exact ⟨horder _, horder _, horder _, horder _⟩

theorem Between.less_trans (h : c.Between inputs a b) (h' : c'.Between inputs' b d) (h'' : c''.Between inputs'' a d)
    (hab : (c.comparedBy "<").holds inputs = .ok true) (hbd : (c'.comparedBy "<").holds inputs' = .ok true) :
    (c''.comparedBy "<").holds inputs'' = .ok true := by
  rw [h.holds rfl] at hab
  rw [h'.holds rfl] at hbd
  obtain ⟨x, y, hx, hy, hxy⟩ := Comparator.exists_of_order_eq_true hab
  obtain ⟨y', z, hy', hz, hyz⟩ := Comparator.exists_of_order_eq_true hbd
  rw [hy] at hy'
  cases hy'
  rw [(h''.holds_order hx hz).1, Binary64.less_trans hxy hyz]

theorem Between.holds_of_nan (h : c.Between inputs a b) {x y : Binary64} (hx : a.leadingNumber = .ok x)
    (hy : b.leadingNumber = .ok y) (hnan : x = .nan ∨ y = .nan) {name : String}
    (hname : name ∈ Comparator.orderingSymbols) : (c.comparedBy name).holds inputs = .ok false := by
  have hfalse : ∀ test : Int → Int → Bool, x.compare test y = false ∧ y.compare test x = false := by
    intro test
    obtain rfl | rfl := hnan
    · exact ⟨rfl, by cases y <;> rfl⟩
    · exact ⟨by cases x <;> rfl, rfl⟩
  obtain ⟨hless, hgreater, hatMost, hatLeast⟩ := h.holds_order hx hy
  simp only [Comparator.orderingSymbols, List.mem_cons, List.not_mem_nil, or_false] at hname
  obtain rfl | rfl | rfl | rfl := hname
  · rw [hgreater, Binary64.less, (hfalse _).2]
  · rw [hless, Binary64.less, (hfalse _).1]
  · rw [hatLeast, Binary64.atMost, (hfalse _).2]
  · rw [hatMost, Binary64.atMost, (hfalse _).1]

/-- The laws of the four orderings of two values that are in range, by the numbers that the values start with; what
exchanging the sides does, that `<` is transitive, and that the names and the symbols mean the same. -/
theorem ordering_laws :
    (∀ (c : Condition) (inputs : Inputs) (a b : Value), c.Between inputs a b → ¬a.IsHuge → ¬b.IsHuge →
      ∃ x y, a.leadingNumber = .ok x ∧ b.leadingNumber = .ok y ∧
        (x = .nan ∨ y = .nan → ∀ name ∈ Comparator.orderingSymbols, (c.comparedBy name).holds inputs = .ok false) ∧
        (x ≠ .nan → y ≠ .nan →
          (∃ passed, (c.comparedBy "<").holds inputs = .ok passed ∧ (c.comparedBy ">=").holds inputs = .ok !passed) ∧
          (∃ passed, (c.comparedBy ">").holds inputs = .ok passed ∧ (c.comparedBy "<=").holds inputs = .ok !passed) ∧
          ((c.comparedBy "<=").holds inputs = .ok true ∧ (c.comparedBy ">=").holds inputs = .ok true ↔
            x.same y = true))) ∧
    (∀ (c c' : Condition) (inputs inputs' : Inputs) (a b : Value), c.Between inputs a b → c'.Between inputs' b a →
      (c.comparedBy "<").holds inputs = (c'.comparedBy ">").holds inputs' ∧
      (c.comparedBy "<=").holds inputs = (c'.comparedBy ">=").holds inputs') ∧
    (∀ (c c' c'' : Condition) (inputs inputs' inputs'' : Inputs) (a b d : Value), c.Between inputs a b →
      c'.Between inputs' b d → c''.Between inputs'' a d → (c.comparedBy "<").holds inputs = .ok true →
      (c'.comparedBy "<").holds inputs' = .ok true → (c''.comparedBy "<").holds inputs'' = .ok true) ∧
    ∀ (c : Condition) (inputs : Inputs), ∀ names ∈ Comparator.synonyms,
      (c.comparedBy names.1).holds inputs = (c.comparedBy names.2).holds inputs := by
  refine ⟨?_, ?_, ?_, ?_⟩
  · intro c inputs a b h ha hb
    obtain ⟨x, hx⟩ := Value.exists_leadingNumber ha
    obtain ⟨y, hy⟩ := Value.exists_leadingNumber hb
    obtain ⟨hless, hgreater, hatMost, hatLeast⟩ := h.holds_order hx hy
    refine ⟨x, y, hx, hy, fun hnan _ => h.holds_of_nan hx hy hnan, fun hxnan hynan => ⟨?_, ?_, ?_⟩⟩
    · exact ⟨x.less y, hless, hatLeast.trans (congrArg _ (Binary64.atMost_eq_not_less hxnan hynan))⟩
    · exact ⟨y.less x, hgreater, hatMost.trans (congrArg _ (Binary64.atMost_eq_not_less hynan hxnan))⟩
    · rw [hatMost, hatLeast, Except.ok.injEq, Except.ok.injEq]
      exact Binary64.atMost_antisymm_iff
  · intro c c' inputs inputs' a b h h'
    rw [h.holds rfl, h'.holds rfl, h.holds rfl, h'.holds rfl]
    exact ⟨Comparator.order_swap _ a b, Comparator.order_swap _ a b⟩
  · intro c c' c'' inputs inputs' inputs'' a b d h h' h''
    exact h.less_trans h' h''
  · intro c inputs names hnames
    obtain ⟨comparator, hname, hsymbol⟩ := Comparator.exists_of_synonyms hnames
    rw [holds_comparedBy c inputs _ hname, holds_comparedBy c inputs _ hsymbol]

/-- A text with a number at its start, an integer and a number with a fraction are put in order. -/
theorem scoreIs_ordered :
    ((scoreIs (.int 13)).comparedBy "<").holds [("score", .text "12px")] = .ok true ∧
      ((scoreIs (.int 13)).comparedBy ">=").holds [("score", .text "12px")] = .ok false ∧
      ((scoreIs (.text "12px")).comparedBy ">").holds [("score", .int 13)] = .ok true ∧
      ((scoreIs (.float (.ofDecimal false 135 (-1)))).comparedBy "<").holds [("score", .int 13)] = .ok true ∧
      ((scoreIs (.float (.ofDecimal false 135 (-1)))).comparedBy "<").holds [("score", .text "12px")] = .ok true ∧
      ((scoreIs (.int 13)).comparedBy "lessThan").holds [("score", .text "12px")] = .ok true ∧
      ((scoreIs (.int 13)).comparedBy "<").holds [("score", .text "px")] = .ok false := by
  have hbetween : ∀ a b : Value, (scoreIs b).Between [("score", a)] a b := fun _ _ => ⟨rfl, rfl⟩
  have htext : ∀ s, ¬(Value.text s).IsHuge := nofun
  have hint : ¬(Value.int 13).IsHuge := by
    rintro ⟨n, hn, hhuge⟩
    cases hn
    revert hhuge
    decide +kernel
  have hless : ((scoreIs (.int 13)).comparedBy "<").holds [("score", .text "12px")] = .ok true := by decide +kernel
  have hnext :
      ((scoreIs (.float (.ofDecimal false 135 (-1)))).comparedBy "<").holds [("score", .int 13)] = .ok true := by
    decide +kernel
  obtain ⟨hlaws, hexchange, htrans, hnames⟩ := ordering_laws
  refine ⟨hless, ?_, ?_, hnext, ?_, ?_, ?_⟩
  · obtain ⟨x, y, -, -, hnan, hnumbers⟩ := hlaws _ _ _ _ (hbetween (.text "12px") (.int 13)) (htext _) hint
    have hread : ¬(x = .nan ∨ y = .nan) := fun h => by
      have hfalse := hnan h "<" (by decide)
      rw [hless] at hfalse
      cases hfalse
    obtain ⟨⟨passed, hpassed, hatLeast⟩, -⟩ := hnumbers (hread ∘ .inl) (hread ∘ .inr)
    rw [hless] at hpassed
    cases hpassed
    exact hatLeast
  · rw [← (hexchange _ _ _ _ _ _ (hbetween (.text "12px") (.int 13)) (hbetween (.int 13) (.text "12px"))).1]
    exact hless
  · exact htrans _ _ _ _ _ _ _ _ _ (hbetween (.text "12px") (.int 13)) (hbetween (.int 13) _) (hbetween _ _) hless
      hnext
  · rw [hnames _ _ ("lessThan", "<") (by decide)]
    exact hless
  · obtain ⟨x, y, hx, -, hnan, -⟩ := hlaws _ _ _ _ (hbetween (.text "px") (.int 13)) (htext _) hint
    have hread : (Value.text "px").leadingNumber = .ok .nan := by decide +kernel
    rw [hread] at hx
    cases hx
    exact hnan (.inl rfl) "<" (by decide)

end Condition

end BlockRules
