set_option autoImplicit false

namespace BlockRules

inductive Connective where
  | and
  | or
  | not
  | xor
  deriving DecidableEq

namespace Connective

def all : List Connective := [and, or, not, xor]

def name : Connective → String
  | and => "AND"
  | or => "OR"
  | not => "NOT"
  | xor => "XOR"

def ofName? (s : String) : Option Connective := all.find? fun c => c.name == s

theorem ofName?_name (c : Connective) : ofName? c.name = some c := by
  cases c <;> decide

theorem ofName?_eq (type : String) :
    ofName? type = if type = "AND" then some and else if type = "OR" then some or
      else if type = "NOT" then some not else if type = "XOR" then some xor else none := by
  simp only [ofName?, all, name, List.find?_cons, List.find?_nil]
  by_cases hand : type = "AND"
  · simp [hand]
  by_cases hor : type = "OR"
  · simp [hor]
  by_cases hnot : type = "NOT"
  · simp [hnot]
  by_cases hxor : type = "XOR"
  · simp [hxor]
  simp only [beq_false_of_ne (Ne.symm hand), beq_false_of_ne (Ne.symm hor), beq_false_of_ne (Ne.symm hnot),
    beq_false_of_ne (Ne.symm hxor), hand, hor, hnot, hxor, if_false]

def combine : Connective → List Bool → Bool
  | and, results => results.all id
  | or, results => results.any id
  | not, results => !results.any id
  | xor, results => results.count true == 1

end Connective

/-- The result of an operator by the name of its type; none for a type without a meaning. -/
def combineNamed (type : String) (results : List Bool) : Option Bool :=
  (Connective.ofName? type).map fun c => c.combine results

end BlockRules
