import BlockRules.Value.Basic

set_option autoImplicit false

namespace BlockRules

inductive ProblemKind where
  | missing
  | extraForbidden
  | textType
  | textEncoding
  | numberType
  | numberParsing
  | boolType
  | boolParsing
  | momentType
  | momentParsing
  | momentFromDateParsing
  | listType
  | objectType
  | recordType
  | recordOrObjectType
  | tagInvalid
  | tagMissing
  | literal
  | choice
  | jsonInvalid
  deriving DecidableEq

namespace ProblemKind

def code : ProblemKind → String
  | missing => "missing"
  | extraForbidden => "extra_forbidden"
  | textType => "string_type"
  | textEncoding => "string_unicode"
  | numberType => "float_type"
  | numberParsing => "float_parsing"
  | boolType => "bool_type"
  | boolParsing => "bool_parsing"
  | momentType => "datetime_type"
  | momentParsing => "datetime_parsing"
  | momentFromDateParsing => "datetime_from_date_parsing"
  | listType => "list_type"
  | objectType => "dict_type"
  | recordType => "model_type"
  | recordOrObjectType => "model_attributes_type"
  | tagInvalid => "union_tag_invalid"
  | tagMissing => "union_tag_not_found"
  | literal => "literal_error"
  | choice => "enum"
  | jsonInvalid => "json_invalid"

end ProblemKind

inductive Place where
  | field (name : String)
  | index (n : Nat)
  deriving DecidableEq

structure Problem where
  kind : ProblemKind
  location : List Place
  deriving DecidableEq

abbrev Checked (α : Type) := Except (List Problem) α

namespace Checked

def fail {α : Type} (kind : ProblemKind) : Checked α := .error [⟨kind, []⟩]

/-- A function and its argument, each read on its own; problems of the function come first. -/
def app {α β : Type} (f : Checked (α → β)) (x : Checked α) : Checked β :=
  match f, x with
  | .ok f, .ok x => .ok (f x)
  | .error ps, .ok _ => .error ps
  | .ok _, .error qs => .error qs
  | .error ps, .error qs => .error (ps ++ qs)

/-- Problems of a part, with the place of the part before theirs. -/
def at_ {α : Type} (place : Place) (x : Checked α) : Checked α :=
  x.mapError fun ps => ps.map fun p => ⟨p.kind, place :: p.location⟩

def all {α : Type} : List (Checked α) → Checked (List α)
  | [] => .ok []
  | x :: xs => app (x.map List.cons) (all xs)

theorem all_map_ok {α : Type} (xs : List α) : all (xs.map .ok) = .ok xs := by
  induction xs with
  | nil => rfl
  | cons x xs ih => simp [all, ih, Except.map, app]

end Checked

end BlockRules
