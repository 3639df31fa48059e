import BlockRules.Document.Basic
import BlockRules.Rule.Validation
import BlockRules.Text.Blank
import BlockRules.Wording.Summary

set_option autoImplicit false

/-!
# Saving documents

Before a document is stored, what follows from its graph is worked out afresh, and the time and the owner are
noted. The time of creation stays what it was. A document without a name is not stored, nor one whose summary cannot
be written.
-/
namespace BlockRules

inductive SaveError where
  | nameMissing
  | integerTooLong
  deriving DecidableEq

namespace SaveError

def message : SaveError → String
  | nameMissing => "Please enter a rule name"
  | integerTooLong => Number.longMessage

end SaveError

namespace Document

def isNamed (d : Document) : Bool := !(Text.strip d.name.toList).isEmpty

def prepare (d : Document) (user : Option String) (now : Moment) : Except SaveError Document :=
  if !d.isNamed then .error .nameMissing
  else if d.summaryIsLong then .error .integerTooLong
  else .ok { d with
    naturalLanguage := some d.summary
    isValid := d.validate.isValid
    createdAt := d.createdAt.or (some now)
    updatedAt := some now
    userId := (given? user).or d.userId }

end Document

end BlockRules
